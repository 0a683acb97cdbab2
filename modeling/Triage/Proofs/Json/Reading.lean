import Triage.Proofs.Json.Grammar

/-!
# Every tree of JSON is read

The other direction of `Json.exists_document_of_parse`: the text of a tree is read, and as what the tree stands for. So
a text is written by trees of one value at most.

* `number?_text`, `stringTail?_text`: numbers and strings, with something behind them.
* `value?_text`, `parse?_text`: **the text of a tree is read as its value**.
-/

namespace Triage.Json

open Triage.Text (natOfText takeWhile_upTo dropWhile_upTo)

/-- What may stand behind a value: white space, a comma, a closing bracket, or nothing. -/
def Follows (rest : List Char) : Prop :=
  ∀ c ∈ rest.head?, isSpace c = true ∨ c = ',' ∨ c = ']' ∨ c = '\x7d'

theorem Follows.nil : Follows [] := fun _ hc => absurd hc (by simp)

theorem Follows.gap {g : Gap} {rest : List Char} (h : Follows rest) : Follows (g.1 ++ rest) := by
  obtain ⟨g, hg⟩ := g
  cases g with
  | nil => exact h
  | cons c g =>
    intro x hx
    cases hx
    exact .inl (hg c (by simp))

theorem Follows.cons {c : Char} (h : c = ',' ∨ c = ']' ∨ c = '\x7d') (rest : List Char) : Follows (c :: rest) := by
  intro x hx
  cases hx
  exact .inr h

/-! ## White space -/

theorem skipSpace_gap {g : Gap} {rest : List Char} (hrest : ∀ c ∈ rest.head?, isSpace c = false) :
    skipSpace (g.1 ++ rest) = rest := dropWhile_upTo g.2 hrest

/-! ## Numbers -/

section Numbers

variable {ds rest : List Char}

theorem spanDigits_digits (hds : ∀ c ∈ ds, c.isDigit = true) (hrest : ∀ c ∈ rest.head?, c.isDigit = false) :
    spanDigits (ds ++ rest) = (ds, rest) := by
  rw [spanDigits, takeWhile_upTo hds hrest, dropWhile_upTo hds hrest]

/-- A number is not continued by what may stand behind it. -/
theorem Follows.stops (h : Follows rest) :
    ∀ c ∈ rest.head?, c.isDigit = false ∧ c ≠ '.' ∧ c ≠ 'e' ∧ c ≠ 'E' := by
  intro c hc
  rcases h c hc with hspace | rfl | rfl | rfl
  · have hspace : ((c = ' ' ∨ c = '\t') ∨ c = '\n') ∨ c = '\r' := by simpa [isSpace] using hspace
    rcases hspace with ((rfl | rfl) | rfl) | rfl <;> decide
  all_goals decide

/-- A digit is no sign. -/
theorem ne_sign_of_isDigit {c : Char} (h : c.isDigit = true) : c ≠ '-' ∧ c ≠ '+' := by
  constructor <;> rintro rfl <;> cases h

theorem exponent?_text {e : Option Exponent} (hrest : Follows rest) :
    exponent? (Numeral.exponentText e ++ rest) = some (e.map Exponent.value, rest) := by
  have hstop := hrest.stops
  cases e with
  | none =>
    show exponent? rest = _
    unfold exponent?
    cases rest with
    | nil => rfl
    | cons c rest =>
      obtain ⟨-, -, he, hE⟩ := hstop c rfl
      dsimp only
      rw [if_neg (by simp [he, hE])]
      rfl
  | some e =>
    have hletter : (e.letter == 'e' || e.letter == 'E') = true := by simpa using e.letter_ok
    have hspan := spanDigits_digits e.digits_ok fun c hc => (hstop c hc).1
    have hempty : e.digits.isEmpty = false := by simpa using e.nonempty
    show exponent? (e.letter :: (e.sign.toList ++ e.digits ++ rest)) = _
    -- What is read behind the sign is the same for all three ways to write it.
    have hread (negative : Bool) : (let r := spanDigits (e.digits ++ rest)
        if r.1.isEmpty then none
        else some (some (if negative then -(natOfText 10 r.1 : Int) else natOfText 10 r.1), r.2)) =
        some (some (if negative then -(natOfText 10 e.digits : Int) else natOfText 10 e.digits), rest) := by
      rw [hspan]
      exact if_neg (by simp [hempty])
    unfold exponent?
    dsimp only
    rw [if_pos hletter, Option.map_some, Exponent.value]
    cases hs : e.sign with
    | none =>
      obtain ⟨d, ds, hds⟩ := List.exists_cons_of_ne_nil e.nonempty
      obtain ⟨hminus, hplus⟩ := ne_sign_of_isDigit (e.digits_ok d (by simp [hds]))
      rw [hds] at hread ⊢
      split
      · next h => exact absurd (List.cons.inj h).1 hminus
      · next h => exact absurd (List.cons.inj h).1 hplus
      · exact hread false
    | some c =>
      rcases e.sign_ok c hs with rfl | rfl
      · exact hread true
      · exact hread false

theorem fraction?_text (hds : ∀ c ∈ ds, c.isDigit = true)
    (hrest : ∀ c ∈ rest.head?, c.isDigit = false ∧ c ≠ '.') :
    fraction? (Numeral.fractionText ds ++ rest) = some (ds, rest) := by
  unfold Numeral.fractionText
  split
  · next hempty =>
    rw [List.isEmpty_iff.1 hempty, List.nil_append]
    unfold fraction?
    split
    · exact absurd rfl (hrest '.' rfl).2
    · rfl
  · next hne =>
    show (let r := spanDigits (ds ++ rest); if r.1.isEmpty then none else some r) = _
    rw [spanDigits_digits hds fun c hc => (hrest c hc).1]
    exact if_neg hne

/-- The digits of a fraction end where the exponent starts. -/
theorem exponentText_stops {e : Option Exponent} (hrest : Follows rest) :
    ∀ c ∈ (Numeral.exponentText e ++ rest).head?, c.isDigit = false ∧ c ≠ '.' := by
  intro c hc
  cases e with
  | none => exact ⟨(hrest.stops c hc).1, (hrest.stops c hc).2.1⟩
  | some e =>
    cases hc
    rcases e.letter_ok with h | h <;> rw [h] <;> decide

/-- The digits before a fraction end where it starts. -/
theorem fractionText_stops (hrest : ∀ c ∈ rest.head?, c.isDigit = false ∧ c ≠ '.') :
    ∀ c ∈ (Numeral.fractionText ds ++ rest).head?, c.isDigit = false := by
  intro c hc
  unfold Numeral.fractionText at hc
  split at hc
  · exact (hrest c hc).1
  · cases hc
    rfl

/-- The check for a leading zero lets the digits of a number pass. -/
theorem Numeral.whole_passes (n : Numeral) :
    (n.whole.isEmpty || (n.whole.head? == some '0' && decide (1 < n.whole.length))) = false := by
  rw [Bool.or_eq_false_iff, Bool.and_eq_false_iff]
  refine ⟨by simpa using n.nonempty, ?_⟩
  by_cases hhead : n.whole.head? = some '0'
  · rw [n.no_leading_zero hhead]
    exact .inr rfl
  · exact .inl (beq_false_of_ne hhead)

/-- A number starts with no sign but its own. -/
theorem Numeral.head_unsigned (n : Numeral) : ∃ d ds, n.unsigned = d :: ds ∧ d ≠ '-' := by
  obtain ⟨d, ds, hds⟩ := List.exists_cons_of_ne_nil n.nonempty
  exact ⟨d, _, by rw [Numeral.unsigned, hds, List.cons_append], (ne_sign_of_isDigit (n.whole_ok d (by simp [hds]))).1⟩

/-- **A number is read as its value.** -/
theorem number?_text {n : Numeral} (hrest : Follows rest) : number? (n.text ++ rest) = some (n.value, rest) := by
  have hexponent := exponentText_stops (e := n.exponent) hrest
  have hfraction : ∀ c ∈ (Numeral.fractionText n.fraction ++ (Numeral.exponentText n.exponent ++ rest)).head?,
      c.isDigit = false := fractionText_stops hexponent
  have hwhole := spanDigits_digits n.whole_ok hfraction
  unfold number?
  split
  next negative cs hsigned =>
  have hparts : negative = n.negative ∧ cs = n.unsigned ++ rest := by
    rw [Numeral.text] at hsigned
    cases hsign : n.negative with
    | true =>
      rw [hsign] at hsigned
      cases hsigned
      exact ⟨rfl, rfl⟩
    | false =>
      obtain ⟨d, ds, hds, hd⟩ := n.head_unsigned
      rw [hsign, hds] at hsigned
      split at hsigned
      · next h => exact absurd (List.cons.inj h).1 hd
      · cases hsigned
        exact ⟨rfl, by rw [hds]; rfl⟩
  obtain ⟨rfl, rfl⟩ := hparts
  dsimp only
  rw [Numeral.unsigned, List.append_assoc, List.append_assoc, hwhole]
  dsimp only
  rw [n.whole_passes, if_neg Bool.false_ne_true, fraction?_text n.fraction_ok hexponent]
  dsimp only [bind, Option.bind]
  rw [exponent?_text hrest]
  dsimp only
  rw [Option.isNone_map, Numeral.value, Numeral.isInteger]
  split
  · rfl
  · rfl

end Numbers

/-! ## Strings -/

/-- An escape is read whatever stands behind it. -/
theorem escape?_append {body : List Char} {c : Char} (h : escape? body = some (c, [])) (rest : List Char) :
    escape? (body ++ rest) = some (c, rest) := by
  unfold escape? at h
  split at h
  case h_9 r =>
    obtain ⟨⟨n, more⟩, hfour, hunit⟩ := Option.bind_eq_some_iff.1 h
    clear h
    obtain ⟨a, b, d, e, rfl, hdigits⟩ := hexFour?_eq_some hfour
    rw [List.cons_append, escape?_unit]
    simp only [List.cons_append]
    rw [hexFour?_append hdigits, Option.bind_some]
    dsimp only at hunit ⊢
    split at hunit
    · next hhigh =>
      -- A high surrogate found its low one within the body, so that nothing behind it is looked at.
      split at hunit
      · next more' =>
        obtain ⟨⟨m, after⟩, hfour', hpair⟩ := Option.bind_eq_some_iff.1 hunit
        clear hunit
        obtain ⟨a', b', d', e', rfl, hdigits'⟩ := hexFour?_eq_some hfour'
        dsimp only at hpair
        split at hpair
        · next hlow =>
          obtain ⟨rfl, rfl⟩ := Prod.mk.inj (Option.some.inj hpair)
          rw [if_pos hhigh]
          show (hexFour? (a' :: b' :: d' :: e' :: rest)).bind _ = _
          rw [hexFour?_append hdigits', Option.bind_some, if_pos hlow]
        · cases hpair
      · cases hunit
    · next hhigh =>
      split at hunit
      · cases hunit
      · next hlow =>
        obtain ⟨rfl, rfl⟩ := Prod.mk.inj (Option.some.inj hunit)
        rw [if_neg hhigh, if_neg hlow]
        rfl
  case h_10 => cases h
  all_goals
    cases h
    rfl

/-- **The characters of a string are read**, up to the closing quote. -/
theorem stringTail?_text {ps : List Piece} {fuel : Nat} {done rest : List Char} (hfuel : ps.length < fuel) :
    stringTail? fuel done (piecesText ps ++ '"' :: rest) =
      some (String.ofList (done.reverse ++ ps.map Piece.char), rest) := by
  induction ps generalizing fuel done with
  | nil =>
    match fuel, hfuel with
    | fuel + 1, _ =>
      rw [List.map_nil, List.append_nil]
      rfl
  | cons p ps ih =>
    rw [List.length_cons] at hfuel
    match fuel, hfuel with
    | fuel + 1, hfuel =>
      cases p with
      | raw c ok =>
        rw [piecesText_raw, List.cons_append]
        unfold stringTail?
        split
        · next h => exact absurd (List.cons.inj h).1 ok.2.1
        · next h => exact absurd (List.cons.inj h).1 ok.2.2
        · next h =>
          obtain ⟨rfl, rfl⟩ := List.cons.inj h
          rw [if_neg (by omega), ih (by omega)]
          simp [Piece.char]
        · next h => cases h
      | escape body c ok =>
        rw [piecesText_escape, List.cons_append, List.append_assoc]
        show (escape? (body ++ (piecesText ps ++ '"' :: rest))).bind (fun r => stringTail? fuel (r.1 :: done) r.2) = _
        rw [escape?_append ok, Option.bind_some, ih (by omega)]
        simp [Piece.char]

/-- A string is read behind its opening quote. -/
theorem stringTail?_quoted (ps : List Piece) (rest : List Char) :
    stringTail? ((piecesText ps ++ '"' :: rest).length + 1) [] (piecesText ps ++ '"' :: rest) =
      some (piecesValue ps, rest) := by
  have hlength := length_le_piecesText ps
  exact stringTail?_text (by rw [List.length_append]; omega)

/-! ## Values -/

/-- A number starts with a minus sign or a digit. -/
theorem exists_head_numeral (n : Numeral) : ∃ c more, n.text = c :: more ∧ (c = '-' ∨ c.isDigit = true) := by
  cases hsign : n.negative with
  | true => exact ⟨'-', n.unsigned, by rw [Numeral.text, hsign]; rfl, .inl rfl⟩
  | false =>
    obtain ⟨d, ds, hds⟩ := List.exists_cons_of_ne_nil n.nonempty
    refine ⟨d, ds ++ (Numeral.fractionText n.fraction ++ Numeral.exponentText n.exponent), ?_,
      .inr (n.whole_ok d (by simp [hds]))⟩
    rw [Numeral.text, Numeral.unsigned, hsign, hds]
    rfl

/-- No value starts with white space or a closing bracket. -/
theorem exists_head_term (t : Term) :
    ∃ c more, t.text = c :: more ∧ isSpace c = false ∧ c ≠ ']' ∧ c ≠ '\x7d' := by
  cases t with
  | null => exact ⟨_, _, rfl, by decide⟩
  | bool b => cases b <;> exact ⟨_, _, rfl, by decide⟩
  | number n =>
    obtain ⟨c, more, htext, hc⟩ := exists_head_numeral n
    refine ⟨c, more, htext, ?_⟩
    rcases hc with rfl | hc
    · decide
    · have hspace : isSpace c = false := by
        rw [Bool.eq_false_iff]
        intro hspace
        have hspace : ((c = ' ' ∨ c = '\t') ∨ c = '\n') ∨ c = '\r' := by simpa [isSpace] using hspace
        rcases hspace with ((rfl | rfl) | rfl) | rfl <;> cases hc
      refine ⟨hspace, ?_, ?_⟩ <;> rintro rfl <;> cases hc
  | string ps => exact ⟨_, _, rfl, by decide⟩
  | emptyArray g => exact ⟨_, _, rfl, by decide⟩
  | array items => exact ⟨_, _, rfl, by decide⟩
  | emptyObject g => exact ⟨_, _, rfl, by decide⟩
  | object members => exact ⟨_, _, rfl, by decide⟩

/-- White space before a value is skipped, and nothing of the value. -/
theorem skipSpace_term (g : Gap) (t : Term) (rest : List Char) :
    skipSpace (g.1 ++ (t.text ++ rest)) = t.text ++ rest := by
  obtain ⟨c, more, htext, hspace, -⟩ := exists_head_term t
  refine skipSpace_gap fun x hx => ?_
  rw [htext] at hx
  cases hx
  exact hspace

/-- A number is no word, string, array or object. -/
theorem value?_number {fuel : Nat} {cs rest : List Char} {n : Numeral} (hcs : skipSpace cs = n.text ++ rest) :
    value? (fuel + 1) cs = number? (n.text ++ rest) := by
  obtain ⟨c, more, htext, hc⟩ := exists_head_numeral n
  have hother {d : Char} {ds : List Char} (hd : d ≠ '-' ∧ d.isDigit = false) (h : n.text ++ rest = d :: ds) :
      False := by
    rw [htext] at h
    obtain rfl : c = d := (List.cons.inj h).1
    rcases hc with hminus | hdigit
    · exact hd.1 hminus
    · rw [hd.2] at hdigit
      cases hdigit
  unfold value?
  rw [hcs]
  split
  case h_7 => rfl
  all_goals
    next h => exact (hother (by decide) h).elim

section Brackets

variable {fuel : Nat} {cs r rest : List Char}

theorem value?_emptyArray (hcs : skipSpace cs = '[' :: r) (hr : skipSpace r = ']' :: rest) :
    value? (fuel + 1) cs = some (.list [], rest) := by
  unfold value?
  simp only [hcs, hr]

theorem value?_emptyObject (hcs : skipSpace cs = '\x7b' :: r) (hr : skipSpace r = '\x7d' :: rest) :
    value? (fuel + 1) cs = some (.map [], rest) := by
  unfold value?
  simp only [hcs, hr]

theorem value?_array {c : Char} {more : List Char} (hcs : skipSpace cs = '[' :: r) (hr : skipSpace r = c :: more)
    (hc : c ≠ ']') : value? (fuel + 1) cs = (items? fuel (skipSpace r)).map fun p => (.list p.1, p.2) := by
  unfold value?
  simp only [hcs, hr]
  split
  · next h => exact absurd (List.cons.inj h).1 hc
  · rfl

theorem value?_object {c : Char} {more : List Char} (hcs : skipSpace cs = '\x7b' :: r) (hr : skipSpace r = c :: more)
    (hc : c ≠ '\x7d') : value? (fuel + 1) cs = (members? fuel [] (skipSpace r)).map fun p => (.map p.1, p.2) := by
  unfold value?
  simp only [hcs, hr]
  split
  · next h => exact absurd (List.cons.inj h).1 hc
  · rfl

end Brackets

/-- What is left behind white space starts with none. -/
theorem skipSpace_skipSpace (cs : List Char) : skipSpace (skipSpace cs) = skipSpace cs := by
  refine skipSpace_gap (g := Gap.none) fun c hc => ?_
  have hhead := List.head?_dropWhile_not isSpace cs
  rw [show (cs.dropWhile isSpace).head? = some c from hc] at hhead
  exact hhead

/-- Behind white space items start with no closing bracket. -/
theorem exists_head_items (is : Items) (rest : List Char) :
    ∃ c more, skipSpace (is.text ++ rest) = c :: more ∧ c ≠ ']' := by
  cases is with
  | last before t after =>
    obtain ⟨c, more, htext, -, hc, -⟩ := exists_head_term t
    refine ⟨c, more ++ (after.1 ++ ([']'] ++ rest)), ?_, hc⟩
    simp only [Items.text, List.append_assoc]
    rw [skipSpace_term, htext, List.cons_append]
  | cons before t after more =>
    obtain ⟨c, tail, htext, -, hc, -⟩ := exists_head_term t
    refine ⟨c, tail ++ (after.1 ++ (',' :: (more.text ++ rest))), ?_, hc⟩
    simp only [Items.text, List.append_assoc, List.cons_append]
    rw [skipSpace_term, htext, List.cons_append]

/-- Behind white space members start with a quote. -/
theorem exists_head_members (ms : Members) (rest : List Char) :
    ∃ more, skipSpace (ms.text ++ rest) = '"' :: more := by
  cases ms with
  | last before key beforeColon afterColon t after =>
    simp only [Members.text, quotedText, List.append_assoc, List.cons_append]
    exact ⟨_, skipSpace_gap fun c hc => by cases hc; rfl⟩
  | cons before key beforeColon afterColon t after more =>
    simp only [Members.text, quotedText, List.append_assoc, List.cons_append]
    exact ⟨_, skipSpace_gap fun c hc => by cases hc; rfl⟩

mutual

/-- **A value is read from its text.** -/
theorem value?_text (t : Term) (fuel : Nat) (hfuel : t.text.length ≤ fuel) {cs rest : List Char} (hrest : Follows rest)
    (hcs : skipSpace cs = t.text ++ rest) : value? fuel cs = some (t.value, rest) := by
  -- No value has an empty text, so that there is fuel for one call.
  obtain ⟨fuel, rfl⟩ : ∃ k, fuel = k + 1 := by
    obtain ⟨c, more, htext, -⟩ := exists_head_term t
    rw [htext, List.length_cons] at hfuel
    exact ⟨fuel - 1, by omega⟩
  cases t with
  | null =>
    rw [value?, hcs]
    rfl
  | bool b =>
    rw [value?, hcs]
    cases b <;> rfl
  | number n => exact (value?_number hcs).trans (number?_text hrest)
  | string ps =>
    have hquoted := stringTail?_quoted ps rest
    rw [Term.text, quotedText, List.cons_append, List.append_assoc] at hcs
    rw [value?, hcs]
    show (stringTail? ((piecesText ps ++ '"' :: rest).length + 1) [] (piecesText ps ++ '"' :: rest)).map _ = _
    rw [hquoted]
    rfl
  | emptyArray g =>
    rw [Term.text, List.cons_append, List.append_assoc] at hcs
    exact value?_emptyArray hcs (skipSpace_gap fun c hc => by cases hc; rfl)
  | array items =>
    rw [Term.text, List.length_cons] at hfuel
    rw [Term.text, List.cons_append] at hcs
    obtain ⟨c, more, hhead, hc⟩ := exists_head_items items rest
    rw [value?_array hcs hhead hc, items?_text items _ (by omega) (skipSpace_skipSpace _)]
    rfl
  | emptyObject g =>
    rw [Term.text, List.cons_append, List.append_assoc] at hcs
    exact value?_emptyObject hcs (skipSpace_gap fun c hc => by cases hc; rfl)
  | object members =>
    rw [Term.text, List.length_cons] at hfuel
    rw [Term.text, List.cons_append] at hcs
    obtain ⟨more, hhead⟩ := exists_head_members members rest
    rw [value?_object hcs hhead (by decide), members?_text members _ (by omega) (skipSpace_skipSpace _)]
    rfl

/-- Items are read from their text. -/
theorem items?_text (is : Items) (fuel : Nat) (hfuel : is.text.length ≤ fuel) {cs rest : List Char}
    (hcs : skipSpace cs = skipSpace (is.text ++ rest)) : items? fuel cs = some (is.values, rest) := by
  cases is with
  | last before t after =>
    simp only [Items.text, List.append_assoc, List.cons_append, List.nil_append] at hfuel hcs
    rw [skipSpace_term] at hcs
    simp only [List.length_append, List.length_singleton] at hfuel
    have hend : skipSpace (after.1 ++ (']' :: rest)) = ']' :: rest := skipSpace_gap fun c hc => by cases hc; rfl
    match fuel, hfuel with
    | fuel + 1, hfuel =>
      unfold items?
      rw [value?_text t fuel (by omega) (.gap (.cons (.inr (.inl rfl)) _)) hcs]
      simp only [bind, Option.bind, hend]
      rfl
  | cons before t after more =>
    simp only [Items.text, List.append_assoc, List.cons_append] at hfuel hcs
    rw [skipSpace_term] at hcs
    simp only [List.length_append, List.length_cons] at hfuel
    have hend : skipSpace (after.1 ++ (',' :: (more.text ++ rest))) = ',' :: (more.text ++ rest) :=
      skipSpace_gap fun c hc => by cases hc; rfl
    match fuel, hfuel with
    | fuel + 1, hfuel =>
      unfold items?
      rw [value?_text t fuel (by omega) (.gap (.cons (.inl rfl) _)) hcs]
      simp only [bind, Option.bind, hend, items?_text more fuel (by omega) rfl]
      rfl

/-- Members are read from their text, after others. -/
theorem members?_text (ms : Members) (fuel : Nat) (hfuel : ms.text.length ≤ fuel) {done : List (Value × Value)}
    {cs rest : List Char} (hcs : skipSpace cs = skipSpace (ms.text ++ rest)) :
    members? fuel done cs = some (gathered ms.entries done, rest) := by
  cases ms with
  | last before key beforeColon afterColon t after =>
    simp only [Members.text, quotedText, List.append_assoc, List.cons_append, List.nil_append] at hfuel hcs
    rw [skipSpace_gap fun c hc => by cases hc; rfl] at hcs
    simp only [List.length_append, List.length_cons] at hfuel
    have hcolon : skipSpace (beforeColon.1 ++ (':' :: (afterColon.1 ++ (t.text ++ (after.1 ++ ('\x7d' :: rest)))))) =
        ':' :: (afterColon.1 ++ (t.text ++ (after.1 ++ ('\x7d' :: rest)))) := skipSpace_gap fun c hc => by cases hc; rfl
    have hend : skipSpace (after.1 ++ ('\x7d' :: rest)) = '\x7d' :: rest := skipSpace_gap fun c hc => by cases hc; rfl
    match fuel, hfuel with
    | fuel + 1, hfuel =>
      unfold members?
      simp only [hcs, stringTail?_quoted, bind, Option.bind, hcolon, hend,
        value?_text t fuel (by omega) (.gap (.cons (.inr (.inr rfl)) _)) (skipSpace_term afterColon t _)]
      rfl
  | cons before key beforeColon afterColon t after more =>
    simp only [Members.text, quotedText, List.append_assoc, List.cons_append, List.nil_append] at hfuel hcs
    rw [skipSpace_gap fun c hc => by cases hc; rfl] at hcs
    simp only [List.length_append, List.length_cons] at hfuel
    have hcolon : skipSpace
        (beforeColon.1 ++ (':' :: (afterColon.1 ++ (t.text ++ (after.1 ++ (',' :: (more.text ++ rest))))))) =
        ':' :: (afterColon.1 ++ (t.text ++ (after.1 ++ (',' :: (more.text ++ rest))))) :=
      skipSpace_gap fun c hc => by cases hc; rfl
    have hend : skipSpace (after.1 ++ (',' :: (more.text ++ rest))) = ',' :: (more.text ++ rest) :=
      skipSpace_gap fun c hc => by cases hc; rfl
    match fuel, hfuel with
    | fuel + 1, hfuel =>
      unfold members?
      simp only [hcs, stringTail?_quoted, bind, Option.bind, hcolon, hend,
        value?_text t fuel (by omega) (.gap (.cons (.inl rfl) _)) (skipSpace_term afterColon t _),
        members?_text more fuel (by omega) rfl]
      rfl

end

/-- **The text of a tree is read as its value.** -/
theorem parse?_text {d : Document} {s : String} (h : d.text = s.toList) : parse? s = some d.value := by
  have hspace : skipSpace s.toList = d.root.text ++ d.after.1 := by
    have := skipSpace_term d.before d.root d.after.1
    rw [← h]
    exact this
  have hend : skipSpace d.after.1 = [] := by
    have := @skipSpace_gap d.after [] fun c hc => absurd hc (by simp)
    rwa [List.append_nil] at this
  have hfuel : d.root.text.length ≤ s.toList.length + 1 := by
    rw [← h, Document.text, List.length_append, List.length_append]
    omega
  have hfollows : Follows d.after.1 := by
    have := Follows.gap (g := d.after) .nil
    rwa [List.append_nil] at this
  unfold parse?
  simp only [value?_text d.root _ hfuel hfollows hspace, hend]
  rfl

end Triage.Json
