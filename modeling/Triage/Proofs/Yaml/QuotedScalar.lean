import Triage.Proofs.Json.Plain
import Triage.Proofs.Yaml.Cursor

/-!
# Strings of JSON as quoted scalars

Between double quotes the two formats have the same escapes, but each reads them in its own way: a quoted scalar is read
in runs of characters that stand for themselves, with spaces and escapes between the runs.

* `readQuotedRest_absorb`: a character that stands for itself, in front of what is read, is read with it.
* `readEscape_piece`: an escape for one unit stands for the same character in both formats.
* `readQuoted_pieces`: **a string of plain characters** is read as what it stands for.
* `isInline_quotedText`: such a string may stand in a document and stands on one line.
-/

namespace Triage.Yaml

open Triage.Json (Piece hexFour? escape? piecesText quotedText piecesValue arePlain)
open Triage.Text (isHexDigit hexValue? natOfText natOfDigits)

variable {start : Mark} {c : Cursor} {fuel : Nat} {rest : List Char}

/-! ## Escapes -/

/-- Four hexadecimal digits spell a unit. -/
theorem hexFour?_digits {a b d e : Char} {n : Nat} (h : hexFour? [a, b, d, e] = some (n, [])) :
    (∀ x ∈ [a, b, d, e], isHexDigit x = true) ∧ n = natOfText 16 [a, b, d, e] := by
  unfold hexFour? at h
  dsimp only at h
  split at h
  · next hall =>
    cases h
    exact ⟨fun x hx => List.all_eq_true.1 hall x hx, rfl⟩
  · cases h

theorem toNat_le_of_le {x y : Char} (h : x ≤ y) : x.toNat ≤ y.toNat := h

/-- A hexadecimal digit counts less than 16. -/
theorem hexValue?_lt {x : Char} {n : Nat} (h : hexValue? x = some n) : n < 16 := by
  unfold hexValue? at h
  split at h
  · next hdigit =>
    cases h
    have hnine : x.toNat ≤ '9'.toNat :=
      toNat_le_of_le (show x ≤ '9' from of_decide_eq_true (Bool.and_eq_true_iff.1 hdigit).2)
    have : '9'.toNat = '0'.toNat + 9 := rfl
    omega
  · split at h
    · next hsmall =>
      cases h
      have hf : x.toNat ≤ 'f'.toNat := toNat_le_of_le (by simpa using (Bool.and_eq_true_iff.1 hsmall).2)
      have : 'f'.toNat = 'a'.toNat + 5 := rfl
      omega
    · split at h
      · next hcapital =>
        cases h
        have hf : x.toNat ≤ 'F'.toNat := toNat_le_of_le (by simpa using (Bool.and_eq_true_iff.1 hcapital).2)
        have : 'F'.toNat = 'A'.toNat + 5 := rfl
        omega
      · cases h

/-- Four digits spell less than 2 to the power of 16. -/
theorem natOfText_lt (a b d e : Char) : natOfText 16 [a, b, d, e] < 0x10000 := by
  have hdigit (x : Char) : (hexValue? x).getD 0 < 16 := by
    cases hx : hexValue? x with
    | none => exact Nat.zero_lt_succ 15
    | some n => exact hexValue?_lt hx
  have ha := hdigit a
  have hb := hdigit b
  have hd := hdigit d
  have he := hdigit e
  simp only [natOfText, natOfDigits, List.map_cons, List.map_nil, List.foldl_cons, List.foldl_nil]
  omega

/-- The two ways to write an escape for one unit: a letter, or the number of the unit. -/
theorem escape?_cases {body : List Char} {ch : Char} (h : escape? body = some (ch, [])) (hshort : body.length ≤ 5) :
    (∃ l, body = [l] ∧ escapeOf? l = some ch) ∨
      ∃ a b d e n, body = ['u', a, b, d, e] ∧ hexFour? [a, b, d, e] = some (n, []) ∧
        (n < 0xd800 ∨ 0xe000 ≤ n) ∧ ch = Char.ofNat n := by
  unfold escape? at h
  split at h
  case h_9 r =>
    obtain ⟨⟨n, more⟩, hfour, hunit⟩ := Option.bind_eq_some_iff.1 h
    clear h
    obtain ⟨a, b, d, e, rfl, hdigits⟩ := Json.hexFour?_eq_some hfour
    have hmore : more = [] := by
      simp only [List.length_cons] at hshort
      exact List.length_eq_zero_iff.1 (by omega)
    subst hmore
    dsimp only at hunit
    split at hunit
    · cases hunit
    · next hhigh =>
      split at hunit
      · cases hunit
      · next hlow =>
        obtain ⟨rfl, -⟩ := Prod.mk.inj (Option.some.inj hunit)
        rw [Bool.and_eq_true, decide_eq_true_iff, decide_eq_true_iff] at hhigh hlow
        exact .inr ⟨a, b, d, e, n, rfl, hdigits, by omega, rfl⟩
  case h_10 => cases h
  all_goals
    cases h
    exact .inl ⟨_, rfl, rfl⟩

/-- The number of a unit is read as its character, whatever follows: only after a high surrogate a low one counts. -/
theorem readCodePoint_unit {a b d e : Char} {n : Nat} (hdigits : hexFour? [a, b, d, e] = some (n, []))
    (hn : n < 0xd800 ∨ 0xe000 ≤ n) (hc : c.rest = a :: b :: d :: e :: rest) :
    readCodePoint start 4 c = .ok (Char.ofNat n, c.advanceBy 4) := by
  obtain ⟨hhex, hvalue⟩ := hexFour?_digits hdigits
  have hfind : ((List.range 4).find? fun k => !isHexDigit (c.peekAt k)) = none := by
    rw [List.find?_eq_none]
    intro k hk
    have hk : k < 4 := List.mem_range.1 hk
    have hmem : c.peekAt k ∈ [a, b, d, e] := by
      unfold Cursor.peekAt
      rw [hc]
      have : k = 0 ∨ k = 1 ∨ k = 2 ∨ k = 3 := by omega
      rcases this with rfl | rfl | rfl | rfl <;> simp
    simp [hhex _ hmem]
  have hlt : n < 0x10000 := hvalue ▸ natOfText_lt a b d e
  unfold readCodePoint
  rw [hfind]
  have htake : c.rest.take 4 = [a, b, d, e] := by rw [hc]; rfl
  dsimp only
  rw [htake, ← hvalue, if_neg (by omega), if_neg (by omega)]
  have hhigh : (decide (0xd800 ≤ n) && decide (n < 0xdc00)) = false := by
    rw [Bool.and_eq_false_iff, decide_eq_false_iff_not, decide_eq_false_iff_not]
    omega
  have hany : (decide (0xd800 ≤ n) && decide (n < 0xe000)) = false := by
    rw [Bool.and_eq_false_iff, decide_eq_false_iff_not, decide_eq_false_iff_not]
    omega
  cases lowSurrogate? (c.advanceBy 4) with
  | none => simp only [hany, Bool.false_eq_true, if_false]
  | some low => simp only [hhigh, Bool.false_eq_true, if_false]

/-- **An escape for one unit** stands for the same character in both formats. -/
theorem readEscape_piece {body : List Char} {ch : Char} (h : escape? body = some (ch, [])) (hshort : body.length ≤ 5)
    (hc : c.rest = body ++ rest) : readEscape start c = .ok ([ch], c.advanceBy body.length) := by
  rcases escape?_cases h hshort with ⟨l, rfl, hl⟩ | ⟨a, b, d, e, n, rfl, hdigits, hn, rfl⟩
  · unfold readEscape
    rw [Cursor.peek_cons hc, hl]
    rfl
  · have hafter : c.advance.rest = a :: b :: d :: e :: rest := by
      rw [Cursor.rest_advance, hc]
      rfl
    unfold readEscape
    rw [Cursor.peek_cons hc]
    show (readCodePoint start 4 c.advance).bind (fun r => .ok ([r.1], r.2)) = _
    rw [readCodePoint_unit hdigits hn hafter]
    rfl

/-! ## Characters -/

theorem span_absorb {p : Char → Bool} {ch : Char} (hch : p ch = true) (hc : c.rest = ch :: rest) :
    c.span p = (ch :: (c.advance.span p).1, (c.advance.span p).2) := by
  have hrest : c.advance.rest = rest := by
    rw [Cursor.rest_advance, hc]
    rfl
  unfold Cursor.span Cursor.skipWhile
  rw [hc, hrest, List.takeWhile_cons_of_pos hch]
  rfl

/-- A run of characters that stand for themselves, and what the next character makes of the rest. -/
theorem readQuotedRest_succ {double : Bool} : readQuotedRest double start (fuel + 1) c =
    let cs := (c.span isQuotedChar).1
    let c := (c.span isQuotedChar).2
    let continueWith (more : List Char) (c : Cursor) : Except Error (List Char × Cursor) :=
      (readQuotedRest double start fuel c).bind fun r => .ok (cs ++ more ++ r.1, r.2)
    if !double && c.peek == '\'' && c.peekAt 1 == '\'' then continueWith ['\''] (c.advanceBy 2)
    else if (double && c.peek == '\'') || (!double && (c.peek == '"' || c.peek == '\\')) then
      continueWith [c.peek] c.advance
    else if double && c.peek == '\\' then (readEscape start c.advance).bind fun r => continueWith r.1 r.2
    else if c.peek == '\'' || c.peek == '"' then .ok (cs, c.advance)
    else (readQuotedSpaces start c).bind fun r => continueWith r.1 r.2 := rfl

/-- A character that stands for itself is read together with what follows it. -/
theorem readQuotedRest_absorb {double : Bool} {ch : Char} (hch : isQuotedChar ch = true) (hc : c.rest = ch :: rest) :
    readQuotedRest double start (fuel + 1) c =
      (readQuotedRest double start (fuel + 1) c.advance).map fun r => (ch :: r.1, r.2) := by
  rw [readQuotedRest_succ, readQuotedRest_succ, span_absorb hch hc]
  generalize c.advance.span isQuotedChar = r
  obtain ⟨cs, after⟩ := r
  -- whatever comes next, the characters before it are put in front
  have hfront (more : List Char) (x : Except Error (List Char × Cursor)) :
      (x.bind fun r => .ok ((ch :: cs) ++ more ++ r.1, r.2)) =
        (x.bind fun r => .ok (cs ++ more ++ r.1, r.2)).map fun r => (ch :: r.1, r.2) := by
    cases x <;> rfl
  dsimp only
  simp only [hfront]
  split
  · rfl
  · split
    · rfl
    · split
      · cases readEscape start after.advance <;> rfl
      · split
        · rfl
        · cases readQuotedSpaces start after <;> rfl

/-- A raw character that is no escape, quote or blank stands for itself. -/
theorem isQuotedChar_raw {ch : Char} (hadmitted : 0x20 ≤ ch.toNat ∧ ch ≠ '"' ∧ ch ≠ '\\')
    (hbreak : isBreak ch = false) (hspace : ch ≠ ' ') (hquote : ch ≠ '\'') : isQuotedChar ch = true := by
  have hnul : ch ≠ '\x00' := by
    rintro rfl
    exact absurd hadmitted.1 (by decide)
  have htab : ch ≠ '\t' := by
    rintro rfl
    exact absurd hadmitted.1 (by decide)
  unfold isQuotedChar isBlankOrEnd isSpaceOrEnd isLineEnd
  simp [hadmitted.2.1, hadmitted.2.2, hbreak, hspace, hquote, hnul, htab]

/-- Where a run of characters has no length, the next character decides. -/
theorem span_isQuotedChar_nil (h : isQuotedChar c.peek = false) : c.span isQuotedChar = ([], c) := by
  unfold Cursor.span Cursor.skipWhile
  cases hc : c.rest with
  | nil => rfl
  | cons ch rest =>
    rw [Cursor.peek_cons hc] at h
    rw [List.takeWhile_cons_of_neg (by simp [h])]
    rfl

/-- The closing quote ends a scalar. -/
theorem readQuotedRest_quote (hc : c.rest = '"' :: rest) :
    readQuotedRest true start (fuel + 1) c = .ok ([], c.advance) := by
  have hpeek : c.peek = '"' := Cursor.peek_cons hc
  rw [readQuotedRest_succ, span_isQuotedChar_nil (by rw [hpeek]; rfl)]
  simp [hpeek]

/-- An apostrophe stands for itself. -/
theorem readQuotedRest_apostrophe (hc : c.rest = '\'' :: rest) :
    readQuotedRest true start (fuel + 1) c =
      (readQuotedRest true start fuel c.advance).map fun r => ('\'' :: r.1, r.2) := by
  have hpeek : c.peek = '\'' := Cursor.peek_cons hc
  rw [readQuotedRest_succ, span_isQuotedChar_nil (by rw [hpeek]; rfl)]
  simp only [hpeek, Bool.not_true, Bool.false_and, Bool.false_eq_true, if_false, Bool.true_and, beq_self_eq_true,
    Bool.true_or, if_true]
  cases readQuotedRest true start fuel c.advance <;> rfl

/-- A backslash stands before an escape. -/
theorem readQuotedRest_escape {body : List Char} {ch : Char} (h : escape? body = some (ch, []))
    (hshort : body.length ≤ 5) (hc : c.rest = '\\' :: (body ++ rest)) :
    readQuotedRest true start (fuel + 1) c =
      (readQuotedRest true start fuel (c.advanceBy (body.length + 1))).map fun r => (ch :: r.1, r.2) := by
  have hpeek : c.peek = '\\' := Cursor.peek_cons hc
  have hafter : c.advance.rest = body ++ rest := by
    rw [Cursor.rest_advance, hc]
    rfl
  rw [readQuotedRest_succ, span_isQuotedChar_nil (by rw [hpeek]; rfl)]
  simp only [hpeek, readEscape_piece h hshort hafter]
  show ((readQuotedRest true start fuel (c.advance.advanceBy body.length)).bind fun r =>
    .ok ([] ++ [ch] ++ r.1, r.2)) = _
  rw [Cursor.advanceBy]
  cases readQuotedRest true start fuel (c.advance.advanceBy body.length) <;> rfl

/-! ## Spaces -/

/-- What ends a run of spaces and neither ends the text nor the line. -/
def EndsSpaces (rest : List Char) : Prop :=
  ∃ ch more, rest = ch :: more ∧ ch ≠ ' ' ∧ ch ≠ '\t' ∧ ch ≠ '\x00' ∧ isBreak ch = false

/-- Spaces within a line are read as they are. -/
theorem readQuotedSpaces_eq {blanks : List Char} (hblanks : ∀ ch ∈ blanks, ch = ' ') (hrest : EndsSpaces rest)
    (hc : c.rest = blanks ++ rest) : readQuotedSpaces start c = .ok (blanks, c.advanceBy blanks.length) := by
  obtain ⟨ch, more, rfl, hspace, htab, hend, hbreak⟩ := hrest
  have hspan : c.span (fun ch => ch == ' ' || ch == '\t') = (blanks, c.advanceBy blanks.length) := by
    refine Cursor.span_eq hc (fun x hx => by simp [hblanks x hx]) fun x hx => ?_
    cases hx
    simp [hspace, htab]
  have hpeek : (c.advanceBy blanks.length).peek = ch := Cursor.peek_cons (Cursor.rest_advanceBy_append hc)
  unfold readQuotedSpaces
  rw [hspan]
  dsimp only
  rw [hpeek, if_neg (by simp [hend]), if_neg (by simp [hbreak])]

/-- Spaces take one step before what follows them, and none if there are none. -/
theorem readQuotedRest_spaces {blanks cs : List Char} {n k : Nat} (hblanks : ∀ ch ∈ blanks, ch = ' ')
    (hrest : EndsSpaces rest)
    (hnext : ∀ {fuel c}, c.rest = rest → n < fuel → readQuotedRest true start fuel c = .ok (cs, c.advanceBy k))
    (hc : c.rest = blanks ++ rest) (hfuel : blanks.length + n < fuel) :
    readQuotedRest true start fuel c = .ok (blanks ++ cs, c.advanceBy (blanks.length + k)) := by
  cases blanks with
  | nil =>
    rw [List.length_nil, Nat.zero_add] at hfuel ⊢
    exact hnext hc hfuel
  | cons b blanks =>
    obtain rfl : b = ' ' := hblanks b (by simp)
    have hpeek : c.peek = ' ' := Cursor.peek_cons hc
    have hafter := Cursor.rest_advanceBy_append hc
    match fuel, hfuel with
    | fuel + 1, hfuel =>
      rw [List.length_cons] at hfuel
      rw [readQuotedRest_succ, span_isQuotedChar_nil (by rw [hpeek]; rfl)]
      simp only [hpeek, readQuotedSpaces_eq hblanks hrest hc]
      show ((readQuotedRest true start fuel (c.advanceBy (' ' :: blanks).length)).bind fun r =>
        .ok ([] ++ (' ' :: blanks) ++ r.1, r.2)) = _
      rw [hnext hafter (by omega), Cursor.advanceBy_add]
      rfl

/-! ## Strings -/

/-- **The characters of a string**, after spaces that were put off, up to the closing quote. -/
theorem readQuotedRest_pieces {ps : List Piece} (blanks : List Char) (hplain : arePlain ps = true)
    (hblanks : ∀ ch ∈ blanks, ch = ' ') (hc : c.rest = blanks ++ (piecesText ps ++ '"' :: rest))
    (hfuel : blanks.length + ps.length < fuel) :
    readQuotedRest true start fuel c =
      .ok (blanks ++ ps.map Piece.char, c.advanceBy (blanks.length + ((piecesText ps).length + 1))) := by
  induction ps generalizing blanks c fuel with
  | nil =>
    refine readQuotedRest_spaces hblanks ⟨'"', rest, rfl, by decide, by decide, by decide, rfl⟩ ?_ hc hfuel
    intro fuel c hc hfuel
    match fuel, hfuel with
    | fuel + 1, _ => exact readQuotedRest_quote hc
  | cons p ps ih =>
    obtain ⟨hp, hps⟩ := Bool.and_eq_true_iff.1 hplain
    -- what follows a character without spaces before it
    have hrest {c : Cursor} {fuel : Nat} (hc : c.rest = piecesText ps ++ '"' :: rest) (hfuel : ps.length < fuel) :
        readQuotedRest true start fuel c = .ok (ps.map Piece.char, c.advanceBy ((piecesText ps).length + 1)) := by
      simpa using ih [] hps (fun ch hch => absurd hch (by simp)) hc (by simpa using hfuel)
    cases p with
    | raw ch ok =>
      obtain ⟨hadmits, hbreak⟩ := Bool.and_eq_true_iff.1 hp
      have hbreak : isBreak ch = false := by simpa using hbreak
      rw [Json.piecesText_raw] at hc ⊢
      by_cases hspace : ch = ' '
      · subst hspace
        have hread := ih (blanks ++ [' ']) hps (fun x hx => by
          rcases List.mem_append.1 hx with hx | hx
          · exact hblanks x hx
          · exact List.mem_singleton.1 hx) (by simpa using hc) (by simpa [Nat.add_right_comm, Nat.add_assoc] using hfuel)
        simpa [Piece.char, Nat.add_assoc, Nat.add_comm, Nat.add_left_comm] using hread
      · have hnul : ch ≠ '\x00' := by
          rintro rfl
          exact absurd ok.1 (by decide)
        have htab : ch ≠ '\t' := by
          rintro rfl
          exact absurd ok.1 (by decide)
        refine readQuotedRest_spaces hblanks ⟨ch, _, rfl, hspace, htab, hnul, hbreak⟩ ?_ hc hfuel
        intro fuel c hc hfuel
        have hafter : c.advance.rest = piecesText ps ++ '"' :: rest := by
          rw [Cursor.rest_advance, hc]
          rfl
        rw [List.length_cons] at hfuel ⊢
        obtain ⟨fuel, rfl⟩ : ∃ n, fuel = n + 1 := ⟨fuel - 1, by omega⟩
        by_cases hquote : ch = '\''
        · subst hquote
          rw [readQuotedRest_apostrophe hc, hrest hafter (by omega)]
          rfl
        · rw [readQuotedRest_absorb (isQuotedChar_raw ok hbreak hspace hquote) hc, hrest hafter (by omega)]
          rfl
    | escape body ch ok =>
      have hshort : body.length ≤ 5 := by simpa [Piece.isPlain] using hp
      rw [Json.piecesText_escape]
      rw [Json.piecesText_escape, List.cons_append, List.append_assoc] at hc
      refine readQuotedRest_spaces hblanks ⟨'\\', _, rfl, by decide, by decide, by decide, rfl⟩ ?_ hc hfuel
      intro fuel c hc hfuel
      have hafter : (c.advanceBy (body.length + 1)).rest = piecesText ps ++ '"' :: rest := by
        rw [Cursor.rest_advanceBy, hc, List.drop_succ_cons, List.drop_left]
      rw [List.length_cons] at hfuel
      obtain ⟨fuel, rfl⟩ : ∃ n, fuel = n + 1 := ⟨fuel - 1, by omega⟩
      rw [readQuotedRest_escape ok hshort hc, hrest hafter (by omega), ← Cursor.advanceBy_add]
      simp only [Except.map, List.map_cons, Piece.char, List.length_cons, List.length_append]
      rw [show body.length + 1 + ((piecesText ps).length + 1) = body.length + (piecesText ps).length + 1 + 1 by omega]

/-- **A string of plain characters** is read as what it stands for. -/
theorem readQuoted_pieces {ps : List Piece} (hplain : arePlain ps = true) (hc : c.rest = quotedText ps ++ rest) :
    readQuoted true c = .ok (piecesValue ps, c.advanceBy (quotedText ps).length) := by
  have hafter : c.advance.rest = [] ++ (piecesText ps ++ '"' :: rest) := by
    rw [Cursor.rest_advance, hc]
    simp [quotedText]
  have hfuel : ([] : List Char).length + ps.length < c.rest.length + 1 := by
    have := Json.length_le_piecesText ps
    rw [hc]
    simp only [quotedText, List.cons_append, List.length_cons, List.length_append, List.length_nil]
    omega
  unfold readQuoted
  rw [readQuotedRest_pieces [] hplain (fun x hx => absurd hx (by simp)) hafter hfuel]
  rw [List.length_nil, Nat.zero_add, List.nil_append, quotedText, List.length_cons, List.length_append]
  rfl

/-! ## The characters of strings -/

/-- A character that may stand in a document and ends no line. -/
def IsInline (x : Char) : Prop := Source.admits x = true ∧ isBreak x = false

/-- Characters of ASCII that can be seen. -/
theorem isInline_ascii {x : Char} (hlow : 0x20 ≤ x.toNat) (hhigh : x.toNat ≤ 0x7e) : IsInline x := by
  refine ⟨by simp [Source.admits, hlow, hhigh], ?_⟩
  rw [Bool.eq_false_iff]
  intro hbreak
  have hbreak : x = '\n' ∨ x = '\r' ∨ x = '\x85' ∨ x = '\u2028' ∨ x = '\u2029' := by
    simpa [isBreak, or_assoc] using hbreak
  rcases hbreak with rfl | rfl | rfl | rfl | rfl
  · exact absurd hlow (by decide)
  · exact absurd hlow (by decide)
  all_goals exact absurd hhigh (by decide)

theorem isInline_hexDigit {x : Char} (h : isHexDigit x = true) : IsInline x := by
  obtain ⟨n, hn⟩ := Option.isSome_iff_exists.1 h
  obtain ⟨low, high, hlow, hhigh, hbounds⟩ : ∃ low high : Char, low ≤ x ∧ x ≤ high ∧
      0x20 ≤ low.toNat ∧ high.toNat ≤ 0x7e := by
    unfold hexValue? at hn
    split at hn
    · next hdigit =>
      obtain ⟨hlow, hhigh⟩ := Bool.and_eq_true_iff.1 hdigit
      exact ⟨'0', '9', of_decide_eq_true hlow, of_decide_eq_true hhigh, by decide⟩
    · split at hn
      · next hsmall =>
        obtain ⟨hlow, hhigh⟩ := Bool.and_eq_true_iff.1 hsmall
        exact ⟨'a', 'f', of_decide_eq_true hlow, of_decide_eq_true hhigh, by decide⟩
      · split at hn
        · next hcapital =>
          obtain ⟨hlow, hhigh⟩ := Bool.and_eq_true_iff.1 hcapital
          exact ⟨'A', 'F', of_decide_eq_true hlow, of_decide_eq_true hhigh, by decide⟩
        · cases hn
  exact isInline_ascii (Nat.le_trans hbounds.1 (toNat_le_of_le hlow)) (Nat.le_trans (toNat_le_of_le hhigh) hbounds.2)

theorem isInline_escape {body : List Char} {ch : Char} (h : escape? body = some (ch, [])) (hshort : body.length ≤ 5) :
    ∀ x ∈ body, IsInline x := by
  rcases escape?_cases h hshort with ⟨l, rfl, hl⟩ | ⟨a, b, d, e, n, rfl, hdigits, -, -⟩
  · rw [List.forall_mem_singleton]
    unfold escapeOf? at hl
    split at hl
    case h_19 => cases hl
    all_goals exact ⟨rfl, rfl⟩
  · exact List.forall_mem_cons.2 ⟨⟨rfl, rfl⟩, fun x hx => isInline_hexDigit ((hexFour?_digits hdigits).1 x hx)⟩

/-- **A string of plain characters stands on one line**, and may stand in a document. -/
theorem isInline_quotedText {ps : List Piece} (hplain : arePlain ps = true) : ∀ x ∈ quotedText ps, IsInline x := by
  have hpieces : ∀ x ∈ piecesText ps, IsInline x := by
    intro x hx
    obtain ⟨p, hp, hx⟩ := List.mem_flatMap.1 hx
    have hpiece := List.all_eq_true.1 hplain p hp
    cases p with
    | raw ch ok =>
      rw [List.mem_singleton.1 hx]
      exact (Bool.and_eq_true_iff.1 hpiece).imp_right fun h => by simpa using h
    | escape body ch ok =>
      rcases List.mem_cons.1 hx with rfl | hx
      · exact ⟨rfl, rfl⟩
      · exact isInline_escape ok (by simpa [Piece.isPlain] using hpiece) x hx
  intro x hx
  rcases List.mem_cons.1 hx with rfl | hx
  · exact ⟨rfl, rfl⟩
  · rcases List.mem_append.1 hx with hx | hx
    · exact hpieces x hx
    · rw [List.mem_singleton.1 hx]
      exact ⟨rfl, rfl⟩

end Triage.Yaml
