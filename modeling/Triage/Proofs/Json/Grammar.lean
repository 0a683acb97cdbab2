import Mathlib.Tactic.Common
import Triage.Json.Reader
import Triage.Proofs.Text.Span

/-!
# The grammar of JSON

A JSON text as a tree that keeps everything that is written: white space, the way in which a character of a string or a
number is written, and keys that are given twice.

* `Json.Gap`, `Json.Piece`, `Json.Numeral`: white space, a character of a string, and a number.
* `Json.Term`, `Json.Items`, `Json.Members`: a value, and what stands in an array or an object up to its end.
* `Json.Document`: a whole text. `text` is the text that a tree writes, `value` the value that it stands for.
* `exists_document_of_parse`: **every text that is read is written by such a tree**, which stands for the value read.
-/

namespace Triage.Json

open Triage.Text (natOfText)

/-- White space. -/
abbrev Gap := {cs : List Char // ∀ c ∈ cs, isSpace c = true}

/-- No white space. -/
def Gap.none : Gap := ⟨[], by simp⟩

/-- White space and more of it. -/
def Gap.append (g h : Gap) : Gap :=
  ⟨g.1 ++ h.1, fun c hc => (List.mem_append.1 hc).elim (g.2 c) (h.2 c)⟩

/-- A character of a string: as it is, or as an escape. -/
inductive Piece where
  | raw (c : Char) (ok : 0x20 ≤ c.toNat ∧ c ≠ '"' ∧ c ≠ '\\')
  /-- The backslash stands before the body. -/
  | escape (body : List Char) (c : Char) (ok : escape? body = some (c, []))

namespace Piece

/-- The text of a character. -/
def text : Piece → List Char
  | raw c _ => [c]
  | escape body _ _ => '\\' :: body

/-- The character. -/
def char : Piece → Char
  | raw c _ => c
  | escape _ c _ => c

end Piece

/-- The text of the characters of a string. -/
def piecesText (ps : List Piece) : List Char := ps.flatMap Piece.text

/-- The text of a string, with its quotes. -/
def quotedText (ps : List Piece) : List Char := '"' :: (piecesText ps ++ ['"'])

/-- What a string stands for. -/
def piecesValue (ps : List Piece) : String := String.ofList (ps.map Piece.char)

/-- The exponent of a number: its letter, a sign or none, and its digits. -/
structure Exponent where
  letter : Char
  sign : Option Char
  digits : List Char
  letter_ok : letter = 'e' ∨ letter = 'E'
  sign_ok : ∀ c ∈ sign, c = '-' ∨ c = '+'
  digits_ok : ∀ c ∈ digits, c.isDigit = true
  nonempty : digits ≠ []

namespace Exponent

/-- The text of an exponent. -/
def text (e : Exponent) : List Char := e.letter :: (e.sign.toList ++ e.digits)

/-- The power of ten. -/
def value (e : Exponent) : Int := if e.sign = some '-' then -(natOfText 10 e.digits : Int) else natOfText 10 e.digits

end Exponent

/-- A number: a sign or none, digits, the digits of a fraction, and an exponent. -/
structure Numeral where
  negative : Bool
  whole : List Char
  fraction : List Char
  exponent : Option Exponent
  whole_ok : ∀ c ∈ whole, c.isDigit = true
  nonempty : whole ≠ []
  no_leading_zero : whole.head? = some '0' → whole = ['0']
  fraction_ok : ∀ c ∈ fraction, c.isDigit = true

namespace Numeral

/-- The text of the sign. -/
def signText (negative : Bool) : List Char := if negative then ['-'] else []

/-- The text of the fraction. -/
def fractionText (ds : List Char) : List Char := if ds.isEmpty then [] else '.' :: ds

/-- The text of the exponent. -/
def exponentText (e : Option Exponent) : List Char := (e.map Exponent.text).getD []

/-- The text of a number without its sign. -/
def unsigned (n : Numeral) : List Char := n.whole ++ (fractionText n.fraction ++ exponentText n.exponent)

/-- The text of a number. -/
def text (n : Numeral) : List Char := signText n.negative ++ n.unsigned

/-- Whether a number is written as an integer. -/
def isInteger (n : Numeral) : Bool := n.fraction.isEmpty && n.exponent.isNone

/-- The value of a number. -/
def value (n : Numeral) : Value :=
  if n.isInteger then .int (if n.negative then -(natOfText 10 n.whole : Int) else natOfText 10 n.whole)
  else .float (.ofDecimal n.negative (natOfText 10 (n.whole ++ n.fraction))
    ((n.exponent.map Exponent.value).getD 0 - n.fraction.length))

end Numeral

mutual

/-- A value. -/
inductive Term where
  | null
  | bool (b : Bool)
  | number (n : Numeral)
  | string (ps : List Piece)
  | emptyArray (g : Gap)
  | array (items : Items)
  | emptyObject (g : Gap)
  | object (members : Members)

/-- The items of an array and its end, with the white space around each item. -/
inductive Items where
  | last (before : Gap) (t : Term) (after : Gap)
  | cons (before : Gap) (t : Term) (after : Gap) (rest : Items)

/-- The members of an object and its end, with the white space around each key and value. -/
inductive Members where
  | last (before : Gap) (key : List Piece) (beforeColon afterColon : Gap) (t : Term) (after : Gap)
  | cons (before : Gap) (key : List Piece) (beforeColon afterColon : Gap) (t : Term) (after : Gap) (rest : Members)

end

mutual

/-- The text of a value. -/
def Term.text : Term → List Char
  | .null => ['n', 'u', 'l', 'l']
  | .bool true => ['t', 'r', 'u', 'e']
  | .bool false => ['f', 'a', 'l', 's', 'e']
  | .number n => n.text
  | .string ps => quotedText ps
  | .emptyArray g => '[' :: (g.1 ++ [']'])
  | .array items => '[' :: items.text
  | .emptyObject g => '\x7b' :: (g.1 ++ ['\x7d'])
  | .object members => '\x7b' :: members.text

/-- The text of items up to the closing bracket. -/
def Items.text : Items → List Char
  | .last before t after => before.1 ++ (t.text ++ (after.1 ++ [']']))
  | .cons before t after rest => before.1 ++ (t.text ++ (after.1 ++ ',' :: rest.text))

/-- The text of members up to the closing brace. -/
def Members.text : Members → List Char
  | .last before key beforeColon afterColon t after =>
    before.1 ++ (quotedText key ++ (beforeColon.1 ++ ':' :: (afterColon.1 ++ (t.text ++ (after.1 ++ ['\x7d'])))))
  | .cons before key beforeColon afterColon t after rest =>
    before.1 ++ (quotedText key ++ (beforeColon.1 ++ ':' :: (afterColon.1 ++ (t.text ++
      (after.1 ++ ',' :: rest.text)))))

end

/-- The entries of an object, in which a key that comes again takes the place of the earlier one. -/
def gathered (es done : List (Value × Value)) : List (Value × Value) :=
  es.foldl (fun done e => Value.insertEntry e.1 e.2 done) done

mutual

/-- What a value stands for. -/
def Term.value : Term → Value
  | .null => .null
  | .bool b => .bool b
  | .number n => n.value
  | .string ps => .text (piecesValue ps)
  | .emptyArray _ => .list []
  | .array items => .list items.values
  | .emptyObject _ => .map []
  | .object members => .map (gathered members.entries [])

/-- What items stand for. -/
def Items.values : Items → List Value
  | .last _ t _ => [t.value]
  | .cons _ t _ rest => t.value :: rest.values

/-- What members stand for, one by one. -/
def Members.entries : Members → List (Value × Value)
  | .last _ key _ _ t _ => [(.text (piecesValue key), t.value)]
  | .cons _ key _ _ t _ rest => (.text (piecesValue key), t.value) :: rest.entries

end

/-- A whole text: a value with white space around it. -/
structure Document where
  before : Gap
  root : Term
  after : Gap

/-- The text of a document. -/
def Document.text (d : Document) : List Char := d.before.1 ++ (d.root.text ++ d.after.1)

/-- What a document stands for. -/
def Document.value (d : Document) : Value := d.root.value

/-! ## White space -/

theorem exists_gap (cs : List Char) : ∃ g : Gap, cs = g.1 ++ skipSpace cs :=
  ⟨⟨cs.takeWhile isSpace, fun c hc => List.all_eq_true.1 List.all_takeWhile c hc⟩, List.takeWhile_append_dropWhile.symm⟩

/-- The same items with more white space before them. -/
def Items.spaced (g : Gap) : Items → Items
  | .last before t after => .last (g.append before) t after
  | .cons before t after rest => .cons (g.append before) t after rest

/-- The same members with more white space before them. -/
def Members.spaced (g : Gap) : Members → Members
  | .last before key beforeColon afterColon t after => .last (g.append before) key beforeColon afterColon t after
  | .cons before key beforeColon afterColon t after rest =>
    .cons (g.append before) key beforeColon afterColon t after rest

theorem Items.text_spaced (g : Gap) (is : Items) : (is.spaced g).text = g.1 ++ is.text := by
  cases is <;> simp [Items.spaced, Items.text, Gap.append]

theorem Items.values_spaced (g : Gap) (is : Items) : (is.spaced g).values = is.values := by
  cases is <;> rfl

theorem Members.text_spaced (g : Gap) (ms : Members) : (ms.spaced g).text = g.1 ++ ms.text := by
  cases ms <;> simp [Members.spaced, Members.text, Gap.append]

theorem Members.entries_spaced (g : Gap) (ms : Members) : (ms.spaced g).entries = ms.entries := by
  cases ms <;> rfl

/-! ## Strings -/

theorem piecesText_raw {c : Char} (ok : 0x20 ≤ c.toNat ∧ c ≠ '"' ∧ c ≠ '\\') (ps : List Piece) :
    piecesText (.raw c ok :: ps) = c :: piecesText ps := rfl

theorem piecesText_escape {body : List Char} {c : Char} (ok : escape? body = some (c, [])) (ps : List Piece) :
    piecesText (.escape body c ok :: ps) = '\\' :: (body ++ piecesText ps) := rfl

/-- Every character of a string is written with some text. -/
theorem length_le_piecesText (ps : List Piece) : ps.length ≤ (piecesText ps).length := by
  induction ps with
  | nil => exact Nat.le_refl 0
  | cons p ps ih =>
    have hone : 1 ≤ p.text.length := by cases p <;> simp [Piece.text]
    rw [piecesText, List.flatMap_cons, List.length_append, List.length_cons, ← piecesText]
    omega

theorem hexFour?_eq_some {cs rest : List Char} {n : Nat} (h : hexFour? cs = some (n, rest)) :
    ∃ a b c d, cs = a :: b :: c :: d :: rest ∧ hexFour? [a, b, c, d] = some (n, []) := by
  unfold hexFour? at h
  split at h
  · next a b c d rest' =>
    split at h
    · next hall =>
      cases h
      exact ⟨a, b, c, d, rfl, by rw [hexFour?, if_pos hall]⟩
    · cases h
  · cases h

theorem hexFour?_append {a b c d : Char} {n : Nat} (h : hexFour? [a, b, c, d] = some (n, [])) (rest : List Char) :
    hexFour? (a :: b :: c :: d :: rest) = some (n, rest) := by
  unfold hexFour? at h ⊢
  dsimp only at h ⊢
  split at h
  · next hall =>
    cases h
    rw [if_pos hall]
  · cases h

theorem escape?_unit (r : List Char) :
    escape? ('u' :: r) = (hexFour? r).bind fun p =>
      if 0xd800 ≤ p.1 && p.1 < 0xdc00 then
        match p.2 with
        | '\\' :: 'u' :: rest => (hexFour? rest).bind fun q =>
          if 0xdc00 ≤ q.1 && q.1 < 0xe000 then some (ofSurrogates p.1 q.1, q.2) else none
        | _ => none
      else if 0xdc00 ≤ p.1 && p.1 < 0xe000 then none
      else some (Char.ofNat p.1, p.2) := rfl

/-- An escape ends where its characters do. -/
theorem escape?_eq_some {cs rest : List Char} {c : Char} (h : escape? cs = some (c, rest)) :
    ∃ body, cs = body ++ rest ∧ escape? body = some (c, []) := by
  unfold escape? at h
  split at h
  case h_9 r =>
    obtain ⟨⟨n, more⟩, hfour, hunit⟩ := Option.bind_eq_some_iff.1 h
    clear h
    obtain ⟨a, b, d, e, rfl, hdigits⟩ := hexFour?_eq_some hfour
    dsimp only at hunit
    split at hunit
    · next hhigh =>
      -- a pair of surrogates: the second escape belongs to the first
      split at hunit
      · next more' =>
        obtain ⟨⟨m, after⟩, hfour', hpair⟩ := Option.bind_eq_some_iff.1 hunit
        clear hunit
        obtain ⟨a', b', d', e', rfl, hdigits'⟩ := hexFour?_eq_some hfour'
        dsimp only at hpair
        split at hpair
        · next hlow =>
          obtain ⟨rfl, rfl⟩ := Prod.mk.inj (Option.some.inj hpair)
          refine ⟨['u', a, b, d, e, '\\', 'u', a', b', d', e'], rfl, ?_⟩
          have hfirst := hexFour?_append hdigits ['\\', 'u', a', b', d', e']
          rw [escape?_unit, hfirst, Option.bind_some, if_pos hhigh]
          show (hexFour? [a', b', d', e']).bind _ = _
          rw [hdigits', Option.bind_some, if_pos hlow]
        · cases hpair
      · cases hunit
    · next hhigh =>
      split at hunit
      · cases hunit
      · next hlow =>
        cases hunit
        refine ⟨['u', a, b, d, e], rfl, ?_⟩
        simp only [escape?_unit, hdigits, Option.bind_some, hhigh, hlow, Bool.false_eq_true, if_false]
  case h_10 => cases h
  all_goals
    cases h
    exact ⟨[_], rfl, rfl⟩

/-- The characters of a string, up to its closing quote. -/
theorem exists_pieces_of_stringTail {fuel : Nat} {done cs rest : List Char} {s : String}
    (h : stringTail? fuel done cs = some (s, rest)) :
    ∃ ps : List Piece, cs = piecesText ps ++ '"' :: rest ∧ s = String.ofList (done.reverse ++ ps.map Piece.char) := by
  induction fuel generalizing done cs with
  | zero => cases h
  | succ fuel ih =>
    unfold stringTail? at h
    split at h
    · cases h
      exact ⟨[], rfl, by simp⟩
    · next body =>
      obtain ⟨⟨c, more⟩, hescape, h⟩ := Option.bind_eq_some_iff.1 h
      obtain ⟨escaped, hbody, hok⟩ := escape?_eq_some hescape
      obtain ⟨ps, hps, hs⟩ := ih h
      refine ⟨.escape escaped c hok :: ps, ?_, ?_⟩
      · simp [piecesText, Piece.text, hbody, hps]
      · simpa [Piece.char] using hs
    · next c more hquote hbackslash =>
      split at h
      · cases h
      · next hc =>
        obtain ⟨ps, hps, hs⟩ := ih h
        refine ⟨.raw c ⟨by omega, hquote, hbackslash⟩ :: ps, ?_, ?_⟩
        · simp [piecesText, Piece.text, hps]
        · simpa [Piece.char] using hs
    · cases h

/-! ## Numbers -/

theorem spanDigits_append (cs : List Char) : (spanDigits cs).1 ++ (spanDigits cs).2 = cs :=
  List.takeWhile_append_dropWhile

theorem isDigit_of_mem_spanDigits {cs : List Char} {c : Char} (h : c ∈ (spanDigits cs).1) : c.isDigit = true :=
  List.all_eq_true.1 List.all_takeWhile c h

theorem fraction?_eq_some {cs ds rest : List Char} (h : fraction? cs = some (ds, rest)) :
    cs = Numeral.fractionText ds ++ rest ∧ ∀ c ∈ ds, c.isDigit = true := by
  unfold fraction? at h
  split at h
  · next more =>
    dsimp only at h
    split at h
    · cases h
    · next hne =>
      cases h
      refine ⟨?_, fun c hc => isDigit_of_mem_spanDigits hc⟩
      rw [Numeral.fractionText, if_neg hne, List.cons_append, spanDigits_append]
  · cases h
    exact ⟨rfl, by simp⟩

/-- The sign of an exponent is taken off if there is one. -/
theorem exists_exponent_of_digits {letter : Char} (hletter : letter = 'e' ∨ letter = 'E') {sign : Option Char}
    (hsign : ∀ c ∈ sign, c = '-' ∨ c = '+') {cs : List Char} (hne : ¬ (spanDigits cs).1.isEmpty = true) :
    ∃ e : Exponent, letter :: (sign.toList ++ cs) = e.text ++ (spanDigits cs).2 ∧
      e.value = if sign = some '-' then -(natOfText 10 (spanDigits cs).1 : Int)
        else natOfText 10 (spanDigits cs).1 := by
  refine ⟨⟨letter, sign, (spanDigits cs).1, hletter, hsign, fun c hc => isDigit_of_mem_spanDigits hc, ?_⟩, ?_, rfl⟩
  · intro hnil
    exact hne (by rw [hnil]; rfl)
  · rw [Exponent.text, List.cons_append, List.append_assoc, spanDigits_append]

theorem exponent?_eq_some {cs rest : List Char} {e : Option Int} (h : exponent? cs = some (e, rest)) :
    ∃ ex : Option Exponent, cs = Numeral.exponentText ex ++ rest ∧ e = ex.map Exponent.value := by
  unfold exponent? at h
  split at h
  · cases h
    exact ⟨none, rfl, rfl⟩
  · next letter more =>
    split at h
    · next hletter =>
      have hletter : letter = 'e' ∨ letter = 'E' := by simpa using hletter
      split at h
      next negative cs hsigned =>
      dsimp only at h
      split at h
      · cases h
      · next hne =>
        obtain ⟨sign, hsign, hmore, hnegative⟩ : ∃ sign : Option Char, (∀ c ∈ sign, c = '-' ∨ c = '+') ∧
            more = sign.toList ++ cs ∧ (negative = true ↔ sign = some '-') := by
          split at hsigned
          · cases hsigned
            exact ⟨some '-', by simp, rfl, by simp⟩
          · cases hsigned
            exact ⟨some '+', by simp, rfl, by simp⟩
          · cases hsigned
            exact ⟨none, by simp, rfl, by simp⟩
        obtain ⟨ex, htext, hvalue⟩ := exists_exponent_of_digits hletter hsign hne
        cases h
        refine ⟨some ex, ?_, ?_⟩
        · rw [hmore]
          exact htext
        · rw [Option.map_some, hvalue]
          simp only [hnegative]
    · cases h
      exact ⟨none, rfl, rfl⟩

/-- **A number that is read** is written as one. -/
theorem exists_numeral_of_number {cs rest : List Char} {v : Value} (h : number? cs = some (v, rest)) :
    ∃ n : Numeral, cs = n.text ++ rest ∧ n.value = v := by
  unfold number? at h
  split at h
  next negative unsigned hsigned =>
  have hcs : cs = Numeral.signText negative ++ unsigned := by
    split at hsigned
    · cases hsigned
      rfl
    · cases hsigned
      rfl
  dsimp only at h
  split at h
  · cases h
  · next hwhole =>
    obtain ⟨⟨frac, more⟩, hfrac, h⟩ := Option.bind_eq_some_iff.1 h
    obtain ⟨⟨e, more'⟩, hexp, h⟩ := Option.bind_eq_some_iff.1 h
    obtain ⟨hfracText, hfracDigits⟩ := fraction?_eq_some hfrac
    obtain ⟨ex, hexText, hexValue⟩ := exponent?_eq_some hexp
    have hwhole : (spanDigits unsigned).1 ≠ [] ∧
        ((spanDigits unsigned).1.head? = some '0' → (spanDigits unsigned).1.length ≤ 1) := by
      simpa using hwhole
    let n : Numeral := {
      negative, whole := (spanDigits unsigned).1, fraction := frac, exponent := ex
      whole_ok := fun c hc => isDigit_of_mem_spanDigits hc
      nonempty := hwhole.1
      no_leading_zero := by
        intro hzero
        have hlength := hwhole.2 hzero
        match hds : (spanDigits unsigned).1, hzero, hlength with
        | [c], hzero, _ => rw [Option.some.inj hzero]
      fraction_ok := hfracDigits }
    have htext : cs = n.text ++ more' := by
      rw [hcs, Numeral.text, Numeral.unsigned, List.append_assoc, List.append_assoc, List.append_assoc, ← hexText,
        ← hfracText, spanDigits_append]
    have hinteger : n.isInteger = (frac.isEmpty && e.isNone) := by
      rw [hexValue, Option.isNone_map]
      rfl
    dsimp only at h
    split at h
    · next hint =>
      cases h
      refine ⟨n, htext, ?_⟩
      rw [Numeral.value, if_pos (hinteger.trans hint)]
    · next hint =>
      cases h
      refine ⟨n, htext, ?_⟩
      rw [Numeral.value, if_neg (hinteger ▸ hint), hexValue]

/-! ## Values

The three readers call each other on less fuel, so that one induction carries them. Its steps are stated apart, for each
reader from what the others do on the fuel that is left.
-/

/-- On this fuel, a value is read only where a term writes it. -/
def ReadsTerms (fuel : Nat) : Prop :=
  ∀ ⦃cs rest v⦄, value? fuel cs = some (v, rest) →
    ∃ (g : Gap) (t : Term), cs = g.1 ++ (t.text ++ rest) ∧ t.value = v

/-- On this fuel, the items of an array are read only where a tree writes them. -/
def ReadsItems (fuel : Nat) : Prop :=
  ∀ ⦃cs rest vs⦄, items? fuel cs = some (vs, rest) → ∃ is : Items, cs = is.text ++ rest ∧ is.values = vs

/-- On this fuel, the members of an object are read only where a tree writes them. -/
def ReadsMembers (fuel : Nat) : Prop :=
  ∀ ⦃done cs rest es⦄, members? fuel done cs = some (es, rest) →
    ∃ ms : Members, cs = ms.text ++ rest ∧ gathered ms.entries done = es

/-- A value that starts with a bracket is an array. -/
theorem ReadsItems.exists_array {fuel : Nat} (hitems : ReadsItems fuel) {cs r rest : List Char} {v : Value}
    (hcs : skipSpace cs = '[' :: r) (h : value? (fuel + 1) cs = some (v, rest)) :
    ∃ t : Term, '[' :: r = t.text ++ rest ∧ t.value = v := by
  obtain ⟨inner, hinner⟩ := exists_gap r
  simp only [value?, hcs] at h
  split at h
  · next r' hr =>
    cases h
    exact ⟨.emptyArray inner, by rw [hinner, hr]; simp [Term.text], rfl⟩
  · obtain ⟨⟨vs, r'⟩, hread, h⟩ := Option.map_eq_some_iff.1 h
    cases h
    obtain ⟨is, htext, hvalues⟩ := hitems hread
    -- The items are read off the text after the space, which in the tree stands before the first of them.
    refine ⟨.array (is.spaced inner), ?_, ?_⟩
    · rw [Term.text, Items.text_spaced, List.cons_append, List.append_assoc, ← htext, ← hinner]
    · rw [Term.value, Items.values_spaced, hvalues]

/-- A value that starts with a brace is an object. -/
theorem ReadsMembers.exists_object {fuel : Nat} (hmembers : ReadsMembers fuel) {cs r rest : List Char} {v : Value}
    (hcs : skipSpace cs = '{' :: r) (h : value? (fuel + 1) cs = some (v, rest)) :
    ∃ t : Term, '{' :: r = t.text ++ rest ∧ t.value = v := by
  obtain ⟨inner, hinner⟩ := exists_gap r
  simp only [value?, hcs] at h
  split at h
  · next r' hr =>
    cases h
    exact ⟨.emptyObject inner, by rw [hinner, hr]; simp [Term.text], rfl⟩
  · obtain ⟨⟨es, r'⟩, hread, h⟩ := Option.map_eq_some_iff.1 h
    cases h
    obtain ⟨ms, htext, hentries⟩ := hmembers hread
    refine ⟨.object (ms.spaced inner), ?_, ?_⟩
    · rw [Term.text, Members.text_spaced, List.cons_append, List.append_assoc, ← htext, ← hinner]
    · rw [Term.value, Members.entries_spaced, hentries]

/-- What the reader of values does on one more unit of fuel. -/
theorem readsTerms_succ {fuel : Nat} (hitems : ReadsItems fuel) (hmembers : ReadsMembers fuel) :
    ReadsTerms (fuel + 1) := by
  intro cs rest v h
  obtain ⟨g, hg⟩ := exists_gap cs
  suffices hterm : ∃ t : Term, skipSpace cs = t.text ++ rest ∧ t.value = v by
    obtain ⟨t, htext, ht⟩ := hterm
    exact ⟨g, t, htext ▸ hg, ht⟩
  have hread := h
  unfold value? at h
  split at h
  case h_1 hcs =>
    cases h
    exact ⟨.null, hcs, rfl⟩
  case h_2 hcs =>
    cases h
    exact ⟨.bool true, hcs, rfl⟩
  case h_3 hcs =>
    cases h
    exact ⟨.bool false, hcs, rfl⟩
  case h_4 r hcs =>
    obtain ⟨⟨s, r'⟩, hstring, h⟩ := Option.map_eq_some_iff.1 h
    cases h
    obtain ⟨ps, hps, hs⟩ := exists_pieces_of_stringTail hstring
    exact ⟨.string ps, by rw [hcs, hps]; simp [Term.text, quotedText], by rw [hs]; rfl⟩
  case h_5 r hcs =>
    rw [hcs]
    exact hitems.exists_array hcs hread
  case h_6 r hcs =>
    rw [hcs]
    exact hmembers.exists_object hcs hread
  case h_7 =>
    obtain ⟨n, htext, hn⟩ := exists_numeral_of_number h
    exact ⟨.number n, htext, hn⟩

/-- What the reader of items does on one more unit of fuel. -/
theorem readsItems_succ {fuel : Nat} (hvalue : ReadsTerms fuel) (hitems : ReadsItems fuel) : ReadsItems (fuel + 1) := by
  intro cs rest vs h
  obtain ⟨⟨v, more⟩, hread, hmore⟩ := Option.bind_eq_some_iff.1 h
  obtain ⟨before, t, htext, ht⟩ := hvalue hread
  obtain ⟨after, hafter⟩ := exists_gap more
  dsimp only at hmore
  split at hmore
  · next r hr =>
    obtain ⟨⟨vs', r'⟩, hrest, heq⟩ := Option.map_eq_some_iff.1 hmore
    cases heq
    obtain ⟨is, his, hvalues⟩ := hitems hrest
    exact ⟨.cons before t after is, by rw [htext, hafter, hr, his]; simp [Items.text],
      by rw [Items.values, ht, hvalues]⟩
  · next r hr =>
    cases hmore
    exact ⟨.last before t after, by rw [htext, hafter, hr]; simp [Items.text], by rw [Items.values, ht]⟩
  · cases hmore

/-- What the reader of members does on one more unit of fuel. -/
theorem readsMembers_succ {fuel : Nat} (hvalue : ReadsTerms fuel) (hmembers : ReadsMembers fuel) :
    ReadsMembers (fuel + 1) := by
  intro done cs rest es h
  obtain ⟨before, hbefore⟩ := exists_gap cs
  unfold members? at h
  split at h
  · next r hr =>
    -- The key, up to its colon.
    obtain ⟨⟨key, more⟩, hkey, hmore⟩ := Option.bind_eq_some_iff.1 h
    obtain ⟨ps, hps, hs⟩ := exists_pieces_of_stringTail hkey
    obtain ⟨beforeColon, hbeforeColon⟩ := exists_gap more
    dsimp only at hmore
    split at hmore
    · next r' hr' =>
      -- The value, up to the comma or the closing brace.
      obtain ⟨⟨v, more'⟩, hread, hmore'⟩ := Option.bind_eq_some_iff.1 hmore
      obtain ⟨afterColon, t, htext, ht⟩ := hvalue hread
      obtain ⟨after, hafter⟩ := exists_gap more'
      dsimp only at hmore'
      split at hmore'
      · next r'' hr'' =>
        obtain ⟨ms, hms, hentries⟩ := hmembers hmore'
        refine ⟨.cons before ps beforeColon afterColon t after ms, ?_, ?_⟩
        · rw [hbefore, hr, hps, hbeforeColon, hr', htext, hafter, hr'', hms]
          simp [Members.text, quotedText]
        · rw [← hentries, hs, ← ht]
          rfl
      · next r'' hr'' =>
        cases hmore'
        refine ⟨.last before ps beforeColon afterColon t after, ?_, ?_⟩
        · rw [hbefore, hr, hps, hbeforeColon, hr', htext, hafter, hr'']
          simp [Members.text, quotedText]
        · rw [hs, ← ht]
          rfl
      · cases hmore'
    · cases hmore
  · cases h

/-- On any fuel, the readers read only what a tree writes. -/
theorem exists_trees (fuel : Nat) : ReadsTerms fuel ∧ ReadsItems fuel ∧ ReadsMembers fuel := by
  induction fuel with
  | zero => exact ⟨fun _ _ _ h => (by cases h), fun _ _ _ h => (by cases h), fun _ _ _ _ h => (by cases h)⟩
  | succ fuel ih =>
    obtain ⟨hvalue, hitems, hmembers⟩ := ih
    exact ⟨readsTerms_succ hitems hmembers, readsItems_succ hvalue hitems, readsMembers_succ hvalue hmembers⟩

/-- **Every text that is read is written by a tree**, which stands for the value that is read. -/
theorem exists_document_of_parse {s : String} {v : Value} (h : parse? s = some v) :
    ∃ d : Document, d.text = s.toList ∧ d.value = v := by
  unfold parse? at h
  dsimp only at h
  split at h
  · next v' rest hread =>
    obtain ⟨before, t, htext, ht⟩ := (exists_trees _).1 hread
    split at h
    · next hblank =>
      cases h
      obtain ⟨after, hafter⟩ := exists_gap rest
      rw [List.isEmpty_iff.1 hblank, List.append_nil] at hafter
      exact ⟨⟨before, t, after⟩, by rw [Document.text, htext, hafter], ht⟩
    · cases h
  · cases h

end Triage.Json
