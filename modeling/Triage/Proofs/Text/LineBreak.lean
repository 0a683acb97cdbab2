import Triage.Proofs.Text.LowerCase

/-!
# Where a text is broken into lines

A change of case neither brings nor takes away a line break, so that a text that is made from others is broken where
they are.

* `lineBreaks`: the characters at which readers of a text break it; `IsOneLine`: a text without any.
* `mem_upperChars_iff`, `mem_lowerChars_iff`: **only a line break becomes one**, and it stays what it is.
* `mem_lower_iff`: so it is with whole texts.
-/

namespace Triage.Text

/-- The characters at which a text is broken into lines: those for the ends of lines, pages and paragraphs, and the
separators of files, groups and records. -/
def lineBreaks : List Char :=
  ['\n', '\r', '\x0b', '\x0c', '\x1c', '\x1d', '\x1e', '\x85', '\u2028', '\u2029']

/-- A text without line breaks. -/
def IsOneLine (text : String) : Prop := ∀ x ∈ lineBreaks, x ∉ text.toList

instance (text : String) : Decidable (IsOneLine text) :=
  inferInstanceAs (Decidable (∀ x ∈ lineBreaks, x ∉ text.toList))

/-- Two texts that are broken by the same characters are of one line together. -/
theorem isOneLine_iff {text : String} {texts : List String}
    (h : ∀ x ∈ lineBreaks, x ∈ text.toList ↔ ∃ t ∈ texts, x ∈ t.toList) :
    IsOneLine text ↔ ∀ t ∈ texts, IsOneLine t := by
  constructor
  · intro hline t ht x hx hmem
    exact hline x hx ((h x hx).2 ⟨t, ht, hmem⟩)
  · intro hlines x hx hmem
    obtain ⟨t, ht, hbroken⟩ := (h x hx).1 hmem
    exact hlines t ht x hx hbroken

variable {c x : Char}

/-- What a table maps a character to has a line break only if the character is one, provided that the table lists
none. -/
theorem eq_of_mem_mapCase {runs : Array CaseRun} {specials : Array (Nat × List Nat)}
    (hspecials : ∀ p ∈ specials, ∀ n ∈ p.2, n ∉ lineBreaks.map Char.toNat)
    (hruns : ∀ r ∈ runs, 0x1e < r.image ∧ (r.image + (r.last - r.first) < 0x85 ∨ 0x85 < r.image) ∧
      (r.image + (r.last - r.first) < 0x2028 ∨ 0x2029 < r.image))
    (hx : x ∈ lineBreaks) (h : x ∈ mapCase runs specials c) : c = x := by
  have hself : x.toNat ∉ lineBreaks.map Char.toNat ∨ x.toNat = c.toNat := by
    refine forall_mem_mapCase (P := fun n => n ∉ lineBreaks.map Char.toNat ∨ n = c.toNat) (.inl (by decide))
      (fun p hp n hn => .inl (hspecials p hp n hn)) (fun r hr n hlow hhigh => .inl ?_) (.inr rfl) x h
    have hrange := hruns r hr
    have hpoints : ∀ m ∈ lineBreaks.map Char.toNat, m ≤ 0x1e ∨ m = 0x85 ∨ m = 0x2028 ∨ m = 0x2029 := by decide
    intro hn
    have hpoint := hpoints n hn
    omega
  rcases hself with hnone | hsame
  · exact absurd (List.mem_map_of_mem hx) hnone
  · exact (Char.toNat_inj.1 hsame).symm

/-- A change of case that follows such a table above ASCII, and does right in ASCII. -/
theorem mem_iff_of_mapCase {change : Char → List Char} {runs : Array CaseRun} {specials : Array (Nat × List Nat)}
    (hascii : ∀ n < 128, ∀ x ∈ lineBreaks, x ∈ change (Char.ofNat n) → Char.ofNat n = x)
    (habove : ∀ {c : Char}, 128 ≤ c.toNat → change c = mapCase runs specials c)
    (hspecials : ∀ p ∈ specials, ∀ n ∈ p.2, n ∉ lineBreaks.map Char.toNat)
    (hruns : ∀ r ∈ runs, 0x1e < r.image ∧ (r.image + (r.last - r.first) < 0x85 ∨ 0x85 < r.image) ∧
      (r.image + (r.last - r.first) < 0x2028 ∨ 0x2029 < r.image))
    (hkept : ∀ x ∈ lineBreaks, x ∈ change x) (hx : x ∈ lineBreaks) : x ∈ change c ↔ c = x := by
  constructor
  · intro h
    rcases Nat.lt_or_ge c.toNat 128 with hc | hc
    · exact forall_ascii (P := fun c => ∀ x ∈ lineBreaks, x ∈ change c → c = x) hascii hc x hx h
    · rw [habove hc] at h
      exact eq_of_mem_mapCase hspecials hruns hx h
  · rintro rfl
    exact hkept c hx

/-- **Only a line break has one in its upper case**, which is itself. -/
theorem mem_upperChars_iff (hx : x ∈ lineBreaks) : x ∈ upperChars c ↔ c = x :=
  mem_iff_of_mapCase (by decide +kernel) upperChars_of_not_ascii (by decide +kernel) (by decide +kernel)
    (by decide +kernel) hx

/-- **Only a line break has one in its lower case**, which is itself. -/
theorem mem_lowerChars_iff (hx : x ∈ lineBreaks) : x ∈ lowerChars c ↔ c = x :=
  mem_iff_of_mapCase (by decide +kernel) lowerChars_of_not_ascii (by decide +kernel) (by decide +kernel)
    (by decide +kernel) hx

/-- A text in lower case is broken where the text is. -/
theorem mem_lowerAfter_iff (hx : x ∈ lineBreaks) (before cs : List Char) : x ∈ lowerAfter before cs ↔ x ∈ cs := by
  induction cs generalizing before with
  | nil => exact Iff.rfl
  | cons c cs ih =>
    rw [lowerAfter, List.mem_append, ih, List.mem_cons, eq_comm (a := x)]
    refine or_congr_left ?_
    by_cases hsigma : (c == 'Σ') = true
    · -- neither form of a small sigma is a line break, and the capital is none either
      have hnone : ∀ x ∈ lineBreaks, x ≠ 'ς' ∧ x ≠ 'σ' ∧ 'Σ' ≠ x := by decide
      obtain ⟨hfinal, hinner, hcapital⟩ := hnone x hx
      obtain rfl := eq_of_beq hsigma
      rw [if_pos hsigma, List.mem_singleton]
      refine iff_of_false ?_ hcapital
      split
      · exact hfinal
      · exact hinner
    · rw [if_neg hsigma]
      exact mem_lowerChars_iff hx

theorem mem_lower_iff (hx : x ∈ lineBreaks) (text : String) : x ∈ (lower text).toList ↔ x ∈ text.toList := by
  rw [lower, String.toList_ofList]
  exact mem_lowerAfter_iff hx [] _

end Triage.Text
