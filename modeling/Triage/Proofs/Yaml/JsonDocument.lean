import Triage.Proofs.Yaml.JsonNodes

/-!
# Plain JSON texts as documents

* `AllAdmitted`: every character may stand in a document.
* `load_plain`: **a plain JSON text is loaded as the value that it stands for**.
-/

namespace Triage.Yaml

open Triage.Json (Gap Piece Term Items Members arePlain quotedText)

/-- Every character may stand in a document. -/
def AllAdmitted (xs : List Char) : Prop := ∀ c ∈ xs, Source.admits c = true

namespace AllAdmitted

variable {xs ys : List Char}

@[simp] theorem nil : AllAdmitted [] := fun _ hc => absurd hc List.not_mem_nil

@[simp] theorem cons_iff {x : Char} : AllAdmitted (x :: xs) ↔ Source.admits x = true ∧ AllAdmitted xs :=
  List.forall_mem_cons

@[simp] theorem append_iff : AllAdmitted (xs ++ ys) ↔ AllAdmitted xs ∧ AllAdmitted ys :=
  List.forall_mem_append

end AllAdmitted

/-! ## The characters of plain texts -/

theorem allAdmitted_gap {g : Gap} (h : g.isPlain = true) : AllAdmitted g.1 := by
  intro c hc
  rcases isFiller_gap h c hc with rfl | rfl | rfl <;> rfl

theorem allAdmitted_bare {xs : List Char} (h : IsBare xs) : AllAdmitted xs := by
  have hall : ∀ c ∈ bareChars, Source.admits c = true := by decide
  exact fun c hc => hall c (h c hc)

theorem allAdmitted_string {ps : List Piece} (h : arePlain ps = true) : AllAdmitted (quotedText ps) :=
  fun c hc => (isInline_quotedText h c hc).1

theorem allAdmitted_key {key : List Piece} {beforeColon : Gap} (h : Json.keyIsPlain key beforeColon = true) :
    AllAdmitted (quotedText key) ∧ AllAdmitted beforeColon.1 := by
  obtain ⟨hfront, -⟩ := Bool.and_eq_true_iff.1 h
  obtain ⟨hkey, hspaces⟩ := Bool.and_eq_true_iff.1 hfront
  refine ⟨allAdmitted_string hkey, fun c hc => ?_⟩
  obtain rfl : c = ' ' := by simpa using List.all_eq_true.1 hspaces c hc
  rfl

mutual

theorem allAdmitted_term (t : Term) (h : t.isPlain = true) : AllAdmitted t.text := by
  cases t with
  | null => exact allAdmitted_bare (isBare_term (t := .null) rfl).1
  | bool b => exact allAdmitted_bare (isBare_term (t := .bool b) rfl).1
  | number n => exact allAdmitted_bare (isBare_numeral n)
  | string ps => exact allAdmitted_string h
  | emptyArray g | emptyObject g =>
    simp only [Term.text, AllAdmitted.cons_iff, AllAdmitted.append_iff]
    exact ⟨rfl, allAdmitted_gap h, rfl, .nil⟩
  | array items => exact AllAdmitted.cons_iff.2 ⟨rfl, allAdmitted_items items h⟩
  | object members => exact AllAdmitted.cons_iff.2 ⟨rfl, allAdmitted_members members h⟩

theorem allAdmitted_items (is : Items) (h : is.isPlain = true) : AllAdmitted is.text := by
  cases is with
  | last before t after =>
    obtain ⟨hbefore, ht, hafter⟩ := Items.isPlain_last.1 h
    simp only [Items.text, AllAdmitted.cons_iff, AllAdmitted.append_iff]
    exact ⟨allAdmitted_gap hbefore, allAdmitted_term t ht, allAdmitted_gap hafter, rfl, .nil⟩
  | cons before t after rest =>
    obtain ⟨hbefore, ht, hafter, hrest⟩ := Items.isPlain_cons.1 h
    simp only [Items.text, AllAdmitted.cons_iff, AllAdmitted.append_iff]
    exact ⟨allAdmitted_gap hbefore, allAdmitted_term t ht, allAdmitted_gap hafter, rfl, allAdmitted_items rest hrest⟩

theorem allAdmitted_members (ms : Members) (h : ms.isPlain = true) : AllAdmitted ms.text := by
  cases ms with
  | last before key beforeColon afterColon t after =>
    obtain ⟨hbefore, hkey, hafterColon, ht, hafter⟩ := Members.isPlain_last.1 h
    obtain ⟨hkey, hbeforeColon⟩ := allAdmitted_key hkey
    simp only [Members.text, AllAdmitted.cons_iff, AllAdmitted.append_iff]
    exact ⟨allAdmitted_gap hbefore, hkey, hbeforeColon, rfl, allAdmitted_gap hafterColon, allAdmitted_term t ht,
      allAdmitted_gap hafter, rfl, .nil⟩
  | cons before key beforeColon afterColon t after rest =>
    obtain ⟨hbefore, hkey, hafterColon, ht, hafter, hrest⟩ := Members.isPlain_cons.1 h
    obtain ⟨hkey, hbeforeColon⟩ := allAdmitted_key hkey
    simp only [Members.text, AllAdmitted.cons_iff, AllAdmitted.append_iff]
    exact ⟨allAdmitted_gap hbefore, hkey, hbeforeColon, rfl, allAdmitted_gap hafterColon, allAdmitted_term t ht,
      allAdmitted_gap hafter, rfl, allAdmitted_members rest hrest⟩

end

/-! ## Loading -/

theorem admitted_eq {name : String} {cs : List Char} (h : AllAdmitted cs) : Source.admitted name cs = .ok cs := by
  have hnone : cs.dropWhile Source.admits = [] := by
    rw [← List.append_nil cs, List.dropWhile_append_of_pos h]
    rfl
  unfold Source.admitted
  rw [hnone]

/-- The characters are let through as they are, or not at all. -/
theorem eq_of_admitted {name : String} {cs text : List Char} (h : Source.admitted name cs = .ok text) : text = cs := by
  unfold Source.admitted at h
  split at h
  · cases h
    rfl
  · cases h

theorem admitted_document {d : Json.Document} {name : String} (hplain : d.isPlain = true) :
    Source.admitted name d.text = .ok d.text := by
  obtain ⟨hbefore, hroot, hafter⟩ := Json.Document.isPlain_iff.1 hplain
  refine admitted_eq ?_
  simp only [Json.Document.text, AllAdmitted.append_iff]
  exact ⟨allAdmitted_gap hbefore, allAdmitted_term d.root hroot, allAdmitted_gap hafter⟩

/-- **A plain JSON text is loaded as the value that it stands for.** -/
theorem load_plain {d : Json.Document} {s : String} (htext : d.text = s.toList) (hplain : d.isPlain = true) :
    load (.text s) = .ok d.value := by
  obtain ⟨n, hnode, hvalue⟩ := exists_ofTokens hplain
  have hchars : (Source.text s).characters = .ok d.text := by
    show Source.admitted _ s.toList = _
    rw [← htext, admitted_document hplain]
  -- The fuel for values is reckoned from the tokens, and is more than they take.
  have hfuel : 2 * (tokenRun d.text).tokens.length ≤ 8 * (tokenRun d.text).tokens.length + 64 := by omega
  unfold load
  simp only [hchars, bind, Except.bind, hnode, hvalue [] 0 _ hfuel]
  rfl

end Triage.Yaml
