import Triage.Proofs.Yaml.Scanning

/-!
# The tokens of a plain JSON text

A plain JSON text is read as the tokens that its tree has: brackets, commas, scalars, and keys with their colons.

* `termKinds`, `itemKinds`, `memberKinds`: the kinds of these tokens.
* `exists_leadsTo_term`: **every value is read as its tokens**, at any depth and whatever stands around it.
* `exists_tokenRun`: the tokens of a whole text.
-/

namespace Triage.Yaml

open Triage.Json (Gap Term Items Members piecesValue)

mutual

/-- The kinds of the tokens of a value. -/
def termKinds : Term → List TokenKind
  | .null => [.scalar (String.ofList (Term.text .null)) true]
  | .bool b => [.scalar (String.ofList (Term.text (.bool b))) true]
  | .number n => [.scalar (String.ofList n.text) true]
  | .string ps => [.scalar (piecesValue ps) false]
  | .emptyArray _ => [.flowSequenceStart, .flowSequenceEnd]
  | .array items => .flowSequenceStart :: itemKinds items
  | .emptyObject _ => [.flowMappingStart, .flowMappingEnd]
  | .object members => .flowMappingStart :: memberKinds members

/-- The kinds of the tokens of items and the closing bracket. -/
def itemKinds : Items → List TokenKind
  | .last _ t _ => termKinds t ++ [.flowSequenceEnd]
  | .cons _ t _ rest => termKinds t ++ .flowEntry :: itemKinds rest

/-- The kinds of the tokens of members and the closing brace. -/
def memberKinds : Members → List TokenKind
  | .last _ key _ _ t _ => .key :: .scalar (piecesValue key) false :: .value :: (termKinds t ++ [.flowMappingEnd])
  | .cons _ key _ _ t _ rest =>
    .key :: .scalar (piecesValue key) false :: .value :: (termKinds t ++ .flowEntry :: memberKinds rest)

end

/-- White space without tabs is white space here too. -/
theorem isFiller_of_isSpace {g : List Char} (hg : ∀ c ∈ g, Json.isSpace c = true) (htab : '\t' ∉ g) : IsFiller g := by
  intro c hc
  have hspace : ((c = ' ' ∨ c = '\t') ∨ c = '\n') ∨ c = '\r' := by simpa [Json.isSpace] using hg c hc
  rcases hspace with ((hspace | rfl) | hfeed) | hreturn
  · exact .inl hspace
  · exact absurd hc htab
  · exact .inr (.inl hfeed)
  · exact .inr (.inr hreturn)

theorem isFiller_gap {g : Gap} (h : g.isPlain = true) : IsFiller g.1 :=
  isFiller_of_isSpace g.2 fun htab => absurd (List.all_eq_true.1 h _ htab) (by decide)

theorem isFiller_nil : IsFiller [] := fun _ hc => absurd hc List.not_mem_nil

/-- Between brackets a comma or closing bracket ends what stands before it. -/
theorem closes_cons {level : Nat} {ch : Char} (hch : ch = ',' ∨ ch = ']' ∨ ch = '\x7d') (rest : List Char) :
    Closes (level + 1 != 0) (ch :: rest) := .inr ⟨rfl, ch, rest, rfl, hch⟩

namespace Scanner

variable {s : Scanner} {level : Nat} {kinds : List TokenKind} {rest g : List Char} {mayKey : Bool}

mutual

/-- **A value is read as its tokens.** -/
theorem exists_leadsTo_term (t : Term) (hplain : t.isPlain = true) {s : Scanner} {level : Nat} {kinds : List TokenKind}
    {rest g : List Char} {mayKey : Bool} (h : Ready s level kinds (t.text ++ (g ++ rest)) mayKey) (hg : IsFiller g)
    (hrest : Closes (level != 0) rest) :
    ∃ s', LeadsTo s s' ∧ Ready s' level (kinds ++ termKinds t) rest false := by
  cases t with
  | null => exact h.bare rfl hg hrest
  | bool b => exact h.bare rfl hg hrest
  | number n => exact h.bare (t := .number n) rfl hg hrest
  | string ps =>
    obtain ⟨s₁, hto, h₁⟩ := h.string hplain
    exact ⟨s₁, hto, h₁.absorb hg⟩
  | emptyArray inner =>
    simp only [Term.text, List.cons_append, List.append_assoc, List.nil_append] at h
    obtain ⟨s₁, hto₁, h₁⟩ := h.openSequence
    obtain ⟨s₂, hto₂, h₂⟩ := (h₁.absorb (isFiller_gap hplain)).closeSequence
    rw [List.append_assoc] at h₂
    exact ⟨s₂, hto₁.trans hto₂, h₂.absorb hg⟩
  | array items =>
    obtain ⟨s₁, hto₁, h₁⟩ := h.openSequence
    obtain ⟨s₂, hto₂, h₂⟩ := exists_leadsTo_items items hplain h₁
    rw [List.append_assoc] at h₂
    exact ⟨s₂, hto₁.trans hto₂, h₂.absorb hg⟩
  | emptyObject inner =>
    simp only [Term.text, List.cons_append, List.append_assoc, List.nil_append] at h
    obtain ⟨s₁, hto₁, h₁⟩ := h.openMapping
    obtain ⟨s₂, hto₂, h₂⟩ := (h₁.absorb (isFiller_gap hplain)).closeMapping
    rw [List.append_assoc] at h₂
    exact ⟨s₂, hto₁.trans hto₂, h₂.absorb hg⟩
  | object members =>
    obtain ⟨s₁, hto₁, h₁⟩ := h.openMapping
    obtain ⟨s₂, hto₂, h₂⟩ := exists_leadsTo_members members hplain h₁
    rw [List.append_assoc] at h₂
    exact ⟨s₂, hto₁.trans hto₂, h₂.absorb hg⟩

/-- Items are read as their tokens, with the closing bracket. -/
theorem exists_leadsTo_items (is : Items) (hplain : is.isPlain = true) {s : Scanner} {level : Nat}
    {kinds : List TokenKind} {rest : List Char} {mayKey : Bool} (h : Ready s (level + 1) kinds (is.text ++ rest) mayKey) :
    ∃ s', LeadsTo s s' ∧ Ready s' level (kinds ++ itemKinds is) rest false := by
  cases is with
  | last before t after =>
    obtain ⟨hbefore, ht, hafter⟩ := Items.isPlain_last.1 hplain
    simp only [Items.text, List.append_assoc, List.cons_append, List.nil_append] at h
    obtain ⟨s₁, hto₁, h₁⟩ := exists_leadsTo_term t ht (h.absorb (isFiller_gap hbefore)) (isFiller_gap hafter)
      (closes_cons (.inr (.inl rfl)) _)
    obtain ⟨s₂, hto₂, h₂⟩ := h₁.closeSequence
    rw [List.append_assoc] at h₂
    exact ⟨s₂, hto₁.trans hto₂, h₂⟩
  | cons before t after more =>
    obtain ⟨hbefore, ht, hafter, hmore⟩ := Items.isPlain_cons.1 hplain
    simp only [Items.text, List.append_assoc, List.cons_append] at h
    obtain ⟨s₁, hto₁, h₁⟩ := exists_leadsTo_term t ht (h.absorb (isFiller_gap hbefore)) (isFiller_gap hafter)
      (closes_cons (.inl rfl) _)
    obtain ⟨s₂, hto₂, h₂⟩ := h₁.comma
    obtain ⟨s₃, hto₃, h₃⟩ := exists_leadsTo_items more hmore h₂
    refine ⟨s₃, (hto₁.trans hto₂).trans hto₃, ?_⟩
    simpa [itemKinds] using h₃

/-- Members are read as their tokens, with the closing brace. -/
theorem exists_leadsTo_members (ms : Members) (hplain : ms.isPlain = true) {s : Scanner} {level : Nat}
    {kinds : List TokenKind} {rest : List Char} (h : Ready s (level + 1) kinds (ms.text ++ rest) true) :
    ∃ s', LeadsTo s s' ∧ Ready s' level (kinds ++ memberKinds ms) rest false := by
  cases ms with
  | last before key beforeColon afterColon t after =>
    obtain ⟨hbefore, hkey, hafterColon, ht, hafter⟩ := Members.isPlain_last.1 hplain
    simp only [Members.text, List.append_assoc, List.cons_append, List.nil_append] at h
    obtain ⟨s₁, hto₁, h₁⟩ := (h.absorb (isFiller_gap hbefore)).keyAndColon hkey
    obtain ⟨s₂, hto₂, h₂⟩ := exists_leadsTo_term t ht (h₁.absorb (isFiller_gap hafterColon)) (isFiller_gap hafter)
      (closes_cons (.inr (.inr rfl)) _)
    obtain ⟨s₃, hto₃, h₃⟩ := h₂.closeMapping
    refine ⟨s₃, (hto₁.trans hto₂).trans hto₃, ?_⟩
    simpa [memberKinds] using h₃
  | cons before key beforeColon afterColon t after more =>
    obtain ⟨hbefore, hkey, hafterColon, ht, hafter, hmore⟩ := Members.isPlain_cons.1 hplain
    simp only [Members.text, List.append_assoc, List.cons_append] at h
    obtain ⟨s₁, hto₁, h₁⟩ := (h.absorb (isFiller_gap hbefore)).keyAndColon hkey
    obtain ⟨s₂, hto₂, h₂⟩ := exists_leadsTo_term t ht (h₁.absorb (isFiller_gap hafterColon)) (isFiller_gap hafter)
      (closes_cons (.inl rfl) _)
    obtain ⟨s₃, hto₃, h₃⟩ := h₂.comma
    obtain ⟨s₄, hto₄, h₄⟩ := exists_leadsTo_members more hmore h₃
    refine ⟨s₄, ((hto₁.trans hto₂).trans hto₃).trans hto₄, ?_⟩
    simpa [memberKinds] using h₄

end

/-! ## Whole texts -/

/-- At the end of the text the last token is added. -/
theorem Ready.exists_end (h : Ready s level kinds [] mayKey) :
    ∃ s', s.step = .ok s' ∧ s'.finished = true ∧ s'.tokens.toList.map Token.kind = kinds ++ [.streamEnd] := by
  obtain ⟨g, hg, hc⟩ := h.gap
  obtain ⟨s₁, h₁, hcursor, -, -, hstep⟩ := h.reading.exists_step hg .nil hc
  have hrest : s₁.cursor.rest = [] := by
    rw [hcursor]
    exact Cursor.rest_advanceBy_append hc
  have hend : s₁.endStream = .ok (push { s₁.forgetKey with keyAllowed := false, pending := [], finished := true }
      .streamEnd s₁.mark s₁.mark) := by
    unfold endStream
    rw [h₁.unwind_eq, dropKey_eq h₁.optional]
    rfl
  rw [hstep, token_end hrest, hend]
  refine ⟨_, rfl, rfl, ?_⟩
  show (s₁.tokens.push ⟨.streamEnd, _, _⟩).toList.map Token.kind = _
  rw [Array.toList_push, List.map_append, h₁.kinds_eq]
  rfl

theorem run_finished (h : s.finished = true) (fuel : Nat) : run fuel s = ⟨s.tokens.toList, none⟩ := by
  cases fuel with
  | zero => rfl
  | succ fuel =>
    show (if s.finished then _ else _) = _
    rw [h, if_pos rfl]

/-- From the start of a text to the step that ends it. -/
theorem LeadsTo.tokenRun_end {text : List Char} {s' : Scanner} (h : LeadsTo (start text) s)
    (hunfinished : s.finished = false) (hstep : s.step = .ok s') (hfinished : s'.finished = true) :
    tokenRun text = ⟨s'.tokens.toList, none⟩ := by
  obtain ⟨n, hn, hrun⟩ := h
  have hless : n ≤ text.length := Nat.le_trans (Nat.le_add_right _ _) hn
  -- there is fuel left for the last step
  have hlast : run (text.length + 2 - n) s = run (text.length + 1 - n) s' := by
    rw [show text.length + 2 - n = text.length + 1 - n + 1 by omega]
    show (if s.finished then _ else _) = _
    rw [hunfinished, if_neg Bool.false_ne_true, hstep]
  rw [tokenRun, show text.length + 2 = text.length + 2 - n + n by omega, hrun, hlast, run_finished hfinished]

theorem ready_start (text : List Char) : Ready (start text) 0 [] text true :=
  ⟨⟨rfl, rfl, rfl, rfl, fun _ hp => absurd hp List.not_mem_nil, rfl⟩, ⟨[], isFiller_nil, rfl⟩, fun _ => rfl⟩

end Scanner

/-- **A plain text is read as the tokens of its tree**, and then its end. -/
theorem exists_tokenRun {d : Json.Document} (hplain : d.isPlain = true) :
    ∃ tokens, tokenRun d.text = ⟨tokens, none⟩ ∧ tokens.map Token.kind = termKinds d.root ++ [.streamEnd] := by
  obtain ⟨hbefore, hroot, hafter⟩ := Json.Document.isPlain_iff.1 hplain
  have hstart : Scanner.Ready (.start d.text) 0 [] (d.root.text ++ (d.after.1 ++ [])) true := by
    rw [List.append_nil]
    exact (Scanner.ready_start d.text).absorb (isFiller_gap hbefore)
  obtain ⟨s, hto, hs⟩ := Scanner.exists_leadsTo_term d.root hroot hstart (isFiller_gap hafter) (.inl rfl)
  obtain ⟨s', hstep, hfinished, hkinds⟩ := hs.exists_end
  exact ⟨s'.tokens.toList, hto.tokenRun_end hs.reading.unfinished hstep hfinished, hkinds⟩

end Triage.Yaml
