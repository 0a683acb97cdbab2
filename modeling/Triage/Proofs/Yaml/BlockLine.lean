import Triage.Proofs.Yaml.PlainLine
import Triage.Proofs.Yaml.Tab

/-!
# A mapping on one line

A document of one line, a key with a colon and a plain scalar behind it, is a mapping of one entry.

* `Stage.exists_plainLine`, `Stage.exists_blockValue`, `Stage.exists_end`: its tokens, one by one.
* `exists_leadsTo_key`, `exists_leadsTo_colon`: the line up to its key and up to its colon.
* `exists_tokenRun_line`, `exists_tokenRun_tab`: **the tokens of the line**, and of one that holds a tab.
-/

namespace Triage.Yaml

/-- Something inside of a line. -/
theorem Ends.of_cons {ch : Char} {rest : List Char} (hbegins : Begins (ch :: rest)) (hdots : ch ≠ '-' ∧ ch ≠ '.')
    (hchars : plainChars false (ch :: rest) = []) : Ends (ch :: rest) where
  begins := hbegins
  noSeparator := by
    intro c hc
    cases hc
    exact hdots
  plainChars_eq := hchars

theorem Ends.nil : Ends [] := ⟨.nil, fun c hc => absurd hc (by simp), rfl⟩

namespace Scanner

variable {s : Scanner} {level : Nat} {kinds : List TokenKind} {indent : Int} {outers : List Int}
  {p g rest key text : List Char}

namespace Stage

/-- Words on a line, with the white space behind them. -/
theorem exists_plainLine (h : Stage s 0 indent outers kinds) (hcolumn : indent < s.cursor.column) (hp : IsPlainLine p)
    (hg : IsFiller g) (hrest : Ends rest) (hc : s.cursor.rest = p ++ (g ++ rest)) :
    ∃ s', s.plainScalar = .ok s' ∧ Stage s' 0 indent outers (kinds ++ [.scalar (String.ofList p) true]) ∧
      s'.cursor = s.cursor.advanceBy (p.length + g.length) ∧
      (s.keyAllowed = true → s'.currentKey? = some ⟨kinds.length, false, s.cursor.mark⟩) := by
  obtain ⟨s₁, hnote, h₁, hcursor, -, hkey⟩ := h.exists_noteKey hcolumn
  rw [← hcursor] at hc hcolumn
  have hinside : s₁.indent + 1 ≤ s₁.cursor.column := by
    rw [h₁.indent_eq]
    omega
  obtain ⟨htext, hafter⟩ := readPlain_line hp hg hrest hc hinside
  have hflow : s₁.inFlow = false := h₁.inFlow_eq
  unfold plainScalar
  rw [hnote]
  show ∃ s', Except.ok _ = Except.ok s' ∧ _
  rw [hflow, htext, hafter, ← hcursor]
  refine ⟨_, rfl, h₁.pushed ⟨.scalar _ true, _, _⟩ h₁.level_eq rfl ⟨rfl, rfl, rfl, rfl⟩, rfl, ?_⟩
  rw [hcursor]
  exact hkey

/-- A colon behind a key opens a mapping at the column of the key. -/
theorem exists_blockValue {before : List TokenKind} {kind : TokenKind} {m : Mark}
    (h : Stage s 0 indent outers (before ++ [kind])) (hkey : s.currentKey? = some ⟨before.length, false, m⟩)
    (hcolumn : indent < m.column) :
    ∃ s', s.value = .ok s' ∧
      Stage s' 0 m.column (indent :: outers) (before ++ [.blockMappingStart, .key, kind, .value]) ∧
      s'.cursor = s.cursor.advanceBy 1 := by
  let k : PendingKey := ⟨before.length, false, m⟩
  have hopens : (!(s.forgetKey.insertAt before.length .key m).inFlow &&
      (s.forgetKey.insertAt before.length .key m).opensAt m.column) = true := by
    have hflow : s.inFlow = false := h.inFlow_eq
    have hless : s.opensAt m.column = true := by
      unfold opensAt
      rw [h.indent_eq]
      exact decide_eq_true hcolumn
    exact Bool.and_eq_true_iff.2 ⟨congrArg Bool.not hflow, hless⟩
  have hsettle : s.settleKey k = ((s.forgetKey.insertAt before.length .key m).indentTo m.column).insertAt
      before.length .blockMappingStart m := if_pos hopens
  -- the token of the key is put before its own, and then that of the mapping before both
  have hkinds := kinds_insert ⟨.blockMappingStart, m, m⟩ (kinds_insert ⟨.key, m, m⟩ h.kinds_eq)
  have hinserted : Stage (s.settleKey k) 0 m.column (indent :: outers)
      (before ++ [.blockMappingStart, .key, kind]) := by
    rw [hsettle]
    refine ⟨h.unfinished, h.level_eq, rfl, ?_, h.forgetKey.optional, hkinds⟩
    show s.indent :: s.outerIndents = _
    rw [h.indent_eq, h.outer_eq]
  unfold value
  rw [hkey]
  refine ⟨_, rfl, ?_, ?_⟩
  · rw [show before ++ [TokenKind.blockMappingStart, .key, kind, .value] =
      before ++ [.blockMappingStart, .key, kind] ++ [.value] by simp]
    exact hinserted.pushed ⟨.value, _, _⟩ hinserted.level_eq rfl ⟨rfl, rfl, rfl, rfl⟩
  · show (s.settleKey k).cursor.advanceBy 1 = _
    rw [hsettle]
    rfl

/-- At the end of the text the mapping is closed. -/
theorem exists_end (h : Stage s 0 0 [-1] kinds) (hg : IsFiller g) (hc : s.cursor.rest = g) :
    ∃ s', s.step = .ok s' ∧ s'.finished = true ∧
      s'.tokens.toList.map Token.kind = kinds ++ [.blockEnd, .streamEnd] := by
  obtain ⟨s₁, h₁, hcursor, -, -, hstep⟩ := h.exists_step (.inr (Int.le_refl 0)) hg .nil (by rw [hc, List.append_nil])
  have hrest : s₁.cursor.rest = [] := by
    rw [hcursor]
    exact Cursor.rest_advanceBy_append (hc.trans (List.append_nil g).symm)
  have hunwind : s₁.unwind (-1) =
      { s₁ with indent := -1, outerIndents := [], tokens := s₁.tokens.push ⟨.blockEnd, s₁.mark, s₁.mark⟩ } := by
    unfold unwind
    rw [h₁.inFlow_eq, h₁.indent_eq, h₁.outer_eq]
    rfl
  have hdrop : (s₁.unwind (-1)).dropKey = .ok (s₁.unwind (-1)).forgetKey :=
    dropKey_eq (by rw [hunwind]; exact h₁.optional)
  have hend : s₁.endStream = .ok (push { (s₁.unwind (-1)).forgetKey with
      keyAllowed := false, pending := [], finished := true } .streamEnd s₁.mark s₁.mark) := by
    unfold endStream
    rw [hdrop, hunwind]
    rfl
  rw [hstep, token_end hrest, hend, hunwind]
  refine ⟨_, rfl, rfl, ?_⟩
  show ((s₁.tokens.push ⟨.blockEnd, _, _⟩).push ⟨.streamEnd, _, _⟩).toList.map Token.kind = _
  rw [Array.toList_push, Array.toList_push, List.map_append, List.map_append, h₁.kinds_eq, List.append_assoc]
  rfl

end Stage

/-- Outside of brackets a colon with a space behind it stands before a value. -/
theorem token_colonSpace (hflow : s.inFlow = false) (hc : s.cursor.rest = ':' :: ' ' :: rest) : s.token = s.value := by
  have hpeek : s.cursor.peek = ':' := Cursor.peek_cons hc
  have hblank : s.blankNext = true := by
    rw [blankNext, Cursor.peekAt, hc]
    rfl
  simp [token, atSeparator, hpeek, hflow, hblank]

/-! ## The line -/

/-- A key as it may stand in front of a colon. -/
structure IsPlainKey (key : List Char) : Prop where
  words : IsPlainLine key
  noDot : key.head? ≠ some '.'
  short : key.length ≤ maxKeyLength

theorem IsPlainKey.isBreak_eq (hkey : IsPlainKey key) : ∀ c ∈ key, isBreak c = false := by
  intro c hc
  rcases hkey.words.forall_mem c hc with rfl | hsolid
  · rfl
  · exact hsolid.isBreak_eq

theorem ends_colon (text : List Char) : Ends (':' :: ' ' :: text) := .of_cons (.cons (by decide) _) (by decide) rfl

/-- **The key of the line** is noted as one that is still to come. -/
theorem exists_leadsTo_key (hkey : IsPlainKey key) (text : List Char) :
    ∃ s, LeadsTo (start (key ++ ':' :: ' ' :: text)) s ∧ Stage s 0 (-1) [] [.scalar (String.ofList key) true] ∧
      s.cursor = (start (key ++ ':' :: ' ' :: text)).cursor.advanceBy key.length ∧
      s.currentKey? = some ⟨0, false, (start (key ++ ':' :: ' ' :: text)).cursor.mark⟩ := by
  have hstart := (ready_start (key ++ ':' :: ' ' :: text)).reading.stage
  obtain ⟨s₁, h₁, hcursor₁, hallowed, -, hstep⟩ :=
    hstart.exists_step (.inl rfl) isFiller_nil (hkey.words.begins (':' :: ' ' :: text)) rfl
  have hcursor₁ : s₁.cursor = (start (key ++ ':' :: ' ' :: text)).cursor := hcursor₁
  have hc₁ : s₁.cursor.rest = key ++ ([] ++ ':' :: ' ' :: text) := by
    rw [hcursor₁]
    rfl
  obtain ⟨s₂, hread, h₂, hcursor₂, hcurrent₂⟩ :=
    h₁.exists_plainLine (by omega) hkey.words isFiller_nil (ends_colon text) hc₁
  rw [List.length_nil, Nat.add_zero] at hcursor₂
  have htoken : s₁.token = s₁.plainScalar := by
    obtain ⟨ch, more, rfl, hsolid⟩ := hkey.words.exists_cons
    exact token_plain hsolid.1 (fun heq => hkey.noDot (congrArg some heq)) hc₁
  obtain ⟨s₃, hdrop, h₃, hcursor₃, -, hcurrent₃⟩ := h₂.exists_dropStale
  have hfresh := Ready.isStale_eq_false 0 false hc₁ hkey.isBreak_eq hkey.short hcursor₂
  have hc₃ : s₃.cursor.rest = ':' :: ' ' :: text := by
    rw [hcursor₃, hcursor₂]
    exact Cursor.rest_advanceBy_append hc₁
  refine ⟨s₃, .of_step hstart.unfinished ?_ ?_, h₃, ?_, ?_⟩
  · rw [hstep, htoken, hread]
    exact hdrop
  · obtain ⟨ch, more, rfl, -⟩ := hkey.words.exists_cons
    rw [hc₃]
    show (':' :: ' ' :: text).length < (ch :: more ++ ':' :: ' ' :: text).length
    simp only [List.length_append, List.length_cons]
    omega
  · rw [hcursor₃, hcursor₂, hcursor₁]
  · rw [← hcursor₁]
    exact hcurrent₃ _ (hcurrent₂ (hallowed rfl)) hfresh

/-- **The line up to its colon** opens a mapping: the colon finds the key. -/
theorem exists_leadsTo_colon (hkey : IsPlainKey key) (text : List Char) :
    ∃ s, LeadsTo (start (key ++ ':' :: ' ' :: text)) s ∧
      Stage s 0 0 [-1] [.blockMappingStart, .key, .scalar (String.ofList key) true, .value] ∧
      s.cursor.rest = ' ' :: text ∧ 1 ≤ s.cursor.column := by
  obtain ⟨s₁, hto, h₁, hcursor₁, hcurrent₁⟩ := exists_leadsTo_key hkey text
  have hc₁ : s₁.cursor.rest = ':' :: ' ' :: text := by
    rw [hcursor₁]
    exact Cursor.rest_advanceBy_append rfl
  obtain ⟨s₂, h₂, hcursor₂, -, hcurrent₂, hstep⟩ :=
    h₁.exists_step (.inl rfl) isFiller_nil (ends_colon text).begins hc₁
  have hcursor₂ : s₂.cursor = s₁.cursor := hcursor₂
  have hfresh := Ready.isStale_eq_false (s := s₂) 0 false
    (show (start (key ++ ':' :: ' ' :: text)).cursor.rest = key ++ ':' :: ' ' :: text from rfl) hkey.isBreak_eq
    hkey.short (hcursor₂.trans hcursor₁)
  have hc₂ : s₂.cursor.rest = ':' :: ' ' :: text := by rw [hcursor₂, hc₁]
  have h₂ : Stage s₂ 0 (-1) [] ([] ++ [.scalar (String.ofList key) true]) := h₂
  obtain ⟨s₃, hvalue, h₃, hcursor₃⟩ :=
    h₂.exists_blockValue (hcurrent₂ _ hcurrent₁ hfresh) (show (-1 : Int) < (0 : Nat) by decide)
  obtain ⟨s₄, hdrop, h₄, hcursor₄, -, -⟩ := h₃.exists_dropStale
  have hc₄ : s₄.cursor.rest = ' ' :: text := by
    rw [hcursor₄, hcursor₃, Cursor.rest_advanceBy, hc₂]
    rfl
  refine ⟨s₄, hto.trans (.of_step h₁.unfinished ?_ ?_), h₄, hc₄, ?_⟩
  · rw [hstep, token_colonSpace h₂.inFlow_eq hc₂, hvalue]
    exact hdrop
  · rw [hc₄, hc₁]
    exact Nat.lt_succ_self _
  · -- the colon has a width
    rw [hcursor₄, hcursor₃]
    show 1 ≤ s₂.cursor.advance.mark.column
    unfold Cursor.advance
    rw [hc₂]
    exact Nat.le_add_left 1 _

/-- **Words behind the colon** are read as one plain scalar. -/
theorem exists_leadsTo_words (h : Stage s 0 0 [-1] kinds) (hcolumn : 1 ≤ s.cursor.column) {spaces : List Char}
    (hspaces : ∀ c ∈ spaces, c = ' ') (hp : IsPlainLine p) (hg : IsFiller g) (hrest : Ends rest)
    (hc : s.cursor.rest = spaces ++ (p ++ (g ++ rest))) :
    ∃ s', LeadsTo s s' ∧ Stage s' 0 0 [-1] (kinds ++ [.scalar (String.ofList p) true]) ∧ s'.cursor.rest = rest := by
  obtain ⟨s₁, h₁, hcursor₁, -, -, hstep₁⟩ :=
    h.exists_step (.inr (Int.le_refl 0)) (fun c hc => .inl (hspaces c hc)) (hp.begins _) hc
  have hc₁ : s₁.cursor.rest = p ++ (g ++ rest) := by
    rw [hcursor₁]
    exact Cursor.rest_advanceBy_append hc
  have hcolumn₁ : 1 ≤ s₁.cursor.column := by
    rw [hcursor₁]
    refine Nat.le_trans hcolumn (Cursor.column_le_advanceBy hc fun c hc => ?_)
    rw [hspaces c hc]
    rfl
  have htoken : s₁.token = s₁.plainScalar := by
    obtain ⟨ch, more, rfl, hsolid⟩ := hp.exists_cons
    refine token_scalar hsolid.1 ?_ hc₁
    have hedge : (s₁.cursor.column == 0) = false := beq_false_of_ne (by omega)
    rw [atSeparator, hedge, Bool.false_and, Bool.false_and]
  obtain ⟨s₂, hread, h₂, hcursor₂, -⟩ := h₁.exists_plainLine (by omega) hp hg hrest hc₁
  obtain ⟨s₃, hdrop, h₃, hcursor₃, -, -⟩ := h₂.exists_dropStale
  have hc₃ : s₃.cursor.rest = rest := by
    rw [hcursor₃, hcursor₂, Cursor.advanceBy_add]
    exact Cursor.rest_advanceBy_append (Cursor.rest_advanceBy_append hc₁)
  refine ⟨s₃, .of_step h.unfinished ?_ ?_, h₃, hc₃⟩
  · rw [hstep₁, htoken, hread]
    exact hdrop
  · obtain ⟨ch, more, rfl, -⟩ := hp.exists_cons
    rw [hc₃, hc]
    simp only [List.length_append, List.length_cons]
    omega

end Scanner

/-- The kinds of the tokens of a line up to its end. -/
def lineKinds (key p : List Char) : List TokenKind :=
  [.blockMappingStart, .key, .scalar (String.ofList key) true, .value] ++
    if p = [] then [] else [.scalar (String.ofList p) true]

section Line

open Scanner

variable {key before p g rest : List Char} (hkey : IsPlainKey key) (hbefore : ∀ c ∈ before, c = ' ')
  (hp : p = [] ∨ IsPlainLine p) (hg : IsFiller g)
include hkey hbefore hp hg

/-- The line up to the white space behind it. -/
theorem exists_leadsTo_line (hrest : Ends rest) :
    ∃ s g', LeadsTo (start (key ++ ':' :: ' ' :: (before ++ (p ++ (g ++ rest))))) s ∧
      Scanner.Stage s 0 0 [-1] (lineKinds key p) ∧ IsFiller g' ∧ s.cursor.rest = g' ++ rest := by
  obtain ⟨s, hto, hs, hc, hcolumn⟩ := exists_leadsTo_colon hkey (before ++ (p ++ (g ++ rest)))
  rcases hp with rfl | hp
  · have hspaces : IsFiller (' ' :: before) := List.forall_mem_cons.2 ⟨.inl rfl, fun c hc => .inl (hbefore c hc)⟩
    exact ⟨s, ' ' :: before ++ g, hto, hs, hspaces.append hg, by rw [hc]; simp⟩
  · obtain ⟨s', hto', hs', hc'⟩ := exists_leadsTo_words hs hcolumn
      (List.forall_mem_cons.2 ⟨rfl, hbefore⟩) hp hg hrest hc
    obtain ⟨ch, more, rfl, -⟩ := hp.exists_cons
    exact ⟨s', [], hto.trans hto', hs', isFiller_nil, hc'⟩

/-- **The tokens of the line.** -/
theorem exists_tokenRun_line :
    ∃ tokens, tokenRun (key ++ ':' :: ' ' :: (before ++ (p ++ g))) = ⟨tokens, none⟩ ∧
      tokens.map Token.kind = lineKinds key p ++ [.blockEnd, .streamEnd] := by
  obtain ⟨s, g', hto, hs, hg', hc⟩ := exists_leadsTo_line hkey hbefore hp hg .nil
  rw [List.append_nil] at hto hc
  obtain ⟨s', hstep, hfinished, hkinds⟩ := hs.exists_end hg' hc
  exact ⟨_, hto.tokenRun_end hs.unfinished hstep hfinished, hkinds⟩

/-- **The tokens before a tab**, at which reading ends. -/
theorem exists_tokenRun_tab (rest : List Char) :
    ∃ (tokens : List Token) (n : Nat) (e : Error),
      tokenRun (key ++ ':' :: ' ' :: (before ++ (p ++ (g ++ '\t' :: rest)))) = ⟨tokens.take n, some e⟩ ∧
        tokens.map Token.kind = lineKinds key p := by
  have hrest : Ends ('\t' :: rest) := .of_cons (.cons (by decide) _) (by decide) rfl
  obtain ⟨s, g', hto, hs, hg', hc⟩ := exists_leadsTo_line hkey hbefore hp hg hrest
  obtain ⟨e, he⟩ := hs.exists_error (.inr (Int.le_refl 0)) hg' hc
  exact ⟨_, _, e, hto.tokenRun_error hs.unfinished he, hs.kinds_eq⟩

end Line

end Triage.Yaml
