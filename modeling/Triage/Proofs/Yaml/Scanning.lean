import Mathlib.Data.List.InsertIdx
import Triage.Proofs.Yaml.NumberValue
import Triage.Proofs.Yaml.QuotedScalar

/-!
# Reading tokens between brackets

How a text without block collections is read token by token: white space, then a bracket, a comma, a scalar, or a key
with its colon.

* `Scanner.Reading`: the states on the way, with the kinds of the tokens read so far. `Scanner.Stage`: the same with block
  collections around.
-/

namespace Triage.Yaml.Scanner

open Triage.Json (Piece Term arePlain piecesText piecesValue quotedText)

variable {s : Scanner} {level : Nat} {kinds : List TokenKind} {text rest g : List Char} {ps : List Piece}

/-- No block collection is open, no pending key has to be one, and the tokens read so far are of these kinds. -/
structure Reading (s : Scanner) (level : Nat) (kinds : List TokenKind) : Prop where
  unfinished : s.finished = false
  level_eq : s.flowLevel = level
  indent_eq : s.indent = -1
  outer_eq : s.outerIndents = []
  optional : ∀ p ∈ s.pending, p.2.required = false
  kinds_eq : s.tokens.toList.map Token.kind = kinds

/-! ## Pending keys -/

theorem dropKey_eq (h : ∀ p ∈ s.pending, p.2.required = false) : s.dropKey = .ok s.forgetKey := by
  unfold dropKey currentKey?
  cases hfind : s.pending.find? fun p => p.1 == s.flowLevel with
  | none =>
    have hall : s.pending.filter (fun p => p.1 != s.flowLevel) = s.pending := by
      rw [List.filter_eq_self]
      intro p hp
      have := List.find?_eq_none.1 hfind p hp
      simpa using this
    unfold forgetKey
    rw [hall]
    rfl
  | some p =>
    have hoptional := h p (List.mem_of_find?_eq_some hfind)
    simp only [Option.map_some, hoptional, Bool.false_eq_true, if_false]

theorem dropStale_eq (h : ∀ p ∈ s.pending, p.2.required = false) :
    s.dropStale = .ok { s with pending := s.pending.filter fun p => !s.isStale p.2 } := by
  have hnone : (s.pending.find? fun p => s.isStale p.2 && p.2.required) = none := by
    rw [List.find?_eq_none]
    intro p hp
    rw [h p hp, Bool.and_false]
    exact Bool.false_ne_true
  unfold dropStale
  rw [hnone]

/-- A key that is still fresh stays the pending key of its level. -/
theorem currentKey?_filter {k : PendingKey} {q : Nat × PendingKey → Bool} (h : s.currentKey? = some k)
    (hq : ∀ p, p.2 = k → q p = true) : { s with pending := s.pending.filter q }.currentKey? = some k := by
  obtain ⟨p, hp, hpk⟩ := Option.map_eq_some_iff.1 h
  unfold currentKey?
  obtain ⟨hlevel, before, after, hsplit, hbefore⟩ := List.find?_eq_some_iff_append.1 hp
  have hkept : q p = true := hq p hpk
  have hfind : (s.pending.filter q).find? (fun p => p.1 == s.flowLevel) = some p := by
    rw [hsplit, List.filter_append, List.filter_cons_of_pos hkept, List.find?_append, List.find?_eq_none.2]
    · rw [Option.none_or]
      exact List.find?_cons_of_pos hlevel
    · intro x hx
      simpa using hbefore x (List.mem_filter.1 hx).1
  show ((s.pending.filter q).find? fun p => p.1 == s.flowLevel).map (·.2) = some k
  rw [hfind]
  exact congrArg some hpk

/-- So many brackets and these block collections are open, no pending key has to be one, and the tokens read so far are of
these kinds. -/
structure Stage (s : Scanner) (level : Nat) (indent : Int) (outers : List Int) (kinds : List TokenKind) : Prop where
  unfinished : s.finished = false
  level_eq : s.flowLevel = level
  indent_eq : s.indent = indent
  outer_eq : s.outerIndents = outers
  optional : ∀ p ∈ s.pending, p.2.required = false
  kinds_eq : s.tokens.toList.map Token.kind = kinds

theorem Reading.stage (h : Reading s level kinds) : Stage s level (-1) [] kinds :=
  ⟨h.unfinished, h.level_eq, h.indent_eq, h.outer_eq, h.optional, h.kinds_eq⟩

theorem Stage.reading (h : Stage s level (-1) [] kinds) : Reading s level kinds :=
  ⟨h.unfinished, h.level_eq, h.indent_eq, h.outer_eq, h.optional, h.kinds_eq⟩

namespace Stage

variable {indent : Int} {outers : List Int}

/-- What stays when the cursor moves and stale keys are dropped. -/
theorem moved (h : Stage s level indent outers kinds) (c : Cursor) (allowed : Bool) (q : Nat × PendingKey → Bool) :
    Stage { s with cursor := c, keyAllowed := allowed, pending := s.pending.filter q } level indent outers kinds where
  unfinished := h.unfinished
  level_eq := h.level_eq
  indent_eq := h.indent_eq
  outer_eq := h.outer_eq
  optional := fun p hp => h.optional p (List.mem_filter.1 hp).1
  kinds_eq := h.kinds_eq

/-- A token more, maybe at another level of brackets. -/
theorem pushed (h : Stage s level indent outers kinds) {s' : Scanner} {level' : Nat} (t : Token)
    (hlevel : s'.flowLevel = level') (htokens : s'.tokens = s.tokens.push t)
    (hsame : s'.finished = s.finished ∧ s'.indent = s.indent ∧ s'.outerIndents = s.outerIndents ∧
      s'.pending = s.pending) : Stage s' level' indent outers (kinds ++ [t.kind]) where
  unfinished := hsame.1 ▸ h.unfinished
  level_eq := hlevel
  indent_eq := hsame.2.1 ▸ h.indent_eq
  outer_eq := hsame.2.2.1 ▸ h.outer_eq
  optional := hsame.2.2.2 ▸ h.optional
  kinds_eq := by rw [htokens, Array.toList_push, List.map_append, h.kinds_eq]; rfl

theorem forgetKey (h : Stage s level indent outers kinds) : Stage s.forgetKey level indent outers kinds :=
  h.moved s.cursor s.keyAllowed _

theorem inFlow_eq (h : Stage s level indent outers kinds) : s.inFlow = (level != 0) := by
  rw [inFlow, h.level_eq]

/-- Nothing to the right of a column is open. -/
theorem unwind_eq (h : Stage s level indent outers kinds) {column : Int} (hcolumn : outers = [] ∨ indent ≤ column) :
    s.unwind column = s := by
  have hclose : closeBlocks column s.mark s.indent s.outerIndents s.tokens = (s.indent, s.outerIndents, s.tokens) := by
    rw [h.indent_eq, h.outer_eq]
    cases outers with
    | nil => rfl
    | cons outer outers =>
      have hle : indent ≤ column := hcolumn.resolve_left (by simp)
      exact if_neg (Int.not_lt.2 hle)
  unfold unwind
  split
  · rfl
  · rw [hclose]

/-- Stale keys are dropped, and nothing else. -/
theorem exists_dropStale (h : Stage s level indent outers kinds) :
    ∃ s', s.dropStale = .ok s' ∧ Stage s' level indent outers kinds ∧ s'.cursor = s.cursor ∧
      s'.keyAllowed = s.keyAllowed ∧
      ∀ k, s.currentKey? = some k → s.isStale k = false → s'.currentKey? = some k := by
  refine ⟨_, dropStale_eq h.optional, h.moved s.cursor s.keyAllowed _, rfl, rfl, fun k hk hfresh => ?_⟩
  exact currentKey?_filter hk fun p hp => by rw [hp, hfresh]; rfl

/-- The next token may turn out to be a key, if a key may start here. -/
theorem exists_noteKey (h : Stage s level indent outers kinds) (hcolumn : indent < s.cursor.column) :
    ∃ s', s.noteKey = .ok s' ∧ Stage s' level indent outers kinds ∧ s'.cursor = s.cursor ∧
      s'.keyAllowed = s.keyAllowed ∧
      (s.keyAllowed = true → s'.currentKey? = some ⟨kinds.length, false, s.cursor.mark⟩) := by
  have hsize : s.tokens.size = kinds.length := by
    rw [← h.kinds_eq, List.length_map, Array.length_toList]
  -- A key is required only at the column of a block, and all of them stand to the left.
  have hoptional : (!s.inFlow && s.indent == (s.cursor.column : Int)) = false := by
    have hcolumn : (s.indent == (s.cursor.column : Int)) = false := by
      rw [h.indent_eq]
      exact beq_false_of_ne (by omega)
    rw [hcolumn, Bool.and_false]
  unfold noteKey
  split
  · next hallowed =>
    rw [hoptional, dropKey_eq h.optional]
    refine ⟨_, rfl, ?_, rfl, rfl, fun _ => ?_⟩
    · refine ⟨h.unfinished, h.level_eq, h.indent_eq, h.outer_eq, fun p hp => ?_, h.kinds_eq⟩
      rcases List.mem_append.1 hp with hp | hp
      · exact h.forgetKey.optional p hp
      · rw [List.mem_singleton.1 hp]
    · -- the keys of this level were forgotten, so that the new one is the only one
      have hnone : (s.pending.filter fun p => p.1 != s.flowLevel).find? (fun p => p.1 == s.flowLevel) = none := by
        rw [List.find?_eq_none]
        intro p hp
        simpa using (List.mem_filter.1 hp).2
      let new : Nat × PendingKey := (s.flowLevel, ⟨s.tokens.size, false, s.mark⟩)
      have hfind : ((s.pending.filter fun p => p.1 != s.flowLevel) ++ [new]).find? (fun p => p.1 == s.flowLevel) =
          some new := by
        rw [List.find?_append, hnone, Option.none_or]
        exact List.find?_cons_of_pos (beq_self_eq_true s.flowLevel)
      rw [← hsize]
      exact congrArg (Option.map (·.2)) hfind
  · next hallowed => exact ⟨s, rfl, h, rfl, rfl, fun hkey => absurd hkey hallowed⟩

end Stage

namespace Reading

/-- A token more, maybe at another level of brackets. -/
theorem pushed (h : Reading s level kinds) {s' : Scanner} {level' : Nat} (t : Token) (hlevel : s'.flowLevel = level')
    (htokens : s'.tokens = s.tokens.push t)
    (hsame : s'.finished = s.finished ∧ s'.indent = s.indent ∧ s'.outerIndents = s.outerIndents ∧
      s'.pending = s.pending) : Reading s' level' (kinds ++ [t.kind]) :=
  (h.stage.pushed t hlevel htokens hsame).reading

theorem forgetKey (h : Reading s level kinds) : Reading s.forgetKey level kinds := h.stage.forgetKey.reading

theorem inFlow_eq (h : Reading s level kinds) : s.inFlow = (level != 0) := h.stage.inFlow_eq

theorem unwind_eq (h : Reading s level kinds) (column : Int) : s.unwind column = s := h.stage.unwind_eq (.inl rfl)

/-- Stale keys are dropped, and nothing else. -/
theorem exists_dropStale (h : Reading s level kinds) :
    ∃ s', s.dropStale = .ok s' ∧ Reading s' level kinds ∧ s'.cursor = s.cursor ∧ s'.keyAllowed = s.keyAllowed ∧
      ∀ k, s.currentKey? = some k → s.isStale k = false → s'.currentKey? = some k := by
  obtain ⟨s', hdrop, h', hsame⟩ := h.stage.exists_dropStale
  exact ⟨s', hdrop, h'.reading, hsame⟩

/-- The next token may turn out to be a key, if a key may start here. -/
theorem exists_noteKey (h : Reading s level kinds) :
    ∃ s', s.noteKey = .ok s' ∧ Reading s' level kinds ∧ s'.cursor = s.cursor ∧ s'.keyAllowed = s.keyAllowed ∧
      (s.keyAllowed = true → s'.currentKey? = some ⟨kinds.length, false, s.cursor.mark⟩) := by
  obtain ⟨s', hnote, h', hsame⟩ := h.stage.exists_noteKey (by omega)
  exact ⟨s', hnote, h'.reading, hsame⟩

end Reading

/-! ## From token to token -/

/-- White space before a token is stepped over. -/
theorem exists_toToken (hg : IsFiller g) (htext : Begins text) (hc : s.cursor.rest = g ++ text) :
    ∃ allowed, s.toToken = { s with cursor := s.cursor.advanceBy g.length, keyAllowed := allowed } ∧
      (s.keyAllowed = true → allowed = true) := by
  have hmark : s.cursor.peek ≠ '\ufeff' := by
    cases g with
    | nil => exact (htext.peek hc).2.2.2
    | cons ch g =>
      rw [Cursor.peek_cons hc]
      rcases hg ch (by simp) with rfl | rfl | rfl <;> decide
  have hfuel : g.length < s.cursor.rest.length + 1 := by
    rw [hc, List.length_append]
    omega
  obtain ⟨allowed, hskip, -, hallowed⟩ := skipToToken_filler s.inFlow s.keyAllowed hg htext hc hfuel
  unfold toToken
  rw [if_neg (by simp [hmark])]
  dsimp only
  rw [hskip]
  exact ⟨allowed, rfl, hallowed⟩

/-- **A step reads the token behind the white space.** -/
theorem Stage.exists_step {indent : Int} {outers : List Int} (h : Stage s level indent outers kinds)
    (hindent : outers = [] ∨ indent ≤ 0) (hg : IsFiller g) (htext : Begins text) (hc : s.cursor.rest = g ++ text) :
    ∃ s₁, Stage s₁ level indent outers kinds ∧ s₁.cursor = s.cursor.advanceBy g.length ∧
      (s.keyAllowed = true → s₁.keyAllowed = true) ∧
      (∀ k, s.currentKey? = some k → s₁.isStale k = false → s₁.currentKey? = some k) ∧
      s.step = s₁.token >>= dropStale := by
  obtain ⟨allowed, hskip, hallowed⟩ := exists_toToken hg htext hc
  have hmoved : Stage s.toToken level indent outers kinds := by
    rw [hskip]
    exact ⟨h.unfinished, h.level_eq, h.indent_eq, h.outer_eq, h.optional, h.kinds_eq⟩
  obtain ⟨s₁, hdrop, h₁, hcursor, hkey, hcurrent⟩ := hmoved.exists_dropStale
  refine ⟨s₁, h₁, ?_, ?_, fun k hk hfresh => hcurrent k ?_ ?_, ?_⟩
  · rw [hcursor, hskip]
  · rw [hkey, hskip]
    exact hallowed
  · rw [hskip]
    exact hk
  · unfold isStale mark at hfresh ⊢
    rw [← hcursor]
    exact hfresh
  · unfold step
    rw [hdrop]
    show (s₁.unwind s₁.cursor.column).token >>= dropStale = _
    rw [h₁.unwind_eq (hindent.imp_right fun hle => by omega)]

/-- The same without block collections. -/
theorem Reading.exists_step (h : Reading s level kinds) (hg : IsFiller g) (htext : Begins text)
    (hc : s.cursor.rest = g ++ text) :
    ∃ s₁, Reading s₁ level kinds ∧ s₁.cursor = s.cursor.advanceBy g.length ∧
      (s.keyAllowed = true → s₁.keyAllowed = true) ∧
      (∀ k, s.currentKey? = some k → s₁.isStale k = false → s₁.currentKey? = some k) ∧
      s.step = s₁.token >>= dropStale := by
  obtain ⟨s₁, h₁, hstep⟩ := h.stage.exists_step (.inl rfl) hg htext hc
  exact ⟨s₁, h₁.reading, hstep⟩

/-! ## Single tokens -/

theorem insertIdx_length_append {α : Type} (before after : List α) (x : α) :
    (before ++ after).insertIdx before.length x = before ++ x :: after := by
  induction before with
  | nil => rfl
  | cons y before ih => rw [List.cons_append, List.length_cons, List.insertIdx_succ_cons, ih, List.cons_append]

/-- A token that is put between others. -/
theorem kinds_insert {tokens : Array Token} {before after : List TokenKind} (t : Token)
    (h : tokens.toList.map Token.kind = before ++ after) :
    (tokens.insertIdxIfInBounds before.length t).toList.map Token.kind = before ++ t.kind :: after := by
  have hsize : before.length ≤ tokens.size := by
    have := congrArg List.length h
    rw [List.length_map, Array.length_toList, List.length_append] at this
    omega
  rw [Array.insertIdxIfInBounds, dif_pos hsize, Array.toList_insertIdx, List.map_insertIdx, h, insertIdx_length_append]

namespace Reading

/-- An opening bracket. -/
theorem exists_openFlow (h : Reading s level kinds) (kind : TokenKind) {ch : Char} (hc : s.cursor.rest = ch :: rest) :
    ∃ s', s.openFlow kind = .ok s' ∧ Reading s' (level + 1) (kinds ++ [kind]) ∧ s'.cursor.rest = rest ∧
      s'.keyAllowed = true := by
  obtain ⟨s₁, hnote, h₁, hcursor, -, -⟩ := h.exists_noteKey
  unfold openFlow
  rw [hnote]
  refine ⟨_, rfl, h₁.pushed ⟨kind, _, _⟩ (congrArg (· + 1) h₁.level_eq) rfl ⟨rfl, rfl, rfl, rfl⟩, ?_, rfl⟩
  show (s₁.cursor.advanceBy 1).rest = rest
  rw [Cursor.rest_advanceBy, hcursor, hc]
  rfl

/-- A closing bracket. -/
theorem exists_closeFlow (h : Reading s (level + 1) kinds) (kind : TokenKind) {ch : Char}
    (hc : s.cursor.rest = ch :: rest) :
    ∃ s', s.closeFlow kind = .ok s' ∧ Reading s' level (kinds ++ [kind]) ∧ s'.cursor.rest = rest := by
  unfold closeFlow
  rw [dropKey_eq h.optional]
  have hlevel : s.forgetKey.flowLevel - 1 = level := by
    rw [h.forgetKey.level_eq, Nat.add_sub_cancel]
  refine ⟨_, rfl, h.forgetKey.pushed ⟨kind, _, _⟩ hlevel rfl ⟨rfl, rfl, rfl, rfl⟩, ?_⟩
  show (s.cursor.advanceBy 1).rest = rest
  rw [Cursor.rest_advanceBy, hc]
  rfl

/-- A comma. -/
theorem exists_flowEntry (h : Reading s level kinds) {ch : Char} (hc : s.cursor.rest = ch :: rest) :
    ∃ s', s.flowEntry = .ok s' ∧ Reading s' level (kinds ++ [.flowEntry]) ∧ s'.cursor.rest = rest ∧
      s'.keyAllowed = true := by
  unfold flowEntry
  rw [dropKey_eq (s := { s with keyAllowed := true }) h.optional]
  refine ⟨_, rfl, h.forgetKey.pushed ⟨.flowEntry, _, _⟩ h.level_eq rfl ⟨rfl, rfl, rfl, rfl⟩, ?_, rfl⟩
  show (s.cursor.advanceBy 1).rest = rest
  rw [Cursor.rest_advanceBy, hc]
  rfl

/-- A word or number, with the white space behind it. -/
theorem exists_plainScalar (h : Reading s level kinds) {xs : List Char} (hxs : IsBare xs) (hne : xs ≠ [])
    (hg : IsFiller g) (hrest : Closes (level != 0) rest) (hc : s.cursor.rest = xs ++ (g ++ rest)) :
    ∃ s', s.plainScalar = .ok s' ∧ Reading s' level (kinds ++ [.scalar (String.ofList xs) true]) ∧
      s'.cursor.rest = rest := by
  obtain ⟨s₁, hnote, h₁, hcursor, -, -⟩ := h.exists_noteKey
  rw [← hcursor] at hc
  rw [← h₁.inFlow_eq] at hrest
  obtain ⟨htext, hafter⟩ := readPlain_bare (s₁.indent + 1) hxs hne hg hrest hc
  unfold plainScalar
  rw [hnote]
  refine ⟨_, rfl, ?_, ?_⟩
  · rw [← htext]
    exact h₁.pushed ⟨.scalar _ true, _, _⟩ h₁.level_eq rfl ⟨rfl, rfl, rfl, rfl⟩
  · show (readPlain s₁.inFlow (s₁.indent + 1) s₁.cursor).after.rest = rest
    rw [hafter, Cursor.advanceBy_add]
    exact Cursor.rest_advanceBy_append (Cursor.rest_advanceBy_append hc)

/-- A string, which may turn out to be a key. -/
theorem exists_quotedScalar (h : Reading s level kinds) (hps : arePlain ps = true)
    (hc : s.cursor.rest = quotedText ps ++ rest) :
    ∃ s', s.quotedScalar true = .ok s' ∧ Reading s' level (kinds ++ [.scalar (piecesValue ps) false]) ∧
      s'.cursor = s.cursor.advanceBy (quotedText ps).length ∧
      (s.keyAllowed = true → s'.currentKey? = some ⟨kinds.length, false, s.cursor.mark⟩) := by
  obtain ⟨s₁, hnote, h₁, hcursor, -, hkey⟩ := h.exists_noteKey
  rw [← hcursor] at hc
  unfold quotedScalar
  rw [hnote]
  show ∃ s', ((readQuoted true s₁.cursor).bind fun r =>
    .ok ({ s₁ with keyAllowed := false, cursor := r.2 }.push (.scalar r.1 false) s₁.mark r.2.mark)) = Except.ok s' ∧ _
  rw [readQuoted_pieces hps hc, ← hcursor]
  exact ⟨_, rfl, h₁.pushed ⟨.scalar _ false, _, _⟩ h₁.level_eq rfl ⟨rfl, rfl, rfl, rfl⟩, rfl, hcursor ▸ hkey⟩

/-- A colon behind a key. The token of the key comes before the one that turned out to be it. -/
theorem exists_value {before : List TokenKind} {kind : TokenKind} {m : Mark}
    (h : Reading s (level + 1) (before ++ [kind])) (hkey : s.currentKey? = some ⟨before.length, false, m⟩) {ch : Char}
    (hc : s.cursor.rest = ch :: rest) :
    ∃ s', s.value = .ok s' ∧ Reading s' (level + 1) (before ++ [.key, kind, .value]) ∧ s'.cursor.rest = rest := by
  let k : PendingKey := ⟨before.length, false, m⟩
  have hflow : s.inFlow = true := by rw [h.inFlow_eq]; rfl
  -- Between brackets the key opens no block.
  have hsettle : s.settleKey k = s.forgetKey.insertAt before.length .key m := by
    unfold settleKey
    have hinside : (s.forgetKey.insertAt k.position .key k.mark).inFlow = true := hflow
    exact if_neg (by simp [hinside])
  have hkinds := kinds_insert ⟨.key, m, m⟩ h.kinds_eq
  have hinserted : Reading (s.settleKey k) (level + 1) (before ++ [.key, kind]) := by
    rw [hsettle]
    exact ⟨h.unfinished, h.level_eq, h.indent_eq, h.outer_eq, h.forgetKey.optional, hkinds⟩
  have hcursor : (s.settleKey k).cursor = s.cursor := by
    rw [hsettle]
    rfl
  unfold value
  rw [hkey]
  refine ⟨_, rfl, ?_, ?_⟩
  · rw [show before ++ [TokenKind.key, kind, .value] = before ++ [.key, kind] ++ [.value] by simp]
    exact hinserted.pushed ⟨.value, _, _⟩ hinserted.level_eq rfl ⟨rfl, rfl, rfl, rfl⟩
  · show ((s.settleKey k).cursor.advanceBy 1).rest = rest
    rw [Cursor.rest_advanceBy, hcursor, hc]
    rfl

end Reading

/-! ## The token that starts here -/

section Start

variable {ch : Char}

theorem token_openSequence (hc : s.cursor.rest = '[' :: rest) : s.token = s.openFlow .flowSequenceStart := by
  have hpeek : s.cursor.peek = '[' := Cursor.peek_cons hc
  simp [token, atSeparator, hpeek]

theorem token_openMapping (hc : s.cursor.rest = '\x7b' :: rest) : s.token = s.openFlow .flowMappingStart := by
  have hpeek : s.cursor.peek = '\x7b' := Cursor.peek_cons hc
  simp [token, atSeparator, hpeek]

theorem token_closeSequence (hc : s.cursor.rest = ']' :: rest) : s.token = s.closeFlow .flowSequenceEnd := by
  have hpeek : s.cursor.peek = ']' := Cursor.peek_cons hc
  simp [token, atSeparator, hpeek]

theorem token_closeMapping (hc : s.cursor.rest = '\x7d' :: rest) : s.token = s.closeFlow .flowMappingEnd := by
  have hpeek : s.cursor.peek = '\x7d' := Cursor.peek_cons hc
  simp [token, atSeparator, hpeek]

theorem token_comma (hc : s.cursor.rest = ',' :: rest) : s.token = s.flowEntry := by
  have hpeek : s.cursor.peek = ',' := Cursor.peek_cons hc
  simp [token, atSeparator, hpeek]

/-- Between brackets every colon stands before a value. -/
theorem token_colon (hflow : s.inFlow = true) (hc : s.cursor.rest = ':' :: rest) : s.token = s.value := by
  have hpeek : s.cursor.peek = ':' := Cursor.peek_cons hc
  simp [token, atSeparator, hpeek, hflow]

theorem token_quote (hc : s.cursor.rest = '"' :: rest) : s.token = s.quotedScalar true := by
  have hpeek : s.cursor.peek = '"' := Cursor.peek_cons hc
  simp [token, atSeparator, hpeek]

theorem token_end (hc : s.cursor.rest = []) : s.token = s.endStream := by
  have hpeek : s.cursor.peek = '\x00' := Cursor.peek_eq hc
  simp [token, hpeek]

/-- A minus sign with a digit behind it starts a scalar. -/
theorem token_minus (hdigit : ch.isDigit = true) (hc : s.cursor.rest = '-' :: ch :: rest) :
    s.token = s.plainScalar := by
  have hpeek : s.cursor.peek = '-' := Cursor.peek_cons hc
  have hnext : s.cursor.peekAt 1 = ch := by
    rw [Cursor.peekAt, hc]
    rfl
  have hch : isBlankOrEnd ch = false ∧ ch ≠ '-' :=
    forall_isDigit (p := fun c => isBlankOrEnd c = false ∧ c ≠ '-') (by decide) hdigit
  have hblank : s.blankNext = false := by rw [blankNext, hnext, hch.1]
  -- The digit tells the sign from a line of three dashes.
  have hseparator : s.cursor.atSeparator = false := by
    have hthree : ∀ x y,
        (s.cursor.rest.take 3 == ['-', '-', y]) = false ∧ (s.cursor.rest.take 3 == ['.', x, y]) = false := by
      intro x y
      rw [hc]
      exact ⟨beq_false_of_ne fun h => hch.2 (List.cons.inj (List.cons.inj h).2).1,
        beq_false_of_ne fun h => absurd (List.cons.inj h).1 (by decide)⟩
    rw [Cursor.atSeparator, (hthree '-' '-').1, (hthree '.' '.').2]
    rfl
  simp [token, atSeparator, hpeek, hblank, hseparator, atPlain]

/-- What is no indicator and separates no documents starts a scalar. -/
theorem token_scalar (hindicator : isIndicator ch = false) (hdots : s.atSeparator '.' = false)
    (hc : s.cursor.rest = ch :: rest) : s.token = s.plainScalar := by
  have hpeek : s.cursor.peek = ch := Cursor.peek_cons hc
  -- everything else starts with an indicator
  have hother {d : Char} (hd : isIndicator d = true) : (ch == d) = false := by
    refine beq_false_of_ne ?_
    rintro rfl
    rw [hd] at hindicator
    cases hindicator
  have hdashes : s.atSeparator '-' = false := by
    rw [atSeparator, hpeek, hother (by decide), Bool.and_false, Bool.false_and]
  simp (disch := decide) only [token, hdashes, hdots, hpeek, atPlain, hindicator, hother,
    Bool.false_and, Bool.not_false, Bool.true_or, Bool.false_eq_true, if_false, if_true]

/-- What is no indicator and no dot starts a scalar. -/
theorem token_plain (hindicator : isIndicator ch = false) (hdot : ch ≠ '.') (hc : s.cursor.rest = ch :: rest) :
    s.token = s.plainScalar := by
  refine token_scalar hindicator ?_ hc
  rw [atSeparator, Cursor.peek_cons hc, beq_false_of_ne hdot, Bool.and_false, Bool.false_and]

/-- A word or number starts a scalar. -/
theorem token_bare {t : Term} (ht : isWordOrNumber t = true) (hc : s.cursor.rest = t.text ++ rest) :
    s.token = s.plainScalar := by
  have hdigit {c : Char} (h : c.isDigit = true) : isIndicator c = false ∧ c ≠ '.' :=
    forall_isDigit (p := fun c => isIndicator c = false ∧ c ≠ '.') (by decide) h
  cases t with
  | null => exact token_plain (by decide) (by decide) hc
  | bool b => cases b <;> exact token_plain (by decide) (by decide) hc
  | number n =>
    obtain ⟨d, ds, hds⟩ := List.exists_cons_of_ne_nil n.nonempty
    have hd : d.isDigit = true := n.whole_ok d (by simp [hds])
    rw [Term.text, Json.Numeral.text, Json.Numeral.unsigned, hds] at hc
    cases hsign : n.negative with
    | false =>
      rw [hsign] at hc
      exact token_plain (hdigit hd).1 (hdigit hd).2 hc
    | true =>
      rw [hsign] at hc
      exact token_minus hd hc
  | _ => cases ht

end Start

/-! ## Ways -/

/-- From one state the run goes on in another, within as many steps as characters are read. -/
def LeadsTo (s s' : Scanner) : Prop :=
  ∃ n, n + s'.cursor.rest.length ≤ s.cursor.rest.length ∧ ∀ fuel, run (fuel + n) s = run fuel s'

theorem LeadsTo.refl (s : Scanner) : LeadsTo s s := ⟨0, by omega, fun _ => rfl⟩

theorem LeadsTo.trans {s₁ s₂ s₃ : Scanner} (h : LeadsTo s₁ s₂) (h' : LeadsTo s₂ s₃) : LeadsTo s₁ s₃ := by
  obtain ⟨n, hn, hrun⟩ := h
  obtain ⟨n', hn', hrun'⟩ := h'
  exact ⟨n' + n, by omega, fun fuel => by rw [← Nat.add_assoc, hrun, hrun']⟩

theorem LeadsTo.of_step {s' : Scanner} (hunfinished : s.finished = false) (hstep : s.step = .ok s')
    (hless : s'.cursor.rest.length < s.cursor.rest.length) : LeadsTo s s' := by
  refine ⟨1, Nat.add_comm 1 _ ▸ hless, fun fuel => ?_⟩
  show (if s.finished then _ else _) = _
  rw [hunfinished, if_neg Bool.false_ne_true, hstep]

/-- What is left to be read, up to white space before it; `mayKey` says that a key may start here. -/
structure Ready (s : Scanner) (level : Nat) (kinds : List TokenKind) (text : List Char) (mayKey : Bool) : Prop where
  reading : Reading s level kinds
  gap : ∃ g, IsFiller g ∧ s.cursor.rest = g ++ text
  key : mayKey = true → s.keyAllowed = true

namespace Ready

variable {mayKey : Bool}

/-- White space in front is nothing. -/
theorem absorb (h : Ready s level kinds (g ++ text) mayKey) (hg : IsFiller g) : Ready s level kinds text mayKey := by
  obtain ⟨before, hbefore, hc⟩ := h.gap
  exact ⟨h.reading, ⟨before ++ g, hbefore.append hg, by rw [hc, List.append_assoc]⟩, h.key⟩

theorem of_eq {text' : List Char} (h : Ready s level kinds text mayKey) (heq : text = text') :
    Ready s level kinds text' mayKey := heq ▸ h

/-- **One step over one token.** -/
theorem exists_leadsTo (h : Ready s level kinds text mayKey) (htext : Begins text) {level' : Nat}
    {kinds' : List TokenKind} {mayKey' : Bool} (hless : rest.length < text.length)
    (htoken : ∀ s₁, Reading s₁ level kinds → s₁.cursor.rest = text → (mayKey = true → s₁.keyAllowed = true) →
      ∃ s₂, s₁.token = .ok s₂ ∧ Reading s₂ level' kinds' ∧ s₂.cursor.rest = rest ∧
        (mayKey' = true → s₂.keyAllowed = true)) :
    ∃ s', LeadsTo s s' ∧ Ready s' level' kinds' rest mayKey' := by
  obtain ⟨g, hg, hc⟩ := h.gap
  obtain ⟨s₁, h₁, hcursor, hkey, -, hstep⟩ := h.reading.exists_step hg htext hc
  have hrest : s₁.cursor.rest = text := by
    rw [hcursor]
    exact Cursor.rest_advanceBy_append hc
  obtain ⟨s₂, htoken, h₂, hrest₂, hkey₂⟩ := htoken s₁ h₁ hrest fun hmay => hkey (h.key hmay)
  obtain ⟨s₃, hdrop, h₃, hcursor₃, hkey₃, -⟩ := h₂.exists_dropStale
  have hend : s₃.cursor.rest = rest := by rw [hcursor₃, hrest₂]
  refine ⟨s₃, .of_step h.reading.unfinished ?_ ?_, h₃, ⟨[], fun c hc => absurd hc (by simp), hend⟩, ?_⟩
  · rw [hstep, htoken]
    exact hdrop
  · rw [hend, hc, List.length_append]
    omega
  · rw [hkey₃]
    exact hkey₂

/-! ### Brackets and commas -/

theorem openSequence (h : Ready s level kinds ('[' :: rest) mayKey) :
    ∃ s', LeadsTo s s' ∧ Ready s' (level + 1) (kinds ++ [.flowSequenceStart]) rest true := by
  refine h.exists_leadsTo (.cons (by decide) _) (Nat.lt_succ_self _) fun s₁ h₁ hc _ => ?_
  obtain ⟨s₂, hopen, h₂, hrest, hkey⟩ := h₁.exists_openFlow .flowSequenceStart hc
  exact ⟨s₂, (token_openSequence hc).trans hopen, h₂, hrest, fun _ => hkey⟩

theorem openMapping (h : Ready s level kinds ('\x7b' :: rest) mayKey) :
    ∃ s', LeadsTo s s' ∧ Ready s' (level + 1) (kinds ++ [.flowMappingStart]) rest true := by
  refine h.exists_leadsTo (.cons (by decide) _) (Nat.lt_succ_self _) fun s₁ h₁ hc _ => ?_
  obtain ⟨s₂, hopen, h₂, hrest, hkey⟩ := h₁.exists_openFlow .flowMappingStart hc
  exact ⟨s₂, (token_openMapping hc).trans hopen, h₂, hrest, fun _ => hkey⟩

theorem closeSequence (h : Ready s (level + 1) kinds (']' :: rest) mayKey) :
    ∃ s', LeadsTo s s' ∧ Ready s' level (kinds ++ [.flowSequenceEnd]) rest false := by
  refine h.exists_leadsTo (.cons (by decide) _) (Nat.lt_succ_self _) fun s₁ h₁ hc _ => ?_
  obtain ⟨s₂, hclose, h₂, hrest⟩ := h₁.exists_closeFlow .flowSequenceEnd hc
  exact ⟨s₂, (token_closeSequence hc).trans hclose, h₂, hrest, fun hfalse => absurd hfalse Bool.false_ne_true⟩

theorem closeMapping (h : Ready s (level + 1) kinds ('\x7d' :: rest) mayKey) :
    ∃ s', LeadsTo s s' ∧ Ready s' level (kinds ++ [.flowMappingEnd]) rest false := by
  refine h.exists_leadsTo (.cons (by decide) _) (Nat.lt_succ_self _) fun s₁ h₁ hc _ => ?_
  obtain ⟨s₂, hclose, h₂, hrest⟩ := h₁.exists_closeFlow .flowMappingEnd hc
  exact ⟨s₂, (token_closeMapping hc).trans hclose, h₂, hrest, fun hfalse => absurd hfalse Bool.false_ne_true⟩

theorem comma (h : Ready s level kinds (',' :: rest) mayKey) :
    ∃ s', LeadsTo s s' ∧ Ready s' level (kinds ++ [.flowEntry]) rest true := by
  refine h.exists_leadsTo (.cons (by decide) _) (Nat.lt_succ_self _) fun s₁ h₁ hc _ => ?_
  obtain ⟨s₂, hcomma, h₂, hrest, hkey⟩ := h₁.exists_flowEntry hc
  exact ⟨s₂, (token_comma hc).trans hcomma, h₂, hrest, fun _ => hkey⟩

/-! ### Scalars -/

/-- A string that is no key. -/
theorem string (h : Ready s level kinds (quotedText ps ++ rest) mayKey) (hps : arePlain ps = true) :
    ∃ s', LeadsTo s s' ∧ Ready s' level (kinds ++ [.scalar (piecesValue ps) false]) rest false := by
  have hless : rest.length < (quotedText ps ++ rest).length := by
    rw [quotedText, List.cons_append, List.length_cons, List.length_append]
    omega
  refine h.exists_leadsTo (.cons (by decide) _) hless fun s₁ h₁ hc _ => ?_
  obtain ⟨s₂, hread, h₂, hcursor, -⟩ := h₁.exists_quotedScalar hps hc
  refine ⟨s₂, (token_quote hc).trans hread, h₂, ?_, fun hfalse => absurd hfalse Bool.false_ne_true⟩
  rw [hcursor]
  exact Cursor.rest_advanceBy_append hc

/-- A word or number, with the white space behind it. -/
theorem bare {t : Term} (h : Ready s level kinds (t.text ++ (g ++ rest)) mayKey) (ht : isWordOrNumber t = true)
    (hg : IsFiller g) (hrest : Closes (level != 0) rest) :
    ∃ s', LeadsTo s s' ∧ Ready s' level (kinds ++ [.scalar (String.ofList t.text) true]) rest false := by
  obtain ⟨hbare, hne⟩ := isBare_term ht
  have hless : rest.length < (t.text ++ (g ++ rest)).length := by
    have := List.length_pos_iff.2 hne
    rw [List.length_append, List.length_append]
    omega
  refine h.exists_leadsTo (hbare.begins hne _) hless fun s₁ h₁ hc _ => ?_
  obtain ⟨s₂, hread, h₂, hend⟩ := h₁.exists_plainScalar hbare hne hg hrest hc
  exact ⟨s₂, (token_bare ht hc).trans hread, h₂, hend, fun hfalse => absurd hfalse Bool.false_ne_true⟩

/-! ### Keys -/

/-- A pending key is fresh while its line goes on, up to some length. -/
theorem isStale_eq_false (position : Nat) (required : Bool) {xs more : List Char} {c : Cursor} (hc : c.rest = xs ++ more)
    (hxs : ∀ x ∈ xs, isBreak x = false) (hlength : xs.length ≤ maxKeyLength)
    (hcursor : s.cursor = c.advanceBy xs.length) : s.isStale ⟨position, required, c.mark⟩ = false := by
  have hindex := Cursor.index_advanceBy hc
  have hline := Cursor.line_advanceBy hc hxs
  unfold isStale mark
  rw [hcursor, hindex, hline, Nat.add_sub_cancel_left]
  simpa using hlength

/-- **A string with a colon behind it is a key**: its token is put before the one of the string. -/
theorem keyAndColon {spaces : Json.Gap} (h : Ready s (level + 1) kinds (quotedText ps ++ (spaces.1 ++ ':' :: rest)) true)
    (hplain : Json.keyIsPlain ps spaces = true) :
    ∃ s', LeadsTo s s' ∧
      Ready s' (level + 1) (kinds ++ [.key, .scalar (piecesValue ps) false, .value]) rest false := by
  obtain ⟨hpieces, hlength⟩ := Bool.and_eq_true_iff.1 hplain
  obtain ⟨hps, hspaces⟩ := Bool.and_eq_true_iff.1 hpieces
  have hlength : (quotedText ps).length + spaces.1.length ≤ maxKeyLength := of_decide_eq_true hlength
  have hspaces : ∀ x ∈ spaces.1, x = ' ' := fun x hx => by simpa using List.all_eq_true.1 hspaces x hx
  have hline : ∀ x ∈ quotedText ps ++ spaces.1, isBreak x = false := by
    intro x hx
    rcases List.mem_append.1 hx with hx | hx
    · exact (isInline_quotedText hps x hx).2
    · rw [hspaces x hx]
      rfl
  -- the string, which is noted as a key that is still to come
  obtain ⟨g, hg, hc⟩ := h.gap
  obtain ⟨s₁, h₁, hcursor₁, hkey₁, -, hstep₁⟩ := h.reading.exists_step hg (.cons (by decide) _) hc
  have hc₁ : s₁.cursor.rest = quotedText ps ++ (spaces.1 ++ ':' :: rest) := by
    rw [hcursor₁]
    exact Cursor.rest_advanceBy_append hc
  obtain ⟨s₂, hread, h₂, hcursor₂, hcurrent₂⟩ := h₁.exists_quotedScalar hps hc₁
  obtain ⟨s₃, hdrop₃, h₃, hcursor₃, -, hcurrent₃⟩ := h₂.exists_dropStale
  have hfresh₂ := isStale_eq_false kinds.length false hc₁
    (fun x hx => hline x (List.mem_append_left _ hx)) (by omega) hcursor₂
  have hkey₃ := hcurrent₃ _ (hcurrent₂ (hkey₁ (h.key rfl))) hfresh₂
  have hc₃ : s₃.cursor.rest = spaces.1 ++ ':' :: rest := by
    rw [hcursor₃, hcursor₂]
    exact Cursor.rest_advanceBy_append hc₁
  have hto₃ : LeadsTo s s₃ := by
    refine .of_step h.reading.unfinished ?_ ?_
    · rw [hstep₁, (token_quote hc₁).trans hread]
      exact hdrop₃
    · have hone : 1 ≤ (quotedText ps).length := Nat.succ_le_succ (Nat.zero_le _)
      rw [hc₃, hc]
      simp only [List.length_append, List.length_cons]
      omega
  -- the colon, which finds the key
  have hspace : IsFiller spaces.1 := fun x hx => .inl (hspaces x hx)
  obtain ⟨s₄, h₄, hcursor₄, -, hcurrent₄, hstep₄⟩ := h₃.exists_step hspace (.cons (by decide) _) hc₃
  have hc₄ : s₄.cursor.rest = ':' :: rest := by
    rw [hcursor₄]
    exact Cursor.rest_advanceBy_append hc₃
  have hfresh₄ := isStale_eq_false (s := s₄) kinds.length false
    (hc₁.trans (List.append_assoc _ _ _).symm) hline (by rw [List.length_append]; exact hlength)
    (by rw [hcursor₄, hcursor₃, hcursor₂, ← Cursor.advanceBy_add, List.length_append])
  obtain ⟨s₅, hvalue, h₅, hc₅⟩ := h₄.exists_value (hcurrent₄ _ hkey₃ hfresh₄) hc₄
  obtain ⟨s₆, hdrop₆, h₆, hcursor₆, -, -⟩ := h₅.exists_dropStale
  have hc₆ : s₆.cursor.rest = [] ++ rest := by
    rw [hcursor₆]
    exact hc₅
  have hto₆ : LeadsTo s₃ s₆ := by
    refine .of_step h₃.unfinished ?_ ?_
    · rw [hstep₄, (token_colon (by rw [h₄.inFlow_eq]; rfl) hc₄).trans hvalue]
      exact hdrop₆
    · rw [hc₆, hc₃, List.length_append, List.length_append, List.length_cons, List.length_nil]
      omega
  exact ⟨s₆, hto₃.trans hto₆, h₆, ⟨[], fun x hx => absurd hx (by simp), hc₆⟩,
    fun hfalse => absurd hfalse Bool.false_ne_true⟩

end Ready

end Triage.Yaml.Scanner
