import Triage.Proofs.Yaml.JsonDocument

/-!
# Tabs as white space

JSON may be indented with tabs. Where a token is looked for, a tab is none, so such a text is not loaded.

* `Json.Document.opensWithTab`: a tab stands before the value or directly behind its opening bracket.
* `exists_load_tab`: **a JSON text that opens with a tab is not loaded**, whatever it stands for.
-/

namespace Triage

namespace Json

/-- The white space before the first item. -/
def Items.firstGap : Items → Gap
  | .last before _ _ | .cons before _ _ _ => before

/-- The white space before the first member. -/
def Members.firstGap : Members → Gap
  | .last before _ _ _ _ _ | .cons before _ _ _ _ _ _ => before

/-- The white space directly behind the opening bracket of a value. -/
def Term.firstGap : Term → Gap
  | .emptyArray g | .emptyObject g => g
  | .array items => items.firstGap
  | .object members => members.firstGap
  | _ => .none

/-- The white space holds a tab. -/
def Gap.hasTab (g : Gap) : Bool := g.1.contains '\t'

/-- A tab stands before the value or directly behind its opening bracket. -/
def Document.opensWithTab (d : Document) : Bool := d.before.hasTab || d.root.firstGap.hasTab

/-- A text of JSON that opens with a tab. -/
def OpensWithTab (s : String) : Prop := ∃ d : Document, d.text = s.toList ∧ d.opensWithTab = true

/-- White space up to its first tab. -/
theorem Gap.exists_split {g : Gap} (h : g.hasTab = true) :
    ∃ before after, g.1 = before ++ '\t' :: after ∧ Yaml.IsFiller before := by
  obtain ⟨before, after, hsplit, hnone⟩ := List.eq_append_cons_of_mem (List.contains_iff_mem.1 h)
  refine ⟨before, after, hsplit, Yaml.isFiller_of_isSpace (fun c hc => g.2 c ?_) hnone⟩
  rw [hsplit]
  exact List.mem_append_left _ hc

/-- A value with such white space starts with a bracket, and the white space follows. -/
theorem Term.exists_bracket {t : Term} (h : t.firstGap.hasTab = true) :
    ∃ ch rest, (ch = '[' ∨ ch = '\x7b') ∧ t.text = ch :: (t.firstGap.1 ++ rest) := by
  cases t with
  | emptyArray g => exact ⟨_, _, .inl rfl, rfl⟩
  | array items => cases items <;> exact ⟨_, _, .inl rfl, rfl⟩
  | emptyObject g => exact ⟨_, _, .inr rfl, rfl⟩
  | object members => cases members <;> exact ⟨_, _, .inr rfl, rfl⟩
  | _ => cases h

end Json

namespace Yaml

namespace Scanner

variable {s : Scanner} {level : Nat} {kinds : List TokenKind} {rest : List Char} {mayKey : Bool}

/-- A tab is no token. -/
theorem Stage.exists_error {indent : Int} {outers : List Int} {g : List Char} (h : Stage s level indent outers kinds)
    (hindent : outers = [] ∨ indent ≤ 0) (hg : IsFiller g) (hc : s.cursor.rest = g ++ '\t' :: rest) :
    ∃ e, s.step = .error e := by
  obtain ⟨s₁, -, hcursor, -, -, hstep⟩ := h.exists_step hindent hg (.cons (by decide) _) hc
  have hpeek : s₁.cursor.peek = '\t' := by
    have hrest : s₁.cursor.rest = '\t' :: rest := by
      rw [hcursor]
      exact Cursor.rest_advanceBy_append hc
    exact Cursor.peek_cons hrest
  have htoken : s₁.token = failAt (some .nextToken) none (.noToken '\t') s₁.cursor := by
    simp [token, atSeparator, atPlain, isIndicator, isBlankOrEnd, hpeek]
  refine ⟨.located ⟨.scanner, some .nextToken, none, .noToken '\t', s₁.cursor.mark⟩, ?_⟩
  rw [hstep, htoken]
  rfl

/-- A run ends where a step fails. -/
theorem run_error {e : Error} (hunfinished : s.finished = false) (hstep : s.step = .error e) (fuel : Nat) :
    run (fuel + 1) s = ⟨s.tokens.toList.take s.settled, some e⟩ := by
  show (if s.finished then _ else _) = _
  rw [hunfinished, if_neg Bool.false_ne_true, hstep]

/-- From the start of a text to a step that fails. -/
theorem LeadsTo.tokenRun_error {text : List Char} {e : Error} (h : LeadsTo (start text) s)
    (hunfinished : s.finished = false) (hstep : s.step = .error e) :
    tokenRun text = ⟨s.tokens.toList.take s.settled, some e⟩ := by
  obtain ⟨n, hn, hrun⟩ := h
  have hless : n ≤ text.length := Nat.le_trans (Nat.le_add_right _ _) hn
  rw [tokenRun, show text.length + 2 = text.length + 1 - n + 1 + n by omega, hrun, run_error hunfinished hstep]

/-- From the start of a text to a tab that stands where a token is looked for. -/
theorem Ready.exists_tokenRun {text : List Char} (h : Ready s level kinds ('\t' :: rest) mayKey)
    (hto : LeadsTo (start text) s) :
    ∃ e, tokenRun text = ⟨s.tokens.toList.take s.settled, some e⟩ := by
  obtain ⟨g, hg, hc⟩ := h.gap
  obtain ⟨e, he⟩ := h.reading.stage.exists_error (.inl rfl) hg hc
  exact ⟨e, hto.tokenRun_error h.reading.unfinished he⟩

end Scanner

/-- No node is made of no token or of an opening bracket alone. -/
theorem ofTokens_error {tokens : List Token} {e : Error} {n : Nat}
    (h : tokens.map Token.kind = [] ∨ tokens.map Token.kind = [.flowSequenceStart] ∨
      tokens.map Token.kind = [.flowMappingStart]) :
    Node.ofTokens ⟨tokens.take n, some e⟩ = .error e := by
  have hnone : Node.ofTokens ⟨[], some e⟩ = .error e := rfl
  rcases h with h | h | h
  · rw [List.map_eq_nil_iff.1 h, List.take_nil]
    exact hnone
  · obtain ⟨a, b, rfl⟩ := Compose.exists_of_map_singleton h
    cases n with
    | zero => exact hnone
    | succ n => rw [List.take_succ_cons, List.take_nil]; rfl
  · obtain ⟨a, b, rfl⟩ := Compose.exists_of_map_singleton h
    cases n with
    | zero => exact hnone
    | succ n => rw [List.take_succ_cons, List.take_nil]; rfl

/-- The tokens before a tab make up no node. -/
theorem exists_ofTokens_error {d : Json.Document} (h : d.opensWithTab = true) :
    ∃ e, Node.ofTokens (tokenRun d.text) = .error e := by
  have hstart := Scanner.ready_start d.text
  by_cases hbefore : d.before.hasTab = true
  · -- No token is read.
    obtain ⟨before, after, hsplit, hfiller⟩ := Json.Gap.exists_split hbefore
    have htext : d.text = before ++ '\t' :: (after ++ (d.root.text ++ d.after.1)) := by
      rw [Json.Document.text, hsplit, List.append_assoc, List.cons_append]
    have htab := (hstart.of_eq htext).absorb hfiller
    obtain ⟨e, hrun⟩ := htab.exists_tokenRun (.refl _)
    exact ⟨e, by rw [hrun, ofTokens_error (.inl htab.reading.kinds_eq)]⟩
  · -- The one token that is read is the opening bracket.
    have hbracket : d.root.firstGap.hasTab = true := (Bool.or_eq_true_iff.1 h).resolve_left hbefore
    obtain ⟨ch, rest, hch, htext⟩ := Json.Term.exists_bracket hbracket
    obtain ⟨before, after, hsplit, hfiller⟩ := Json.Gap.exists_split hbracket
    have htext : d.text = d.before.1 ++ ch :: (before ++ '\t' :: (after ++ (rest ++ d.after.1))) := by
      rw [Json.Document.text, htext, hsplit]
      simp only [List.append_assoc, List.cons_append]
    have hopen := (hstart.of_eq htext).absorb
      (isFiller_of_isSpace d.before.2 fun htab => hbefore (List.contains_iff_mem.2 htab))
    rcases hch with rfl | rfl
    · obtain ⟨s, hto, hs⟩ := hopen.openSequence
      have htab := hs.absorb hfiller
      obtain ⟨e, hrun⟩ := htab.exists_tokenRun hto
      exact ⟨e, by rw [hrun, ofTokens_error (.inr (.inl htab.reading.kinds_eq))]⟩
    · obtain ⟨s, hto, hs⟩ := hopen.openMapping
      have htab := hs.absorb hfiller
      obtain ⟨e, hrun⟩ := htab.exists_tokenRun hto
      exact ⟨e, by rw [hrun, ofTokens_error (.inr (.inr htab.reading.kinds_eq))]⟩

/-- **A JSON text that opens with a tab is not loaded**, whatever it stands for. -/
theorem exists_load_tab {s : String} (h : Json.OpensWithTab s) : ∃ e, load (.text s) = .error e := by
  obtain ⟨d, htext, htab⟩ := h
  obtain ⟨e, hnode⟩ := exists_ofTokens_error htab
  unfold load
  cases hchars : (Source.text s).characters with
  | error e => exact ⟨e, rfl⟩
  | ok text =>
    have hsame : text = d.text := (eq_of_admitted hchars).trans htext.symm
    refine ⟨e, ?_⟩
    simp only [bind, Except.bind, hsame, hnode]

end Yaml

end Triage
