import Triage.Proofs.Yaml.BlockLine
import Triage.Proofs.Yaml.JsonDocument

/-!
# A mapping on one line as a document

* `exists_ofTokens_line`, `ofTokens_tab`: the node of the line, and none of one that holds a tab.
* `exists_value_of_load_line`: **a line that is loaded is a mapping of its key** to the value of the plain scalar behind the
  colon.
-/

namespace Triage.Yaml

open Scanner (IsPlainKey)

variable {key p text ending : List Char} {tokens : List Token}

/-- The tokens up to the value. -/
theorem exists_lineTokens {ks : List TokenKind}
    (h : tokens.map Token.kind = .blockMappingStart :: .key :: .scalar (String.ofList key) true :: .value :: ks) :
    ∃ a₁ b₁ a₂ b₂ a₃ b₃ a₄ b₄ ts, ts.map Token.kind = ks ∧
      tokens = ⟨.blockMappingStart, a₁, b₁⟩ :: ⟨.key, a₂, b₂⟩ :: ⟨.scalar (String.ofList key) true, a₃, b₃⟩ ::
        ⟨.value, a₄, b₄⟩ :: ts := by
  obtain ⟨⟨_, a₁, b₁⟩, ts₁, rfl, rfl, h₁⟩ := List.map_eq_cons_iff.1 h
  obtain ⟨⟨_, a₂, b₂⟩, ts₂, rfl, rfl, h₂⟩ := List.map_eq_cons_iff.1 h₁
  obtain ⟨⟨_, a₃, b₃⟩, ts₃, rfl, rfl, h₃⟩ := List.map_eq_cons_iff.1 h₂
  obtain ⟨⟨_, a₄, b₄⟩, ts₄, rfl, rfl, h₄⟩ := List.map_eq_cons_iff.1 h₃
  exact ⟨a₁, b₁, a₂, b₂, a₃, b₃, a₄, b₄, ts₄, h₄, rfl⟩

/-- **The node of the line** is a mapping of one entry. -/
theorem exists_ofTokens_line (h : tokens.map Token.kind = lineKinds key p ++ [.blockEnd, .streamEnd]) :
    ∃ a b m, Node.ofTokens ⟨tokens, none⟩ = .ok (some (.mapping ⟨Tag.mapping, none, a⟩
      [(.scalar ⟨Tag.ofPlain (String.ofList key), none, b⟩ (String.ofList key),
        .scalar ⟨Tag.ofPlain (String.ofList p), none, m⟩ (String.ofList p))])) := by
  obtain ⟨a₁, b₁, a₂, b₂, a₃, b₃, a₄, b₄, ts, hts, rfl⟩ := exists_lineTokens h
  by_cases hp : p = []
  · rw [if_pos hp] at hts
    obtain ⟨⟨_, a₅, b₅⟩, ts, rfl, rfl, hend⟩ := List.map_eq_cons_iff.1 hts
    obtain ⟨a₆, b₆, rfl⟩ := Compose.exists_of_map_singleton hend
    subst hp
    exact ⟨a₁, a₃, b₄, rfl⟩
  · rw [if_neg hp] at hts
    obtain ⟨⟨_, a₅, b₅⟩, ts, rfl, rfl, hrest⟩ := List.map_eq_cons_iff.1 hts
    obtain ⟨⟨_, a₆, b₆⟩, ts, rfl, rfl, hend⟩ := List.map_eq_cons_iff.1 hrest
    obtain ⟨a₇, b₇, rfl⟩ := Compose.exists_of_map_singleton hend
    exact ⟨a₁, a₃, a₅, rfl⟩

/-- However many tokens before a tab are settled, the mapping is not ended. -/
theorem ofTokens_tab {e : Error} {n : Nat} (h : tokens.map Token.kind = lineKinds key p) :
    Node.ofTokens ⟨tokens.take n, some e⟩ = .error e := by
  rw [← List.append_nil (lineKinds key p)] at h
  obtain ⟨a₁, b₁, a₂, b₂, a₃, b₃, a₄, b₄, ts, hts, rfl⟩ := exists_lineTokens h
  by_cases hp : p = []
  · rw [if_pos hp] at hts
    obtain rfl := List.map_eq_nil_iff.1 hts
    match n with
    | 0 | 1 | 2 | 3 => rfl
    | n + 4 =>
      rw [List.take_of_length_le (Nat.le_add_left 4 n)]
      rfl
  · rw [if_neg hp] at hts
    obtain ⟨a₅, b₅, rfl⟩ := Compose.exists_of_map_singleton hts
    match n with
    | 0 | 1 | 2 | 3 | 4 => rfl
    | n + 5 =>
      rw [List.take_of_length_le (Nat.le_add_left 5 n)]
      rfl

/-! ## Values -/

/-- A mapping of one entry has a value if its entry has one. -/
theorem exists_of_valueOf_entry {around : Around} {level fuel : Nat} {a b : Mark} {s : String} {n : Node} {v : Value}
    (h : valueOf around level (fuel + 4) (.mapping ⟨Tag.mapping, none, a⟩ [(.scalar ⟨Tag.text, none, b⟩ s, n)]) = .ok v) :
    ∃ value, valueOf around (level + 1) (fuel + 1) n = .ok value ∧ v = .map [(.text s, value)] := by
  have hkeys : ∀ e ∈ [((.scalar ⟨Tag.text, none, b⟩ s : Node), n)], IsTextKey e.1 :=
    List.forall_mem_singleton.2 ⟨b, s, rfl⟩
  rw [valueOf_mapping_eq hkeys] at h
  cases hn : valueOf around (level + 1) (fuel + 1) n with
  | error e =>
    rw [entriesOf, valueOf_text, hn, entriesOf_nil] at h
    cases h
  | ok value =>
    rw [entriesOf_cons (valueOf_text s) hn entriesOf_nil] at h
    cases h
    exact ⟨value, rfl, rfl⟩

/-- What may stand behind the colon here: words, spaces and tabs. -/
def IsValueText (text : List Char) : Prop := ∀ c ∈ text, c = ' ' ∨ c = '\t' ∨ IsSolid c

/-- What is loaded has been read as a node with this value, or there is none. -/
theorem cases_of_load {name s : String} {v : Value} (h : load (.file name s) = .ok v) :
    (∃ n, Node.ofTokens (tokenRun s.toList) = .ok (some n) ∧
      valueOf [] 0 (8 * (tokenRun s.toList).tokens.length + 64) n = .ok v) ∨
    Node.ofTokens (tokenRun s.toList) = .ok none := by
  unfold load at h
  cases hchars : (Source.file name s).characters with
  | error e =>
    rw [hchars] at h
    cases h
  | ok cs =>
    obtain rfl : cs = s.toList := eq_of_admitted hchars
    rw [hchars] at h
    cases hnode : Node.ofTokens (tokenRun s.toList) with
    | error e =>
      simp only [bind, Except.bind, hnode] at h
      cases h
    | ok node =>
      simp only [bind, Except.bind, hnode] at h
      cases node with
      | none => exact .inr rfl
      | some n =>
        refine .inl ⟨n, rfl, ?_⟩
        dsimp only at h
        cases hvalue : valueOf [] 0 (8 * (tokenRun s.toList).tokens.length + 64) n with
        | error e =>
          rw [hvalue] at h
          cases h
        | ok value =>
          rw [hvalue] at h
          cases h
          rfl

/-- **A line that is loaded** is a mapping of its key to the value of the plain scalar behind the colon. -/
theorem exists_value_of_load_line {name s : String} {v : Value} (hkey : IsPlainKey key)
    (htag : Tag.ofPlain (String.ofList key) = Tag.text) (htext : IsValueText text) (hending : IsFiller ending)
    (hs : s.toList = key ++ ':' :: ' ' :: (text ++ ending)) (h : load (.file name s) = .ok v) :
    ∃ before p after m fuel value, text = before ++ (p ++ after) ∧ (∀ c ∈ before, c = ' ') ∧ (∀ c ∈ after, c = ' ') ∧
      (p = [] ∨ IsPlainLine p) ∧ v = .map [(.text (String.ofList key), value)] ∧
      valueOf [] 1 (fuel + 1) (.scalar ⟨Tag.ofPlain (String.ofList p), none, m⟩ (String.ofList p)) = .ok value := by
  have hnode := cases_of_load h
  by_cases htab : '\t' ∈ text
  · -- reading ends at the first tab
    exfalso
    obtain ⟨front, rest, rfl, hnone⟩ := List.eq_append_cons_of_mem htab
    have hfront : ∀ c ∈ front, c = ' ' ∨ IsSolid c := by
      intro c hc
      refine (htext c (List.mem_append_left _ hc)).imp_right fun hc' => hc'.resolve_left ?_
      rintro rfl
      exact hnone hc
    obtain ⟨before, p, after, rfl, hbefore, hafter, hp⟩ := exists_isPlainLine hfront
    obtain ⟨tokens, n, e, hrun, hkinds⟩ := exists_tokenRun_tab hkey hbefore hp
      (fun c hc => .inl (hafter c hc)) (rest ++ ending)
    rw [hs] at hnode
    simp only [List.append_assoc, List.cons_append] at hnode
    rw [hrun, ofTokens_tab hkinds] at hnode
    rcases hnode with ⟨n, hnode, -⟩ | hnode <;> cases hnode
  · have hwords : ∀ c ∈ text, c = ' ' ∨ IsSolid c := by
      intro c hc
      refine (htext c hc).imp_right fun hc' => hc'.resolve_left ?_
      rintro rfl
      exact htab hc
    obtain ⟨before, p, after, rfl, hbefore, hafter, hp⟩ := exists_isPlainLine hwords
    obtain ⟨tokens, hrun, hkinds⟩ := exists_tokenRun_line hkey hbefore hp
      (IsFiller.append (fun c hc => .inl (hafter c hc)) hending)
    obtain ⟨a, b, m, hread⟩ := exists_ofTokens_line hkinds
    rw [hs] at hnode
    simp only [List.append_assoc] at hnode
    rw [hrun, hread, htag] at hnode
    rcases hnode with ⟨n, hnode, hvalue⟩ | hnode
    · cases hnode
      rw [show 8 * tokens.length + 64 = 8 * tokens.length + 60 + 4 by omega] at hvalue
      obtain ⟨value, hscalar, rfl⟩ := exists_of_valueOf_entry hvalue
      exact ⟨before, p, after, m, 8 * tokens.length + 60, value, rfl, hbefore, hafter, hp, rfl, hscalar⟩
    · cases hnode

end Triage.Yaml
