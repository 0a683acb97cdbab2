import Triage.Proofs.Yaml.JsonTokens

/-!
# The nodes of a plain JSON text

From the tokens of a JSON value a node is made, and the node has the value that the tree has.

* `exists_node`: **the tokens of a value become a node with this value**, at any depth and whatever follows.
* `exists_ofTokens`: the node of a whole text.
-/

namespace Triage.Yaml

open Triage.Json (Term Items Members piecesValue)

namespace Compose

variable {m a b : Mark} {ts : List Token} {error : Option Error} {handles : List (String × String)}
  {anchors : List (String × Node)} {fuel : Nat} {block indentless first : Bool}

/-! ## One token after the other -/

/-- What follows a reader that returned starts where that reader ended. -/
theorem bind_of_ok {α β : Type} {x : Compose α} {f : α → Compose β} {c c' : Composer} {r : α} (h : x c = .ok (r, c')) :
    (x >>= f) c = f r c' := by
  show Except.bind (x c) _ = _
  rw [h]
  rfl

/-- The kinds of tokens with which the node of a JSON value starts. -/
def StartsNode (k : TokenKind) : Prop :=
  (∃ s plain, k = .scalar s plain) ∨ k = .flowSequenceStart ∨ k = .flowMappingStart

theorem node_plain (s : String) :
    node block indentless (fuel + 1) ⟨⟨.scalar s true, a, b⟩ :: ts, error, handles, anchors⟩ =
      .ok (.scalar ⟨Tag.ofPlain s, none, a⟩ s, ⟨ts, error, handles, anchors⟩) := rfl

theorem node_quoted (s : String) :
    node block indentless (fuel + 1) ⟨⟨.scalar s false, a, b⟩ :: ts, error, handles, anchors⟩ =
      .ok (.scalar ⟨Tag.text, none, a⟩ s, ⟨ts, error, handles, anchors⟩) := rfl

theorem node_sequence :
    node block indentless (fuel + 1) ⟨⟨.flowSequenceStart, a, b⟩ :: ts, error, handles, anchors⟩ =
      (flowItems a true fuel ⟨ts, error, handles, anchors⟩).map fun r =>
        (.sequence ⟨Tag.sequence, none, a⟩ r.1, r.2) := by
  show Except.bind (Except.bind (flowItems a true fuel ⟨ts, error, handles, anchors⟩) _) _ = _
  cases flowItems a true fuel ⟨ts, error, handles, anchors⟩ <;> rfl

theorem node_mapping :
    node block indentless (fuel + 1) ⟨⟨.flowMappingStart, a, b⟩ :: ts, error, handles, anchors⟩ =
      (flowEntries a true fuel ⟨ts, error, handles, anchors⟩).map fun r =>
        (.mapping ⟨Tag.mapping, none, a⟩ r.1, r.2) := by
  show Except.bind (Except.bind (flowEntries a true fuel ⟨ts, error, handles, anchors⟩) _) _ = _
  cases flowEntries a true fuel ⟨ts, error, handles, anchors⟩ <;> rfl

theorem flowItems_end : flowItems m first (fuel + 1) ⟨⟨.flowSequenceEnd, a, b⟩ :: ts, error, handles, anchors⟩ =
    .ok ([], ⟨ts, error, handles, anchors⟩) := rfl

theorem flowEntries_end : flowEntries m first (fuel + 1) ⟨⟨.flowMappingEnd, a, b⟩ :: ts, error, handles, anchors⟩ =
    .ok ([], ⟨ts, error, handles, anchors⟩) := rfl

/-- An item and those that follow it. -/
theorem flowItems_item {k : TokenKind} (hk : StartsNode k) {item : Node} {items : List Node} {after last : Composer}
    (hitem : node false false fuel ⟨⟨k, a, b⟩ :: ts, error, handles, anchors⟩ = .ok (item, after))
    (hitems : flowItems m false fuel after = .ok (items, last)) :
    flowItems m true (fuel + 1) ⟨⟨k, a, b⟩ :: ts, error, handles, anchors⟩ = .ok (item :: items, last) := by
  have hbind : flowItems m true (fuel + 1) ⟨⟨k, a, b⟩ :: ts, error, handles, anchors⟩ =
      (do return (← node false false fuel) :: (← flowItems m false fuel) : Compose (List Node))
        ⟨⟨k, a, b⟩ :: ts, error, handles, anchors⟩ := by
    obtain ⟨s, plain, rfl⟩ | rfl | rfl := hk <;> rfl
  rw [hbind, bind_of_ok hitem, bind_of_ok hitems]
  rfl

/-- Behind a comma items are read as from the first one on. -/
theorem flowItems_comma {k : TokenKind} (hk : StartsNode k) {x y : Mark} :
    flowItems m false (fuel + 1) ⟨⟨.flowEntry, x, y⟩ :: ⟨k, a, b⟩ :: ts, error, handles, anchors⟩ =
      flowItems m true (fuel + 1) ⟨⟨k, a, b⟩ :: ts, error, handles, anchors⟩ := by
  obtain ⟨s, plain, rfl⟩ | rfl | rfl := hk <;> rfl

/-- A key with its value and the entries that follow. -/
theorem flowEntries_entry {k : TokenKind} (hk : StartsNode k) {s : String} {a₁ b₁ a₂ b₂ a₃ b₃ : Mark} {value : Node}
    {entries : List (Node × Node)} {after last : Composer}
    (hvalue : node false false fuel ⟨⟨k, a, b⟩ :: ts, error, handles, anchors⟩ = .ok (value, after))
    (hentries : flowEntries m false (fuel + 1) after = .ok (entries, last)) :
    flowEntries m true (fuel + 2)
      ⟨⟨.key, a₁, b₁⟩ :: ⟨.scalar s false, a₂, b₂⟩ :: ⟨.value, a₃, b₃⟩ :: ⟨k, a, b⟩ :: ts, error, handles, anchors⟩ =
      .ok ((.scalar ⟨Tag.text, none, a₂⟩ s, value) :: entries, last) := by
  have hbind : flowEntries m true (fuel + 2)
      ⟨⟨.key, a₁, b₁⟩ :: ⟨.scalar s false, a₂, b₂⟩ :: ⟨.value, a₃, b₃⟩ :: ⟨k, a, b⟩ :: ts, error, handles, anchors⟩ =
      (do return (Node.scalar ⟨Tag.text, none, a₂⟩ s, ← node false false fuel) :: (← flowEntries m false (fuel + 1)) :
        Compose (List (Node × Node))) ⟨⟨k, a, b⟩ :: ts, error, handles, anchors⟩ := by
    obtain ⟨s, plain, rfl⟩ | rfl | rfl := hk <;> rfl
  rw [hbind, bind_of_ok hvalue, bind_of_ok hentries]
  rfl

/-- Behind a comma entries are read as from the first one on. -/
theorem flowEntries_comma {x y : Mark} :
    flowEntries m false (fuel + 1) ⟨⟨.flowEntry, x, y⟩ :: ⟨.key, a, b⟩ :: ts, error, handles, anchors⟩ =
      flowEntries m true (fuel + 1) ⟨⟨.key, a, b⟩ :: ts, error, handles, anchors⟩ := rfl

end Compose

/-! ## Values of collections -/

section Values

variable {around : Around} {level fuel : Nat} {m : Mark}

/-- A key as JSON has it: a text. -/
def IsTextKey (n : Node) : Prop := ∃ m s, n = .scalar ⟨Tag.text, none, m⟩ s

/-- Among texts as keys nothing is merged and nothing is renamed. -/
theorem mergedEntries_text {es : List (Node × Node)} (h : ∀ e ∈ es, IsTextKey e.1) :
    mergedEntries level m fuel es = .ok es := by
  have htag : ∀ e ∈ es, (e.1.tag != Tag.merge) = true := by
    intro e he
    obtain ⟨m, s, hkey⟩ := h e he
    rw [hkey]
    rfl
  have hmerges : es.filter (fun e => e.1.tag == Tag.merge) = [] := by
    rw [List.filter_eq_nil_iff]
    intro e he hmerge
    have := htag e he
    rw [bne, hmerge] at this
    cases this
  have howns : es.filter (fun e => e.1.tag != Tag.merge) = es := List.filter_eq_self.2 htag
  have hrename : renameValueKeys es = es := by
    refine (List.map_congr_left fun e he => ?_).trans (List.map_id es)
    obtain ⟨m, s, hkey⟩ := h e he
    obtain ⟨k, v⟩ := e
    obtain rfl : k = _ := hkey
    rfl
  cases fuel with
  | zero => rfl
  | succ fuel =>
    unfold mergedEntries
    rw [hmerges, howns]
    show Except.ok (([] : List (List (Node × Node))).flatten ++ renameValueKeys es) = _
    rw [hrename]
    rfl

theorem valueOf_sequence {ns : List Node} {vs : List Value} (h : itemsOf around (level + 1) fuel ns = .ok vs) :
    valueOf around level (fuel + 2) (.sequence ⟨Tag.sequence, none, m⟩ ns) = .ok (.list vs) := by
  have hcollection : valueOf around level (fuel + 2) (.sequence ⟨Tag.sequence, none, m⟩ ns) =
      (itemsOf around (level + 1) fuel ns).map Value.list := rfl
  rw [hcollection, h]
  rfl

theorem valueOf_mapping_eq {es : List (Node × Node)} (hkeys : ∀ e ∈ es, IsTextKey e.1) :
    valueOf around level (fuel + 2) (.mapping ⟨Tag.mapping, none, m⟩ es) =
      (entriesOf around (level + 1) m fuel es).map fun built => .map (Json.gathered built []) := by
  have hcollection : valueOf around level (fuel + 2) (.mapping ⟨Tag.mapping, none, m⟩ es) =
      (do
        let entries ← mergedEntries (level + 1) m fuel es
        let built ← entriesOf around (level + 1) m fuel entries
        return .map (Json.gathered built [])) := rfl
  rw [hcollection, mergedEntries_text hkeys]
  show Except.bind (entriesOf around (level + 1) m fuel es) _ = _
  cases entriesOf around (level + 1) m fuel es <;> rfl

theorem valueOf_mapping {es : List (Node × Node)} {built : List (Value × Value)} (hkeys : ∀ e ∈ es, IsTextKey e.1)
    (h : entriesOf around (level + 1) m fuel es = .ok built) :
    valueOf around level (fuel + 2) (.mapping ⟨Tag.mapping, none, m⟩ es) = .ok (.map (Json.gathered built [])) := by
  rw [valueOf_mapping_eq hkeys, h]
  rfl

theorem entriesOf_cons {k v : Node} {es : List (Node × Node)} {s : String} {value : Value} {rest : List (Value × Value)}
    (hk : valueOf around level fuel k = .ok (.text s)) (hv : valueOf around level fuel v = .ok value)
    (hes : entriesOf around level m fuel es = .ok rest) :
    entriesOf around level m (fuel + 1) ((k, v) :: es) = .ok ((.text s, value) :: rest) := by
  rw [entriesOf, hk, hv, hes]
  rfl

theorem itemsOf_cons {n : Node} {ns : List Node} {v : Value} {vs : List Value}
    (hn : valueOf around level fuel n = .ok v) (hns : itemsOf around level fuel ns = .ok vs) :
    itemsOf around level (fuel + 1) (n :: ns) = .ok (v :: vs) := by
  rw [itemsOf, hn, hns]
  rfl

theorem itemsOf_nil : itemsOf around level fuel [] = .ok [] := by cases fuel <;> rfl

theorem entriesOf_nil : entriesOf around level m fuel [] = .ok [] := by cases fuel <;> rfl

end Values

/-- With so much fuel the node has the value. -/
def StandsFor (n : Node) (v : Value) (cost : Nat) : Prop :=
  ∀ (around : Around) (level fuel : Nat), cost ≤ fuel → valueOf around level fuel n = .ok v

/-- With so much fuel the items have the values. -/
def ItemsStandFor (ns : List Node) (vs : List Value) (cost : Nat) : Prop :=
  ∀ (around : Around) (level fuel : Nat), cost ≤ fuel → itemsOf around level fuel ns = .ok vs

/-- The keys are texts, and with so much fuel the entries have the values. -/
def EntriesStandFor (es : List (Node × Node)) (vs : List (Value × Value)) (cost : Nat) : Prop :=
  (∀ e ∈ es, IsTextKey e.1) ∧
    ∀ (around : Around) (level : Nat) (m : Mark) (fuel : Nat), cost ≤ fuel → entriesOf around level m fuel es = .ok vs

/-! ## From tokens to values -/

namespace Compose

/-- The node of a value starts with one of three kinds of tokens. -/
theorem exists_startsNode (t : Term) : ∃ k ks, termKinds t = k :: ks ∧ StartsNode k := by
  cases t with
  | null => exact ⟨_, _, rfl, .inl ⟨_, _, rfl⟩⟩
  | bool b => exact ⟨_, _, rfl, .inl ⟨_, _, rfl⟩⟩
  | number n => exact ⟨_, _, rfl, .inl ⟨_, _, rfl⟩⟩
  | string ps => exact ⟨_, _, rfl, .inl ⟨_, _, rfl⟩⟩
  | emptyArray g => exact ⟨_, _, rfl, .inr (.inl rfl)⟩
  | array items => exact ⟨_, _, rfl, .inr (.inl rfl)⟩
  | emptyObject g => exact ⟨_, _, rfl, .inr (.inr rfl)⟩
  | object members => exact ⟨_, _, rfl, .inr (.inr rfl)⟩

/-- The same of the first item. -/
theorem exists_startsNode_items (is : Items) : ∃ k ks, itemKinds is = k :: ks ∧ StartsNode k := by
  cases is with
  | last before t after =>
    obtain ⟨k, ks, hkinds, hk⟩ := exists_startsNode t
    exact ⟨k, _, by rw [itemKinds, hkinds, List.cons_append], hk⟩
  | cons before t after rest =>
    obtain ⟨k, ks, hkinds, hk⟩ := exists_startsNode t
    exact ⟨k, _, by rw [itemKinds, hkinds, List.cons_append], hk⟩

/-- Members start with a key. -/
theorem exists_key_members (ms : Members) : ∃ ks, memberKinds ms = .key :: ks := by
  cases ms <;> exact ⟨_, rfl⟩

variable {error : Option Error} {handles : List (String × String)} {anchors : List (String × Node)}

/-- A word or number becomes a scalar with its value. -/
theorem exists_node_bare {t : Term} (hbare : isWordOrNumber t = true) (hplain : t.isPlain = true) {ts more : List Token}
    (hts : ts.map Token.kind = [.scalar (String.ofList t.text) true]) {fuel : Nat} (hfuel : ts.length ≤ fuel) :
    ∃ n, (∀ block indentless, node block indentless fuel ⟨ts ++ more, error, handles, anchors⟩ =
      .ok (n, ⟨more, error, handles, anchors⟩)) ∧ StandsFor n t.value (2 * ts.length) := by
  obtain ⟨⟨k, a, b⟩, ts, rfl, rfl, hnil⟩ := List.map_eq_cons_iff.1 hts
  obtain rfl := List.map_eq_nil_iff.1 hnil
  match fuel, hfuel with
  | fuel + 1, _ =>
    refine ⟨_, fun _ _ => node_plain _, fun around level fuel hcost => ?_⟩
    match fuel, hcost with
    | fuel + 1, _ => exact valueOf_bare hbare hplain

/-- The end of a collection as a run of one token. -/
theorem exists_of_map_singleton {ts : List Token} {k : TokenKind} (h : ts.map Token.kind = [k]) :
    ∃ a b, ts = [⟨k, a, b⟩] := by
  obtain ⟨⟨k, a, b⟩, ts, rfl, rfl, hnil⟩ := List.map_eq_cons_iff.1 h
  exact ⟨a, b, by rw [List.map_eq_nil_iff.1 hnil]⟩

/-- A key with its colon as a run of three tokens. -/
theorem exists_of_map_key {ts : List Token} {s : String} {ks : List TokenKind}
    (h : ts.map Token.kind = .key :: .scalar s false :: .value :: ks) :
    ∃ a₁ b₁ a₂ b₂ a₃ b₃ ts', ts = ⟨.key, a₁, b₁⟩ :: ⟨.scalar s false, a₂, b₂⟩ :: ⟨.value, a₃, b₃⟩ :: ts' ∧
      ts'.map Token.kind = ks := by
  obtain ⟨⟨_, a₁, b₁⟩, ts₁, rfl, rfl, h₁⟩ := List.map_eq_cons_iff.1 h
  obtain ⟨⟨_, a₂, b₂⟩, ts₂, rfl, rfl, h₂⟩ := List.map_eq_cons_iff.1 h₁
  obtain ⟨⟨_, a₃, b₃⟩, ts₃, rfl, rfl, h₃⟩ := List.map_eq_cons_iff.1 h₂
  exact ⟨a₁, b₁, a₂, b₂, a₃, b₃, ts₃, rfl, h₃⟩

mutual

/-- **The tokens of a value become a node with this value.** -/
theorem exists_node (t : Term) (hplain : t.isPlain = true) {ts : List Token} (more : List Token)
    (hts : ts.map Token.kind = termKinds t) (fuel : Nat) (hfuel : ts.length ≤ fuel) :
    ∃ n, (∀ block indentless, node block indentless fuel ⟨ts ++ more, error, handles, anchors⟩ =
      .ok (n, ⟨more, error, handles, anchors⟩)) ∧ StandsFor n t.value (2 * ts.length) := by
  -- Making a node takes one unit of fuel for each token, and making its value two: a bracket pays for the calls that
  -- open and enter a collection, a comma or closing bracket for the place of an item in it.
  cases t with
  | null => exact exists_node_bare rfl hplain hts hfuel
  | bool b => exact exists_node_bare rfl hplain hts hfuel
  | number n => exact exists_node_bare (t := .number n) rfl hplain hts hfuel
  | string ps =>
    obtain ⟨a, b, rfl⟩ := exists_of_map_singleton hts
    match fuel, hfuel with
    | fuel + 1, _ =>
      refine ⟨_, fun _ _ => node_quoted _, fun around level fuel hcost => ?_⟩
      match fuel, hcost with
      | fuel + 1, _ => exact valueOf_text _
  | emptyArray g =>
    obtain ⟨⟨k, a, b⟩, ts, rfl, rfl, hend⟩ := List.map_eq_cons_iff.1 hts
    obtain ⟨c, d, rfl⟩ := exists_of_map_singleton hend
    match fuel, hfuel with
    | fuel + 2, _ =>
      refine ⟨_, fun _ _ => node_sequence, fun around level fuel hcost => ?_⟩
      match fuel, hcost with
      | fuel + 2, _ => exact valueOf_sequence itemsOf_nil
  | array items =>
    obtain ⟨⟨k, a, b⟩, ts, rfl, rfl, hitems⟩ := List.map_eq_cons_iff.1 hts
    match fuel, hfuel with
    | fuel + 1, hfuel =>
      obtain ⟨ns, hread, hvalue⟩ := exists_items items hplain more hitems fuel (Nat.le_of_succ_le_succ hfuel)
      refine ⟨.sequence ⟨Tag.sequence, none, a⟩ ns, fun _ _ => ?_, fun around level fuel hcost => ?_⟩
      · rw [List.cons_append, node_sequence, hread]
        rfl
      · rw [List.length_cons] at hcost
        match fuel, hcost with
        | fuel + 2, hcost => exact valueOf_sequence (hvalue _ _ _ (by omega))
  | emptyObject g =>
    obtain ⟨⟨k, a, b⟩, ts, rfl, rfl, hend⟩ := List.map_eq_cons_iff.1 hts
    obtain ⟨c, d, rfl⟩ := exists_of_map_singleton hend
    match fuel, hfuel with
    | fuel + 2, _ =>
      refine ⟨_, fun _ _ => node_mapping, fun around level fuel hcost => ?_⟩
      match fuel, hcost with
      | fuel + 2, _ => exact valueOf_mapping (fun e he => absurd he List.not_mem_nil) entriesOf_nil
  | object members =>
    obtain ⟨⟨k, a, b⟩, ts, rfl, rfl, hmembers⟩ := List.map_eq_cons_iff.1 hts
    match fuel, hfuel with
    | fuel + 1, hfuel =>
      obtain ⟨es, hread, hkeys, hvalue⟩ := exists_entries members hplain more hmembers fuel
        (Nat.le_of_succ_le_succ hfuel)
      refine ⟨.mapping ⟨Tag.mapping, none, a⟩ es, fun _ _ => ?_, fun around level fuel hcost => ?_⟩
      · rw [List.cons_append, node_mapping, hread]
        rfl
      · rw [List.length_cons] at hcost
        match fuel, hcost with
        | fuel + 2, hcost => exact valueOf_mapping hkeys (hvalue _ _ _ _ (by omega))

/-- The tokens of items become nodes with their values. -/
theorem exists_items (is : Items) (hplain : is.isPlain = true) {ts : List Token} (more : List Token) {m : Mark}
    (hts : ts.map Token.kind = itemKinds is) (fuel : Nat) (hfuel : ts.length ≤ fuel) :
    ∃ ns, flowItems m true fuel ⟨ts ++ more, error, handles, anchors⟩ = .ok (ns, ⟨more, error, handles, anchors⟩) ∧
      ItemsStandFor ns is.values (2 * ts.length) := by
  cases is with
  | last before t after =>
    obtain ⟨-, ht, -⟩ := Items.isPlain_last.1 hplain
    obtain ⟨ts, close, rfl, hterm, hclose⟩ := List.map_eq_append_iff.1 hts
    obtain ⟨c, d, rfl⟩ := exists_of_map_singleton hclose
    -- The reader looks at the first token of an item before it reads the node, to tell it from a closing bracket.
    obtain ⟨k, ks, hkinds, hk⟩ := exists_startsNode t
    obtain ⟨⟨k, a, b⟩, ts, rfl, rfl, -⟩ := List.map_eq_cons_iff.1 (hterm.trans hkinds)
    rw [List.length_append, List.length_cons, List.length_singleton] at hfuel
    match fuel, hfuel with
    | fuel + 2, hfuel =>
      obtain ⟨n, hread, hvalue⟩ := exists_node t ht (⟨.flowSequenceEnd, c, d⟩ :: more) hterm (fuel + 1)
        (by rw [List.length_cons]; omega)
      refine ⟨[n], ?_, fun around level fuel hcost => ?_⟩
      · rw [List.append_assoc]
        exact flowItems_item hk (hread false false) flowItems_end
      · rw [List.length_append, List.length_singleton] at hcost
        match fuel, hcost with
        | fuel + 1, hcost => exact itemsOf_cons (hvalue _ _ _ (by omega)) itemsOf_nil
  | cons before t after rest =>
    obtain ⟨-, ht, -, hrest⟩ := Items.isPlain_cons.1 hplain
    obtain ⟨ts, tail, rfl, hterm, htail⟩ := List.map_eq_append_iff.1 hts
    obtain ⟨⟨_, x, y⟩, next, rfl, rfl, hnext⟩ := List.map_eq_cons_iff.1 htail
    obtain ⟨k, ks, hkinds, hk⟩ := exists_startsNode t
    obtain ⟨⟨k, a, b⟩, ts, rfl, rfl, -⟩ := List.map_eq_cons_iff.1 (hterm.trans hkinds)
    -- It does the same behind the comma.
    obtain ⟨k', ks', hkinds', hk'⟩ := exists_startsNode_items rest
    obtain ⟨⟨k', c, d⟩, next, rfl, rfl, -⟩ := List.map_eq_cons_iff.1 (hnext.trans hkinds')
    simp only [List.length_append, List.length_cons] at hfuel
    match fuel, hfuel with
    | fuel + 2, hfuel =>
      obtain ⟨n, hread, hvalue⟩ := exists_node t ht
        (⟨.flowEntry, x, y⟩ :: ⟨k', c, d⟩ :: (next ++ more)) hterm (fuel + 1)
        (by rw [List.length_cons]; omega)
      obtain ⟨ns, hreads, hvalues⟩ := exists_items rest hrest more (m := m) hnext (fuel + 1)
        (by rw [List.length_cons]; omega)
      refine ⟨n :: ns, ?_, fun around level fuel hcost => ?_⟩
      · rw [List.append_assoc]
        exact flowItems_item hk (hread false false) ((flowItems_comma hk').trans hreads)
      · simp only [List.length_append, List.length_cons] at hcost hvalue hvalues
        match fuel, hcost with
        | fuel + 1, hcost => exact itemsOf_cons (hvalue _ _ _ (by omega)) (hvalues _ _ _ (by omega))

/-- The tokens of members become entries with their values. -/
theorem exists_entries (ms : Members) (hplain : ms.isPlain = true) {ts : List Token} (more : List Token) {m : Mark}
    (hts : ts.map Token.kind = memberKinds ms) (fuel : Nat) (hfuel : ts.length ≤ fuel) :
    ∃ es, flowEntries m true fuel ⟨ts ++ more, error, handles, anchors⟩ = .ok (es, ⟨more, error, handles, anchors⟩) ∧
      EntriesStandFor es ms.entries (2 * ts.length) := by
  cases ms with
  | last before key beforeColon afterColon t after =>
    obtain ⟨-, -, -, ht, -⟩ := Members.isPlain_last.1 hplain
    obtain ⟨a₁, b₁, a₂, b₂, a₃, b₃, ts, rfl, hvalueTokens⟩ := exists_of_map_key hts
    obtain ⟨ts, close, rfl, hterm, hclose⟩ := List.map_eq_append_iff.1 hvalueTokens
    obtain ⟨c, d, rfl⟩ := exists_of_map_singleton hclose
    obtain ⟨k, ks, hkinds, hk⟩ := exists_startsNode t
    obtain ⟨⟨k, a, b⟩, ts, rfl, rfl, -⟩ := List.map_eq_cons_iff.1 (hterm.trans hkinds)
    simp only [List.length_append, List.length_cons] at hfuel
    match fuel, hfuel with
    | fuel + 2, hfuel =>
      obtain ⟨n, hread, hvalue⟩ := exists_node t ht (⟨.flowMappingEnd, c, d⟩ :: more) hterm fuel
        (by rw [List.length_cons]; omega)
      refine ⟨[(.scalar ⟨Tag.text, none, a₂⟩ (piecesValue key), n)], ?_, ?_, fun around level m fuel hcost => ?_⟩
      · simp only [List.cons_append, List.append_assoc]
        exact flowEntries_entry hk (hread false false) flowEntries_end
      · intro e he
        rw [List.mem_singleton.1 he]
        exact ⟨_, _, rfl⟩
      · simp only [List.length_append, List.length_cons] at hcost hvalue
        match fuel, hcost with
        | fuel + 2, hcost => exact entriesOf_cons (valueOf_text _) (hvalue _ _ _ (by omega)) entriesOf_nil
  | cons before key beforeColon afterColon t after rest =>
    obtain ⟨-, -, -, ht, -, hrest⟩ := Members.isPlain_cons.1 hplain
    obtain ⟨a₁, b₁, a₂, b₂, a₃, b₃, ts, rfl, hvalueTokens⟩ := exists_of_map_key hts
    obtain ⟨ts, tail, rfl, hterm, htail⟩ := List.map_eq_append_iff.1 hvalueTokens
    obtain ⟨⟨_, x, y⟩, next, rfl, rfl, hnext⟩ := List.map_eq_cons_iff.1 htail
    obtain ⟨k, ks, hkinds, hk⟩ := exists_startsNode t
    obtain ⟨⟨k, a, b⟩, ts, rfl, rfl, -⟩ := List.map_eq_cons_iff.1 (hterm.trans hkinds)
    obtain ⟨ks', hkinds'⟩ := exists_key_members rest
    obtain ⟨⟨_, c, d⟩, next, rfl, rfl, -⟩ := List.map_eq_cons_iff.1 (hnext.trans hkinds')
    simp only [List.length_append, List.length_cons] at hfuel
    match fuel, hfuel with
    | fuel + 2, hfuel =>
      obtain ⟨n, hread, hvalue⟩ := exists_node t ht
        (⟨.flowEntry, x, y⟩ :: ⟨.key, c, d⟩ :: (next ++ more)) hterm fuel
        (by rw [List.length_cons]; omega)
      obtain ⟨es, hreads, hkeys, hvalues⟩ := exists_entries rest hrest more (m := m) hnext (fuel + 1)
        (by rw [List.length_cons]; omega)
      refine ⟨(.scalar ⟨Tag.text, none, a₂⟩ (piecesValue key), n) :: es, ?_, ?_, fun around level m fuel hcost => ?_⟩
      · simp only [List.cons_append, List.append_assoc]
        exact flowEntries_entry hk (hread false false) (flowEntries_comma.trans hreads)
      · intro e he
        rcases List.mem_cons.1 he with rfl | he
        · exact ⟨_, _, rfl⟩
        · exact hkeys e he
      · simp only [List.length_append, List.length_cons] at hcost hvalue hvalues
        match fuel, hcost with
        | fuel + 2, hcost =>
          exact entriesOf_cons (valueOf_text _) (hvalue _ _ _ (by omega)) (hvalues _ _ _ _ (by omega))

end

/-- A node with the end of the stream behind it is the only document. -/
theorem onlyDocument_node {k : TokenKind} (hk : StartsNode k) {a b : Mark} {ts : List Token} {fuel : Nat} {n : Node}
    {x y : Mark} (hnode : node true false (fuel + 1) ⟨⟨k, a, b⟩ :: ts, error, handles, anchors⟩ =
      .ok (n, ⟨[⟨.streamEnd, x, y⟩], error, handles, anchors⟩)) :
    onlyDocument (fuel + 1) ⟨⟨k, a, b⟩ :: ts, error, handles, anchors⟩ =
      .ok (some n, ⟨[⟨.streamEnd, x, y⟩], error, handles, anchors⟩) := by
  have hpeek : peekKind ⟨⟨k, a, b⟩ :: ts, error, handles, anchors⟩ =
      .ok (k, ⟨⟨k, a, b⟩ :: ts, error, handles, anchors⟩) := rfl
  unfold onlyDocument
  rw [bind_of_ok hpeek]
  obtain ⟨s, plain, rfl⟩ | rfl | rfl := hk
  all_goals
    dsimp only
    rw [bind_of_ok hnode]
    rfl

end Compose

/-- **The node of a plain text** has the value that the text stands for. -/
theorem exists_ofTokens {d : Json.Document} (hplain : d.isPlain = true) :
    ∃ n, Node.ofTokens (tokenRun d.text) = .ok (some n) ∧
      StandsFor n d.value (2 * (tokenRun d.text).tokens.length) := by
  obtain ⟨tokens, hrun, hkinds⟩ := exists_tokenRun hplain
  obtain ⟨-, hroot, -⟩ := Json.Document.isPlain_iff.1 hplain
  obtain ⟨ts, last, rfl, hterm, hlast⟩ := List.map_eq_append_iff.1 hkinds
  obtain ⟨x, y, rfl⟩ := Compose.exists_of_map_singleton hlast
  obtain ⟨k, ks, hk, hstart⟩ := Compose.exists_startsNode d.root
  obtain ⟨⟨k, a, b⟩, ts, rfl, rfl, -⟩ := List.map_eq_cons_iff.1 (hterm.trans hk)
  rw [List.cons_append] at hrun
  obtain ⟨fuel, hfuel, hless⟩ : ∃ fuel, 4 * ((⟨k, a, b⟩ : Token) :: (ts ++ [⟨.streamEnd, x, y⟩])).length + 8 = fuel + 1 ∧
      ((⟨k, a, b⟩ : Token) :: ts).length ≤ fuel + 1 :=
    ⟨_, rfl, by simp only [List.length_cons, List.length_append]; omega⟩
  obtain ⟨n, hread, hvalue⟩ := @Compose.exists_node none Compose.standardHandles [] d.root hroot _
    [⟨.streamEnd, x, y⟩] hterm (fuel + 1) hless
  rw [List.cons_append] at hread
  refine ⟨n, ?_, fun around level fuel hcost => hvalue around level fuel ?_⟩
  · rw [hrun, Node.ofTokens]
    dsimp only
    rw [hfuel]
    show Except.map _ (Compose.onlyDocument (fuel + 1) ⟨_, none, Compose.standardHandles, []⟩) = _
    rw [Compose.onlyDocument_node hstart (hread true false)]
    rfl
  · rw [hrun] at hcost
    simp only [List.length_cons, List.length_append] at hcost ⊢
    omega

end Triage.Yaml
