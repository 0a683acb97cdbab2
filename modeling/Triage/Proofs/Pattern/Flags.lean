import Triage.Pattern.Parser

/-!
# The flags that hold for a whole pattern

A pattern is read with case ignored from the start. Flags that are set for the whole pattern are added to those that
hold; only a group turns flags off, and only for what it encloses.

* `Parser.KeepsCase`: a piece of reading that leaves case ignored where it was, with one rule for each way in which such
  pieces are put together.
* `Parser.grammar_keepsCase`: the four levels of the grammar, by induction on the fuel.
* `ignoreCase_of_parse`: **case is ignored in every pattern**, as far as its global flags go.
-/

namespace Triage.Pattern

/-- What gives a result in two parts gives one in each. -/
theorem exists_of_bind_eq_ok {ε α β : Type} {x : Except ε α} {f : α → Except ε β} {b : β} (h : x >>= f = .ok b) :
    ∃ a, x = .ok a ∧ f a = .ok b := by
  cases x with
  | error e => cases h
  | ok a => exact ⟨a, rfl, h⟩

namespace Parser

variable {α β : Type}

/-- Reading with `m` never turns the flag off under which case is ignored. -/
structure KeepsCase (m : Parser α) : Prop where
  keeps : ∀ r a r', m r = .ok (a, r') → r.flags.ignoreCase = true → r'.flags.ignoreCase = true

/-! ## How pieces are put together -/

namespace KeepsCase

variable {m m' : Parser α}

@[grind ←]
theorem pure (a : α) : KeepsCase (Pure.pure a) := by
  constructor
  intro r b r' h
  cases h
  exact id

@[grind ←]
theorem throw (e : Failure) : KeepsCase (throw e : Parser α) := by
  constructor
  intro r b r' h
  cases h

@[grind ←]
theorem set {r₀ : Reader} (h₀ : r₀.flags.ignoreCase = true) : KeepsCase (MonadStateOf.set r₀) := by
  constructor
  intro r b r' h
  cases h
  exact fun _ => h₀

@[grind ←]
theorem modify {f : Reader → Reader} (hf : ∀ r, r.flags.ignoreCase = true → (f r).flags.ignoreCase = true) :
    KeepsCase (modify f) := by
  constructor
  intro r b r' h
  cases h
  exact hf r

/-- What follows a look at the state may use what is kept up to there. -/
@[grind ←]
theorem get_bind {f : Reader → Parser β} (hf : ∀ r, r.flags.ignoreCase = true → KeepsCase (f r)) :
    KeepsCase (get >>= f) := by
  constructor
  intro r b r' h hr
  exact (hf r hr).keeps r b r' h hr

@[grind ←]
theorem bind {f : α → Parser β} (hm : KeepsCase m) (hf : ∀ a, KeepsCase (f a)) : KeepsCase (m >>= f) := by
  constructor
  intro r b r'' h hr
  have hparts : (m r >>= fun p => f p.1 p.2) = .ok (b, r'') := h
  obtain ⟨⟨a, r'⟩, hfirst, hrest⟩ := exists_of_bind_eq_ok hparts
  have hr' : r'.flags.ignoreCase = true := hm.keeps r a r' hfirst hr
  exact (hf a).keeps r' b r'' hrest hr'

theorem ite {c : Prop} [Decidable c] (hm : KeepsCase m) (hm' : KeepsCase m') : KeepsCase (if c then m else m') := by
  split
  · exact hm
  · exact hm'

/-- A step that is taken only on a condition, and what follows in either case. -/
theorem onlyIf {c : Prop} [Decidable c] {m : Parser Unit} {k : Unit → Parser β} (hm : KeepsCase m)
    (hk : ∀ a, KeepsCase (k a)) : KeepsCase (if c then m >>= k else k ()) :=
  .ite (.bind hm hk) (hk ())

/-- One of two steps, and what follows in either case. -/
theorem either {c : Prop} [Decidable c] {k : α → Parser β} (hm : KeepsCase m) (hm' : KeepsCase m')
    (hk : ∀ a, KeepsCase (k a)) : KeepsCase (if c then m >>= k else m' >>= k) :=
  .ite (.bind hm hk) (.bind hm' hk)

@[grind ←]
theorem discard (hm : KeepsCase m) : KeepsCase (discard m) :=
  .bind hm fun _ => .pure _

end KeepsCase

/-! ## Tokens -/

@[grind ←]
theorem fail_keepsCase (cause : Cause) (offset : Nat) : KeepsCase (fail cause offset : Parser α) :=
  .get_bind fun _ _ => .throw _

@[grind ←]
theorem peek_keepsCase : KeepsCase peek :=
  .get_bind fun _ _ => .pure _

@[grind ←]
theorem sees_keepsCase (c : Char) : KeepsCase (sees c) :=
  .bind peek_keepsCase fun _ => .pure _

@[grind ←]
theorem take_keepsCase : KeepsCase take := by
  refine .get_bind fun r hr => ?_
  split
  · exact .pure _
  · exact .onlyIf (.throw _) fun _ => .bind (.set hr) fun _ => .pure _

@[grind ←]
theorem accept_keepsCase (c : Char) : KeepsCase (accept c) := by
  unfold accept
  grind

@[grind ←]
theorem takeUpTo_keepsCase (p : Char → Bool) (n : Nat) : KeepsCase (takeUpTo p n) := by
  induction n with
  | zero => exact .pure _
  | succ n ih =>
    unfold takeUpTo
    grind

@[grind ←]
theorem takeWhile_keepsCase (p : Char → Bool) : KeepsCase (takeWhile p) :=
  .get_bind fun _ _ => takeUpTo_keepsCase p _

@[grind ←]
theorem takeUntil_keepsCase (terminator : Char) (what : String) : KeepsCase (takeUntil terminator what) := by
  have hend (found : List Char) : KeepsCase (takeUntil.atEnd terminator what found) :=
    .ite (fail_keepsCase _ _) (fail_keepsCase _ _)
  have hgo (fuel : Nat) (found : List Char) : KeepsCase (takeUntil.go terminator what fuel found) := by
    induction fuel generalizing found with
    | zero => exact hend found
    | succ n ih =>
      refine .bind take_keepsCase fun t => ?_
      split
      · exact hend found
      · exact .ite (.ite (fail_keepsCase _ _) (.pure _)) (ih _)
  exact .get_bind fun _ _ => hgo _ _

/-! ## Groups and their names -/

@[grind ←]
theorem number_keepsCase (ds : List Char) : KeepsCase (number ds) :=
  .onlyIf (.throw _) fun _ => .pure _

@[grind ←]
theorem closedGroup?_keepsCase (g : Nat) : KeepsCase (closedGroup? g) :=
  .get_bind fun _ _ => .pure _

@[grind ←]
theorem checkLookbehind_keepsCase (g : Nat) : KeepsCase (checkLookbehind g) := by
  unfold checkLookbehind
  grind

@[grind ←]
theorem openGroup_keepsCase (name : Option String) : KeepsCase (openGroup name) := by
  unfold openGroup
  grind

@[grind ←]
theorem closeGroup_keepsCase (g : Nat) (body : List Node) : KeepsCase (closeGroup g body) :=
  .modify fun _ hr => hr

@[grind ←]
theorem checkName_keepsCase (name : String) (offset : Nat) : KeepsCase (checkName name offset) :=
  .ite (fail_keepsCase _ _) (.pure _)

@[grind ←]
theorem closeParenthesis_keepsCase (start : Nat) : KeepsCase (closeParenthesis start) :=
  .bind (accept_keepsCase _) fun _ => .ite (.throw _) (.pure _)

theorem namedBackref_keepsCase : KeepsCase namedBackref := by
  refine .bind (takeUntil_keepsCase _ _) fun name => .bind (checkName_keepsCase _ _) fun _ => .get_bind fun r _ => ?_
  split
  · exact fail_keepsCase _ _
  · exact .bind (closedGroup?_keepsCase _) fun _ => .onlyIf (fail_keepsCase _ _) fun _ =>
      .bind (checkLookbehind_keepsCase _) fun _ => .pure _

theorem conditionGroup_keepsCase : KeepsCase conditionGroup := by
  have hend (g : Nat) : KeepsCase (do checkLookbehind g; return g) :=
    .bind (checkLookbehind_keepsCase g) fun _ => .pure _
  have hfail (cause : Cause) (offset : Nat) : KeepsCase (do
      let g ← fail cause offset
      checkLookbehind g
      return g) :=
    .bind (fail_keepsCase _ _) hend
  refine .bind (takeUntil_keepsCase _ _) fun name => .ite (.get_bind fun r _ => ?_) ?_
  · split
    · exact hfail _ _
    · exact .bind (.pure _) hend
  · split
    · exact hfail _ _
    · refine .onlyIf (fail_keepsCase _ _) fun _ => .onlyIf (fail_keepsCase _ _) fun _ => .bind (.modify ?_) fun _ =>
        .bind (.pure _) hend
      intro r hr
      split <;> exact hr
    · exact hfail _ _

/-! ## Escapes, sets and repetitions -/

@[grind ←]
theorem octalEscape_keepsCase (digits : List Char) : KeepsCase (octalEscape digits) :=
  .onlyIf (fail_keepsCase _ _) fun _ => .pure _

@[grind ←]
theorem characterEscape_keepsCase (c : Char) : KeepsCase (characterEscape c) := by
  have hhex (n : Nat) : KeepsCase (hexEscape c n) :=
    .bind (takeUpTo_keepsCase _ _) fun _ => .onlyIf (fail_keepsCase _ _) fun _ => .onlyIf (.throw _) fun _ =>
      .onlyIf (fail_keepsCase _ _) fun _ => .pure _
  have hname : KeepsCase nameEscape := by
    unfold nameEscape
    grind
  unfold characterEscape
  grind

@[grind ←]
theorem setEscape_keepsCase (c : Char) : KeepsCase (setEscape c) := by
  unfold setEscape
  grind

@[grind ←]
theorem digitEscape_keepsCase (c : Char) : KeepsCase (digitEscape c) := by
  have hnumbered (digits : List Char) : KeepsCase (numberedBackref digits) := by
    unfold numberedBackref
    grind
  unfold digitEscape
  grind

theorem escape_keepsCase (c : Char) : KeepsCase (escape c) := by
  unfold escape
  grind

theorem setMember_keepsCase (t : Token) : KeepsCase (setMember t) := by
  cases t with
  | plain c => exact .pure _
  | escape c => exact setEscape_keepsCase c

theorem setItems_keepsCase (start fuel : Nat) (found : List SetItem) : KeepsCase (setItems start fuel found) := by
  induction fuel generalizing found with
  | zero => exact fail_keepsCase _ _
  | succ n ih =>
    unfold setItems
    refine .bind take_keepsCase fun first => ?_
    split
    · exact .throw _
    · refine .ite (.pure _) (.bind (setMember_keepsCase _) fun item => .bind (accept_keepsCase _) fun _ => ?_)
      refine .ite (.bind take_keepsCase fun last => ?_) (ih _)
      split
      · exact .throw _
      · refine .ite (.pure _) (.bind (setMember_keepsCase _) fun end_ => ?_)
        split
        · exact .onlyIf (fail_keepsCase _ _) fun _ => ih _
        · exact fail_keepsCase _ _

theorem set_keepsCase : KeepsCase set := by
  refine .get_bind fun r _ => .bind (accept_keepsCase _) fun negated => .get_bind fun r _ =>
    .bind (setItems_keepsCase _ _ _) fun items => ?_
  split <;> exact .pure _

theorem bounds_keepsCase (start : Nat) : KeepsCase (bounds start) := by
  refine .get_bind fun before hbefore => .bind (sees_keepsCase _) fun _ => .ite (.pure _) ?_
  refine .bind (takeWhile_keepsCase _) fun lo => .bind (accept_keepsCase _) fun _ => ?_
  refine .either (takeWhile_keepsCase _) (.pure _) fun hi => .bind (accept_keepsCase _) fun _ => ?_
  -- where the brace stands for itself, the state from before is put back
  refine .ite (.bind (.set hbefore) fun _ => .pure _) (.either (.pure _) (number_keepsCase _) fun least => ?_)
  refine .onlyIf (.throw _) fun _ => .ite (.pure _) (.bind (number_keepsCase _) fun most => ?_)
  exact .onlyIf (.throw _) fun _ => .onlyIf (.throw _) fun _ => .pure _

@[grind ←]
theorem appetite_keepsCase : KeepsCase appetite :=
  .bind (accept_keepsCase _) fun _ => .ite (.pure _) (.bind (accept_keepsCase _) fun _ => .ite (.pure _) (.pure _))

theorem repeatLast_keepsCase (start least : Nat) (most : Option Nat) (nodes : List Node) :
    KeepsCase (repeatLast start least most nodes) := by
  unfold repeatLast
  grind

/-! ## Flags -/

theorem flagsOn_keepsCase (fuel : Nat) (c : Char) (on : Flags) : KeepsCase (flagsOn fuel c on) := by
  induction fuel generalizing c on with
  | zero => exact fail_keepsCase _ _
  | succ n ih =>
    unfold flagsOn
    split
    · exact fail_keepsCase _ _
    · refine .onlyIf (fail_keepsCase _ _) fun _ => .bind take_keepsCase fun t => ?_
      split
      · exact fail_keepsCase _ _
      · split
        · exact .ite (.pure _) (.ite (ih _ _) (fail_keepsCase _ _))
        · exact fail_keepsCase _ _

theorem flagsOff_keepsCase (fuel : Nat) (c : Char) (off : Flags) : KeepsCase (flagsOff fuel c off) := by
  induction fuel generalizing c off with
  | zero => exact fail_keepsCase _ _
  | succ n ih =>
    unfold flagsOff
    split
    · exact fail_keepsCase _ _
    · refine .onlyIf (fail_keepsCase _ _) fun _ => .bind take_keepsCase fun t => ?_
      split
      · exact fail_keepsCase _ _
      · refine .ite (.pure _) ?_
        split
        · exact .ite (ih _ _) (fail_keepsCase _ _)
        · exact fail_keepsCase _ _

/-- **Flags for the whole pattern are added**: those that hold already stay. -/
theorem inlineFlags_keepsCase (first : Char) : KeepsCase (inlineFlags first) := by
  refine .get_bind fun r _ => .either (.pure _) (flagsOn_keepsCase _ _ _) fun on => ?_
  refine .ite (.bind (.modify ?_) fun _ => .pure _) (.onlyIf (fail_keepsCase _ _) fun _ => ?_)
  · intro r hr
    simp [Flags.union, hr]
  · have hend (off : Flags) : KeepsCase (do
        if off.template then fail (.flags .globalTurnedOff) 1
        if on.1.meets off then fail (.flags .onAndOff) 1
        return some (on.1, off)) :=
      .onlyIf (fail_keepsCase _ _) fun _ => .onlyIf (fail_keepsCase _ _) fun _ => .pure _
    refine .ite (.bind take_keepsCase fun t => ?_) (hend _)
    split
    · exact .bind (fail_keepsCase _ _) fun _ => hend _
    · split
      · exact .either (flagsOff_keepsCase _ _ _) (fail_keepsCase _ _) hend
      · exact .bind (fail_keepsCase _ _) fun _ => hend _

/-! ## The grammar -/

theorem comment_keepsCase (start fuel : Nat) : KeepsCase (comment start fuel) := by
  induction fuel with
  | zero => exact .throw _
  | succ n ih =>
    refine .bind take_keepsCase fun t => ?_
    split
    · exact .throw _
    · exact .ite (.pure _) ih

theorem lineComment_keepsCase (fuel : Nat) : KeepsCase (lineComment fuel) := by
  induction fuel with
  | zero => exact .pure _
  | succ n ih =>
    refine .bind take_keepsCase fun t => ?_
    split
    · exact .pure _
    · exact .ite (.pure _) ih

/-- The four levels of the grammar on this fuel. -/
structure GrammarKeepsCase (fuel : Nat) : Prop where
  alternatives (verbose nested : Bool) (found : List (List Node)) :
    KeepsCase (alternatives verbose nested fuel found)
  sequence (verbose first : Bool) (found : List Node) : KeepsCase (sequence verbose first fuel found)
  group (verbose atStart : Bool) (start : Nat) : KeepsCase (group verbose atStart start fuel)
  capture (verbose : Bool) (name : Option String) (start : Nat) : KeepsCase (capture verbose name start fuel)

namespace GrammarKeepsCase

variable {fuel : Nat} (h : GrammarKeepsCase fuel)

include h

theorem alternatives_succ (verbose nested : Bool) (found : List (List Node)) :
    KeepsCase (Parser.alternatives verbose nested (fuel + 1) found) := by
  unfold Parser.alternatives
  exact .bind (h.sequence _ _ _) fun _ => .bind (accept_keepsCase _) fun _ =>
    .ite (.get_bind fun _ _ => h.alternatives _ _ _) (.pure _)

theorem sequence_succ (verbose first : Bool) (found : List Node) :
    KeepsCase (Parser.sequence verbose first (fuel + 1) found) := by
  have hmore := h.sequence
  unfold Parser.sequence
  refine .bind peek_keepsCase fun t => ?_
  split
  · exact .pure _
  · refine .ite (.pure _) (.bind (.discard take_keepsCase) fun _ => ?_)
    split
    · exact .bind (escape_keepsCase _) fun _ => hmore _ _ _
    · -- In verbose patterns, blanks and comments are passed over.
      refine .ite (hmore _ _ _) (.ite (.bind (lineComment_keepsCase _) fun _ => hmore _ _ _) ?_)
      refine .ite (.bind set_keepsCase fun _ => hmore _ _ _) ?_
      refine .ite (hmore _ _ _) (.ite (hmore _ _ _) (.ite (hmore _ _ _) ?_))
      refine .ite (.get_bind fun _ _ => .bind (repeatLast_keepsCase _ _ _ _) fun _ => hmore _ _ _) ?_
      refine .ite (.get_bind fun _ _ => .bind (bounds_keepsCase _) fun b => ?bounds) ?_
      case bounds =>
        split
        · exact hmore _ _ _
        · exact .bind (repeatLast_keepsCase _ _ _ _) fun _ => hmore _ _ _
      refine .ite (.get_bind fun _ _ => .bind (h.group _ _ _) fun b => ?_) (hmore _ _ _)
      split <;> exact hmore _ _ _

/-- A group that encloses alternatives. -/
theorem enclosed {β : Type} (verbose : Bool) (start : Nat) (k : List Node → β) : KeepsCase (do
    let body ← Parser.alternatives verbose true fuel []
    closeParenthesis start
    return k body) :=
  .bind (h.alternatives _ _ _) fun _ => .bind (closeParenthesis_keepsCase _) fun _ => .pure _

/-- A look behind: it only keeps note of the groups that were opened before it. -/
theorem lookBehind (verbose : Bool) (start : Nat) (before : Option Nat) (k : List Node → List Node ⊕ Bool) :
    KeepsCase (do
      if before.isNone then
        modify fun r => { r with lookbehindGroups := some r.widths.size }
      let body ← Parser.alternatives verbose true fuel []
      if before.isNone then
        modify fun r => { r with lookbehindGroups := none }
      closeParenthesis start
      return k body) := by
  refine .onlyIf (.modify fun _ hr => hr) fun _ => .bind (h.alternatives _ _ _) fun body => ?_
  exact .onlyIf (.modify fun _ hr => hr) fun _ => .bind (closeParenthesis_keepsCase _) fun _ => .pure _

theorem group_succ (verbose atStart : Bool) (start : Nat) :
    KeepsCase (Parser.group verbose atStart start (fuel + 1)) := by
  have hcapture (name : Option String) : KeepsCase (do
      let node ← Parser.capture verbose name start fuel
      return Sum.inl [node] : Parser (List Node ⊕ Bool)) :=
    .bind (h.capture _ _ _) fun _ => .pure _
  unfold Parser.group
  refine .bind (accept_keepsCase _) fun _ => .ite (hcapture _) (.bind take_keepsCase fun t => ?_)
  split
  · exact fail_keepsCase _ _
  split
  · exact fail_keepsCase _ _
  -- The extensions, in the order in which they are told apart by their first character.
  refine .ite (.bind (accept_keepsCase _) fun _ => .ite ?named ?backref) (.ite (h.enclosed _ _ _) ?_)
  case named => exact .bind (takeUntil_keepsCase _ _) fun _ => .bind (checkName_keepsCase _ _) fun _ => hcapture _
  case backref =>
    refine .bind (accept_keepsCase _) fun _ => .ite (.bind namedBackref_keepsCase fun _ => .pure _) ?_
    refine .bind take_keepsCase fun u => ?_
    split <;> exact fail_keepsCase _ _
  refine .ite (.bind (comment_keepsCase _ _) fun _ => .pure _) (.ite (h.enclosed _ _ _) (.ite ?behind ?_))
  case behind =>
    refine .bind take_keepsCase fun u => ?_
    split
    · exact fail_keepsCase _ _
    · exact .ite (.get_bind fun r _ => h.lookBehind _ _ _ _) (fail_keepsCase _ _)
  refine .ite (.bind conditionGroup_keepsCase fun g => ?condition) (.ite (h.enclosed _ _ _) (.ite ?flags ?_))
  case condition =>
    refine .bind (h.sequence _ _ _) fun yes => .bind (accept_keepsCase _) fun _ => .ite ?_ ?_
    · exact .bind (h.sequence _ _ _) fun no => .bind (sees_keepsCase _) fun _ =>
        .onlyIf (fail_keepsCase _ _) fun _ => .bind (closeParenthesis_keepsCase _) fun _ => .pure _
    · exact .bind (closeParenthesis_keepsCase _) fun _ => .pure _
  case flags =>
    -- Flags for the whole pattern are only added here; those of a group reach no further than its nodes.
    refine .bind (inlineFlags_keepsCase _) fun flags => ?_
    split
    · exact .onlyIf (.throw _) fun _ => .get_bind fun _ _ => .pure _
    · exact h.enclosed _ _ _
  exact fail_keepsCase _ _

theorem capture_succ (verbose : Bool) (name : Option String) (start : Nat) :
    KeepsCase (Parser.capture verbose name start (fuel + 1)) := by
  unfold Parser.capture
  exact .bind (openGroup_keepsCase _) fun _ => .bind (h.alternatives _ _ _) fun _ =>
    .bind (closeParenthesis_keepsCase _) fun _ => .bind (closeGroup_keepsCase _ _) fun _ => .pure _

end GrammarKeepsCase

/-- Each level of the grammar hands less fuel to the levels it calls, so that one induction carries all four. -/
theorem grammar_keepsCase (fuel : Nat) : GrammarKeepsCase fuel := by
  induction fuel with
  | zero =>
    exact ⟨fun _ _ _ => fail_keepsCase _ _, fun _ _ _ => fail_keepsCase _ _, fun _ _ _ => fail_keepsCase _ _,
      fun _ _ _ => fail_keepsCase _ _⟩
  | succ fuel ih => exact ⟨ih.alternatives_succ, ih.sequence_succ, ih.group_succ, ih.capture_succ⟩

theorem pattern_keepsCase (fuel : Nat) : KeepsCase (pattern fuel) := by
  refine .bind ((grammar_keepsCase fuel).alternatives _ _ _) fun nodes => .get_bind fun r _ => ?_
  refine .onlyIf (.throw _) fun _ => .onlyIf (fail_keepsCase _ _) fun _ => ?_
  split
  · exact .bind (.throw _) fun _ => .pure _
  · exact .pure _

end Parser

/-- **Case is ignored in every pattern that is read**, except where a group turns this off. -/
theorem ignoreCase_of_parse {source : String} {p : Parsed} (h : parse source = .ok p) :
    p.flags.ignoreCase = true := by
  unfold parse at h
  dsimp only at h
  split at h
  · cases h
  · obtain ⟨⟨nodes, r⟩, hread, hp⟩ := exists_of_bind_eq_ok h
    rw [← Except.ok.inj hp]
    exact (Parser.pattern_keepsCase _).keeps _ nodes r hread rfl

end Triage.Pattern
