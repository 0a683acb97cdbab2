import Triage.Pattern.Basic
import Triage.Proofs.Pattern.Flags
import Triage.Proofs.Text.LetterCase

/-!
# Patterns without regard to case

A pattern none of whose groups turns the flag off under which case is ignored gives the same answer on two texts that
differ at most in the case of ASCII letters.

* `Pattern.RestoresCase`: some group of the pattern turns the flag off.
* `CharTest.Blind`, `Step.Blind`: tests and steps that cannot tell such texts apart.
* `Flags.literal_blind`, `Flags.set_blind`: **every test of a character** that is made while case is ignored is blind.
* `Step.ofNodes_blind`: so is every step of the program, by induction on the syntax tree.
* `Step.Blind.run_eq`: **a blind step takes the same way** through both texts, by induction on the step.
* `Pattern.search_eq`: the two put together.
-/

namespace Triage.Pattern

open Triage.Text

/-! ## Groups that turn the flag off -/

mutual

/-- Whether some group of the node turns the flag off under which case is ignored. -/
def Node.restoresCase : Node → Bool
  | .literal _ | .notLiteral _ | .set _ _ | .any | .anchor _ | .backref _ => false
  | .branch choices => Node.choicesRestoreCase choices
  | .repeated _ _ _ body | .atomic body | .look _ _ body => Node.listRestoresCase body
  | .group _ _ off body => off.ignoreCase || Node.listRestoresCase body
  | .ifGroup _ yes no => Node.listRestoresCase yes ||
    match no with
    | some nodes => Node.listRestoresCase nodes
    | none => false

/-- Whether some group of the sequence does. -/
def Node.listRestoresCase : List Node → Bool
  | [] => false
  | n :: ns => n.restoresCase || Node.listRestoresCase ns

/-- Whether some group of the alternatives does. -/
def Node.choicesRestoreCase : List (List Node) → Bool
  | [] => false
  | c :: cs => Node.listRestoresCase c || Node.choicesRestoreCase cs

end

/-- Some group of the pattern turns the flag off under which case is ignored. -/
def RestoresCase (p : Pattern) : Prop := ∃ parsed, parse p.source = .ok parsed ∧ Node.listRestoresCase parsed.nodes = true

/-- Whether a pattern does shows when its source is read. -/
instance (p : Pattern) : Decidable p.RestoresCase :=
  match h : parse p.source with
  | .ok parsed => decidable_of_iff (Node.listRestoresCase parsed.nodes = true)
      ⟨fun hr => ⟨parsed, h, hr⟩, fun ⟨_, hq, hr⟩ => Except.ok.inj (h.symm.trans hq) ▸ hr⟩
  | .error _ => .isFalse fun ⟨_, hq, _⟩ => by
    rw [h] at hq
    cases hq

/-! ## Tests of one character -/

/-- The test gives the same for characters that differ in the case of a letter. -/
def CharTest.Blind (t : CharTest) : Prop := ∀ ⦃c d⦄, SameLetter c d → t.holds c = t.holds d

section Tests

variable {rule : CaseRule} {c d : Char}

theorem Kind.holds_eq (ascii : Bool) (k : Kind) (h : SameLetter c d) : k.holds ascii c = k.holds ascii d := by
  refine h.eq_of_letters ?_
  cases k <;> cases ascii <;> decide +kernel

theorem lowerChar_eq (hrule : rule ≠ .exact) (h : SameLetter c d) : rule.lowerChar c = rule.lowerChar d := by
  refine h.eq_of_letters ?_
  cases rule with
  | exact => exact absurd rfl hrule
  | ascii => decide +kernel
  | full => decide +kernel

theorem lower_eq (hrule : rule ≠ .exact) (h : SameLetter c d) : rule.lower c.toNat = rule.lower d.toNat := by
  refine SameLetter.eq_of_letters (f := fun c => rule.lower c.toNat) ?_ h
  cases rule with
  | exact => exact absurd rfl hrule
  | ascii => decide +kernel
  | full => decide +kernel

/-- Letters depend on case. -/
theorem isSensitive_of_isLetterPoint (hrule : rule ≠ .exact) {n : Nat} (h : IsLetterPoint n) :
    rule.isSensitive n = true := by
  have hletters : ∀ k < 26, rule.isSensitive (0x41 + k) = true ∧ rule.isSensitive (0x61 + k) = true := by
    cases rule with
    | exact => exact absurd rfl hrule
    | ascii => decide +kernel
    | full => decide +kernel
  rcases h with h | h
  · have := (hletters (n - 0x41) (by omega)).1
    rwa [Nat.add_sub_cancel' h.1] at this
  · have := (hletters (n - 0x61) (by omega)).2
    rwa [Nat.add_sub_cancel' h.1] at this

/-- Ranges with a letter depend on case. -/
theorem isSensitiveRange_of_isLetterPoint (hrule : rule ≠ .exact) {a b n : Nat} (h : IsLetterPoint n) (ha : a ≤ n)
    (hb : n ≤ b) : rule.isSensitiveRange a b = true := by
  have hletters : (rangesMeet a b 0x41 0x5a || rangesMeet a b 0x61 0x7a) = true := by
    unfold rangesMeet
    unfold IsLetterPoint at h
    rw [Bool.or_eq_true, decide_eq_true_iff, decide_eq_true_iff]
    omega
  unfold CaseRule.isSensitiveRange
  dsimp only
  rw [hletters]
  cases rule with
  | exact => exact absurd rfl hrule
  | ascii => rfl
  | full => rfl

/-- An item that does not make its set depend on case has no letter of its own. -/
theorem SetItem.holds_eq (hrule : rule ≠ .exact) (ascii : Bool) {item : SetItem}
    (hitem : item.isSensitive rule = false) (h : SameLetter c d) : item.holds ascii c = item.holds ascii d := by
  cases item with
  | literal n =>
    refine h.eq_of_no_letter (p := (· == n)) fun m hm => ?_
    by_contra hmn
    have hmn : m = n := by simpa using hmn
    rw [SetItem.isSensitive, isSensitive_of_isLetterPoint hrule (hmn ▸ hm), Bool.or_true] at hitem
    cases hitem
  | range a b =>
    refine h.eq_of_no_letter (p := fun m => a ≤ m && m ≤ b) fun m hm => ?_
    by_contra hmn
    have hmn : a ≤ m ∧ m ≤ b := by simpa using hmn
    rw [SetItem.isSensitive, isSensitiveRange_of_isLetterPoint hrule hm hmn.1 hmn.2, Bool.or_true] at hitem
    cases hitem
  | kind k negated =>
    show (k.holds ascii c != negated) = (k.holds ascii d != negated)
    rw [Kind.holds_eq ascii k h]

end Tests

section Flags

variable {f : Flags}

theorem Flags.rule_ne_exact (h : f.ignoreCase = true) : f.rule ≠ .exact := by
  unfold Flags.rule
  rw [h]
  cases f.unicode <;> simp

/-- **The test for a literal** is blind while case is ignored. -/
theorem Flags.literal_blind (hf : f.ignoreCase = true) (n : Nat) (negated : Bool) :
    (f.literal n negated).Blind := by
  intro c d h
  have hrule := rule_ne_exact hf
  unfold Flags.literal
  split
  · unfold CharTest.holds
    dsimp only
    rw [lower_eq hrule h]
  · next hsensitive =>
    -- what does not depend on case is no letter
    have hequals : (c.toNat == n) = (d.toNat == n) := by
      refine h.eq_of_no_letter (p := (· == n)) fun m hm => ?_
      by_contra hmn
      have hmn : m = n := by simpa using hmn
      exact hsensitive (isSensitive_of_isLetterPoint hrule (hmn ▸ hm))
    split
    · show (!(c.toNat == n)) = !(d.toNat == n)
      rw [hequals]
    · exact hequals

/-- **The test for a set** is blind while case is ignored. -/
theorem Flags.set_blind (hf : f.ignoreCase = true) (negated : Bool) (items : List SetItem) :
    (f.set negated items).Blind := by
  intro c d h
  have hrule := rule_ne_exact hf
  unfold Flags.set
  split
  · unfold CharTest.holds
    dsimp only
    rw [lowerChar_eq hrule h]
  · next hsensitive =>
    have hitems : ∀ item ∈ items, item.holds (!f.unicode) c = item.holds (!f.unicode) d := by
      intro item hitem
      refine SetItem.holds_eq hrule _ ?_ h
      by_contra htrue
      exact hsensitive (List.any_eq_true.2 ⟨item, hitem, by simpa using htrue⟩)
    have hany : items.any (·.holds (!f.unicode) c) = items.any (·.holds (!f.unicode) d) := by
      rw [Bool.eq_iff_iff, List.any_eq_true, List.any_eq_true]
      exact exists_congr fun item => and_congr_right fun hitem => by rw [hitems item hitem]
    show (items.any (·.holds (!f.unicode) c) != negated) = (items.any (·.holds (!f.unicode) d) != negated)
    rw [hany]

end Flags

theorem CharTest.any_blind : CharTest.any.Blind := fun _ _ _ => rfl

theorem CharTest.anyInLine_blind : CharTest.anyInLine.Blind := by
  intro c d h
  refine h.eq_of_letters (f := (· != '\n')) ?_
  decide

/-! ## Steps -/

/-- A step all of whose tests are blind. A repetition of what a group matched compares without regard to case. -/
inductive Step.Blind : Step → Prop where
  | one {test : CharTest} (h : test.Blind) : Blind (.one test)
  | place (p : Place) : Blind (.place p)
  | branch {choices : List (List Step)} (h : ∀ c ∈ choices, ∀ s ∈ c, Blind s) : Blind (.branch choices)
  | repeated (least : Nat) (most : Option Nat) (appetite : Appetite) {body : List Step} (h : ∀ s ∈ body, Blind s) :
    Blind (.repeated least most appetite body)
  | group (index : Nat) {body : List Step} (h : ∀ s ∈ body, Blind s) : Blind (.group index body)
  | atomic {body : List Step} (h : ∀ s ∈ body, Blind s) : Blind (.atomic body)
  | ahead (negated : Bool) {body : List Step} (h : ∀ s ∈ body, Blind s) : Blind (.ahead negated body)
  | behind (width : Nat) (negated : Bool) {body : List Step} (h : ∀ s ∈ body, Blind s) :
    Blind (.behind width negated body)
  | backref {rule : CaseRule} (h : rule ≠ .exact) (g : Nat) : Blind (.backref rule g)
  | ifGroup (g : Nat) {yes no : List Step} (hyes : ∀ s ∈ yes, Blind s) (hno : ∀ s ∈ no, Blind s) :
    Blind (.ifGroup g yes no)

section Program

variable {groups : Nat → Width}

theorem Flags.enter_ignoreCase {f on off : Flags} (hf : f.ignoreCase = true) (hoff : off.ignoreCase = false) :
    (f.enter on off).ignoreCase = true := by
  unfold Flags.enter Flags.union Flags.diff
  cases on.hasType <;> simp [hf, hoff]

/-- A node of one step. -/
theorem Step.blind_of_mem_singleton {s : Step} (h : s.Blind) {steps : List Step}
    (hsteps : (.ok [s] : Except Failure (List Step)) = .ok steps) : ∀ s ∈ steps, s.Blind := by
  cases hsteps
  intro s' hs'
  rwa [List.mem_singleton.1 hs']

mutual

/-- **The steps of a node are blind** while case is ignored and no group within turns that off. -/
theorem Step.ofNode_blind {f : Flags} (hf : f.ignoreCase = true) :
    ∀ (n : Node) {steps : List Step}, n.restoresCase = false → Step.ofNode groups f n = .ok steps →
      ∀ s ∈ steps, s.Blind
  | .literal n, _, _, h => blind_of_mem_singleton (.one (Flags.literal_blind hf n false)) h
  | .notLiteral n, _, _, h => blind_of_mem_singleton (.one (Flags.literal_blind hf n true)) h
  | .set negated items, _, _, h => blind_of_mem_singleton (.one (Flags.set_blind hf negated items)) h
  | .any, _, _, h => by
    refine blind_of_mem_singleton (.one ?_) h
    split
    · exact CharTest.any_blind
    · exact CharTest.anyInLine_blind
  | .anchor a, _, _, h => blind_of_mem_singleton (.place _) h
  | .backref g, _, _, h => blind_of_mem_singleton (.backref (Flags.rule_ne_exact hf) g) h
  | .branch choices, _, hn, h => by
    obtain ⟨cs, hcs, h⟩ := exists_of_bind_eq_ok h
    exact blind_of_mem_singleton (.branch (ofChoices_blind hf choices hn hcs)) h
  | .repeated least most appetite body, _, hn, h => by
    unfold Step.ofNode at h
    dsimp only at h
    split at h
    · cases h
    · obtain ⟨steps, hsteps, h⟩ := exists_of_bind_eq_ok h
      exact blind_of_mem_singleton (.repeated least most appetite (ofNodes_blind hf body hn hsteps)) h
  | .group index on off body, _, hn, h => by
    have hparts : off.ignoreCase = false ∧ Node.listRestoresCase body = false := by
      simpa [Node.restoresCase] using hn
    obtain ⟨steps, hsteps, h⟩ := exists_of_bind_eq_ok h
    have hbody := ofNodes_blind (Flags.enter_ignoreCase hf hparts.1) body hparts.2 hsteps
    cases index with
    | some g => exact blind_of_mem_singleton (.group g hbody) h
    | none =>
      -- A group that captures nothing is no step of its own.
      cases h
      exact hbody
  | .atomic body, _, hn, h => by
    obtain ⟨steps, hsteps, h⟩ := exists_of_bind_eq_ok h
    exact blind_of_mem_singleton (.atomic (ofNodes_blind hf body hn hsteps)) h
  | .look false negated body, _, hn, h => by
    obtain ⟨steps, hsteps, h⟩ := exists_of_bind_eq_ok h
    exact blind_of_mem_singleton (.ahead negated (ofNodes_blind hf body hn hsteps)) h
  | .look true negated body, _, hn, h => by
    unfold Step.ofNode at h
    dsimp only at h
    split at h
    · cases h
    · split at h
      · cases h
      · obtain ⟨steps, hsteps, h⟩ := exists_of_bind_eq_ok h
        exact blind_of_mem_singleton (.behind _ negated (ofNodes_blind hf body hn hsteps)) h
  | .ifGroup g yes none, _, hn, h => by
    have hyes : Node.listRestoresCase yes = false := by simpa [Node.restoresCase] using hn
    obtain ⟨ys, hys, h⟩ := exists_of_bind_eq_ok h
    exact blind_of_mem_singleton (.ifGroup g (ofNodes_blind hf yes hyes hys) (by simp)) h
  | .ifGroup g yes (some no), _, hn, h => by
    have hparts : Node.listRestoresCase yes = false ∧ Node.listRestoresCase no = false := by
      simpa [Node.restoresCase] using hn
    obtain ⟨ys, hys, h⟩ := exists_of_bind_eq_ok h
    obtain ⟨ns, hns, h⟩ := exists_of_bind_eq_ok h
    exact blind_of_mem_singleton
      (.ifGroup g (ofNodes_blind hf yes hparts.1 hys) (ofNodes_blind hf no hparts.2 hns)) h

/-- The steps of a sequence are blind. -/
theorem Step.ofNodes_blind {f : Flags} (hf : f.ignoreCase = true) :
    ∀ (ns : List Node) {steps : List Step}, Node.listRestoresCase ns = false → Step.ofNodes groups f ns = .ok steps →
      ∀ s ∈ steps, s.Blind
  | [], _, _, h => by
    cases h
    simp
  | n :: ns, _, hn, h => by
    have hparts : n.restoresCase = false ∧ Node.listRestoresCase ns = false := by
      simpa [Node.listRestoresCase] using hn
    obtain ⟨first, hfirst, h⟩ := exists_of_bind_eq_ok h
    obtain ⟨rest, hrest, h⟩ := exists_of_bind_eq_ok h
    cases h
    intro s hs
    rcases List.mem_append.1 hs with hs | hs
    · exact ofNode_blind hf n hparts.1 hfirst s hs
    · exact ofNodes_blind hf ns hparts.2 hrest s hs

/-- The steps of alternatives are blind. -/
theorem Step.ofChoices_blind {f : Flags} (hf : f.ignoreCase = true) :
    ∀ (cs : List (List Node)) {steps : List (List Step)}, Node.choicesRestoreCase cs = false →
      Step.ofChoices groups f cs = .ok steps → ∀ c ∈ steps, ∀ s ∈ c, s.Blind
  | [], _, _, h => by
    cases h
    simp
  | c :: cs, _, hn, h => by
    have hparts : Node.listRestoresCase c = false ∧ Node.choicesRestoreCase cs = false := by
      simpa [Node.choicesRestoreCase] using hn
    obtain ⟨first, hfirst, h⟩ := exists_of_bind_eq_ok h
    obtain ⟨rest, hrest, h⟩ := exists_of_bind_eq_ok h
    cases h
    intro d hd
    rcases List.mem_cons.1 hd with rfl | hd
    · exact ofNodes_blind hf c hparts.1 hfirst
    · exact ofChoices_blind hf cs hparts.2 hrest d hd

end

end Program

/-! ## Matching -/

/-- Two texts of the same length whose characters differ at most in the case of letters. -/
def Alike (text text' : Array Char) : Prop := List.Forall₂ SameLetter text.toList text'.toList

section Matching

variable {text text' : Array Char}

theorem Alike.size_eq (h : Alike text text') : text.size = text'.size := by
  have := h.length_eq
  simpa using this

/-- At each place both texts end, or have characters that differ at most in the case of a letter. -/
theorem Alike.rel (h : Alike text text') (i : Nat) : Option.Rel SameLetter text[i]? text'[i]? := by
  have hlists : ∀ {cs cs' : List Char}, List.Forall₂ SameLetter cs cs' → ∀ i : Nat, Option.Rel SameLetter cs[i]? cs'[i]? := by
    intro cs cs' h
    induction h with
    | nil => exact fun _ => .none
    | cons hc _ ih =>
      intro i
      cases i with
      | zero => exact .some hc
      | succ i => exact ih i
  have := hlists h i
  rwa [Array.getElem?_toList, Array.getElem?_toList] at this

theorem Alike.any_eq (h : Alike text text') (i : Nat) {p : Char → Bool}
    (hp : ∀ ⦃c d⦄, SameLetter c d → p c = p d) : (text[i]?).any p = (text'[i]?).any p := by
  have hrel := h.rel i
  generalize text[i]? = o, text'[i]? = o' at hrel
  cases hrel with
  | none => rfl
  | some hc => exact hp hc

/-- No letter ends a line. -/
theorem Alike.lineFeed_eq (h : Alike text text') (i : Nat) :
    (text[i]? == some '\n') = (text'[i]? == some '\n') := by
  have hfeed (o : Option Char) : (o == some '\n') = o.any (· == '\n') := by
    cases o <;> rfl
  rw [hfeed, hfeed]
  refine h.any_eq i fun c d hcd => ?_
  refine hcd.eq_of_letters (f := (· == '\n')) ?_
  decide

/-- **Conditions on a place** hold in both texts or in none. -/
theorem Place.holds_eq (h : Alike text text') (i : Nat) (p : Place) : p.holds text i = p.holds text' i := by
  unfold Place.holds
  cases p with
  | boundary ascii negated =>
    have hword (i : Nat) : (text[i]?).any (Kind.word.holds ascii) = (text'[i]?).any (Kind.word.holds ascii) :=
      h.any_eq i fun _ _ hcd => Kind.holds_eq ascii .word hcd
    simp only [hword, h.size_eq]
  | _ => simp only [h.lineFeed_eq, h.size_eq]

theorem repeatsAt_eq (h : Alike text text') {rule : CaseRule} (hrule : rule ≠ .exact) (source i n : Nat) :
    repeatsAt text rule source i n = repeatsAt text' rule source i n := by
  unfold repeatsAt
  refine congrArg (List.all _) (funext fun k => ?_)
  have hsource := h.rel (source + k)
  have hplace := h.rel (i + k)
  generalize text[source + k]? = a, text'[source + k]? = a', text[i + k]? = b, text'[i + k]? = b' at hsource hplace
  -- Each text is compared with itself, so that both characters may differ in case between the texts.
  cases hsource with
  | none => rfl
  | some ha =>
    cases hplace with
    | none => rfl
    | some hb =>
      dsimp only
      rw [lower_eq hrule ha, lower_eq hrule hb]

theorem rounds_eq (h : Alike text text') (least : Nat) : rounds text least = rounds text' least := by
  funext s
  unfold rounds
  rw [h.size_eq]

/-! ### Sequences and alternatives -/

theorem Step.runAll_eq {body : List Step} (h : ∀ s ∈ body, Step.run text s = Step.run text' s) :
    Step.runAll text body = Step.runAll text' body := by
  induction body with
  | nil => rfl
  | cons p ps ih =>
    funext s k
    rw [Step.runAll, Step.runAll, h p (by simp), ih fun q hq => h q (by simp [hq])]

theorem Step.runChoices_eq {choices : List (List Step)}
    (h : ∀ c ∈ choices, ∀ s ∈ c, Step.run text s = Step.run text' s) :
    Step.runChoices text choices = Step.runChoices text' choices := by
  induction choices with
  | nil => rfl
  | cons c cs ih =>
    funext s k
    rw [Step.runChoices, Step.runChoices, runAll_eq (h c (by simp)), ih fun d hd => h d (by simp [hd])]

/-- **A blind step takes the same way** through both texts, from every state and whatever comes after it. -/
theorem Step.Blind.run_eq (htext : Alike text text') {p : Step} (h : p.Blind) : Step.run text p = Step.run text' p := by
  induction h with
  | one htest =>
    funext s k
    rw [Step.run, Step.run, htext.any_eq s.position htest]
  | place p =>
    funext s k
    rw [Step.run, Step.run, Place.holds_eq htext]
  | branch _ ih =>
    funext s k
    rw [Step.run, Step.run, runChoices_eq ih]
  | repeated least most appetite _ ih =>
    funext s k
    rw [Step.run, Step.run, runAll_eq ih, rounds_eq htext]
  | group g _ ih =>
    funext s k
    rw [Step.run, Step.run, runAll_eq ih]
  | atomic _ ih =>
    funext s k
    rw [Step.run, Step.run, runAll_eq ih]
  | ahead negated _ ih =>
    funext s k
    simp only [Step.run, runAll_eq ih]
  | behind width negated _ ih =>
    funext s k
    simp only [Step.run, runAll_eq ih]
  | backref hrule g =>
    funext s k
    rw [Step.run, Step.run]
    simp only [repeatsAt_eq htext hrule]
  | ifGroup g _ _ ihyes ihno =>
    funext s k
    rw [Step.run, Step.run, runAll_eq ihyes, runAll_eq ihno]

theorem Program.search_eq {p : Program} (h : ∀ s ∈ p.steps, s.Blind) {s t : String} (hst : SameLetters s t) :
    p.search s = p.search t := by
  have halike : Alike s.toList.toArray t.toList.toArray := hst
  have hrun := Step.runAll_eq fun q hq => (h q hq).run_eq halike
  unfold Program.search Program.matchesAt
  dsimp only
  rw [hrun, halike.size_eq]

end Matching

/-! ## Patterns -/

/-- The program of a pattern is blind. -/
theorem blind_of_not_restoresCase {p : Pattern} (h : ¬ p.RestoresCase) : ∀ s ∈ p.program.steps, s.Blind := by
  obtain ⟨parsed, hparsed, hrest⟩ := exists_of_bind_eq_ok p.compiles
  obtain ⟨steps, hsteps, hprogram⟩ := exists_of_bind_eq_ok hrest
  have hnodes : Node.listRestoresCase parsed.nodes = false := by
    by_contra hrestores
    exact h ⟨parsed, hparsed, by simpa using hrestores⟩
  rw [← Except.ok.inj hprogram]
  exact Step.ofNodes_blind (ignoreCase_of_parse hparsed) parsed.nodes hnodes hsteps

/-- **The search ignores case**, in whatever constructs the pattern is written, unless a group turns this off. -/
theorem search_eq {p : Pattern} (h : ¬ p.RestoresCase) {s t : String} (hst : SameLetters s t) :
    p.search s = p.search t :=
  Program.search_eq (blind_of_not_restoresCase h) hst

/-- Within such a group case counts again. -/
example : (compile "a (?-i:disk)").toOption.map (fun p => (p.search "A disk", p.search "A DISK")) =
    some (true, false) := by decide +kernel

end Triage.Pattern
