import Triage.Proofs.Log.Ticket
import Triage.Proofs.Observer.LogContext

/-!
# Receipts restore exactly

Callers set parts of the context, take receipts back in any order or never, clear the context, and make requests of an
observer in between.

* `Operation`, `Observer.perform`, `Observer.performAll`: what a caller does, and a whole run of that.
* `outstanding_performed`, `used_performed`: a receipt stays good until it is taken back, and never is again.
* `restore_of_outstanding`, `restore_of_used`: what taking it back restores, and that it is refused the next time.
* `Nested`: properly nested blocks; `Nested.keeps`: **a block leaves alone what is not covered around it**.
* `Observer.performTickets`: the same, ticket by ticket; `mirrors_performAll`: **it comes to the same**.
* `receipts_restore_exactly`: **a receipt restores what its set covered, once, and nothing else**.
-/

namespace Triage

namespace Log.Book

variable {b : Book} {r : Receipt} {i j : Nat}

/-- A receipt that has not been used is taken back. -/
theorem take_of_outstanding (h : b.handouts[i]? = some ⟨r, false⟩) :
    b.take i = (.ok (), { b with
      context := r.restore b.context
      handouts := b.handouts.set i ⟨r, true⟩ }) := by
  unfold take restore
  rw [h]
  rfl

/-- A receipt that has been used is refused, unless it is for nothing, and **the book stays as it is**. -/
theorem take_of_used (h : b.handouts[i]? = some ⟨r, true⟩) :
    b.take i = (if r.size = 0 then .ok () else .error .used, b) := by
  unfold take restore
  rw [h]
  by_cases hsize : r.size = 0
  · -- it is taken back once more, but there is nothing to put back
    have hrestore : r.restore b.context = b.context := by
      obtain ⟨_ | origin, _ | service⟩ := r
      · rfl
      · cases hsize
      · cases hsize
      · cases hsize
    have hsame : b.handouts.set i ⟨r, true⟩ = b.handouts := by
      obtain ⟨hi, hget⟩ := List.getElem?_eq_some_iff.1 h
      rw [← hget]
      exact List.set_getElem_self hi
    simp [hsize, hrestore, hsame]
  · simp [hsize]

/-- Taking a receipt back, all receipts stay as they are, or this one alone is another. -/
theorem handouts_take_cases (b : Book) (i : Nat) :
    (b.take i).2.handouts = b.handouts ∨ ∃ h, (b.take i).2.handouts = b.handouts.set i h := by
  unfold take restore
  cases b.handouts[i]? with
  | none => exact .inl rfl
  | some h =>
    by_cases hrefused : (h.used && h.receipt.size != 0) = true
    · dsimp only
      rw [if_pos hrefused]
      exact .inl rfl
    · dsimp only
      rw [if_neg hrefused]
      exact .inr ⟨_, rfl⟩

/-- Taking one receipt back does not touch another one. -/
theorem getElem?_handouts_take (hij : i ≠ j) : (b.take i).2.handouts[j]? = b.handouts[j]? := by
  rcases handouts_take_cases b i with hsame | ⟨h, hset⟩
  · rw [hsame]
  · rw [hset, List.getElem?_set_ne hij]

theorem length_handouts_take (b : Book) (i : Nat) : (b.take i).2.handouts.length = b.handouts.length := by
  rcases handouts_take_cases b i with hsame | ⟨h, hset⟩
  · rw [hsame]
  · rw [hset, List.length_set]

end Log.Book

namespace Observer

open Log (Part given Receipt RestoreError Desk Mirrors)

/-- What a caller does. -/
inductive Operation where
  | set (origin service : Option String)
  | restore (i : Nat)
  | clear
  | request (r : Request)

/-- What is answered to a caller, who need not mind how a request is answered, and the state that is left. -/
def perform (o : Observer) (s : State) : Operation → Except RestoreError Unit × State
  | .set origin service => (.ok (), { s with book := s.book.set origin service })
  | .restore i => ((s.book.take i).1, { s with book := (s.book.take i).2 })
  | .clear => (.ok (), { s with book := s.book.clear })
  | .request r => (.ok (), (o.step r s).2)

/-- The answers to a caller who does several things, and the state that is left. -/
def performAll (o : Observer) (s : State) : List Operation → List (Except RestoreError Unit) × State
  | [] => ([], s)
  | op :: ops =>
    let (answer, s') := o.perform s op
    let (answers, last) := o.performAll s' ops
    (answer :: answers, last)

/-- The state that is left. -/
def performed (o : Observer) (s : State) (ops : List Operation) : State := (o.performAll s ops).2

variable {o : Observer} {s : State} {op : Operation} {ops ops' : List Operation} {r : Receipt} {i : Nat}

theorem performed_cons (o : Observer) (s : State) (op : Operation) (ops : List Operation) :
    o.performed s (op :: ops) = o.performed (o.perform s op).2 ops := rfl

theorem performAll_append (o : Observer) (s : State) (ops ops' : List Operation) :
    o.performAll s (ops ++ ops') =
      ((o.performAll s ops).1 ++ (o.performAll (o.performed s ops) ops').1, o.performed (o.performed s ops) ops') := by
  induction ops generalizing s with
  | nil => rfl
  | cons op ops ih =>
    show ((o.perform s op).1 :: (o.performAll (o.perform s op).2 (ops ++ ops')).1,
      (o.performAll (o.perform s op).2 (ops ++ ops')).2) = _
    rw [ih]
    rfl

theorem performed_append (o : Observer) (s : State) (ops ops' : List Operation) :
    o.performed s (ops ++ ops') = o.performed (o.performed s ops) ops' := by
  unfold performed
  rw [performAll_append]
  rfl

/-! ## One receipt in a run -/

/-- Whatever is done, nothing happens to a receipt that is not taken back. -/
theorem getElem?_handouts_perform (h : i < s.book.handouts.length) (hop : op ≠ .restore i) :
    (o.perform s op).2.book.handouts[i]? = s.book.handouts[i]? := by
  cases op with
  | set origin service => exact List.getElem?_append_left h
  | restore j => exact Log.Book.getElem?_handouts_take fun hji => hop (hji ▸ rfl)
  | clear => rfl
  | request r => exact congrArg (·[i]?) (wrote_step o s r).handouts

/-- A receipt that is **outstanding** stays so until it is taken back. -/
theorem outstanding_performed (h : s.book.handouts[i]? = some ⟨r, false⟩) (hops : .restore i ∉ ops) :
    (o.performed s ops).book.handouts[i]? = some ⟨r, false⟩ := by
  induction ops generalizing s with
  | nil => exact h
  | cons op ops ih =>
    rw [performed_cons]
    refine ih ?_ fun hmem => hops (List.mem_cons_of_mem _ hmem)
    rw [getElem?_handouts_perform (List.getElem?_eq_some_iff.1 h).1 fun hop => hops (hop ▸ List.mem_cons_self)]
    exact h

/-- A receipt that has been **used** stays so, also if it is tried again. -/
theorem used_performed (h : s.book.handouts[i]? = some ⟨r, true⟩) (ops : List Operation) :
    (o.performed s ops).book.handouts[i]? = some ⟨r, true⟩ := by
  induction ops generalizing s with
  | nil => exact h
  | cons op ops ih =>
    rw [performed_cons]
    refine ih ?_
    by_cases hop : op = .restore i
    · -- it is refused, or is for nothing: the book stays as it is either way
      subst hop
      show (s.book.take i).2.handouts[i]? = _
      rwa [Log.Book.take_of_used h]
    · rwa [getElem?_handouts_perform (List.getElem?_eq_some_iff.1 h).1 hop]

/-- The receipt of a set. -/
theorem getElem?_handouts_set (o : Observer) (s : State) (origin service : Option String) :
    (o.perform s (.set origin service)).2.book.handouts[s.book.handouts.length]? =
      some ⟨(s.book.context.set origin service).2, false⟩ := by
  show (s.book.handouts ++ [_])[s.book.handouts.length]? = _
  rw [List.getElem?_append_right (Nat.le_refl _), Nat.sub_self]
  rfl

/-- Taken back, an outstanding receipt of a set **restores what the set covered**, and is used from there on. -/
theorem restore_of_outstanding {context : Log.Context} {origin service : Option String}
    (h : s.book.handouts[i]? = some ⟨(context.set origin service).2, false⟩) :
    (o.perform s (.restore i)).1 = .ok () ∧
      (∀ p, (o.perform s (.restore i)).2.book.context.get p =
        if (given origin service p).isSome then context.get p else s.book.context.get p) ∧
      (o.perform s (.restore i)).2.book.handouts[i]? = some ⟨(context.set origin service).2, true⟩ := by
  have htake := Log.Book.take_of_outstanding h
  have hbook : (o.perform s (.restore i)).2.book = _ := congrArg Prod.snd htake
  refine ⟨congrArg Prod.fst htake, fun p => ?_, ?_⟩
  · rw [hbook]
    refine Log.get_restore.trans ?_
    rw [Log.get_receipt_set]
    cases given origin service p <;> rfl
  · rw [hbook]
    exact List.getElem?_set_self (List.getElem?_eq_some_iff.1 h).1

/-- Taken back again, it is **refused**, unless nothing was set, and nothing changes. -/
theorem restore_of_used {context : Log.Context} {origin service : Option String}
    (h : s.book.handouts[i]? = some ⟨(context.set origin service).2, true⟩) :
    o.perform s (.restore i) = (if origin = none ∧ service = none then .ok () else .error .used, s) := by
  have hrefused := Log.Book.take_of_used h
  simp only [Log.size_receipt_set] at hrefused
  show ((s.book.take i).1, { s with book := (s.book.take i).2 }) = _
  rw [hrefused]

/-! ## Nested blocks -/

/-- A **properly nested** run, from so many receipts to so many, within sets that cover some parts of the context. A
block sets parts, goes on within, and takes its receipt back. Only what is covered is cleared, or set for good. -/
inductive Nested : (Part → Prop) → Nat → List Operation → Nat → Prop where
  | nil {covered : Part → Prop} {n : Nat} : Nested covered n [] n
  | request {covered : Part → Prop} {n m : Nat} {ops : List Operation} (r : Request) (rest : Nested covered n ops m) :
      Nested covered n (.request r :: ops) m
  | clear {covered : Part → Prop} {n m : Nat} {ops : List Operation} (all : ∀ p, covered p)
      (rest : Nested covered n ops m) : Nested covered n (.clear :: ops) m
  | unreset {covered : Part → Prop} {n m : Nat} {ops : List Operation} {origin service : Option String}
      (inside : ∀ p, (given origin service p).isSome = true → covered p) (rest : Nested covered (n + 1) ops m) :
      Nested covered n (.set origin service :: ops) m
  | block {covered : Part → Prop} {n k m : Nat} {inner ops : List Operation} {origin service : Option String}
      (within : Nested (fun p => covered p ∨ (given origin service p).isSome = true) (n + 1) inner k)
      (rest : Nested covered k ops m) : Nested covered n (.set origin service :: (inner ++ .restore n :: ops)) m

/-- What a nested run keeps to: nothing is refused, the receipts from before stay as they are, and so do the parts of
the context that are not covered. -/
structure Keeps (o : Observer) (covered : Part → Prop) (s : State) (ops : List Operation) (m : Nat) : Prop where
  answers : ∀ answer ∈ (o.performAll s ops).1, answer = .ok ()
  length : (o.performed s ops).book.handouts.length = m
  handouts : ∀ j < s.book.handouts.length, (o.performed s ops).book.handouts[j]? = s.book.handouts[j]?
  context : ∀ p, ¬ covered p → (o.performed s ops).book.context.get p = s.book.context.get p

/-- One step that is not refused. -/
theorem Keeps.step {covered : Part → Prop} {m : Nat} (hanswer : (o.perform s op).1 = .ok ())
    (hlength : (o.perform s op).2.book.handouts.length = m)
    (hhandouts : ∀ j < s.book.handouts.length, (o.perform s op).2.book.handouts[j]? = s.book.handouts[j]?)
    (hcontext : ∀ p, ¬ covered p → (o.perform s op).2.book.context.get p = s.book.context.get p) :
    Keeps o covered s [op] m :=
  ⟨fun _ hmem => (List.mem_singleton.1 hmem).trans hanswer, hlength, hhandouts, hcontext⟩

/-- **One run after another.** -/
theorem Keeps.append {covered : Part → Prop} {k m : Nat} (h : Keeps o covered s ops k)
    (h' : Keeps o covered (o.performed s ops) ops' m) : Keeps o covered s (ops ++ ops') m where
  answers answer hmem := by
    rw [performAll_append] at hmem
    rcases List.mem_append.1 hmem with hmem | hmem
    · exact h.answers answer hmem
    · exact h'.answers answer hmem
  length := by
    rw [performed_append]
    exact h'.length
  handouts j hj := by
    have hkept := h.handouts j hj
    -- a receipt that is as it was is still there
    have hlarge : j < (o.performed s ops).book.handouts.length := by
      rw [List.getElem?_eq_getElem hj] at hkept
      exact (List.getElem?_eq_some_iff.1 hkept).1
    rw [performed_append, h'.handouts j hlarge, hkept]
  context p hp := by rw [performed_append, h'.context p hp, h.context p hp]

/-- **A block restores what its set covers**: the receipt is outstanding at its end. -/
theorem Keeps.close {covered : Part → Prop} {k : Nat} {origin service : Option String}
    (h : Keeps o (fun p => covered p ∨ (given origin service p).isSome = true)
      (o.perform s (.set origin service)).2 ops k) :
    Keeps o covered s (.set origin service :: ops ++ [.restore s.book.handouts.length]) k := by
  have hset : (o.perform s (.set origin service)).2.book.handouts.length = s.book.handouts.length + 1 :=
    List.length_append
  have hkept (j : Nat) (hj : j < s.book.handouts.length + 1) := h.handouts j (hset ▸ hj)
  have hreceipt : (o.performed s (.set origin service :: ops)).book.handouts[s.book.handouts.length]? =
      some ⟨(s.book.context.set origin service).2, false⟩ :=
    (hkept _ (Nat.lt_succ_self _)).trans (getElem?_handouts_set o s origin service)
  obtain ⟨hanswer, hcontext, -⟩ := restore_of_outstanding (o := o) hreceipt
  -- taking the receipt back touches no other one, and puts back what was there just before the set
  refine ⟨fun answer hmem => ?_, ?_, fun j hj => ?_, fun p hp => ?_⟩
  · rw [performAll_append] at hmem
    rcases List.mem_append.1 hmem with hmem | hmem
    · rcases List.mem_cons.1 hmem with rfl | hmem
      · rfl
      · exact h.answers answer hmem
    · rw [List.mem_singleton.1 hmem]
      exact hanswer
  · rw [performed_append]
    exact (Log.Book.length_handouts_take _ _).trans h.length
  · rw [performed_append]
    refine (Log.Book.getElem?_handouts_take (Nat.ne_of_gt hj)).trans ?_
    exact (hkept j (Nat.lt_succ_of_lt hj)).trans (List.getElem?_append_left hj)
  · rw [performed_append]
    refine (hcontext p).trans ?_
    split
    · rfl
    · next hgiven =>
      -- what the set does not cover was not touched within the block either
      refine (h.context p (by simpa [hp] using hgiven)).trans (Log.get_set.trans ?_)
      rw [Option.isSome_iff_ne_none, not_not] at hgiven
      rw [hgiven]
      rfl

/-- **A nested run keeps to what is covered around it.** -/
theorem Nested.keeps {covered : Part → Prop} {n m : Nat} (h : Nested covered n ops m) (o : Observer) (s : State)
    (hn : s.book.handouts.length = n) : Keeps o covered s ops m := by
  induction h generalizing s with
  | nil => exact ⟨fun _ h => (nomatch h), hn, fun _ _ => rfl, fun _ _ => rfl⟩
  | @request covered n m ops r rest ih =>
    have hwrote := wrote_step o s r
    have hlength : (o.perform s (.request r)).2.book.handouts.length = n :=
      (congrArg List.length hwrote.handouts).trans hn
    refine (Keeps.step rfl hlength (fun j _ => ?_) fun p _ => ?_).append (ih _ hlength)
    · exact congrArg (·[j]?) hwrote.handouts
    · exact congrArg (·.get p) hwrote.context
  | @clear covered n m ops all rest ih =>
    have hlength : (o.perform s .clear).2.book.handouts.length = n := hn
    exact (Keeps.step rfl hlength (fun _ _ => rfl) fun p hp => absurd (all p) hp).append (ih _ hlength)
  | @unreset covered n m ops origin service inside rest ih =>
    have hlength : (o.perform s (.set origin service)).2.book.handouts.length = n + 1 :=
      List.length_append.trans (congrArg (· + 1) hn)
    refine (Keeps.step rfl hlength (fun j hj => List.getElem?_append_left hj) fun p hp => ?_).append (ih _ hlength)
    have hnone : given origin service p = none := by
      rw [Option.eq_none_iff_forall_ne_some]
      intro a ha
      exact hp (inside p (by rw [ha]; rfl))
    refine Log.get_set.trans ?_
    rw [hnone]
    rfl
  | @block covered n k m inner ops origin service within rest ihin ihrest =>
    -- what goes on within is covered by more than what is around it, until the receipt is taken back
    subst hn
    have hclosed := Keeps.close (ihin _ List.length_append)
    have happend := hclosed.append (ihrest _ hclosed.length)
    rwa [List.append_assoc] at happend

/-! ## Ticket by ticket -/

/-- What is answered, and what becomes of the variables and the tickets: a recording step sets both variables and takes
its own tickets back. -/
def performTickets (o : Observer) (s : State) (d : Desk) : Operation → Except RestoreError Unit × Desk
  | .set origin service => (.ok (), d.set origin service)
  | .restore i => d.restore i
  | .clear => (.ok (), d.clear)
  | .request r => (.ok (), (o.recordingOf s r).elim d fun x => d.visit x.series.source x.series.service)

/-- The answers to a caller who does several things, and the variables and tickets that are left. -/
def performAllTickets (o : Observer) (s : State) (d : Desk) : List Operation → List (Except RestoreError Unit) × Desk
  | [] => ([], d)
  | op :: ops =>
    let (answer, d') := o.performTickets s d op
    let (answers, last) := o.performAllTickets (o.perform s op).2 d' ops
    (answer :: answers, last)

variable {d : Desk}

/-- **Each step** is answered alike ticket by ticket, and leaves the same context. -/
theorem mirrors_perform (hm : Mirrors d s.book) (op : Operation) :
    (o.performTickets s d op).1 = (o.perform s op).1 ∧
      Mirrors (o.performTickets s d op).2 (o.perform s op).2.book := by
  cases op with
  | set origin service => exact ⟨rfl, hm.set origin service⟩
  | restore i => exact hm.restore i
  | clear => exact ⟨rfl, hm.clear⟩
  | request r =>
    have hwrote := wrote_step o s r
    have hvisit : (o.performTickets s d (.request r)).2 = d := by
      show (o.recordingOf s r).elim d _ = d
      cases o.recordingOf s r with
      | none => rfl
      | some x => exact Log.visit_eq d _ _
    rw [hvisit]
    refine ⟨rfl, hm.context.trans hwrote.context.symm, ?_, fun i ts h hts hh => hm.standsFor i ts h hts ?_⟩
    · exact hm.length.trans (congrArg List.length hwrote.handouts).symm
    · rw [← hh]
      exact (congrArg (·[i]?) hwrote.handouts).symm

/-- **A whole run** comes to the same. -/
theorem mirrors_performAll (hm : Mirrors d s.book) (ops : List Operation) :
    (o.performAllTickets s d ops).1 = (o.performAll s ops).1 ∧
      Mirrors (o.performAllTickets s d ops).2 (o.performed s ops).book := by
  induction ops generalizing s d with
  | nil => exact ⟨rfl, hm⟩
  | cons op ops ih =>
    obtain ⟨hanswer, hstep⟩ := mirrors_perform (o := o) hm op
    obtain ⟨hanswers, hrun⟩ := ih hstep
    exact ⟨congrArg₂ List.cons hanswer hanswers, hrun⟩

/-! ## All receipts -/

/-- **A receipt restores exactly what its set covered**, in whatever state the set is made:

* whatever is done before the receipt is taken back, that is answered, each part that was given is what it was just
  before the set, and the other one stays as it is;
* whatever is done after that, a receipt for something is refused when it is taken back again, and one for nothing is
  not; nothing changes in either case;
* a properly nested run is never refused, and leaves both parts of the context as they were;
* the same comes about ticket by ticket: all answers are alike, and so is the context, so that no receipt is taken
  back by half. -/
theorem receipts_restore_exactly (o : Observer) (s : State) :
    (∀ origin service ops s', .restore s.book.handouts.length ∉ ops →
      o.performed s (.set origin service :: ops) = s' →
        (o.perform s' (.restore s.book.handouts.length)).1 = .ok () ∧
        (∀ p, (o.perform s' (.restore s.book.handouts.length)).2.book.context.get p =
          if (given origin service p).isSome then s.book.context.get p else s'.book.context.get p) ∧
        ∀ later s'', o.performed s' (.restore s.book.handouts.length :: later) = s'' →
          o.perform s'' (.restore s.book.handouts.length) =
            (if origin = none ∧ service = none then .ok () else .error .used, s'')) ∧
      (∀ ops m, Nested (fun _ => False) s.book.handouts.length ops m →
        (∀ answer ∈ (o.performAll s ops).1, answer = .ok ()) ∧
          (o.performed s ops).book.context = s.book.context) ∧
      ∀ d, Mirrors d s.book → ∀ ops, (o.performAllTickets s d ops).1 = (o.performAll s ops).1 ∧
        (o.performAllTickets s d ops).2.values.context = (o.performed s ops).book.context := by
  refine ⟨fun origin service ops s' hops hs' => ?_, fun ops m h => ?_, fun d hm ops => ?_⟩
  · have hreceipt : s'.book.handouts[s.book.handouts.length]? =
        some ⟨(s.book.context.set origin service).2, false⟩ := by
      rw [← hs', performed_cons]
      exact outstanding_performed (getElem?_handouts_set o s origin service) hops
    obtain ⟨hanswer, hcontext, hused⟩ := restore_of_outstanding (o := o) hreceipt
    refine ⟨hanswer, hcontext, fun later s'' hs'' => ?_⟩
    have hstill : s''.book.handouts[s.book.handouts.length]? =
        some ⟨(s.book.context.set origin service).2, true⟩ := by
      rw [← hs'', performed_cons]
      exact used_performed hused later
    exact restore_of_used hstill
  · have hkeeps := h.keeps o s rfl
    exact ⟨hkeeps.answers, Log.Context.ext_get fun p => hkeeps.context p not_false⟩
  · obtain ⟨hanswers, hmirrors⟩ := mirrors_performAll (o := o) hm ops
    exact ⟨hanswers, hmirrors.context⟩

/-- What is done within a set of the origin: among other things, another service is set for good. -/
def strayOperations : List Operation := [.clear, .set none (some "elsewhere"), .request .prepare]

/-- Taken back after all that, the first receipt restores the origin alone, and once. A block that sets both parts may
clear them, and ticket by ticket the answers are the same. -/
theorem receipts_restore_exactly_strayOperations :
    (∀ s', standard.performed .called (.set (some "Inner") none :: strayOperations) = s' →
        (standard.perform s' (.restore 0)).1 = .ok () ∧
          (standard.perform s' (.restore 0)).2.book.context = ⟨"Caller", "elsewhere"⟩ ∧
          (standard.perform (standard.performed s' [.restore 0]) (.restore 0)).1 = .error .used) ∧
      (standard.performed .called
        [.set (some "Outer") (some "svc"), .request .prepare, .clear, .restore 0]).book.context =
          ⟨"Caller", "worker"⟩ ∧
      (standard.performAllTickets .waiting .fresh [.set (some "Inner") none, .restore 0, .restore 0]).1 =
        [.ok (), .ok (), .error .used] := by
  obtain ⟨hreceipt, hnested, -⟩ := receipts_restore_exactly standard .called
  refine ⟨fun s' hs' => ?_, ?_, ?_⟩
  · have hkept : .restore 0 ∉ strayOperations := by simp [strayOperations]
    obtain ⟨hanswer, hcontext, hlater⟩ := hreceipt (some "Inner") none strayOperations s' hkept hs'
    refine ⟨hanswer, Log.Context.ext_get fun p => (hcontext p).trans ?_, ?_⟩
    · subst hs'
      cases p <;> rfl
    · exact congrArg Prod.fst (hlater [] _ rfl)
  · have hblock : Nested (fun _ => False) 0
        (.set (some "Outer") (some "svc") :: ([.request .prepare, .clear] ++ .restore 0 :: [])) 1 :=
      .block (.request .prepare (.clear (fun p => .inr (by cases p <;> rfl)) .nil)) .nil
    exact (hnested _ _ hblock).2
  · obtain ⟨-, -, htickets⟩ := receipts_restore_exactly standard .waiting
    exact (htickets .fresh Log.mirrors_fresh [.set (some "Inner") none, .restore 0, .restore 0]).1

end Observer

end Triage
