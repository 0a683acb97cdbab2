import Mathlib.Data.List.Basic
import Triage.Log.Book

/-!
# Receipts taken apart

Origin and service are held by a variable each. Whoever sets a variable gets a ticket for what it held before, which is
good for one time, and a receipt is the list of the tickets of one call. They are taken back one by one, the last one
first, and the first one that has been used stops that. Still no receipt is ever taken back by half.

* `Part`, `Context.get`, `given`: the two parts of a context; `get_set`, `get_restore`: what becomes of each of them.
* `Variables`, `Ticket`, `redeem`: what the variables hold, and how tickets are taken back.
* `Desk`, `Mirrors`: the variables with the tickets handed out, and the book that shows the same.
* `Mirrors.set`, `Mirrors.restore`, `Mirrors.clear`: **each step is answered alike and leaves the same context**.
* `visit_eq`: a recording step, which sets both variables and takes its own tickets back, leaves no trace on them.
-/

namespace Triage.Log

/-! ## Parts of a context -/

/-- The parts of a context. -/
inductive Part where
  | origin
  | service
  deriving DecidableEq

/-- A part of a context. -/
def Context.get (c : Context) : Part → String
  | .origin => c.origin
  | .service => c.service

/-- The context with another text for one of its parts. -/
def Context.put (c : Context) (p : Part) (text : String) : Context :=
  match p with
  | .origin => { c with origin := text }
  | .service => { c with service := text }

theorem Context.ext_get {c d : Context} (h : ∀ p, c.get p = d.get p) : c = d := by
  obtain ⟨origin, service⟩ := c
  obtain ⟨origin', service'⟩ := d
  obtain rfl : origin = origin' := h .origin
  obtain rfl : service = service' := h .service
  rfl

/-- What is given for a part. -/
def given (origin service : Option String) : Part → Option String
  | .origin => origin
  | .service => service

/-- What a receipt is for: what a part was before. -/
def Receipt.get (r : Receipt) : Part → Option String := given r.origin r.service

variable {c : Context} {r : Receipt} {origin service : Option String} {p : Part}

theorem get_set : (c.set origin service).1.get p = (given origin service p).getD (c.get p) := by
  cases p <;> rfl

theorem get_receipt_set : (c.set origin service).2.get p = (given origin service p).map fun _ => c.get p := by
  cases p <;> rfl

theorem get_restore : (r.restore c).get p = (r.get p).getD (c.get p) := by
  cases p <;> rfl

/-- A receipt is for nothing exactly if nothing was given. -/
theorem size_receipt_set : (c.set origin service).2.size = 0 ↔ origin = none ∧ service = none := by
  cases origin <;> cases service <;> simp [Context.set, Receipt.size]

/-! ## Tickets -/

/-- What the variables hold; a variable that was never set holds nothing. -/
abbrev Variables := Part → Option String

/-- A variable is set, or is put back to where it was never set. -/
def Variables.put (v : Variables) (p : Part) (text : Option String) : Variables := fun q => if q = p then text else v q

/-- The context that the variables show. -/
def Variables.context (v : Variables) : Context :=
  ⟨(v .origin).getD Context.blank, (v .service).getD Context.blank⟩

/-- A ticket: the variable that was set, what it held before, and whether it has been put back. -/
structure Ticket where
  part : Part
  before : Option String
  used : Bool

/-- A ticket that has been put back. -/
def Ticket.spent (t : Ticket) : Ticket := { t with used := true }

/-- Sets a variable, if there is a text for it, and hands out a ticket. -/
def issue (v : Variables) (p : Part) : Option String → Variables × List Ticket
  | none => (v, [])
  | some text => (v.put p (some text), [⟨p, v p, false⟩])

/-- Sets the variables that there is a text for, the origin first. -/
def issueAll (v : Variables) (origin service : Option String) : Variables × List Ticket :=
  let (v', ts) := issue v .origin origin
  let (v'', us) := issue v' .service service
  (v'', ts ++ us)

/-- Takes tickets back one after the other, as far as the first one that has been used. -/
def redeem (v : Variables) : List Ticket → Except RestoreError Unit × Variables × List Ticket
  | [] => (.ok (), v, [])
  | t :: ts =>
    if t.used then (.error .used, v, t :: ts)
    else
      let (answer, v', ts') := redeem (v.put t.part t.before) ts
      (answer, v', t.spent :: ts')

/-- Takes the tickets of a list back, the last one first. -/
def redeemLast (v : Variables) (ts : List Ticket) : Except RestoreError Unit × Variables × List Ticket :=
  let (answer, v', us) := redeem v ts.reverse
  (answer, v', us.reverse)

/-- The variables, and the tickets that were handed out, in one list for each call. -/
structure Desk where
  values : Variables
  lists : List (List Ticket)

namespace Desk

/-- No variable was ever set. -/
def fresh : Desk := ⟨fun _ => none, []⟩

/-- Sets the variables that there is a text for, and hands out a list of tickets. -/
def set (d : Desk) (origin service : Option String) : Desk :=
  let (v, ts) := issueAll d.values origin service
  ⟨v, d.lists ++ [ts]⟩

/-- Takes back the list at a position. -/
def restore (d : Desk) (i : Nat) : Except RestoreError Unit × Desk :=
  match d.lists[i]? with
  | none => (.error (.unknown i), d)
  | some ts =>
    let (answer, v, us) := redeemLast d.values ts
    (answer, ⟨v, d.lists.set i us⟩)

/-- Sets both variables to what says nothing. -/
def clear (d : Desk) : Desk := { d with values := fun _ => some Context.blank }

/-- Sets both variables, and then takes the tickets back for it, which are handed out to nobody. -/
def visit (d : Desk) (origin service : String) : Desk :=
  let (v, ts) := issueAll d.values (some origin) (some service)
  { d with values := (redeemLast v ts).2.1 }

end Desk

/-- **A visit leaves no trace** on the variables: also one that was never set is again as if it had never been. -/
theorem visit_eq (d : Desk) (origin service : String) : d.visit origin service = d := by
  have hvalues : (redeemLast (issueAll d.values (some origin) (some service)).1
      (issueAll d.values (some origin) (some service)).2).2.1 = d.values := by
    funext p
    cases p <;> rfl
  exact congrArg (fun v => { d with values := v }) hvalues

variable {v : Variables} {t : Ticket} {ts : List Ticket}

/-- Tickets that have not been used are all taken back. -/
theorem redeem_of_fresh (h : ∀ t ∈ ts, t.used = false) :
    redeem v ts = (.ok (), ts.foldl (fun v t => v.put t.part t.before) v, ts.map Ticket.spent) := by
  induction ts generalizing v with
  | nil => rfl
  | cons t ts ih =>
    rw [redeem, h t List.mem_cons_self, ih fun u hu => h u (List.mem_cons_of_mem _ hu)]
    rfl

/-- Where all have been used, **nothing is taken back**. -/
theorem redeem_of_used (hne : ts ≠ []) (h : ∀ t ∈ ts, t.used = true) : redeem v ts = (.error .used, v, ts) := by
  cases ts with
  | nil => exact absurd rfl hne
  | cons t ts => rw [redeem, if_pos (h t List.mem_cons_self)]

/-- What a ticket is for, as the context shows it. -/
def Ticket.entry (t : Ticket) : Part × String := (t.part, t.before.getD Context.blank)

/-- What a receipt is for, part by part. -/
def Receipt.entries (r : Receipt) : List (Part × String) :=
  (r.origin.map (Part.origin, ·)).toList ++ (r.service.map (Part.service, ·)).toList

theorem context_put (v : Variables) (p : Part) (text : Option String) :
    (v.put p text).context = v.context.put p (text.getD Context.blank) := by
  cases p <;> rfl

/-- Putting tickets back, one after the other, as the context shows it. -/
theorem context_foldl (v : Variables) (ts : List Ticket) :
    (ts.foldl (fun v t => v.put t.part t.before) v).context =
      (ts.map Ticket.entry).foldl (fun c e => c.put e.1 e.2) v.context := by
  induction ts generalizing v with
  | nil => rfl
  | cons t ts ih =>
    rw [List.foldl_cons, ih, context_put]
    rfl

/-- In whichever order its parts are put back, a receipt restores the same. -/
theorem foldl_entries (r : Receipt) (c : Context) :
    r.entries.reverse.foldl (fun c e => c.put e.1 e.2) c = r.restore c := by
  obtain ⟨_ | origin, _ | service⟩ := r <;> rfl

/-- A list of tickets **stands for** a receipt: it is for the same, and all of its tickets have been used, or none. -/
structure StandsFor (ts : List Ticket) (h : Handout) : Prop where
  entries : ts.map Ticket.entry = h.receipt.entries
  used : ∀ t ∈ ts, t.used = h.used

theorem StandsFor.size_eq {h : Handout} (hts : StandsFor ts h) : ts.length = h.receipt.size := by
  have hlength := congrArg List.length hts.entries
  rw [List.length_map] at hlength
  rw [hlength, Receipt.entries, Receipt.size, List.length_append]
  cases h.receipt.origin <;> cases h.receipt.service <;> rfl

/-- Tickets of a receipt that has been used are not taken back. -/
theorem StandsFor.redeemLast_of_used {h : Handout} (hts : StandsFor ts h) (hused : h.used = true)
    (hsize : h.receipt.size ≠ 0) (v : Variables) : redeemLast v ts = (.error .used, v, ts) := by
  have hne : ts.reverse ≠ [] := by
    rw [Ne, List.reverse_eq_nil_iff, ← List.length_eq_zero_iff, hts.size_eq]
    exact hsize
  unfold redeemLast
  rw [redeem_of_used hne fun t ht => (hts.used t (List.mem_reverse.1 ht)).trans hused]
  dsimp only
  rw [List.reverse_reverse]

/-- Those of any other receipt are all taken back. -/
theorem StandsFor.redeemLast_of_taken {h : Handout} (hts : StandsFor ts h)
    (htaken : ¬ (h.used = true ∧ h.receipt.size ≠ 0)) (v : Variables) :
    redeemLast v ts =
      (.ok (), ts.reverse.foldl (fun v t => v.put t.part t.before) v, ts.map Ticket.spent) := by
  have hfresh : ∀ t ∈ ts.reverse, t.used = false := by
    intro t ht
    have hmem := List.mem_reverse.1 ht
    have hsize : h.receipt.size ≠ 0 := hts.size_eq ▸ Nat.ne_of_gt (List.length_pos_of_mem hmem)
    rw [hts.used t hmem]
    exact Bool.eq_false_iff.2 fun hused => htaken ⟨hused, hsize⟩
  unfold redeemLast
  rw [redeem_of_fresh hfresh]
  dsimp only
  rw [← List.map_reverse, List.reverse_reverse]

/-- Tickets that were taken back stand for the receipt that was used. -/
theorem StandsFor.taken {h : Handout} (hts : StandsFor ts h) :
    StandsFor (ts.map Ticket.spent) { h with used := true } := by
  refine ⟨?_, fun t ht => ?_⟩
  · rw [List.map_map]
    exact hts.entries
  · obtain ⟨u, -, rfl⟩ := List.mem_map.1 ht
    rfl

/-- Tickets that are issued stand for the receipt, and the variables show the context that was set. -/
theorem standsFor_issueAll (v : Variables) (origin service : Option String) :
    (issueAll v origin service).1.context = (v.context.set origin service).1 ∧
      StandsFor (issueAll v origin service).2 ⟨(v.context.set origin service).2, false⟩ := by
  cases origin <;> cases service <;> exact ⟨rfl, rfl, by simp [issueAll, issue]⟩

/-- The variables show the context of the book, and the lists of tickets stand for its receipts. -/
structure Mirrors (d : Desk) (b : Book) : Prop where
  context : d.values.context = b.context
  length : d.lists.length = b.handouts.length
  standsFor : ∀ (i : Nat) ts h, d.lists[i]? = some ts → b.handouts[i]? = some h → StandsFor ts h

variable {d : Desk} {b : Book}

theorem mirrors_fresh : Mirrors .fresh .empty := ⟨rfl, rfl, fun _ _ _ h => (nomatch h)⟩

/-- **Setting** parts leaves the same context, and a list that stands for the receipt. -/
theorem Mirrors.set (hm : Mirrors d b) (origin service : Option String) :
    Mirrors (d.set origin service) (b.set origin service) := by
  obtain ⟨hcontext, hstands⟩ := standsFor_issueAll d.values origin service
  rw [hm.context] at hcontext hstands
  refine ⟨hcontext, ?_, fun i ts h hts hh => ?_⟩
  · show (d.lists ++ [_]).length = (b.handouts ++ [_]).length
    rw [List.length_append, List.length_append, hm.length]
    rfl
  · change (d.lists ++ [(issueAll d.values origin service).2])[i]? = some ts at hts
    change (b.handouts ++ [⟨(b.context.set origin service).2, false⟩])[i]? = some h at hh
    rw [List.getElem?_append] at hts hh
    rw [hm.length] at hts
    by_cases hi : i < b.handouts.length
    · rw [if_pos hi] at hts hh
      exact hm.standsFor i ts h hts hh
    · rw [if_neg hi] at hts hh
      rw [List.getElem?_singleton, Option.ite_none_right_eq_some] at hts hh
      obtain rfl := Option.some.inj hts.2
      obtain rfl := Option.some.inj hh.2
      exact hstands

/-- Clearing sets both variables, and leaves the tickets alone. -/
theorem Mirrors.clear (hm : Mirrors d b) : Mirrors d.clear b.clear := ⟨rfl, hm.length, hm.standsFor⟩

/-- What is answered to a receipt that is taken back, and what becomes of the book. -/
def Book.take (b : Book) (i : Nat) : Except RestoreError Unit × Book :=
  match b.restore i with
  | .ok b' => (.ok (), b')
  | .error e => (.error e, b)

/-- One list is exchanged for another, and so is the receipt that it stands for. -/
theorem Mirrors.exchange {h : Handout} (hm : Mirrors d b) (i : Nat) (hstands : StandsFor ts h)
    (hcontext : v.context = c) :
    Mirrors ⟨v, d.lists.set i ts⟩ { b with
      context := c
      handouts := b.handouts.set i h } where
  context := hcontext
  length := List.length_set.trans (hm.length.trans List.length_set.symm)
  standsFor j us k hus hk := by
    rw [List.getElem?_set] at hus hk
    by_cases hij : i = j
    · rw [if_pos hij] at hus hk
      obtain rfl := Option.some.inj (Option.ite_none_right_eq_some.1 hus).2
      obtain rfl := Option.some.inj (Option.ite_none_right_eq_some.1 hk).2
      exact hstands
    · rw [if_neg hij] at hus hk
      exact hm.standsFor j us k hus hk

/-- **Taking a receipt back**, ticket by ticket, is answered alike and leaves the same context. -/
theorem Mirrors.restore (hm : Mirrors d b) (i : Nat) :
    (d.restore i).1 = (b.take i).1 ∧ Mirrors (d.restore i).2 (b.take i).2 := by
  unfold Desk.restore Book.take Book.restore
  cases hts : d.lists[i]? with
  | none =>
    have hnone : b.handouts[i]? = none := by
      rw [List.getElem?_eq_none_iff] at hts ⊢
      rwa [← hm.length]
    rw [hnone]
    exact ⟨rfl, hm⟩
  | some ts =>
    obtain ⟨h, hh⟩ : ∃ h, b.handouts[i]? = some h := by
      have hi := (List.getElem?_eq_some_iff.1 hts).1
      rw [hm.length] at hi
      exact ⟨_, List.getElem?_eq_getElem hi⟩
    have hstands := hm.standsFor i ts h hts hh
    rw [hh]
    dsimp only
    by_cases hrefused : h.used = true ∧ h.receipt.size ≠ 0
    · -- every ticket of the list has been used, so that the first one stops it
      rw [hstands.redeemLast_of_used hrefused.1 hrefused.2, if_pos (by simpa using hrefused)]
      have hsame : d.lists.set i ts = d.lists := by
        obtain ⟨hi, rfl⟩ := List.getElem?_eq_some_iff.1 hts
        exact List.set_getElem_self hi
      dsimp only
      rw [hsame]
      exact ⟨rfl, hm⟩
    · rw [hstands.redeemLast_of_taken hrefused, if_neg (by simpa using hrefused)]
      refine ⟨rfl, hm.exchange i hstands.taken ?_⟩
      rw [context_foldl, List.map_reverse, hstands.entries, foldl_entries, hm.context]

end Triage.Log
