import Triage.Proofs.Yaml.PlainScalar

/-!
# Plain scalars on one line

Outside of brackets a plain scalar goes on over spaces, as long as its line goes on.

* `IsSolid`: characters that go on with a plain scalar wherever they stand.
* `IsPlainLine`: words of such characters, with spaces between them. `exists_isPlainLine`: what is left of a line of
  words without the spaces around them.
* `readPlain_line`: **the words of a line are read as one plain scalar**, and the white space behind them with it.
-/

namespace Triage.Yaml

/-- A character that goes on with a plain scalar wherever it stands. -/
def IsSolid (c : Char) : Prop := Scanner.isIndicator c = false ∧ c ≠ '\ufeff'

instance (c : Char) : Decidable (IsSolid c) := inferInstanceAs (Decidable (_ ∧ _))

/-- Words, with spaces between them. -/
inductive IsPlainLine : List Char → Prop
  | word {xs : List Char} (nonempty : xs ≠ []) (solid : ∀ c ∈ xs, IsSolid c) : IsPlainLine xs
  | cons {xs spaces ys : List Char} (nonempty : xs ≠ []) (solid : ∀ c ∈ xs, IsSolid c) (apart : spaces ≠ [])
      (blank : ∀ c ∈ spaces, c = ' ') (rest : IsPlainLine ys) : IsPlainLine (xs ++ (spaces ++ ys))

namespace IsSolid

variable {c d : Char}

theorem ne (h : IsSolid c) (hd : Scanner.isIndicator d = true) : c ≠ d := by
  rintro rfl
  rw [h.1] at hd
  cases hd

theorem isBlankOrEnd_eq (h : IsSolid c) : isBlankOrEnd c = false := (Bool.or_eq_false_iff.1 h.1).1

theorem isBreak_eq (h : IsSolid c) : isBreak c = false := by
  have hblank := h.isBlankOrEnd_eq
  simp only [isBlankOrEnd, isSpaceOrEnd, isLineEnd, Bool.or_eq_false_iff] at hblank
  exact hblank.2.2.2

theorem begins (h : IsSolid c) (rest : List Char) : Begins (c :: rest) :=
  .cons ⟨h.ne (by decide), h.isBreak_eq, h.ne (by decide), h.2⟩ rest

end IsSolid

/-! ## Words of a line -/

namespace IsPlainLine

variable {p : List Char}

theorem exists_cons (h : IsPlainLine p) : ∃ c rest, p = c :: rest ∧ IsSolid c := by
  cases h with
  | word hne hsolid | cons hne hsolid =>
    obtain ⟨c, xs, rfl⟩ := List.exists_cons_of_ne_nil hne
    exact ⟨c, _, rfl, hsolid c (by simp)⟩

theorem begins (h : IsPlainLine p) (rest : List Char) : Begins (p ++ rest) := by
  obtain ⟨c, more, rfl, hc⟩ := h.exists_cons
  exact hc.begins _

/-- A character more in front. -/
theorem cons_solid {c : Char} (h : IsPlainLine p) (hc : IsSolid c) : IsPlainLine (c :: p) := by
  cases h with
  | word hne hsolid => exact .word (by simp) (List.forall_mem_cons.2 ⟨hc, hsolid⟩)
  | cons hne hsolid hapart hblank hrest =>
    rw [← List.cons_append]
    exact .cons (by simp) (List.forall_mem_cons.2 ⟨hc, hsolid⟩) hapart hblank hrest

theorem forall_mem (h : IsPlainLine p) : ∀ c ∈ p, c = ' ' ∨ IsSolid c := by
  induction h with
  | word _ hsolid => exact fun c hc => .inr (hsolid c hc)
  | cons _ hsolid _ hblank _ ih =>
    exact List.forall_mem_append.2 ⟨fun c hc => .inr (hsolid c hc),
      List.forall_mem_append.2 ⟨fun c hc => .inl (hblank c hc), ih⟩⟩

theorem last_solid (h : IsPlainLine p) : ∀ c ∈ p.getLast?, IsSolid c := by
  induction h with
  | word _ hsolid => exact fun c hc => hsolid c (List.mem_of_getLast? hc)
  | cons _ _ _ _ hrest ih =>
    intro c hc
    obtain ⟨d, more, rfl, -⟩ := hrest.exists_cons
    rw [List.getLast?_append, List.getLast?_append, List.getLast?_cons, Option.some_or, Option.some_or] at hc
    exact ih c (List.getLast?_cons.trans hc)

end IsPlainLine

/-- Words without the spaces around them, if there are any. -/
theorem exists_isPlainLine {cs : List Char} (h : ∀ c ∈ cs, c = ' ' ∨ IsSolid c) :
    ∃ before p after, cs = before ++ (p ++ after) ∧ (∀ c ∈ before, c = ' ') ∧ (∀ c ∈ after, c = ' ') ∧
      (p = [] ∨ IsPlainLine p) := by
  induction cs with
  | nil => exact ⟨[], [], [], rfl, by simp, by simp, .inl rfl⟩
  | cons c cs ih =>
    obtain ⟨hc, hcs⟩ := List.forall_mem_cons.1 h
    obtain ⟨before, p, after, rfl, hbefore, hafter, hp⟩ := ih hcs
    rcases hc with rfl | hsolid
    · exact ⟨' ' :: before, p, after, rfl, List.forall_mem_cons.2 ⟨rfl, hbefore⟩, hafter, hp⟩
    · have hone : ∀ d ∈ [c], IsSolid d := List.forall_mem_singleton.2 hsolid
      rcases hp with rfl | hp
      · refine ⟨[], [c], before ++ after, rfl, by simp, ?_, .inr (.word (by simp) hone)⟩
        exact List.forall_mem_append.2 ⟨hbefore, hafter⟩
      · cases before with
        | nil => exact ⟨[], c :: p, after, rfl, by simp, hafter, .inr (hp.cons_solid hsolid)⟩
        | cons b before =>
          refine ⟨[], [c] ++ (b :: before ++ p), after, by simp, by simp, hafter, .inr ?_⟩
          exact .cons (by simp) hone (by simp) hbefore hp

/-! ## Reading -/

/-- What stands behind a plain scalar and the white space after it: something that neither goes on with it nor separates
documents. -/
structure Ends (rest : List Char) : Prop where
  begins : Begins rest
  noSeparator : ∀ ch ∈ rest.head?, ch ≠ '-' ∧ ch ≠ '.'
  plainChars_eq : plainChars false rest = []

theorem plainChars_solid {xs more : List Char} (hxs : ∀ c ∈ xs, IsSolid c) (hmore : plainChars false more = []) :
    plainChars false (xs ++ more) = xs := by
  induction xs with
  | nil => exact hmore
  | cons c xs ih =>
    obtain ⟨hc, hxs⟩ := List.forall_mem_cons.1 hxs
    have hends (next : Char) : endsPlain false c next = false := by
      rw [endsPlain, hc.isBlankOrEnd_eq, beq_false_of_ne (hc.ne (by decide))]
      rfl
    rw [List.cons_append, plainChars, hends, if_neg Bool.false_ne_true, ih hxs]

/-- Where a word stands there is no comment. -/
theorem peek_word {c : Cursor} {xs more : List Char} (hne : xs ≠ []) (hxs : ∀ ch ∈ xs, IsSolid ch)
    (hc : c.rest = xs ++ more) : (c.peek == '#' || xs.isEmpty) = false := by
  obtain ⟨x, xs, rfl⟩ := List.exists_cons_of_ne_nil hne
  rw [Cursor.peek_cons hc, beq_false_of_ne ((hxs x List.mem_cons_self).ne (by decide))]
  rfl

/-- Spaces between words. -/
theorem readPlainGap_spaces {c : Cursor} {spaces rest : List Char} (hspaces : ∀ ch ∈ spaces, ch = ' ')
    (hrest : Begins rest) (hc : c.rest = spaces ++ rest) :
    readPlainGap c = ⟨spaces, false, c.advanceBy spaces.length⟩ := by
  have hspan : c.span (· == ' ') = (spaces, c.advanceBy spaces.length) :=
    Cursor.span_eq hc (fun ch hch => by simp [hspaces ch hch]) fun ch hch => beq_false_of_ne (hrest ch hch).1
  have hbreak := (hrest.peek (Cursor.rest_advanceBy_append hc)).2.1
  unfold readPlainGap
  rw [hspan]
  dsimp only
  rw [hbreak, if_neg Bool.false_ne_true]

/-- The words that are left of a line. -/
theorem readPlainParts_line {indent : Int} {p g rest : List Char} (hp : IsPlainLine p) (hg : IsFiller g)
    (hrest : Ends rest) {gap : List Char} {q : Plain} {fuel : Nat} (hc : q.after.rest = p ++ (g ++ rest))
    (hcolumn : indent ≤ q.after.column) (hfuel : p.length < fuel) :
    (readPlainParts false indent fuel gap q).text = q.text ++ gap ++ p ∧
      (readPlainParts false indent fuel gap q).after = q.after.advanceBy (p.length + g.length) := by
  -- one turn reads a word and what stands behind it; the induction is on the words
  induction hp generalizing q gap fuel with
  | @word xs hne hsolid =>
    obtain ⟨fuel, rfl⟩ : ∃ n, fuel = n + 1 := ⟨fuel - 1, by omega⟩
    have hchars : plainChars false q.after.rest = xs := by
      rw [hc]
      exact plainChars_solid hsolid (plainChars_filler hg hrest.plainChars_eq)
    have hafter : (q.after.advanceBy xs.length).rest = g ++ rest := Cursor.rest_advanceBy_append hc
    have hgap := readPlainGap_filler hg hrest.begins hrest.noSeparator hafter
    rw [← Cursor.advanceBy_add] at hgap
    have hend : plainChars false (readPlainGap (q.after.advanceBy xs.length)).after.rest = [] := by
      rw [hgap, Cursor.advanceBy_add, Cursor.rest_advanceBy_append hafter]
      exact hrest.plainChars_eq
    have hpeek := peek_word hne hsolid hc
    rw [readPlainParts]
    dsimp only
    rw [hchars, hpeek, if_neg Bool.false_ne_true]
    split
    · exact ⟨rfl, hgap⟩
    · rw [readPlainParts_stop hend]
      exact ⟨rfl, hgap⟩
  | @cons xs spaces ys hne hsolid hapart hblank hys ih =>
    obtain ⟨fuel, rfl⟩ : ∃ n, fuel = n + 1 := ⟨fuel - 1, by omega⟩
    rw [List.append_assoc, List.append_assoc] at hc
    obtain ⟨s, spaces', hspaces⟩ := List.exists_cons_of_ne_nil hapart
    have hspace : plainChars false (spaces ++ (ys ++ (g ++ rest))) = [] := by
      rw [hspaces, hblank s (by rw [hspaces]; simp)]
      rfl
    have hchars : plainChars false q.after.rest = xs := by
      rw [hc]
      exact plainChars_solid hsolid hspace
    have hafter : (q.after.advanceBy xs.length).rest = spaces ++ (ys ++ (g ++ rest)) :=
      Cursor.rest_advanceBy_append hc
    have hgap := readPlainGap_spaces hblank (hys.begins _) hafter
    have hnext : (q.after.advanceBy (xs.length + spaces.length)).rest = ys ++ (g ++ rest) := by
      rw [Cursor.advanceBy_add]
      exact Cursor.rest_advanceBy_append hafter
    have hline : q.after.column ≤ (q.after.advanceBy (xs ++ spaces).length).column := by
      refine Cursor.column_le_advanceBy (hc.trans (List.append_assoc xs spaces _).symm) ?_
      refine List.forall_mem_append.2 ⟨fun c hc => (hsolid c hc).isBreak_eq, fun c hc => ?_⟩
      rw [hblank c hc]
      rfl
    rw [List.length_append] at hline
    have hpeek := peek_word hne hsolid hc
    have hgoes : (spaces.isEmpty || (q.after.advanceBy (xs.length + spaces.length)).peek == '#' ||
        (!false && decide (((q.after.advanceBy (xs.length + spaces.length)).column : Int) < indent))) = false := by
      have hcomment := ((hys.begins (g ++ rest)).peek hnext).2.2.1
      rw [show spaces.isEmpty = false by simpa using hapart, beq_false_of_ne hcomment]
      simp
      omega
    rw [readPlainParts]
    dsimp only
    rw [hchars, hpeek, if_neg Bool.false_ne_true, hgap]
    dsimp only
    rw [← Cursor.advanceBy_add, hgoes, if_neg Bool.false_ne_true]
    simp only [List.length_append] at hfuel
    have hless : ys.length < fuel := by
      have := List.length_pos_iff.2 hne
      omega
    have hinside : indent ≤ ((q.after.advanceBy (xs.length + spaces.length)).column : Int) := by omega
    obtain ⟨htext, hend⟩ := @ih spaces ⟨q.text ++ gap ++ xs, (q.after.advanceBy xs.length).mark, false,
      q.after.advanceBy (xs.length + spaces.length)⟩ fuel hnext hinside hless
    refine ⟨?_, ?_⟩
    · rw [htext]
      simp only [List.append_assoc]
    · rw [hend, ← Cursor.advanceBy_add]
      simp only [List.length_append, Nat.add_assoc]

/-- **The words of a line are read as one plain scalar**, and the white space behind them with it. -/
theorem readPlain_line {indent : Int} {c : Cursor} {p g rest : List Char} (hp : IsPlainLine p) (hg : IsFiller g)
    (hrest : Ends rest) (hc : c.rest = p ++ (g ++ rest)) (hcolumn : indent ≤ c.column) :
    (readPlain false indent c).text = p ∧
      (readPlain false indent c).after = c.advanceBy (p.length + g.length) := by
  have hfuel : p.length < c.rest.length + 1 := by
    rw [hc, List.length_append]
    omega
  exact readPlainParts_line (q := ⟨[], c.mark, false, c⟩) hp hg hrest hc hcolumn hfuel

end Triage.Yaml
