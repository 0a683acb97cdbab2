import Triage.Proofs.Text.Span
import Triage.Yaml.Token.Stream

/-!
# Moving through a text

Whatever is read, a cursor moves over some characters. So every reader is described by how many characters it
steps over, and what this does to the rest and to the place is said here once.

* `Cursor.rest_advanceBy`, `Cursor.index_advanceBy`, `Cursor.line_advanceBy`, `Cursor.column_le_advanceBy`: the rest, the
  index, the line and the column.
* `IsFiller`: white space other than tabs. `Begins`: what does not go on with it.
* `Cursor.lineBreak_filler`: a line break within white space.
* `skipToToken_filler`, `readPlainBreaks_filler`: **white space is stepped over as a whole**, before a token and
  after a plain scalar.
-/

namespace Triage.Yaml

namespace Cursor

variable {c : Cursor} {xs rest : List Char}

theorem rest_advance (c : Cursor) : c.advance.rest = c.rest.drop 1 := by
  unfold advance
  split
  · next h => rw [h]; rfl
  · next h => rw [h]; rfl

theorem rest_advanceBy (c : Cursor) (n : Nat) : (c.advanceBy n).rest = c.rest.drop n := by
  induction n generalizing c with
  | zero => rfl
  | succ n ih => rw [advanceBy, ih, rest_advance, List.drop_drop, Nat.add_comm]

theorem rest_advanceBy_append (h : c.rest = xs ++ rest) : (c.advanceBy xs.length).rest = rest := by
  rw [rest_advanceBy, h, List.drop_left]

theorem advanceBy_add (c : Cursor) (m n : Nat) : c.advanceBy (m + n) = (c.advanceBy m).advanceBy n := by
  induction m generalizing c with
  | zero => rw [Nat.zero_add]; rfl
  | succ m ih => rw [Nat.succ_add, advanceBy, advanceBy, ih]

theorem index_markAfter (m : Mark) (ch : Char) (rest : List Char) : (markAfter m ch rest).index = m.index + 1 := by
  unfold markAfter
  split
  · rfl
  · split <;> rfl

theorem line_markAfter {ch : Char} (h : isBreak ch = false) (m : Mark) (rest : List Char) :
    (markAfter m ch rest).line = m.line := by
  unfold markAfter
  rw [h, Bool.false_and, if_neg Bool.false_ne_true]
  split <;> rfl

/-- Every character counts for the index. -/
theorem index_advanceBy (h : c.rest = xs ++ rest) : (c.advanceBy xs.length).mark.index = c.mark.index + xs.length := by
  induction xs generalizing c with
  | nil => rfl
  | cons ch xs ih =>
    have hstep : c.advance = ⟨xs ++ rest, markAfter c.mark ch (xs ++ rest)⟩ := by
      unfold advance
      rw [h]
      rfl
    have hindex : c.advance.mark.index = c.mark.index + 1 := by
      rw [hstep]
      exact index_markAfter _ _ _
    rw [List.length_cons, advanceBy, ih (by rw [hstep]), hindex]
    omega

/-- Without a line break the line stays the same. -/
theorem line_advanceBy (h : c.rest = xs ++ rest) (hxs : ∀ ch ∈ xs, isBreak ch = false) :
    (c.advanceBy xs.length).mark.line = c.mark.line := by
  induction xs generalizing c with
  | nil => rfl
  | cons ch xs ih =>
    have hstep : c.advance = ⟨xs ++ rest, markAfter c.mark ch (xs ++ rest)⟩ := by
      unfold advance
      rw [h]
      rfl
    rw [List.length_cons, advanceBy, ih (by rw [hstep]) fun x hx => hxs x (by simp [hx]), hstep]
    exact line_markAfter (hxs ch (by simp)) _ _

/-- Without a line break the column does not fall. -/
theorem column_le_advanceBy (h : c.rest = xs ++ rest) (hxs : ∀ ch ∈ xs, isBreak ch = false) :
    c.column ≤ (c.advanceBy xs.length).column := by
  induction xs generalizing c with
  | nil => exact Nat.le_refl _
  | cons ch xs ih =>
    have hstep : c.advance = ⟨xs ++ rest, markAfter c.mark ch (xs ++ rest)⟩ := by
      unfold advance
      rw [h]
      rfl
    refine Nat.le_trans ?_ (ih (c := c.advance) (by rw [hstep]) fun x hx => hxs x (by simp [hx]))
    rw [hstep]
    show c.mark.column ≤ (markAfter c.mark ch (xs ++ rest)).column
    unfold markAfter
    rw [hxs ch (by simp), Bool.false_and, if_neg Bool.false_ne_true]
    split
    · exact Nat.le_refl _
    · exact Nat.le_succ _

theorem peek_eq (h : c.rest = rest) : c.peek = rest.headD '\x00' := by
  unfold peek peekAt
  rw [h]
  cases rest <;> rfl

theorem peek_cons {ch : Char} (h : c.rest = ch :: rest) : c.peek = ch := peek_eq h

theorem skipWhile_eq {p : Char → Bool} (h : c.rest = xs ++ rest) (hxs : ∀ ch ∈ xs, p ch = true)
    (hrest : ∀ ch ∈ rest.head?, p ch = false) : c.skipWhile p = c.advanceBy xs.length := by
  rw [skipWhile, h, Text.takeWhile_upTo hxs hrest]

theorem span_eq {p : Char → Bool} (h : c.rest = xs ++ rest) (hxs : ∀ ch ∈ xs, p ch = true)
    (hrest : ∀ ch ∈ rest.head?, p ch = false) : c.span p = (xs, c.advanceBy xs.length) := by
  rw [span, skipWhile_eq h hxs hrest, h, Text.takeWhile_upTo hxs hrest]

end Cursor

/-! ## White space -/

/-- White space other than tabs. -/
def IsFiller (g : List Char) : Prop := ∀ c ∈ g, c = ' ' ∨ c = '\n' ∨ c = '\r'

/-- What stands here is the start of a token or the end of the text: no white space, no comment and no mark that is
left out. -/
def Begins (rest : List Char) : Prop := ∀ c ∈ rest.head?, c ≠ ' ' ∧ isBreak c = false ∧ c ≠ '#' ∧ c ≠ '\ufeff'

theorem Begins.nil : Begins [] := by
  intro c hc
  cases hc

theorem Begins.cons {ch : Char} (h : ch ≠ ' ' ∧ isBreak ch = false ∧ ch ≠ '#' ∧ ch ≠ '\ufeff') (rest : List Char) :
    Begins (ch :: rest) := by
  intro c hc
  cases hc
  exact h

theorem Begins.peek {rest : List Char} (h : Begins rest) {c : Cursor} (hc : c.rest = rest) :
    c.peek ≠ ' ' ∧ isBreak c.peek = false ∧ c.peek ≠ '#' ∧ c.peek ≠ '\ufeff' := by
  rw [Cursor.peek_eq hc]
  cases rest with
  | nil => decide
  | cons ch rest => exact h ch rfl

theorem IsFiller.tail {ch : Char} {g : List Char} (h : IsFiller (ch :: g)) : IsFiller g :=
  fun c hc => h c (List.mem_cons_of_mem _ hc)

theorem IsFiller.append {g h : List Char} (hg : IsFiller g) (hh : IsFiller h) : IsFiller (g ++ h) :=
  fun c hc => (List.mem_append.1 hc).elim (hg c) (hh c)

/-- White space is some spaces, and then nothing or a line break and more white space. -/
theorem IsFiller.cases_spaces {g : List Char} (h : IsFiller g) :
    ∃ spaces more, g = spaces ++ more ∧ (∀ c ∈ spaces, c = ' ') ∧
      (more = [] ∨ ∃ b more', more = b :: more' ∧ (b = '\n' ∨ b = '\r') ∧ IsFiller more') := by
  induction g with
  | nil => exact ⟨[], [], rfl, by simp, .inl rfl⟩
  | cons ch g ih =>
    rcases h ch (by simp) with rfl | hbreak
    · obtain ⟨spaces, more, hg, hspaces, hmore⟩ := ih h.tail
      refine ⟨' ' :: spaces, more, by rw [hg]; rfl, ?_, hmore⟩
      intro c hc
      rcases List.mem_cons.1 hc with rfl | hc
      · rfl
      · exact hspaces c hc
    · exact ⟨[], ch :: g, rfl, by simp, .inr ⟨ch, g, rfl, hbreak, h.tail⟩⟩

/-- The place after spaces: the white space ends there, or a line does. -/
theorem IsFiller.head_after_spaces {more rest : List Char} (hrest : Begins rest)
    (hmore : more = [] ∨ ∃ b more', more = b :: more' ∧ (b = '\n' ∨ b = '\r') ∧ IsFiller more') :
    ∀ ch ∈ (more ++ rest).head?, (ch == ' ') = false := by
  intro ch hch
  rcases hmore with rfl | ⟨b, more', rfl, hb, -⟩
  · exact beq_false_of_ne (hrest ch hch).1
  · cases hch
    rcases hb with rfl | rfl <;> rfl

namespace Cursor

variable {c : Cursor}

theorem skipComment_of_ne (h : c.peek ≠ '#') : c.skipComment = c := by
  unfold skipComment
  rw [if_neg (by simpa using h)]

/-- **A line break in white space** takes one character, or two if they make up one break. -/
theorem lineBreak_filler {b : Char} {g rest : List Char} (hb : b = '\n' ∨ b = '\r') (hg : IsFiller g)
    (hrest : Begins rest) (h : c.rest = b :: (g ++ rest)) :
    ∃ n g', 1 ≤ n ∧ n + g'.length = g.length + 1 ∧ IsFiller g' ∧ c.lineBreak = (['\n'], c.advanceBy n) ∧
      (c.advanceBy n).rest = g' ++ rest := by
  have hpeek : c.peek = b := peek_cons h
  have hnext : c.peekAt 1 = (g ++ rest).headD '\x00' := by
    unfold peekAt
    rw [h]
    cases g ++ rest <;> rfl
  by_cases hpair : b = '\r' ∧ c.peekAt 1 = '\n'
  · -- the second character belongs to the white space, since nothing else starts with a line break
    obtain ⟨rfl, hfeed⟩ := hpair
    cases g with
    | nil =>
      have hbreak : isBreak (rest.headD '\x00') = false := by
        cases rest with
        | nil => rfl
        | cons ch rest => exact (hrest ch rfl).2.1
      rw [← show (([] : List Char) ++ rest).headD '\x00' = rest.headD '\x00' from rfl, ← hnext, hfeed] at hbreak
      cases hbreak
    | cons ch g =>
      refine ⟨2, g, by omega, by simp; omega, hg.tail, ?_, ?_⟩
      · unfold lineBreak
        simp only [hpeek, hfeed, beq_self_eq_true, Bool.and_self, if_true]
      · rw [rest_advanceBy, h]
        rfl
  · refine ⟨1, g, Nat.le_refl 1, by omega, hg, ?_, ?_⟩
    · have hone : (b == '\r' && c.peekAt 1 == '\n') = false := by
        rw [Bool.eq_false_iff]
        intro htrue
        exact hpair (by simpa using htrue)
      unfold lineBreak
      simp only [hpeek, hone, Bool.false_eq_true, if_false]
      rcases hb with rfl | rfl <;> rfl
    · rw [rest_advanceBy, h]
      rfl

/-- **One line of white space**: after its spaces the white space ends, or a line break and less white space follow. -/
theorem line_filler {g rest : List Char} (hg : IsFiller g) (hrest : Begins rest) (h : c.rest = g ++ rest) :
    ∃ spaces : List Char,
      c.skipWhile (· == ' ') = c.advanceBy spaces.length ∧
      c.span (· == ' ') = (spaces, c.advanceBy spaces.length) ∧
      ((g = spaces ∧ (c.advanceBy spaces.length).rest = rest) ∨
        isBreak (c.advanceBy spaces.length).peek = true ∧ (c.advanceBy spaces.length).peek ≠ '#' ∧
          ∃ after g', (c.advanceBy spaces.length).lineBreak = (['\n'], after) ∧ after.rest = g' ++ rest ∧ IsFiller g' ∧
            g'.length < g.length ∧ after.advanceBy g'.length = c.advanceBy g.length) := by
  obtain ⟨spaces, more, rfl, hspaces, hmore⟩ := hg.cases_spaces
  rw [List.append_assoc] at h
  have hspace : ∀ ch ∈ spaces, (ch == ' ') = true := fun ch hch => by simp [hspaces ch hch]
  have hstop := IsFiller.head_after_spaces hrest hmore
  have hafter : (c.advanceBy spaces.length).rest = more ++ rest := rest_advanceBy_append h
  refine ⟨spaces, skipWhile_eq h hspace hstop, span_eq h hspace hstop, ?_⟩
  rcases hmore with rfl | ⟨b, more', rfl, hb, hmore'⟩
  · exact .inl ⟨List.append_nil _, hafter⟩
  · obtain ⟨n, g', hn, hlength, hg', hline, hrest'⟩ := lineBreak_filler hb hmore' hrest hafter
    have hlonger : (spaces ++ b :: more').length = spaces.length + (n + g'.length) := by
      rw [List.length_append, List.length_cons]
      omega
    refine .inr ⟨?_, ?_, _, g', hline, hrest', hg', by omega, ?_⟩
    · rw [peek_cons hafter]
      rcases hb with rfl | rfl <;> rfl
    · rw [peek_cons hafter]
      rcases hb with rfl | rfl <;> decide
    · rw [hlonger, advanceBy_add, advanceBy_add]

end Cursor

/-! ## White space as a whole -/

/-- **White space before a token** is stepped over. A line break allows a key only outside of brackets. -/
theorem skipToToken_filler (inFlow allowed : Bool) {c : Cursor} {g rest : List Char} {fuel : Nat}
    (hg : IsFiller g) (hrest : Begins rest) (h : c.rest = g ++ rest) (hfuel : g.length < fuel) :
    ∃ allowed', Scanner.skipToToken inFlow fuel c allowed = (c.advanceBy g.length, allowed') ∧
      (inFlow = true → allowed' = allowed) ∧ (allowed = true → allowed' = true) := by
  induction fuel generalizing c g allowed with
  | zero => omega
  | succ fuel ih =>
    obtain ⟨spaces, hskip, -, hline⟩ := Cursor.line_filler hg hrest h
    unfold Scanner.skipToToken
    dsimp only
    rw [hskip]
    rcases hline with ⟨rfl, hafter⟩ | ⟨hbreak, hcomment, after, g', hline, hrest', hg', hless, hend⟩
    · have hpeek := hrest.peek hafter
      rw [Cursor.skipComment_of_ne hpeek.2.2.1, if_neg (by simp [hpeek.2.1])]
      exact ⟨allowed, rfl, fun _ => rfl, id⟩
    · -- One turn takes the spaces and one line break; the induction is on what they leave.
      obtain ⟨allowed', hread, hflow, hallowed⟩ := ih (allowed || !inFlow) hg' hrest' (by omega)
      rw [Cursor.skipComment_of_ne hcomment, if_pos hbreak, hline]
      refine ⟨allowed', ?_, ?_, ?_⟩
      · dsimp only
        rw [hread, hend]
      · intro hin
        rw [hflow hin, hin, Bool.not_true, Bool.or_false]
      · intro hall
        exact hallowed (by rw [hall, Bool.true_or])

/-- No document is separated where white space goes on or something begins with neither a dash nor a dot. -/
theorem atSeparator_filler {c : Cursor} {g rest : List Char} (hg : IsFiller g)
    (hrest : ∀ ch ∈ rest.head?, ch ≠ '-' ∧ ch ≠ '.') (h : c.rest = g ++ rest) : c.atSeparator = false := by
  have hhead : ∀ ch ∈ c.rest.head?, ch ≠ '-' ∧ ch ≠ '.' := by
    rw [h]
    cases g with
    | nil => exact hrest
    | cons b g =>
      intro ch hch
      cases hch
      rcases hg b (by simp) with rfl | rfl | rfl <;> decide
  unfold Cursor.atSeparator
  cases hc : c.rest with
  | nil => rfl
  | cons ch more =>
    obtain ⟨hdash, hdot⟩ := hhead ch (by rw [hc]; rfl)
    have hthree : ∀ d, ch ≠ d → ((ch :: more).take 3 == [d, d, d]) = false := by
      intro d hd
      rw [List.take_succ_cons]
      exact beq_false_of_ne fun heq => hd (List.cons.inj heq).1
    rw [hthree _ hdash, hthree _ hdot]
    rfl

/-- White space between two lines of a plain scalar is stepped over. -/
theorem readPlainBreaks_filler {c : Cursor} {g rest : List Char} {fuel : Nat} (hg : IsFiller g) (hrest : Begins rest)
    (hnone : ∀ ch ∈ rest.head?, ch ≠ '-' ∧ ch ≠ '.') (h : c.rest = g ++ rest) (hfuel : g.length < fuel) :
    ∃ breaks, readPlainBreaks fuel c = (some breaks, c.advanceBy g.length) := by
  induction fuel generalizing c g with
  | zero => omega
  | succ fuel ih =>
    obtain ⟨spaces, hskip, -, hline⟩ := Cursor.line_filler hg hrest h
    unfold readPlainBreaks
    dsimp only
    rw [hskip]
    rcases hline with ⟨rfl, hafter⟩ | ⟨hbreak, -, after, g', hline, hrest', hg', hless, hend⟩
    · rw [if_neg (by simp [(hrest.peek hafter).2.1])]
      exact ⟨[], rfl⟩
    · obtain ⟨breaks, hread⟩ := ih hg' hrest' (by omega)
      rw [if_pos hbreak, hline]
      dsimp only
      rw [if_neg (by simp [atSeparator_filler hg' hnone hrest']), hread, hend]
      exact ⟨_, rfl⟩

/-- **White space after a part of a plain scalar** is stepped over. -/
theorem readPlainGap_filler {c : Cursor} {g rest : List Char} (hg : IsFiller g) (hrest : Begins rest)
    (hnone : ∀ ch ∈ rest.head?, ch ≠ '-' ∧ ch ≠ '.') (h : c.rest = g ++ rest) :
    (readPlainGap c).after = c.advanceBy g.length := by
  obtain ⟨spaces, -, hspan, hline⟩ := Cursor.line_filler hg hrest h
  unfold readPlainGap
  rw [hspan]
  dsimp only
  rcases hline with ⟨rfl, hafter⟩ | ⟨hbreak, -, after, g', hline, hrest', hg', hless, hend⟩
  · rw [if_neg (by simp [(hrest.peek hafter).2.1])]
  · have hfuel : g'.length < after.rest.length + 1 := by
      rw [hrest', List.length_append]
      omega
    obtain ⟨breaks, hread⟩ := readPlainBreaks_filler hg' hrest hnone hrest' hfuel
    rw [if_pos hbreak, hline]
    dsimp only
    rw [if_neg (by simp [atSeparator_filler hg' hnone hrest']), hread, hend]

end Triage.Yaml
