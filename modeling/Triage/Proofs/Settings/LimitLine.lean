import Triage.Proofs.Settings.Overrides
import Triage.Proofs.Yaml.LineDocument
import Triage.Proofs.Yaml.SpelledNumber

/-!
# One limit in two places

The limit may be given by a line of a document or by a variable. The document types what is plain by its form; a variable
is text.

* `limit_of_ofFile`: what the limit is taken from.
* `isValueText_of_accepted`: the texts that a variable may give the limit.
* `depthLimit_line_eq_iff`: **where both give the same number for the same text**.
-/

namespace Triage.Settings

open Triage.Text (trimList isBlank)
open Triage.Yaml (isBreak IsSolid IsPlainLine IsValueText IsFiller)

variable {tree : FileTree} {path : Option String} {env : Environment} {settings : Settings} {es : List (Value × Value)}

/-- The limit is what the environment or else the document gives, if one of them does. -/
theorem limit_of_ofFile (h : ofFile tree path env = .ok settings) :
    ∃ es, entriesOf tree path = .ok es ∧
      ((∃ v, ((env.value? "FAULTLINE_DEPTH_LIMIT").map Value.text).or (Value.entry? "depth_limit" es) = some v ∧
          checkIntegerFrom 1 v = .ok settings.depthLimit) ∨
        ((env.value? "FAULTLINE_DEPTH_LIMIT").map Value.text).or (Value.entry? "depth_limit" es) = none ∧
          settings.depthLimit = standard.depthLimit) := by
  obtain ⟨es, hes, -, hchecked⟩ := ofFile_eq_ok_iff.1 h
  obtain ⟨-, -, hlimit, -⟩ := ofEntries_eq_ok_iff.1 hchecked
  have hoverride : env.override? "depth_limit" = env.value? "FAULTLINE_DEPTH_LIMIT" := rfl
  rw [optional_eq_ok_iff, Environment.entry?_overlay, hoverride] at hlimit
  exact ⟨es, hes, hlimit⟩

/-! ## The text -/

/-- White space on one line is a space, a tab, or goes on with a plain scalar. -/
theorem isSolid_of_isBlank {c : Char} (h : isBlank c = true) (hbreak : isBreak c = false) (hspace : c ≠ ' ')
    (htab : c ≠ '\t') : IsSolid c := by
  have hgraphic : ∀ d ∈ "-?:,[]\x7b\x7d#&*!|>'\"%@`".toList, Yaml.Graphic d := by decide
  have hlisted : "-?:,[]\x7b\x7d#&*!|>'\"%@`".toList.contains c = false := by
    rw [Bool.eq_false_iff]
    intro hmem
    rw [(hgraphic c (List.contains_iff_mem.1 hmem)).isBlank_eq] at h
    cases h
  have hend : c ≠ '\x00' := by
    rintro rfl
    exact absurd h (by decide +kernel)
  refine ⟨?_, ?_⟩
  · rw [Yaml.Scanner.isIndicator, hlisted, Bool.or_false, Yaml.isBlankOrEnd, Yaml.isSpaceOrEnd, Yaml.isLineEnd, hbreak,
      beq_false_of_ne hspace, beq_false_of_ne htab, beq_false_of_ne hend]
    rfl
  · rintro rfl
    exact absurd h (by decide +kernel)

theorem trimList_isBlank_of {n : Spelling} {cs : List Char} (h : trimList isWhiteSpace cs = n.text) :
    trimList isBlank cs = n.text := by
  obtain ⟨before, after, hsplit, hbefore, hafter⟩ := Text.exists_padded isWhiteSpace cs
  have hblank {c : Char} (hc : isWhiteSpace c = true) : isBlank c = true := (Bool.and_eq_true_iff.1 hc).1
  rw [hsplit, h, Text.trimList_padded (fun c hc => hblank (hbefore c hc)) fun c hc => hblank (hafter c hc),
    n.trimList_text fun _ => id]

/-- **A variable that gives the limit** is a spelled number between white space. -/
theorem exists_spelling_of_variable {s : String} {k : Int} (h : checkIntegerFrom 1 (.text (Text.trim s)) = .ok k) :
    ∃ n : Spelling, trimList isBlank s.toList = n.text ∧ k = n.decimal := by
  obtain ⟨hread, hk⟩ := checkIntegerFrom_eq_ok_iff.1 h
  have hread : checkIntegerText (Text.trim s) = .ok k := hread
  obtain ⟨n, htext, hvalue⟩ := exists_spelling hread hk
  have htrimmed := trimList_isBlank_of htext
  rw [Text.trim, String.toList_ofList, Text.trimList_trimList] at htrimmed
  exact ⟨n, htrimmed, hvalue⟩

/-- All characters of such a text may stand behind the colon of a line. -/
theorem isValueText_of_trimmed {cs : List Char} (hline : ∀ c ∈ cs, isBreak c = false)
    (h : (∀ c ∈ cs, isBlank c = true) ∨ ∃ n : Spelling, trimList isBlank cs = n.text) : IsValueText cs := by
  have hspelled : ∀ c ∈ '+' :: '.' :: '_' :: Yaml.digitChars, IsSolid c := by decide
  have hblank {c : Char} (hc : c ∈ cs) (h : isBlank c = true) : c = ' ' ∨ c = '\t' ∨ IsSolid c := by
    by_cases hspace : c = ' '
    · exact .inl hspace
    · by_cases htab : c = '\t'
      · exact .inr (.inl htab)
      · exact .inr (.inr (isSolid_of_isBlank h (hline c hc) hspace htab))
  intro c hc
  rcases h with hall | ⟨n, hn⟩
  · exact hblank hc (hall c hc)
  · obtain ⟨before, after, hsplit, hbefore, hafter⟩ := Text.exists_padded isBlank cs
    rw [hn] at hsplit
    have hmem := hc
    rw [hsplit, List.append_assoc, List.mem_append, List.mem_append] at hmem
    rcases hmem with hmem | hmem | hmem
    · exact hblank hc (hbefore c hmem)
    · exact .inr (.inr (hspelled c (n.mem_text hmem)))
    · exact hblank hc (hafter c hmem)

/-! ## The scalar behind the colon -/

section Scalar

variable {p : List Char} {fuel : Nat} {m : Yaml.Mark} {v : Value} {k : Int}
  (hv : Yaml.valueOf [] 1 (fuel + 1) (.scalar ⟨Yaml.Tag.ofPlain (String.ofList p), none, m⟩ (String.ofList p)) = .ok v)
  (hk : checkIntegerFrom 1 v = .ok k)
include hv hk

/-- An empty scalar is no number. -/
theorem ne_nil_of_accepted : p ≠ [] := by
  rintro rfl
  rw [show Yaml.Tag.ofPlain (String.ofList []) = Yaml.Tag.core "null" from rfl, Yaml.valueOf_scalar rfl,
    Yaml.scalarValue, Yaml.scalarText_scalar] at hv
  cases hv
  cases hk

/-- Words with other white space among them than spaces are a text. -/
theorem exists_spelling_of_blank (hp : IsPlainLine p) (hblank : ∃ c ∈ p, isBlank c = true) :
    ∃ n : Spelling, trimList isBlank p = n.text ∧ k = n.decimal := by
  have hnot {c : Char} (hspace : c ≠ ' ') (hc : ¬ IsSolid c) : c ∉ p := fun hmem =>
    (hp.forall_mem c hmem).elim hspace hc
  obtain ⟨c, hc, hcblank⟩ := hblank
  have hgraphic : ¬ Yaml.IsGraphic p := by
    intro h
    rw [(h c hc).isBlank_eq] at hcblank
    cases hcblank
  rw [Yaml.ofPlain_of_mem ⟨c, hc, .inr hcblank⟩ (hnot (by decide) (by decide)) (hnot (by decide) (by decide)),
    if_neg fun hform => hgraphic (Yaml.isGraphic_of_isFloatForm hform),
    if_neg fun hform => hgraphic (Yaml.isGraphic_of_isIntegerForm hform), Yaml.valueOf_text] at hv
  cases hv
  obtain ⟨hread, hone⟩ := checkIntegerFrom_eq_ok_iff.1 hk
  have hread : checkIntegerText (String.ofList p) = .ok k := hread
  obtain ⟨n, htext, hvalue⟩ := exists_spelling hread hone
  rw [String.toList_ofList] at htext
  exact ⟨n, trimList_isBlank_of htext, hvalue⟩

/-- Words with a spelled number in them are read by their form if there is nothing else, and else as a text. -/
theorem limit_of_words {n : Spelling} (hp : IsPlainLine p) (hn : trimList isBlank p = n.text) :
    (p = n.text → n.ReadsAs k) ∧ (p ≠ n.text → k = n.decimal) := by
  constructor
  · rintro rfl
    exact n.readsAs_of_valueOf hv hk
  · intro hne
    have hblank : ∃ c ∈ p, isBlank c = true := by
      by_contra hnone
      have hall : ∀ c ∈ p, isBlank c = false := fun c hc => Bool.eq_false_iff.2 fun h => hnone ⟨c, hc, h⟩
      refine hne (Eq.trans ?_ hn)
      exact (Text.trimList_eq_self (fun c hc => hall c (List.mem_of_head? hc))
        fun c hc => hall c (List.mem_of_getLast? hc)).symm
    obtain ⟨n', hn', hvalue⟩ := exists_spelling_of_blank hv hk hp hblank
    rw [hvalue, Spelling.decimal_eq (hn'.symm.trans hn)]

end Scalar

/-! ## The line -/

/-- The text behind the colon of a line. -/
def lineText (s : String) : List Char := trimList (· == ' ') s.toList

theorem lineText_eq {s : String} {before p after : List Char} (hs : s.toList = before ++ (p ++ after))
    (hbefore : ∀ c ∈ before, c = ' ') (hafter : ∀ c ∈ after, c = ' ') (hp : IsPlainLine p) : lineText s = p := by
  have hspaces {cs : List Char} (h : ∀ c ∈ cs, c = ' ') : ∀ c ∈ cs, (c == ' ') = true := fun c hc => by simp [h c hc]
  have hsolid {c : Char} (h : IsSolid c) : (c == ' ') = false := beq_false_of_ne (h.ne (by decide))
  rw [lineText, hs, ← List.append_assoc, Text.trimList_padded (hspaces hbefore) (hspaces hafter)]
  refine Text.trimList_eq_self (fun c hc => hsolid ?_) fun c hc => hsolid (hp.last_solid c hc)
  obtain ⟨d, rest, rfl, hd⟩ := hp.exists_cons
  cases hc
  exact hd

theorem isPlainKey_limit : Yaml.Scanner.IsPlainKey "depth_limit".toList :=
  ⟨.word (by decide) (by decide), by decide, by decide⟩

/-- The entries of a file that has been read. -/
theorem load_of_entriesOf {name text : String} (hread : tree.readText name = .ok text)
    (h : entriesOf tree (some name) = .ok es) : Yaml.load (.file (normalPath name) text) = .ok (.map es) := by
  have hfile : entriesOfFile tree name = .ok es := h
  unfold entriesOfFile at hfile
  dsimp only at hfile
  rw [hread] at hfile
  dsimp only at hfile
  cases hload : Yaml.load (.file (normalPath name) text) with
  | error e =>
    rw [hload] at hfile
    cases hfile
  | ok v =>
    rw [hload] at hfile
    cases v with
    | map es' =>
      cases hfile
      rfl
    | _ => cases hfile

/-- **A line that gives the limit** has words behind its colon. -/
theorem exists_words {name s ending : String} (hread : tree.readText name = .ok ("depth_limit: " ++ s ++ ending))
    (hending : ending = "" ∨ ending = "\n") (hunset : IsUnset env "FAULTLINE_DEPTH_LIMIT")
    (htext : IsValueText s.toList) (h : ofFile tree (some name) env = .ok settings) :
    ∃ before p after m fuel v, s.toList = before ++ (p ++ after) ∧ (∀ c ∈ before, c = ' ') ∧ (∀ c ∈ after, c = ' ') ∧
      IsPlainLine p ∧ checkIntegerFrom 1 v = .ok settings.depthLimit ∧
      Yaml.valueOf [] 1 (fuel + 1) (.scalar ⟨Yaml.Tag.ofPlain (String.ofList p), none, m⟩ (String.ofList p)) = .ok v := by
  obtain ⟨es, hes, hlimit⟩ := limit_of_ofFile h
  rw [value?_of_isUnset hunset, Option.map_none, Option.none_or] at hlimit
  have hfiller : IsFiller ending.toList := by
    rcases hending with rfl | rfl
    · exact List.forall_mem_nil _
    · exact List.forall_mem_singleton.2 (.inr (.inl rfl))
  have hsplit : ("depth_limit: " ++ s ++ ending).toList =
      "depth_limit".toList ++ ':' :: ' ' :: (s.toList ++ ending.toList) := by
    rw [String.toList_append, String.toList_append, List.append_assoc]
    rfl
  obtain ⟨before, p, after, m, fuel, v, hs, hbefore, hafter, hp, hmap, hvalue⟩ :=
    Yaml.exists_value_of_load_line isPlainKey_limit rfl htext hfiller hsplit (load_of_entriesOf hread hes)
  obtain rfl : es = [(.text "depth_limit", v)] := Value.map.inj hmap
  rw [Value.entry?_cons_self] at hlimit
  obtain ⟨v', hv', hk⟩ | ⟨hnone, -⟩ := hlimit
  · cases hv'
    exact ⟨before, p, after, m, fuel, v, hs, hbefore, hafter, hp.resolve_left (ne_nil_of_accepted hvalue hk), hk, hvalue⟩
  · cases hnone

/-- A variable that is not blank gives the limit. -/
theorem limit_of_variable {s : String} (hset : env.lookup "FAULTLINE_DEPTH_LIMIT" = some s)
    (hblank : Text.isBlankText s = false) (h : ofFile tree path env = .ok settings) :
    checkIntegerFrom 1 (.text (Text.trim s)) = .ok settings.depthLimit := by
  have hvalue : env.value? "FAULTLINE_DEPTH_LIMIT" = some (Text.trim s) :=
    Environment.gives_iff.1 ⟨s, hset, hblank, rfl⟩
  obtain ⟨es, -, hlimit⟩ := limit_of_ofFile h
  rw [hvalue, Option.map_some, Option.some_or] at hlimit
  obtain ⟨v, hv, hk⟩ | ⟨hnone, -⟩ := hlimit
  · cases hv
    exact hk
  · cases hnone

/-- **One text for the limit, in a line and in a variable.** Let a document of one line give the limit and be accepted, and
let a variable give the same text and be accepted. Then the text is a spelled number between white space, the variable gives
its decimal value, and the line gives the same number, but for two kinds of texts, spaces put aside: where a zero leads octal
digits that spell eight at least, and where there is a point and the format of numbers with a point does not hold the
number. There the line gives what the digits spell to base eight, and the nearest number that the format holds. -/
theorem depthLimit_line_eq_iff {tree tree' : FileTree} {name : String} {path' : Option String} {env env' : Environment}
    {s ending : String} {f e : Settings} (hline : ∀ c ∈ s.toList, isBreak c = false)
    (hending : ending = "" ∨ ending = "\n")
    (hread : tree.readText name = .ok ("depth_limit: " ++ s ++ ending))
    (hunset : IsUnset env "FAULTLINE_DEPTH_LIMIT") (hfile : ofFile tree (some name) env = .ok f)
    (hset : env'.lookup "FAULTLINE_DEPTH_LIMIT" = some s) (hvariable : ofFile tree' path' env' = .ok e) :
    ∃ n : Spelling, trimList isBlank s.toList = n.text ∧ e.depthLimit = n.decimal ∧
      (lineText s = n.text → n.ReadsAs f.depthLimit) ∧
      (f.depthLimit = e.depthLimit ↔ (lineText s = n.text →
        (n.isOctal = true → n.decimal < 8) ∧ (n.zeros.isSome = true → Binary64.Holds n.decimal))) := by
  cases hblank : Text.isBlankText s with
  | true =>
    -- a line without a number is not accepted
    exfalso
    have hall : ∀ c ∈ s.toList, isBlank c = true := Text.isBlankText_iff.1 hblank
    obtain ⟨before, p, after, m, fuel, v, hs, -, -, hp, hk, hvalue⟩ :=
      exists_words hread hending hunset (isValueText_of_trimmed hline (.inl hall)) hfile
    have hall : ∀ c ∈ p, isBlank c = true := by
      intro c hc
      exact hall c (by rw [hs]; exact List.mem_append_right _ (List.mem_append_left _ hc))
    obtain ⟨c, rest, rfl, -⟩ := hp.exists_cons
    obtain ⟨n, hn, -⟩ := exists_spelling_of_blank hvalue hk hp ⟨c, List.mem_cons_self, hall c List.mem_cons_self⟩
    obtain ⟨d, hd, -⟩ := n.exists_isDigit_text
    rw [← hn, Text.trimList_eq_nil_iff.2 hall] at hd
    cases hd
  | false =>
    obtain ⟨n, hn, hdecimal⟩ := exists_spelling_of_variable (limit_of_variable hset hblank hvariable)
    obtain ⟨before, p, after, m, fuel, v, hs, hbefore, hafter, hp, hk, hvalue⟩ :=
      exists_words hread hending hunset (isValueText_of_trimmed hline (.inr ⟨n, hn⟩)) hfile
    have hspace {cs : List Char} (h : ∀ c ∈ cs, c = ' ') : ∀ c ∈ cs, isBlank c = true := by
      intro c hc
      rw [h c hc]
      decide +kernel
    have hwords : trimList isBlank p = n.text := by
      rw [← hn, hs, ← List.append_assoc, Text.trimList_padded (hspace hbefore) (hspace hafter)]
    obtain ⟨hsame, hother⟩ := limit_of_words hvalue hk hp hwords
    refine ⟨n, hn, hdecimal, ?_⟩
    rw [lineText_eq hs hbefore hafter hp, hdecimal]
    refine ⟨hsame, ?_⟩
    by_cases htext : p = n.text
    · rw [(hsame htext).eq_decimal_iff]
      exact ⟨fun h _ => h, fun h => h htext⟩
    · exact iff_of_true (hother htext) fun h => absurd h htext

/-- A tree with a document of one line that gives the limit. -/
def limitTree (s : String) : FileTree := .ofList [("limits.yaml", ("depth_limit: " ++ s ++ "\n").toUTF8.toList)]

/-- A zero in front of ten, and a point behind it, in a line and in a variable. -/
theorem depthLimit_line_eq_iff_ten :
    (∃ n : Spelling, trimList isBlank " 010".toList = n.text ∧ n.ReadsAs 8 ∧ (10 : Int) = n.decimal) ∧
      ∃ n : Spelling, trimList isBlank "+1_0.0 ".toList = n.text ∧ n.ReadsAs 10 ∧ (10 : Int) = n.decimal := by
  have hoctal : ofFile (limitTree " 010") (some "limits.yaml") [] = .ok { standard with depthLimit := 8 } :=
    eq_ok_of_toOption (by decide +kernel)
  have hpointed : ofFile (limitTree "+1_0.0 ") (some "limits.yaml") [] = .ok { standard with depthLimit := 10 } :=
    eq_ok_of_toOption (by decide +kernel)
  have hunset : IsUnset [] "FAULTLINE_DEPTH_LIMIT" := by
    intro raw h
    cases h
  constructor
  · have hvariable : ofFile .empty none [("FAULTLINE_DEPTH_LIMIT", " 010")] = .ok { standard with depthLimit := 10 } :=
      eq_ok_of_toOption (by decide +kernel)
    obtain ⟨n, htext, hdecimal, hreads, -⟩ := depthLimit_line_eq_iff (by decide) (.inr rfl)
      (show (limitTree " 010").readText "limits.yaml" = .ok ("depth_limit: " ++ " 010" ++ "\n") by decide +kernel)
      hunset hoctal rfl hvariable
    exact ⟨n, htext, hreads (Eq.trans (by decide +kernel) htext), hdecimal⟩
  · have hvariable : ofFile .empty none [("FAULTLINE_DEPTH_LIMIT", "+1_0.0 ")] =
        .ok { standard with depthLimit := 10 } := eq_ok_of_toOption (by decide +kernel)
    obtain ⟨n, htext, hdecimal, hreads, -⟩ := depthLimit_line_eq_iff (by decide) (.inr rfl)
      (show (limitTree "+1_0.0 ").readText "limits.yaml" = .ok ("depth_limit: " ++ "+1_0.0 " ++ "\n") by decide +kernel)
      hunset hpointed rfl hvariable
    exact ⟨n, htext, hreads (Eq.trans (by decide +kernel) htext), hdecimal⟩

/-- **The same text gives two limits**: a line with a zero in front of octal digits or with a number that the format does not
hold, and a variable. -/
theorem line_and_variable_differ :
    ofFile (limitTree "010") (some "limits.yaml") [] = .ok { standard with depthLimit := 8 } ∧
      ofFile .empty none [("FAULTLINE_DEPTH_LIMIT", "010")] = .ok { standard with depthLimit := 10 } ∧
      ofFile (limitTree "9007199254740993.0") (some "limits.yaml") [] =
        .ok { standard with depthLimit := 9007199254740992 } ∧
      ofFile .empty none [("FAULTLINE_DEPTH_LIMIT", "9007199254740993.0")] =
        .ok { standard with depthLimit := 9007199254740993 } :=
  ⟨eq_ok_of_toOption (by decide +kernel), eq_ok_of_toOption (by decide +kernel), eq_ok_of_toOption (by decide +kernel),
    eq_ok_of_toOption (by decide +kernel)⟩

end Triage.Settings
