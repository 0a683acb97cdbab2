import Triage.Json.Printer
import Triage.Proofs.Validation.Acceptance
import Triage.Proofs.Yaml.JsonDocument

/-!
# What is printed as JSON

A value that is printed is printed as the text of a tree, and as a plain one: on one line, in ASCII, with a space
behind each comma and colon. So what is printed is read, as JSON and as a document, as the value that was printed.

* `Value.IsBasic`: values of texts, lists and records, with characters of the basic plane and short keys.
* `exists_term_of_isBasic`: **such a value is printed as a plain tree** that stands for it.
* `Yaml.load_render`: **a value that is printed is loaded as itself**.
-/

namespace Triage

/-- Every character of the text is of the basic plane. -/
def Text.IsBasic (s : String) : Prop := ∀ c ∈ s.toList, c.toNat < 0x10000

instance (s : String) : Decidable (Text.IsBasic s) := inferInstanceAs (Decidable (∀ c ∈ s.toList, _))

/-- A key that is printed in so many characters. -/
def Json.IsShortKey (s : String) : Prop :=
  Text.IsBasic s ∧ (Json.string s).toList.length ≤ Yaml.Scanner.maxKeyLength

instance (s : String) : Decidable (Json.IsShortKey s) := inferInstanceAs (Decidable (_ ∧ _))

/-- Null, and texts, lists and records, with characters of the basic plane and short keys, no two of them the same. -/
inductive Value.IsBasic : Value → Prop where
  | null : IsBasic .null
  | text {s : String} (basic : Text.IsBasic s) : IsBasic (.text s)
  | list {vs : List Value} (items : ∀ v ∈ vs, IsBasic v) : IsBasic (.list vs)
  | map {es : List (Value × Value)} (keys : ∀ e ∈ es, ∃ s, e.1 = .text s ∧ Json.IsShortKey s)
      (distinct : (es.map Prod.fst).Nodup) (values : ∀ e ∈ es, IsBasic e.2) : IsBasic (.map es)

theorem Value.IsBasic.isJson {v : Value} (h : v.IsBasic) : v.IsJson := by
  induction h with
  | null => exact .null
  | text => exact .text _
  | list _ ih => exact .list ih
  | map keys distinct _ ih => exact .map (fun e he => (keys e he).imp fun _ hs => hs.1) distinct ih

namespace Json

open Triage.Text (hexDigit hexPadded hexValue? natOfText natOfDigits)

/-! ## Characters -/

theorem hexValue?_hexDigit : ∀ n < 16, hexValue? (hexDigit n) = some n := by decide

/-- Four digits give the number back. -/
theorem hexFour?_hexPadded {n : Nat} (h : n < 0x10000) : hexFour? (hexPadded 4 n) = some (n, []) := by
  have hdigit (m : Nat) : hexValue? (hexDigit (m % 16)) = some (m % 16) :=
    hexValue?_hexDigit _ (Nat.mod_lt _ (by decide))
  have hdigits : hexPadded 4 n =
      [hexDigit (n / 4096 % 16), hexDigit (n / 256 % 16), hexDigit (n / 16 % 16), hexDigit (n / 1 % 16)] := rfl
  rw [hdigits, hexFour?, if_pos (by simp only [List.all_cons, List.all_nil, hdigit]; rfl)]
  simp only [natOfText, natOfDigits, List.map_cons, List.map_nil, hdigit, List.foldl_cons, List.foldl_nil,
    Option.getD_some]
  refine congrArg (fun m => some (m, [])) ?_
  omega

/-- A character of the basic plane is read back from its escape: it is no surrogate. -/
theorem escape?_unitEscape {c : Char} (h : c.toNat < 0x10000) :
    escape? ('u' :: hexPadded 4 c.toNat) = some (c, []) := by
  have hvalid : c.toNat < 0xd800 ∨ 0xdfff < c.toNat := by
    rcases c.valid with hlow | ⟨hhigh, -⟩
    · exact .inl hlow
    · exact .inr hhigh
  have hfirst : (decide (0xd800 ≤ c.toNat) && decide (c.toNat < 0xdc00)) = false := by
    simp only [Bool.and_eq_false_iff, decide_eq_false_iff_not]
    omega
  have hsecond : (decide (0xdc00 ≤ c.toNat) && decide (c.toNat < 0xe000)) = false := by
    simp only [Bool.and_eq_false_iff, decide_eq_false_iff_not]
    omega
  rw [escape?_unit, hexFour?_hexPadded h, Option.bind_some]
  simp only [hfirst, hsecond, Bool.false_eq_true, if_false, Char.ofNat_toNat]

/-- What is printed as it is may stand as it is. -/
theorem isPlain_raw {c : Char} (ok : 0x20 ≤ c.toNat ∧ c ≠ '"' ∧ c ≠ '\\') (h : c.toNat < 0x7f) :
    (Piece.raw c ok).isPlain = true := by
  obtain ⟨hadmits, hbreak⟩ := Yaml.isInline_ascii ok.1 (Nat.le_of_lt_succ h)
  exact Bool.and_eq_true_iff.2 ⟨hadmits, by rw [hbreak]; rfl⟩

/-- **A character of the basic plane** is printed as it is or as an escape for one unit. -/
theorem exists_piece {c : Char} (h : c.toNat < 0x10000) :
    ∃ p : Piece, p.text = escapedChar c ∧ p.char = c ∧ p.isPlain = true := by
  unfold escapedChar
  split
  · next hc =>
    rcases (by simpa using hc : c = '"' ∨ c = '\\') with rfl | rfl
    · exact ⟨.escape ['"'] '"' rfl, rfl, rfl, rfl⟩
    · exact ⟨.escape ['\\'] '\\' rfl, rfl, rfl, rfl⟩
  · next hquote =>
    have hquote : c ≠ '"' ∧ c ≠ '\\' := by simpa using hquote
    split
    · next hc => exact ⟨.escape ['n'] '\n' rfl, rfl, (eq_of_beq hc).symm, rfl⟩
    split
    · next hc => exact ⟨.escape ['r'] '\r' rfl, rfl, (eq_of_beq hc).symm, rfl⟩
    split
    · next hc => exact ⟨.escape ['t'] '\t' rfl, rfl, (eq_of_beq hc).symm, rfl⟩
    split
    · next hc => exact ⟨.escape ['f'] '\x0c' rfl, rfl, (eq_of_beq hc).symm, rfl⟩
    split
    · next hc => exact ⟨.escape ['b'] '\x08' rfl, rfl, (eq_of_beq hc).symm, rfl⟩
    split
    · next hc =>
      have hc : 0x20 ≤ c.toNat ∧ c.toNat < 0x7f := by simpa using hc
      exact ⟨.raw c ⟨hc.1, hquote⟩, rfl, rfl, isPlain_raw _ hc.2⟩
    · exact ⟨.escape ('u' :: hexPadded 4 c.toNat) c (escape?_unitEscape h), rfl, rfl, rfl⟩

/-- The characters of a text, one by one. -/
theorem exists_pieces {cs : List Char} (h : ∀ c ∈ cs, c.toNat < 0x10000) :
    ∃ ps : List Piece, piecesText ps = cs.flatMap escapedChar ∧ ps.map Piece.char = cs ∧ arePlain ps = true := by
  induction cs with
  | nil => exact ⟨[], rfl, rfl, rfl⟩
  | cons c cs ih =>
    obtain ⟨hc, hcs⟩ := List.forall_mem_cons.1 h
    obtain ⟨p, htext, hchar, hplain⟩ := exists_piece hc
    obtain ⟨ps, htexts, hchars, hplains⟩ := ih hcs
    refine ⟨p :: ps, ?_, ?_, Bool.and_eq_true_iff.2 ⟨hplain, hplains⟩⟩
    · rw [piecesText, List.flatMap_cons, ← piecesText, htext, htexts, List.flatMap_cons]
    · rw [List.map_cons, hchar, hchars]

/-- **A text** is printed as a string of plain characters. -/
theorem exists_quoted {s : String} (h : Text.IsBasic s) :
    ∃ ps : List Piece, quotedText ps = (string s).toList ∧ piecesValue ps = s ∧ arePlain ps = true := by
  obtain ⟨ps, htext, hchars, hplain⟩ := exists_pieces h
  refine ⟨ps, ?_, ?_, hplain⟩
  · rw [quotedText, htext, string, String.toList_ofList]
  · rw [piecesValue, hchars, String.ofList_toList]

/-- A short key is printed as a key of a member. -/
theorem exists_key {k : Value} (h : ∃ s, k = .text s ∧ IsShortKey s) :
    ∃ ps : List Piece, quotedText ps = (string k.toText).toList ∧ Value.text (piecesValue ps) = k ∧
      keyIsPlain ps .none = true := by
  obtain ⟨s, rfl, hbasic, hlength⟩ := h
  obtain ⟨ps, htext, hvalue, hplain⟩ := exists_quoted hbasic
  refine ⟨ps, htext, congrArg _ hvalue, ?_⟩
  rw [← htext] at hlength
  unfold keyIsPlain
  simp only [hplain, Bool.true_and, Bool.and_eq_true, decide_eq_true_eq]
  exact ⟨rfl, hlength⟩

/-! ## Values -/

/-- The value is printed as the text of a plain tree that stands for it. -/
def IsPrintedAs (v : Value) (t : Term) : Prop := t.text = (render v).toList ∧ t.value = v ∧ t.isPlain = true

/-- The space behind a comma or a colon. -/
def Gap.space : Gap := ⟨[' '], by decide⟩

/-- Items with a space in front of all but the first. -/
theorem exists_items {v : Value} {vs : List Value} (h : ∀ w ∈ v :: vs, ∃ t, IsPrintedAs w t) {before : Gap}
    (hbefore : before.isPlain = true) :
    ∃ is : Items, is.text = before.1 ++ ((", ".intercalate (renderItems (v :: vs))).toList ++ [']']) ∧
      is.values = v :: vs ∧ is.isPlain = true := by
  induction vs generalizing v before with
  | nil =>
    obtain ⟨t, htext, hvalue, hplain⟩ := h v (by simp)
    refine ⟨.last before t .none, ?_, by rw [Items.values, hvalue], Items.isPlain_last.2 ⟨hbefore, hplain, rfl⟩⟩
    simp only [renderItems, String.intercalate_singleton, ← htext]
    rfl
  | cons w ws ih =>
    obtain ⟨hv, hws⟩ := List.forall_mem_cons.1 h
    obtain ⟨t, htext, hvalue, hplain⟩ := hv
    obtain ⟨is, htexts, hvalues, hplains⟩ := ih hws (show Gap.space.isPlain = true from rfl)
    refine ⟨.cons before t .none is, ?_, by rw [Items.values, hvalue, hvalues],
      Items.isPlain_cons.2 ⟨hbefore, hplain, rfl, hplains⟩⟩
    simp only [renderItems, String.intercalate_cons_cons, String.toList_append, List.append_assoc] at htexts ⊢
    rw [Items.text, htexts, htext]
    rfl

/-- Members with a space in front of all but the first, and in front of each value. -/
theorem exists_members {e : Value × Value} {es : List (Value × Value)}
    (hkeys : ∀ x ∈ e :: es, ∃ s, x.1 = .text s ∧ IsShortKey s)
    (h : ∀ x ∈ e :: es, ∃ t, IsPrintedAs x.2 t) {before : Gap} (hbefore : before.isPlain = true) :
    ∃ ms : Members, ms.text = before.1 ++ ((", ".intercalate (renderEntries (e :: es))).toList ++ ['\x7d']) ∧
      ms.entries = e :: es ∧ ms.isPlain = true := by
  induction es generalizing e before with
  | nil =>
    obtain ⟨ps, hkeyText, hkey, hkeyPlain⟩ := exists_key (hkeys e (by simp))
    obtain ⟨t, htext, hvalue, hplain⟩ := h e (by simp)
    refine ⟨.last before ps .none .space t .none, ?_, by rw [Members.entries, hkey, hvalue],
      Members.isPlain_last.2 ⟨hbefore, hkeyPlain, rfl, hplain, rfl⟩⟩
    rw [Members.text, hkeyText, htext, renderEntries, renderEntries, String.intercalate_singleton]
    simp only [String.toList_append, List.append_assoc]
    rfl
  | cons x xs ih =>
    obtain ⟨hkey, hkeys⟩ := List.forall_mem_cons.1 hkeys
    obtain ⟨he, hxs⟩ := List.forall_mem_cons.1 h
    obtain ⟨ps, hkeyText, hkey, hkeyPlain⟩ := exists_key hkey
    obtain ⟨t, htext, hvalue, hplain⟩ := he
    obtain ⟨ms, htexts, hentries, hplains⟩ := ih hkeys hxs (show Gap.space.isPlain = true from rfl)
    refine ⟨.cons before ps .none .space t .none ms, ?_, by rw [Members.entries, hkey, hvalue, hentries],
      Members.isPlain_cons.2 ⟨hbefore, hkeyPlain, rfl, hplain, rfl, hplains⟩⟩
    simp only [renderEntries, String.intercalate_cons_cons, String.toList_append, List.append_assoc] at htexts ⊢
    rw [Members.text, htexts, hkeyText, htext]
    rfl

/-- An entry under a new key comes last. -/
theorem insertEntry_of_notMem {s : String} {v : Value} {es : List (Value × Value)}
    (hkeys : ∀ e ∈ es, ∃ k, e.1 = .text k) (hnew : .text s ∉ es.map Prod.fst) :
    Value.insertEntry (.text s) v es = es ++ [(.text s, v)] := by
  induction es with
  | nil => rfl
  | cons e es ih =>
    obtain ⟨⟨k, hk⟩, hkeys⟩ := List.forall_mem_cons.1 hkeys
    obtain ⟨hne, hnew⟩ := not_or.1 (mt List.mem_cons.2 hnew)
    have hother : (k == s) = false := beq_false_of_ne fun heq => hne (by rw [hk, heq])
    have hsame : e.1.same (.text s) = false := hk ▸ hother
    rw [Value.insertEntry, if_neg (by simp [hsame]), ih hkeys hnew, List.cons_append]

/-- Entries of different keys stay as they are given. -/
theorem gathered_eq {es done : List (Value × Value)} (hkeys : ∀ e ∈ done ++ es, ∃ s, e.1 = .text s)
    (hd : ((done ++ es).map Prod.fst).Nodup) : gathered es done = done ++ es := by
  induction es generalizing done with
  | nil => exact (List.append_nil done).symm
  | cons e es ih =>
    obtain ⟨s, hs⟩ := hkeys e (by simp)
    have hfront : done ++ [e] ++ es = done ++ e :: es := by simp
    have hnew : e.1 ∉ done.map Prod.fst := by
      rw [List.map_append, List.nodup_append'] at hd
      exact fun hmem => hd.2.2 hmem (by simp)
    have hinsert : Value.insertEntry e.1 e.2 done = done ++ [e] := by
      have := insertEntry_of_notMem (v := e.2) (fun x hx => hkeys x (List.mem_append_left _ hx)) (hs ▸ hnew)
      rw [hs, this, ← hs]
    rw [gathered, List.foldl_cons, ← gathered, hinsert, ih (hfront ▸ hkeys) (hfront ▸ hd), hfront]

/-- **A basic value is printed as a plain tree** that stands for it. -/
theorem exists_term_of_isBasic {v : Value} (h : v.IsBasic) : ∃ t, IsPrintedAs v t := by
  induction h with
  | null => exact ⟨.null, by simp [render, Term.text], rfl, rfl⟩
  | text basic =>
    obtain ⟨ps, htext, hvalue, hplain⟩ := exists_quoted basic
    exact ⟨.string ps, by rw [render]; exact htext, congrArg _ hvalue, hplain⟩
  | @list vs _ ih =>
    cases vs with
    | nil => exact ⟨.emptyArray .none, by simp [render, renderItems, Term.text, Gap.none], rfl, rfl⟩
    | cons v vs =>
      obtain ⟨is, htext, hvalues, hplain⟩ := exists_items ih (show Gap.none.isPlain = true from rfl)
      refine ⟨.array is, ?_, by rw [Term.value, hvalues], hplain⟩
      rw [Term.text, htext, render]
      simp only [String.toList_append, List.append_assoc]
      rfl
  | @map es keys distinct _ ih =>
    -- The reader would gather two entries of one key; here no two keys are the same.
    cases es with
    | nil => exact ⟨.emptyObject .none, by simp [render, renderEntries, Term.text, Gap.none], rfl, rfl⟩
    | cons e es =>
      obtain ⟨ms, htext, hentries, hplain⟩ := exists_members keys ih (show Gap.none.isPlain = true from rfl)
      refine ⟨.object ms, ?_, ?_, hplain⟩
      · rw [Term.text, htext, render]
        simp only [String.toList_append, List.append_assoc]
        rfl
      · rw [Term.value, hentries, gathered_eq (fun e he => (keys e he).imp fun _ hs => hs.1) distinct]
        rfl

end Json

/-- **A basic value that is printed is loaded as itself.** -/
theorem Yaml.load_render {v : Value} (h : v.IsBasic) : load (.text (Json.render v)) = .ok v := by
  obtain ⟨t, htext, hvalue, hplain⟩ := Json.exists_term_of_isBasic h
  have hload := load_plain (d := ⟨.none, t, .none⟩) (s := Json.render v)
    (by rw [← htext]; exact List.append_nil _) (Json.Document.isPlain_iff.2 ⟨rfl, hplain, rfl⟩)
  rw [hload]
  exact congrArg _ hvalue

end Triage
