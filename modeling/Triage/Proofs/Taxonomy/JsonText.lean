import Triage.Proofs.Json.Reading
import Triage.Proofs.Yaml.Tab
import Triage.Taxonomy.Document

/-!
# Taxonomies in JSON

A taxonomy may be written in JSON, which is read as YAML. As far as a text is plain this makes no difference. It does
where the text is indented with tabs.

* `ofSource_json`: **what becomes of a JSON text**, against what its value is taken as.
-/

namespace Triage.Taxonomy

open Triage.Json (Document Piece Gap)

/-- **What becomes of a JSON text that stands for a value other than null.** A plain one is taken as its value is, and
refused as its value is. One that opens with a tab is refused as a document, whatever its value. -/
theorem ofSource_json {s : String} {v : Value} (hjson : Json.parse? s = some v) (hvalue : v ≠ .null) :
    (Json.IsPlainText s → ∀ name, ofSource (.text s) name = (ofValue v).mapError .refused) ∧
      (Json.OpensWithTab s → ∀ name, ∃ e, ofSource (.text s) name = .error (.malformed (.text s) e)) := by
  constructor
  · rintro ⟨d, htext, hplain⟩ name
    have hsame : d.value = v := by
      have := Json.parse?_text htext
      rw [hjson] at this
      exact (Option.some.inj this).symm
    unfold ofSource
    rw [Yaml.load_plain htext hplain, hsame]
    cases v with
    | null => exact absurd rfl hvalue
    | _ => rfl
  · intro htab name
    obtain ⟨e, hload⟩ := Yaml.exists_load_tab htab
    refine ⟨e, ?_⟩
    unfold ofSource
    rw [hload]

/-- One category, indented with a space and with a tab: the same value, but only the first text is read. -/
theorem ofSource_json_indented :
    let value : Value := .list [.map [(.text "CategoryName", .text "A")]]
    let spaces := "[\n \x7b\"CategoryName\": \"A\"\x7d\n]"
    let tabs := "[\n\t\x7b\"CategoryName\": \"A\"\x7d\n]"
    (Json.parse? spaces = some value ∧ Json.IsPlainText spaces ∧
      ofSource (.text spaces) "data" = (ofValue value).mapError .refused) ∧
    (Json.parse? tabs = some value ∧ Json.OpensWithTab tabs ∧
      ∃ e, ofSource (.text tabs) "data" = .error (.malformed (.text tabs) e)) := by
  intro value spaces tabs
  let letter (c : Char) : Piece :=
    if h : 0x20 ≤ c.toNat ∧ c ≠ '"' ∧ c ≠ '\\' then .raw c h else .raw ' ' (by decide)
  let key : List Piece := "CategoryName".toList.map letter
  let name : List Piece := [letter 'A']
  let document (indent : Gap) : Document :=
    ⟨.none, .array (.last indent (.object (.last .none key .none ⟨[' '], by decide⟩ (.string name) .none))
      ⟨['\n'], by decide⟩), .none⟩
  let ofSpaces := document ⟨['\n', ' '], by decide⟩
  let ofTabs := document ⟨['\n', '\t'], by decide⟩
  have hspacesText : ofSpaces.text = spaces.toList := by decide
  have htabsText : ofTabs.text = tabs.toList := by decide
  have hspaces : Json.parse? spaces = some value := Json.parse?_text hspacesText
  have htabs : Json.parse? tabs = some value := Json.parse?_text htabsText
  have hplain : Json.IsPlainText spaces := ⟨ofSpaces, hspacesText, by decide⟩
  have hopens : Json.OpensWithTab tabs := ⟨ofTabs, htabsText, by decide⟩
  have hvalue : value ≠ .null := show Value.list _ ≠ .null by nofun
  exact ⟨⟨hspaces, hplain, (ofSource_json hspaces hvalue).1 hplain "data"⟩,
    htabs, hopens, (ofSource_json htabs hvalue).2 hopens "data"⟩

end Triage.Taxonomy
