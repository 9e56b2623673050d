import ForeignCollections.Cli.Commands
import ForeignCollections.Proofs.Json.Form
import ForeignCollections.Proofs.Registry.Build

/-!
Reports and classifications are read back from their JSON text. Nothing is asked of the names in
them: whatever characters they hold, they are written so that a reader finds them again. Main
statement: a registry's report comes back from what the program prints, the classification of a type
comes back from its indented form, and both do from every other form of their JSON values.
-/

namespace ForeignCollections

open Json

namespace Report

lemma setsAll_members (r : Report) : Record.SetsAll record.fields
    [("registrars", texts r.registrars), ("map_types", texts r.mapTypes),
      ("collection_types", texts r.collectionTypes),
      ("pagination_return_types", texts r.paginationTypes)] {}
    ⟨some r.registrars, some r.mapTypes, some r.collectionTypes, some r.paginationTypes⟩ :=
  .cons (.of rfl rfl fun _ => Form.readsSpaced_someTexts) <|
  .cons (.of rfl rfl fun _ => Form.readsSpaced_someTexts) <|
  .cons (.of rfl rfl fun _ => Form.readsSpaced_someTexts) <|
  .cons (.of rfl rfl fun _ => Form.readsSpaced_someTexts) <| .nil _

/-- **A report is read back** from every text that is written for it. -/
lemma parse_of_spells {r : Report} {s : String} (h : Spells s r.toJson) : parse s = .ok r :=
  Record.parse_of_spells r.setsAll_members rfl h

end Report

namespace Classification

lemma setsAll_members (c : Classification) : Record.SetsAll record.fields
    [("type_name", .text c.typeName), ("is_custom", .bool c.isCustom), ("is_map", .bool c.isMap),
      ("is_collection", .bool c.isCollection), ("map_base_type", c.mapBaseType.elim .null .text)] {}
    ⟨some c.typeName, some c.isCustom, some c.isMap, some c.isCollection, some c.mapBaseType⟩ :=
  .cons (.of rfl rfl fun _ => Form.readsSpaced_aText) <|
  .cons (.of rfl rfl fun _ => Form.readsSpaced_aBool) <|
  .cons (.of rfl rfl fun _ => Form.readsSpaced_aBool) <|
  .cons (.of rfl rfl fun _ => Form.readsSpaced_aBool) <|
  .cons (.of rfl rfl fun _ => Form.readsSpaced_aTextOrNull) <| .nil _

lemma parse_of_spells {c : Classification} {s : String} (h : Spells s c.toJson) :
    parse s = .ok c :=
  Record.parse_of_spells c.setsAll_members rfl h

end Classification

namespace Registry

lemma spells_unlines_types (r : Registry) :
    Spells (Cli.unlines (Cli.types r true)) r.report.toJson := by
  have hline : Cli.unlines (Cli.types r true) = r.report.toJson.pretty ++ "\n" := by
    simp [Cli.unlines, Cli.types, String.join]
  rw [hline]
  exact (spells_pretty _).append (by decide)

/-- **Reports survive their JSON form.** What the program prints for the report of a registry is
read as this report, and the indented form of the classification of a type is read as this
classification, with a map base or without; and so is whatever else spells one of the two. -/
theorem report_classify_readBack (r : Registry) (t : Ty) :
    Report.parse (Cli.unlines (Cli.types r true)) = .ok r.report ∧
    Classification.parse (r.classify t).toJson.pretty = .ok (r.classify t) ∧
    (∀ s, Spells s r.report.toJson → Report.parse s = .ok r.report) ∧
    ∀ s, Spells s (r.classify t).toJson → Classification.parse s = .ok (r.classify t) := by
  refine ⟨?_, ?_, fun s hs => ?_, fun s hs => ?_⟩
  · exact Report.parse_of_spells (spells_unlines_types r)
  · exact Classification.parse_of_spells (spells_pretty _)
  · exact Report.parse_of_spells hs
  · exact Classification.parse_of_spells hs

/-- A map type with a name of which much has to be escaped. -/
def atlas : Ty := .mk "com.example.\"Atlas\"\\\x01😀" (by decide) .interface []

def atlases : Registrar where
  id := "atlases\n"
  mapTypes := [atlas]

def atlasRegistry : Registry := ⟨[atlases], rfl⟩

lemma build_atlases : build [atlases] = .ok atlasRegistry := by
  obtain ⟨⟨registrars, partition⟩, hr⟩ := (exists_build_eq_ok_iff [atlases]).mpr rfl
  cases registrars_of_build hr
  exact hr

lemma mapBaseType_classify_atlas :
    (atlasRegistry.classify atlas).mapBaseType = some atlas.name := by decide +kernel

lemma classify_object : atlasRegistry.classify Native.object =
    ⟨"java.lang.Object", false, false, false, none⟩ := by decide +kernel

def rootOnOneLine : String :=
  "\x7b\"type_name\":\"java.lang.Object\",\"is_custom\":false,\"is_map\":false," ++
    "\"is_collection\":false,\"map_base_type\":null\x7d"

def tightMember (key : String) (value : List Char) : Member :=
  ⟨[], writtenText key, [], [], value, []⟩

lemma spells_rootOnOneLine :
    Spells rootOnOneLine (Classification.toJson ⟨"java.lang.Object", false, false, false, none⟩) := by
  have hform := @Form.object
    [tightMember "type_name" (writtenText "java.lang.Object"), tightMember "is_custom" _,
      tightMember "is_map" _, tightMember "is_collection" _, tightMember "map_base_type" _] []
    [("type_name", .text "java.lang.Object"), ("is_custom", .bool false), ("is_map", .bool false),
      ("is_collection", .bool false), ("map_base_type", .null)]
    (by simp [tightMember, Member.Spaced, Member.piece, Piece.Spaced, space_nil]) space_nil
    (.cons (textForm_writtenText _) (.cons (textForm_writtenText _) (.cons (textForm_writtenText _)
      (.cons (textForm_writtenText _) (.cons (textForm_writtenText _) .nil)))))
    (.cons (.text (textForm_writtenText _)) (.cons .false (.cons .false (.cons .false
      (.cons .null .nil)))))
  exact ⟨[], _, [], by decide, space_nil, hform, space_nil⟩

theorem report_classify_readBack_atlases :
    let r := atlasRegistry
    build [atlases] = .ok r ∧
    (r.classify atlas).mapBaseType = some atlas.name ∧
    (r.classify Native.object).mapBaseType = none ∧
    Report.parse (Cli.unlines (Cli.types r true)) = .ok r.report ∧
    Classification.parse (r.classify atlas).toJson.pretty = .ok (r.classify atlas) ∧
    Spells r.report.toJson.pretty r.report.toJson ∧
    Report.parse r.report.toJson.pretty = .ok r.report ∧
    Spells rootOnOneLine (r.classify Native.object).toJson ∧
    Classification.parse rootOnOneLine = .ok (r.classify Native.object) := by
  intro r
  have hnone : (r.classify Native.object).mapBaseType = none := by rw [classify_object]
  have hpretty : Spells r.report.toJson.pretty r.report.toJson := spells_pretty _
  have hline : Spells rootOnOneLine (r.classify Native.object).toJson := by
    rw [classify_object]
    exact spells_rootOnOneLine
  obtain ⟨hprinted, hclassify, hreport, -⟩ := report_classify_readBack r atlas
  obtain ⟨-, -, -, hobject⟩ := report_classify_readBack r Native.object
  exact ⟨build_atlases, mapBaseType_classify_atlas, hnone, hprinted, hclassify, hpretty,
    hreport _ hpretty, hline, hobject _ hline⟩

end Registry

end ForeignCollections
