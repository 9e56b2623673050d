import ForeignCollections.Json.Basic
import ForeignCollections.Json.Pretty
import ForeignCollections.Json.Record
import ForeignCollections.Registry.Basic

/-!
Reports for tools: what the registrars contributed, and how a type is classified. Both can be
written as JSON and read back, and both have a JSON schema.
-/

namespace ForeignCollections.Schema

def dialect : Json := .text "https://json-schema.org/draft/2020-12/schema"

def ofType (type : String) : Json := .object [("type", .text type)]

def listOfTexts : Json :=
  .object [("type", .text "array"), ("items", ofType "string")]

def report : Json :=
  let lists := ["registrars", "map_types", "collection_types", "pagination_return_types"]
  .object
    [("$schema", dialect),
     ("title", .text "RegistryReport"),
     ("description",
      .text "Snapshot of what the registrars contributed, as reported to tooling."),
     ("type", .text "object"),
     ("properties", .object (lists.map fun name => (name, listOfTexts))),
     ("required", .texts lists)]

def classification : Json :=
  .object
    [("$schema", dialect),
     ("title", .text "TypeClassification"),
     ("type", .text "object"),
     ("properties",
      .object
        [("type_name", ofType "string"),
         ("is_custom", ofType "boolean"),
         ("is_map", ofType "boolean"),
         ("is_collection", ofType "boolean"),
         ("map_base_type",
          .object
            [("description", .text "Present only for map-like types."),
             ("type", .texts ["string", "null"])])]),
     ("required", .texts ["type_name", "is_custom", "is_map", "is_collection"])]

end ForeignCollections.Schema

namespace ForeignCollections

open Json (Fault Record texts)

/-- What the registrars contributed, by name. -/
structure Report where
  registrars : List String
  mapTypes : List String
  collectionTypes : List String
  paginationTypes : List String
  deriving DecidableEq

structure Classification where
  typeName : String
  isCustom : Bool
  isMap : Bool
  isCollection : Bool
  /-- Present for map types only. -/
  mapBaseType : Option String
  deriving DecidableEq

namespace Registry

def report (r : Registry) : Report where
  registrars := r.registrarIds
  mapTypes := r.mapTypes.map (·.name)
  collectionTypes := r.collectionTypes.map (·.name)
  paginationTypes := r.paginationTypes.map (·.name)

def classify (r : Registry) (t : Ty) : Classification where
  typeName := t.name
  isCustom := r.isCustom t
  isMap := r.isMap t
  isCollection := r.isCollection t
  mapBaseType := if r.isMap t then (r.mapBaseType t).toOption.map (·.name) else none

end Registry

namespace Report

def toJson (r : Report) : Json :=
  .object [("registrars", texts r.registrars), ("map_types", texts r.mapTypes),
    ("collection_types", texts r.collectionTypes),
    ("pagination_return_types", texts r.paginationTypes)]

structure Draft where
  registrars : Option (List String) := none
  mapTypes : Option (List String) := none
  collectionTypes : Option (List String) := none
  paginationTypes : Option (List String) := none

def record : Record Draft Report where
  fields :=
    [.of "registrars" (·.registrars) (fun d x => { d with registrars := some x }) .someTexts,
     .of "map_types" (·.mapTypes) (fun d x => { d with mapTypes := some x }) .someTexts,
     .of "collection_types" (·.collectionTypes)
      (fun d x => { d with collectionTypes := some x }) .someTexts,
     .of "pagination_return_types" (·.paginationTypes)
      (fun d x => { d with paginationTypes := some x }) .someTexts]
  start := {}
  mayEndEarly := false
  finish d := do
    return ⟨← d.registrars, ← d.mapTypes, ← d.collectionTypes, ← d.paginationTypes⟩

def parse (s : String) : Except Fault Report := record.parse s

end Report

namespace Classification

def toJson (c : Classification) : Json :=
  .object [("type_name", .text c.typeName), ("is_custom", .bool c.isCustom),
    ("is_map", .bool c.isMap), ("is_collection", .bool c.isCollection),
    ("map_base_type", c.mapBaseType.elim .null .text)]

structure Draft where
  typeName : Option String := none
  isCustom : Option Bool := none
  isMap : Option Bool := none
  isCollection : Option Bool := none
  mapBaseType : Option (Option String) := none

/-- In object form the base type may be missing, in array form it may only be null. -/
def record : Record Draft Classification where
  fields :=
    [.of "type_name" (·.typeName) (fun d x => { d with typeName := some x }) .aText,
     .of "is_custom" (·.isCustom) (fun d x => { d with isCustom := some x }) .aBool,
     .of "is_map" (·.isMap) (fun d x => { d with isMap := some x }) .aBool,
     .of "is_collection" (·.isCollection) (fun d x => { d with isCollection := some x }) .aBool,
     .of "map_base_type" (·.mapBaseType) (fun d x => { d with mapBaseType := some x })
      .aTextOrNull]
  start := {}
  mayEndEarly := false
  finish d := do
    return ⟨← d.typeName, ← d.isCustom, ← d.isMap, ← d.isCollection, d.mapBaseType.getD none⟩

def parse (s : String) : Except Fault Classification := record.parse s

end Classification

end ForeignCollections
