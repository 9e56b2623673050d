import ForeignCollections.Conversion.RuleBook
import ForeignCollections.Error
import ForeignCollections.Ty.Hierarchy

/-!
The registry of foreign collection and map types. A registrar contributes a family of foreign
types: which of them count as maps, as collections and as results of paginated queries, which can be
named at all, the rules that convert them, and an unwrapper that turns its containers into native
ones. The registry is made once from a list of registrars; all it knows is what the available ones
among them declare. No type is both a map and a collection in it.

Types are classified against an ordered list of candidates: a native base type first, then the
registered foreign types. In every search the first candidate that fits wins.
-/

namespace ForeignCollections

/-- An ordered list of candidates without repeated names. -/
structure Candidates where
  types : List Ty
  nodup : (types.map Ty.name).Nodup

namespace Candidates

def of (base : Ty) (registered : List Ty) : Candidates :=
  ⟨Ty.distinct (base :: registered), Ty.nodup_names_distinct _⟩

def has (c : Candidates) (t : Ty) : Bool := c.types.any (· == t)

def find? (c : Candidates) (t : Ty) : Option Ty := c.types.find? (·.isAssignableFrom t)

def covers (c : Candidates) (t : Ty) : Bool := c.types.any (·.isAssignableFrom t)

/-- The first candidate that the type is assignable to, or an error that lists them all. -/
def superType (c : Candidates) (t : Ty) : Except CollectionError Ty :=
  match c.find? t with
  | some base => .ok base
  | none => .error (.noMatchingBase t.name (c.types.map (·.name)))

end Candidates

/-- Turns the containers of one registrar into native ones; other values stay as they are. -/
structure Unwrapper where
  registrar : String
  apply : Value → Except CollectionError Value

namespace Unwrapper

def identity (registrar : String) : Unwrapper := ⟨registrar, .ok⟩

def inspect (u : Unwrapper) : String :=
  "Unwrapper \x7b registrar: " ++ Text.quoted u.registrar ++ ", .. \x7d"

def inspectAll (us : List Unwrapper) : String :=
  "[" ++ ", ".intercalate (us.map inspect) ++ "]"

end Unwrapper

structure Registrar where
  id : String
  /-- Whether what backs the registrar can be used. -/
  available : Bool := true
  mapTypes : List Ty := []
  collectionTypes : List Ty := []
  paginationTypes : List Ty := []
  /-- Every type of the family that can be looked up by name. -/
  knownTypes : List Ty := mapTypes ++ collectionTypes
  rules : List Rule := []
  unwrapper : Unwrapper := .identity id

/-- The types that registrars declare, each name once. -/
def Registrar.declared (types : Registrar → List Ty) (registrars : List Registrar) : List Ty :=
  Ty.distinct (registrars.flatMap types)

/-- The first map type that some registrar also declares as a collection type. -/
def Registrar.clash? (registrars : List Registrar) : Option Ty :=
  (declared mapTypes registrars).find? fun t =>
    (declared collectionTypes registrars).any (· == t)

structure Registry where
  registrars : List Registrar
  /-- Maps and collections are kept apart. -/
  partition : Registrar.clash? registrars = none

namespace Registry

def build (registrars : List Registrar) : Except CollectionError Registry :=
  let available := registrars.filter (·.available)
  match h : Registrar.clash? available with
  | some t => .error (.mapAndCollection t.name)
  | none => .ok ⟨available, h⟩

def registrarIds (r : Registry) : List String := r.registrars.map (·.id)

def mapTypes (r : Registry) : List Ty := Registrar.declared (·.mapTypes) r.registrars

def collectionTypes (r : Registry) : List Ty :=
  Registrar.declared (·.collectionTypes) r.registrars

/-- All registered types, the collections of a registrar before its maps. -/
def customTypes (r : Registry) : List Ty :=
  Registrar.declared (fun g => g.collectionTypes ++ g.mapTypes) r.registrars

def paginationTypes (r : Registry) : List Ty :=
  Registrar.declared (·.paginationTypes) r.registrars

/-- The types that can be looked up by name: the native ones, then the known ones of each
registrar. A name stands for the handle that is met first. -/
def knownTypes (r : Registry) : List Ty :=
  Ty.distinct (Native.all ++ r.registrars.flatMap (·.knownTypes))

/-- The type of the given name; blanks around the name do not matter. -/
def lookup (r : Registry) (name : String) : Except CollectionError Ty :=
  match r.knownTypes.find? (·.name == Text.trim name) with
  | some t => .ok t
  | none => .error (.unknownType name)

def mapCandidates (r : Registry) : Candidates := .of Native.map r.mapTypes

def collectionCandidates (r : Registry) : Candidates := .of Native.collection r.collectionTypes

/-- The type is the native map type or a registered map type itself. -/
def isMapBaseType (r : Registry) (t : Ty) : Bool := r.mapCandidates.has t

def mapBaseType (r : Registry) (t : Ty) : Except CollectionError Ty :=
  r.mapCandidates.superType t

def isMap (r : Registry) (t : Ty) : Bool := r.mapCandidates.covers t

def isCollection (r : Registry) (t : Ty) : Bool := r.collectionCandidates.covers t

def isCustom (r : Registry) (t : Ty) : Bool := r.customTypes.any (· == t)

def unwrappers (r : Registry) : List Unwrapper := r.registrars.map (·.unwrapper)

def unwrap (r : Registry) (value : Value) : Except CollectionError Value :=
  r.unwrappers.foldlM (fun v u => u.apply v) value

/-- Installs the rules of all registrars. The general rule goes first, as it would take a
collection for whatever its first item is. -/
def install (r : Registry) (b : RuleBook) : RuleBook :=
  (r.registrars.flatMap (·.rules)).foldl RuleBook.add
    (b.remove Native.collection Native.object)

def ruleBook (r : Registry) : RuleBook := r.install .withDefaults

end Registry

end ForeignCollections
