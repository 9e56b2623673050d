import ForeignCollections.Conversion.RuleBook
import ForeignCollections.Registry.Basic
import ForeignCollections.Value.Basic
import ForeignCollections.Vavr.Catalogue

/-!
The two rules between the Vavr family and the native containers, and the registrar that brings
them. Out of the family a container goes to the native type of its own family; into it, to the type
asked for, or to a default where that cannot be built. Elements are handed over as they are, in
their order.
-/

namespace ForeignCollections.Vavr

/-- The native container for a Vavr container. It depends on the runtime type of the value and
on nothing else, and the shape of the value has to fit its family. -/
def unwrapped : Value → Except CollectionError Value
  | .null => .ok .null
  | .sequence t xs =>
    if familyOf t = some .sequence then .ok (.arrayList xs) else .error (.unsupported t.name)
  | .map t es =>
    if familyOf t = some .map then
      .ok (.map (if t == linkedHashMap then Native.linkedHashMap else Native.hashMap) es)
    else .error (.unsupported t.name)
  | .set t xs =>
    if familyOf t = some .set then
      .ok (.set (if t == linkedHashSet then Native.linkedHashSet else Native.hashSet) xs)
    else .error (.unsupported t.name)
  | scalar => .error (.unsupported scalar.runtimeType.name)

def toNative : Rule where
  id := "vavr-to-native"
  pairs := Native.collectionsAndMap.map fun target => (traversable, target)
  accepts source target :=
    source.isAssignableTo traversable && Native.collectionsAndMap.contains target
  convert value _ _ := unwrapped value

/-- The type to build for `target`: itself unless it is an interface. -/
def constructible (target fallback : Ty) : Ty := if target.isInterface then fallback else target

def itemsFor (value : Value) (target : Ty) : Except CollectionError (List Value) :=
  match value with
  | .map t _ => .error (.cannotBuild target.name t.name)
  | v => .ok v.items

def entriesFor (value : Value) (target : Ty) : Except CollectionError (List (Value × Value)) :=
  match value with
  | .map _ es => .ok es
  | v => .error (.cannotBuild target.name v.runtimeType.name)

/-- The Vavr container for a native container of type `source`. Only for the plain traversable
type does the source decide what is built. -/
def wrapped (value : Value) (source target : Ty) : Except CollectionError Value :=
  if !value.isContainer then .ok value
  else if seq.isAssignableFrom target then
    (itemsFor value target).map (.sequence (constructible target list))
  else if set.isAssignableFrom target then
    (itemsFor value target).map (.setOf (constructible target linkedHashSet))
  else if map.isAssignableFrom target then
    (entriesFor value target).map (.map (constructible target linkedHashMap))
  else if target != traversable then
    .error (.cannotBuild target.name value.runtimeType.name)
  else if Native.list.isAssignableFrom source then
    (itemsFor value list).map (.sequence list)
  else if Native.set.isAssignableFrom source then
    (itemsFor value linkedHashSet).map (.setOf linkedHashSet)
  else if Native.map.isAssignableFrom source then
    (entriesFor value linkedHashMap).map (.map linkedHashMap)
  else .ok value

/-- From native containers to Vavr ones. Collections never become maps, and maps become only
maps or whatever the plain traversable type stands for. -/
def fromNative : Rule where
  id := "native-to-vavr"
  pairs := [(Native.collection, traversable), (Native.map, traversable)]
  accepts source target :=
    !(source.isCollection && map.isAssignableFrom target) &&
      !(source.isMap && !(map.isAssignableFrom target || target == traversable))
  convert := wrapped

/-- Turns every value whose type is in the family into its native container. -/
def unwrapper : Unwrapper where
  registrar := "vavr"
  apply value :=
    if traversable.isAssignableFrom value.runtimeType then unwrapped value else .ok value

def registrar : Registrar where
  id := "vavr"
  mapTypes := [map]
  collectionTypes := [seq, set]
  paginationTypes := [seq]
  knownTypes := all
  rules := [fromNative, toNative]
  unwrapper := unwrapper

end ForeignCollections.Vavr
