import ForeignCollections.Native.Catalogue

/-!
The types of the Vavr family of collections. All of them are below one traversable type, which
is iterable but no native collection. What can be built by name is concrete.
-/

namespace ForeignCollections.Vavr

def traversable : Ty :=
  .mk "io.vavr.collection.Traversable" (by decide) .interface [Native.iterable]

def seq : Ty := .mk "io.vavr.collection.Seq" (by decide) .interface [traversable]
def linearSeq : Ty := .mk "io.vavr.collection.LinearSeq" (by decide) .interface [seq]
def indexedSeq : Ty := .mk "io.vavr.collection.IndexedSeq" (by decide) .interface [seq]
def list : Ty := .mk "io.vavr.collection.List" (by decide) .concrete [linearSeq]
def queue : Ty := .mk "io.vavr.collection.Queue" (by decide) .concrete [linearSeq]
def stream : Ty := .mk "io.vavr.collection.Stream" (by decide) .concrete [linearSeq]
def vector : Ty := .mk "io.vavr.collection.Vector" (by decide) .concrete [indexedSeq]
def array : Ty := .mk "io.vavr.collection.Array" (by decide) .concrete [indexedSeq]

def set : Ty := .mk "io.vavr.collection.Set" (by decide) .interface [traversable]
def hashSet : Ty := .mk "io.vavr.collection.HashSet" (by decide) .concrete [set]
def linkedHashSet : Ty := .mk "io.vavr.collection.LinkedHashSet" (by decide) .concrete [set]

def map : Ty := .mk "io.vavr.collection.Map" (by decide) .interface [traversable]
def hashMap : Ty := .mk "io.vavr.collection.HashMap" (by decide) .concrete [map]
def linkedHashMap : Ty := .mk "io.vavr.collection.LinkedHashMap" (by decide) .concrete [map]

/-- A traversable that is neither a sequence nor a set nor a map. -/
def tree : Ty := .mk "io.vavr.collection.Tree" (by decide) .concrete [traversable]

def all : List Ty :=
  [traversable, seq, linearSeq, indexedSeq, list, queue, stream, vector, array, set, hashSet,
   linkedHashSet, map, hashMap, linkedHashMap, tree]

inductive Family where
  | sequence
  | set
  | map
  deriving DecidableEq

/-- The family of a type. One that is below several counts as a sequence first, then as a map. -/
def familyOf (t : Ty) : Option Family :=
  if seq.isAssignableFrom t then some .sequence
  else if map.isAssignableFrom t then some .map
  else if set.isAssignableFrom t then some .set
  else none

end ForeignCollections.Vavr
