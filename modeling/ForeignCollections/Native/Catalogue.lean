import ForeignCollections.Ty.Hierarchy

/-!
The native types: the root, the types of scalars, and the native containers.
-/

namespace ForeignCollections.Native

def object : Ty := Ty.object
def string : Ty := .mk "java.lang.String" (by decide) .concrete []
def long : Ty := .mk "java.lang.Long" (by decide) .concrete []
def boolean : Ty := .mk "java.lang.Boolean" (by decide) .concrete []

def iterable : Ty := .mk "java.lang.Iterable" (by decide) .interface []
def collection : Ty := .mk "java.util.Collection" (by decide) .interface [iterable]
def list : Ty := .mk "java.util.List" (by decide) .interface [collection]
def set : Ty := .mk "java.util.Set" (by decide) .interface [collection]
def map : Ty := .mk "java.util.Map" (by decide) .interface []

def arrayList : Ty := .mk "java.util.ArrayList" (by decide) .concrete [list]
def linkedList : Ty := .mk "java.util.LinkedList" (by decide) .concrete [list]
def hashSet : Ty := .mk "java.util.HashSet" (by decide) .concrete [set]
def linkedHashSet : Ty := .mk "java.util.LinkedHashSet" (by decide) .concrete [hashSet, set]
def hashMap : Ty := .mk "java.util.HashMap" (by decide) .concrete [map]
def linkedHashMap : Ty := .mk "java.util.LinkedHashMap" (by decide) .concrete [hashMap, map]

/-- The four native abstractions that foreign containers are turned into. -/
def collectionsAndMap : List Ty := [collection, list, set, map]

def all : List Ty :=
  [object, string, long, boolean, iterable, collection, list, set, map, arrayList, linkedList,
   hashSet, linkedHashSet, hashMap, linkedHashMap]

theorem nodup_names : (all.map Ty.name).Nodup := by decide

end ForeignCollections.Native

namespace ForeignCollections.Ty

def isCollection (t : Ty) : Bool := Native.collection.isAssignableFrom t

def isMap (t : Ty) : Bool := Native.map.isAssignableFrom t

end ForeignCollections.Ty
