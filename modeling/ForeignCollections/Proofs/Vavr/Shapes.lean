import ForeignCollections.Proofs.Results
import ForeignCollections.Proofs.Value.Equality
import ForeignCollections.Vavr.Conversion

/-!
The two directions of conversion by family. A container out of the family is retagged, if its
shape fits the family of its type; a container into the family is built along one of seven
routes, by its target first and by its source where the target is the plain traversable type.
-/

namespace ForeignCollections

open Vavr (Family)

namespace Value

/-- The family that the shape of a value fits. -/
def shape : Value → Option Family
  | sequence _ _ => some .sequence
  | set _ _ => some .set
  | map _ _ => some .map
  | _ => none

/-- The same container under another type. -/
def withType (t : Ty) : Value → Value
  | sequence _ xs => sequence t xs
  | set _ xs => set t xs
  | map _ es => map t es
  | scalar => scalar

lemma isContainer_of_shape {v : Value} {f : Family} (h : v.shape = some f) :
    v.isContainer = true := by
  cases v <;> cases h <;> rfl

lemma isNull_of_isContainer {v : Value} (h : v.isContainer = true) : v.isNull = false := by
  cases v with
  | null => cases h
  | _ => rfl

lemma isNull_of_shape {v : Value} {f : Family} (h : v.shape = some f) : v.isNull = false :=
  isNull_of_isContainer (isContainer_of_shape h)

lemma runtimeType_withType {v : Value} {f : Family} (h : v.shape = some f) (t : Ty) :
    (v.withType t).runtimeType = t := by
  cases v <;> cases h <;> rfl

@[simp] lemma shape_withType (v : Value) (t : Ty) : (v.withType t).shape = v.shape := by
  cases v <;> rfl

@[simp] lemma withType_withType (v : Value) (t u : Ty) :
    (v.withType t).withType u = v.withType u := by
  cases v <;> rfl

@[simp] lemma withType_runtimeType (v : Value) : v.withType v.runtimeType = v := by
  cases v <;> rfl

lemma WellFormed.withType {v : Value} (hv : v.WellFormed) (t : Ty) : (v.withType t).WellFormed := by
  cases hv with
  | null => exact .null
  | bool b => exact .bool b
  | int n => exact .int n
  | text s => exact .text s
  | sequence _ hx => exact .sequence t hx
  | set _ hd hx => exact .set t hd hx
  | map _ hd hk he => exact .map t hd hk he

def Proper.withType (v : Proper) (t : Ty) : Proper := ⟨v.value.withType t, v.wellFormed.withType t⟩

@[simp] lemma Proper.value_withType (v : Proper) (t : Ty) :
    (v.withType t).value = v.value.withType t := rfl

end Value

namespace Vavr

/-- The type at the top of a family. -/
def Family.base : Family → Ty
  | sequence => seq
  | set => Vavr.set
  | map => Vavr.map

/-- The type to build in a family where nothing else can be built. -/
def Family.fallback : Family → Ty
  | sequence => list
  | set => linkedHashSet
  | map => linkedHashMap

/-- The type is of this family and of no other. -/
def Family.Only : Family → Ty → Prop
  | sequence, t => seq.isAssignableFrom t = true ∧ Vavr.set.isAssignableFrom t = false ∧
      Vavr.map.isAssignableFrom t = false
  | set, t => Vavr.set.isAssignableFrom t = true ∧ seq.isAssignableFrom t = false ∧
      Vavr.map.isAssignableFrom t = false
  | map, t => Vavr.map.isAssignableFrom t = true ∧ seq.isAssignableFrom t = false ∧
      Vavr.set.isAssignableFrom t = false

lemma Family.Only.base_iff {f : Family} {t : Ty} (h : f.Only t) (g : Family) :
    g.base.isAssignableFrom t = true ↔ g = f := by
  cases f <;> cases g <;> simp_all [Family.Only, Family.base]

lemma Family.Only.base {f : Family} {t : Ty} (h : f.Only t) :
    f.base.isAssignableFrom t = true :=
  (h.base_iff f).mpr rfl

/-- The native type for a type of a family: only the linked types keep their order by type. -/
def Family.native : Family → Ty → Ty
  | sequence, _ => Native.arrayList
  | set, t => if t == linkedHashSet then Native.linkedHashSet else Native.hashSet
  | map, t => if t == linkedHashMap then Native.linkedHashMap else Native.hashMap

def Family.natives : Family → List Ty
  | sequence => [Native.arrayList]
  | set => [Native.hashSet, Native.linkedHashSet]
  | map => [Native.hashMap, Native.linkedHashMap]

lemma Family.native_mem (f : Family) (t : Ty) : f.native t ∈ f.natives := by
  cases f with
  | sequence => exact List.mem_singleton_self _
  | set =>
    show (if t == linkedHashSet then Native.linkedHashSet else Native.hashSet) ∈ _
    split <;> simp [Family.natives]
  | map =>
    show (if t == linkedHashMap then Native.linkedHashMap else Native.hashMap) ∈ _
    split <;> simp [Family.natives]

lemma familyOf_of_only {f : Family} {t : Ty} (h : f.Only t) : familyOf t = some f := by
  cases f <;> simp_all [Family.Only, familyOf]

/-- **Out of the family**: a container whose shape fits its type is retagged. -/
lemma unwrapped_of_shape {v : Value} {f : Family} (h : v.shape = some f) :
    unwrapped v = if familyOf v.runtimeType = some f then
      .ok (v.withType (f.native v.runtimeType)) else .error (.unsupported v.runtimeType.name) := by
  cases v <;> cases h <;> rfl

lemma unwrapped_cases {v w : Value} (h : unwrapped v = .ok w) :
    (v = .null ∧ w = .null) ∨ ∃ f, v.shape = some f ∧ familyOf v.runtimeType = some f ∧
      w = v.withType (f.native v.runtimeType) := by
  cases hs : v.shape with
  | none =>
    cases v with
    | null =>
      cases h
      exact Or.inl ⟨rfl, rfl⟩
    | bool | int | text => exact nomatch h
    | sequence | set | map => simp [Value.shape] at hs
  | some f =>
    rw [unwrapped_of_shape hs] at h
    split at h
    · rename_i hf
      cases h
      exact Or.inr ⟨f, rfl, hf, rfl⟩
    · exact nomatch h

lemma itemsFor_eq_ok {v : Value} {t : Ty} {xs : List Value} :
    itemsFor v t = .ok xs ↔ v.shape ≠ some .map ∧ xs = v.items := by
  cases v <;> simp [itemsFor, Value.shape, eq_comm]

lemma entriesFor_eq_ok {v : Value} {t : Ty} {es : List (Value × Value)} :
    entriesFor v t = .ok es ↔ v = .map v.runtimeType es := by
  cases v <;> simp [entriesFor, Value.runtimeType]

/-- The routes into the family. -/
inductive Wraps (v : Value) (source target : Ty) (w : Value) : Prop where
  | scalar (hv : v.isContainer = false) (hw : w = v)
  | sequence (ht : seq.isAssignableFrom target = true) (hv : v.shape ≠ some .map)
      (hw : w = .sequence (constructible target list) v.items)
  | set (ht : set.isAssignableFrom target = true) (hv : v.shape ≠ some .map)
      (hw : w = .setOf (constructible target linkedHashSet) v.items)
  | map {es : List (Value × Value)} (ht : map.isAssignableFrom target = true)
      (hv : v = .map v.runtimeType es) (hw : w = .map (constructible target linkedHashMap) es)
  | plainSequence (ht : target.name = traversable.name)
      (hs : Native.list.isAssignableFrom source = true) (hv : v.shape ≠ some .map)
      (hw : w = .sequence list v.items)
  | plainSet (ht : target.name = traversable.name)
      (hs : Native.set.isAssignableFrom source = true) (hv : v.shape ≠ some .map)
      (hw : w = .setOf linkedHashSet v.items)
  | plainMap {es : List (Value × Value)} (ht : target.name = traversable.name)
      (hs : Native.map.isAssignableFrom source = true) (hv : v = .map v.runtimeType es)
      (hw : w = .map linkedHashMap es)
  | asIs (ht : target.name = traversable.name) (hl : Native.list.isAssignableFrom source = false)
      (hs : Native.set.isAssignableFrom source = false)
      (hm : Native.map.isAssignableFrom source = false) (hw : w = v)

/-- Builds a container of a family under the type `t`; `target` is what a complaint names. -/
def Family.build (f : Family) (v : Value) (target t : Ty) : Except CollectionError Value :=
  match f with
  | sequence => (itemsFor v target).map (.sequence t)
  | set => (itemsFor v target).map (.setOf t)
  | map => (entriesFor v target).map (.map t)

/-- The family that the plain traversable type stands for, by the source. -/
def nativeFamily (source : Ty) : Option Family :=
  if Native.list.isAssignableFrom source then some .sequence
  else if Native.set.isAssignableFrom source then some .set
  else if Native.map.isAssignableFrom source then some .map
  else none

lemma Family.build_of_shape {f : Family} {v : Value.Proper} (hs : v.value.shape = some f)
    (target t : Ty) : f.build v target t = .ok (v.withType t) := by
  obtain ⟨v, hv⟩ := v
  cases hv with
  | sequence | map => cases hs; rfl
  | @set u xs hd hx =>
    cases hs
    show Except.ok (Value.setOf t xs) = _
    rw [Value.setOf_of_wellFormed (.set u hd hx)]
    rfl
  | _ => cases hs

lemma Family.of_build {f : Family} {v w : Value} {target t : Ty} (h : f.build v target t = .ok w) :
    w.shape = some f ∧ w.runtimeType = t := by
  cases f <;> (obtain ⟨_, -, rfl⟩ := map_eq_ok_iff.mp h; exact ⟨rfl, rfl⟩)

lemma Family.exists_build_eq_ok {f : Family} {v : Value} (hf : v.shape = some .map ↔ f = .map)
    (hc : v.isContainer = true) (target t : Ty) : ∃ w, f.build v target t = .ok w := by
  cases v with
  | map u es =>
    obtain rfl := hf.mp rfl
    exact ⟨_, rfl⟩
  | sequence | set =>
    cases f with
    | sequence | set => exact ⟨_, rfl⟩
    | map =>
      have hmap := hf.mpr rfl
      cases hmap
  | _ => cases hc

/-- The family that is built for a target. One that is below several counts as a sequence first,
then as a set. -/
def targetFamily (target : Ty) : Option Family :=
  if seq.isAssignableFrom target then some .sequence
  else if set.isAssignableFrom target then some .set
  else if map.isAssignableFrom target then some .map
  else none

lemma targetFamily_of_only {f : Family} {t : Ty} (h : f.Only t) : targetFamily t = some f := by
  cases f <;> simp_all [Family.Only, targetFamily]

lemma wrapped_of_targetFamily {f : Family} {v : Value} {source target : Ty}
    (hc : v.isContainer = true) (ht : targetFamily target = some f) :
    wrapped v source target = f.build v target (constructible target f.fallback) := by
  unfold targetFamily at ht
  split_ifs at ht <;> cases ht <;> simp_all [wrapped, Family.build, Family.fallback]

lemma wrapped_of_targetFamily_none {v : Value} {source target : Ty} (hc : v.isContainer = true)
    (ht : targetFamily target = none) (hn : target.name ≠ traversable.name) :
    wrapped v source target = .error (.cannotBuild target.name v.runtimeType.name) := by
  have hne : (target != traversable) = true := by
    rw [bne, Bool.not_eq_true', Bool.eq_false_iff, Ne, Ty.beq_iff]
    exact hn
  unfold targetFamily at ht
  split_ifs at ht
  simp_all [wrapped]

lemma wrapped_of_only {f : Family} {v : Value} {source target : Ty} (hc : v.isContainer = true)
    (ht : f.Only target) :
    wrapped v source target = f.build v target (constructible target f.fallback) :=
  wrapped_of_targetFamily hc (targetFamily_of_only ht)

lemma wrapped_traversable {v : Value} {source : Ty} (hc : v.isContainer = true) :
    wrapped v source traversable =
      match nativeFamily source with
      | some f => f.build v f.fallback f.fallback
      | none => .ok v := by
  have hseq : seq.isAssignableFrom traversable = false := by cbv
  have hset : set.isAssignableFrom traversable = false := by cbv
  have hmap : map.isAssignableFrom traversable = false := by cbv
  have hself : (traversable != traversable) = false := by decide
  simp only [wrapped, hc, hseq, hset, hmap, hself, nativeFamily]
  split_ifs <;> simp_all [Family.build, Family.fallback]

/-- **Into the family** there is no other route. -/
lemma wraps_of_wrapped {v w : Value} {source target : Ty}
    (h : wrapped v source target = .ok w) : Wraps v source target w := by
  unfold wrapped at h
  split_ifs at h with hv hseq hset hmap ht hl hs hm
  · cases h
    exact .scalar (by simpa using hv) rfl
  · obtain ⟨xs, hx, rfl⟩ := map_eq_ok_iff.mp h
    obtain ⟨hv, rfl⟩ := itemsFor_eq_ok.mp hx
    exact .sequence hseq hv rfl
  · obtain ⟨xs, hx, rfl⟩ := map_eq_ok_iff.mp h
    obtain ⟨hv, rfl⟩ := itemsFor_eq_ok.mp hx
    exact .set hset hv rfl
  · obtain ⟨es, he, rfl⟩ := map_eq_ok_iff.mp h
    exact .map hmap (entriesFor_eq_ok.mp he) rfl
  all_goals
    have ht : target.name = traversable.name := by simpa [bne, Ty.beq_iff] using ht
  · obtain ⟨xs, hx, rfl⟩ := map_eq_ok_iff.mp h
    obtain ⟨hv, rfl⟩ := itemsFor_eq_ok.mp hx
    exact .plainSequence ht hl hv rfl
  · obtain ⟨xs, hx, rfl⟩ := map_eq_ok_iff.mp h
    obtain ⟨hv, rfl⟩ := itemsFor_eq_ok.mp hx
    exact .plainSet ht hs hv rfl
  · obtain ⟨es, he, rfl⟩ := map_eq_ok_iff.mp h
    exact .plainMap ht hm (entriesFor_eq_ok.mp he) rfl
  · cases h
    exact .asIs ht (by simpa using hl) (by simpa using hs) (by simpa using hm) rfl

end Vavr

end ForeignCollections
