import ForeignCollections.Proofs.Vavr.Contents

/-!
What comes of asking for a native container as a type of the family. A table says for each kind of
container and each target whether the conversion is refused, fails, leaves the value alone or gives
a container of which family under which type. The table leaves no case out, and every conversion
comes out as it says.
-/

namespace ForeignCollections.Vavr

open Ty (Canonical)

/-- What a conversion can come to. -/
inductive Outcome where
  | refused
  | unbuildable
  | unchanged
  /-- A container of the shape of the family, under the type, with the contents of the value. -/
  | built (f : Family) (type : Ty)

/-- The conversion comes to this; that it can be made is said of all that a rule takes. -/
def Outcome.Of (b : RuleBook) (v : Value) (target : Ty) : Outcome → Prop
  | refused => b.canConvert v.runtimeType target = false ∧
      b.convert v target = .error (.noConverter v.runtimeType.name target.name)
  | unbuildable => b.canConvert v.runtimeType target = true ∧
      b.convert v target = .error (.cannotBuild target.name v.runtimeType.name)
  | unchanged => b.canConvert v.runtimeType target = true ∧ b.convert v target = .ok v
  | built f type => b.canConvert v.runtimeType target = true ∧
      ∃ w, b.convert v target = .ok w ∧ w.shape = some f ∧ w.runtimeType = type ∧
        KeepsContents v w

/-- A native collection that is no map, and not of the shape of a map; or a native map that is no
collection, of the shape of a map. -/
inductive NativeContainer (v : Value) : Prop where
  | items (collection : v.runtimeType.isCollection = true) (map : v.runtimeType.isMap = false)
      (container : v.isContainer = true) (shape : v.shape ≠ some .map)
  | entries (map : v.runtimeType.isMap = true) (collection : v.runtimeType.isCollection = false)
      (shape : v.shape = some .map)

/-- The table: what comes of a container of the native type `n` that is asked for as `target`. -/
inductive Assigned (n : Ty) : Ty → Outcome → Prop where
  | collectionToMap {target : Ty} (hn : n.isCollection = true)
      (ht : map.isAssignableFrom target = true) : Assigned n target .refused
  | mapToOther {target : Ty} (hn : n.isMap = true) (ht : map.isAssignableFrom target = false)
      (hp : target ≠ traversable) : Assigned n target .refused
  | collectionToSequence {target : Ty} (hn : n.isCollection = true)
      (ht : seq.isAssignableFrom target = true) :
      Assigned n target (.built .sequence (if target.kind = .interface then list else target))
  | collectionToSet {target : Ty} (hn : n.isCollection = true)
      (ht : set.isAssignableFrom target = true) :
      Assigned n target (.built .set (if target.kind = .interface then linkedHashSet else target))
  | mapToMap {target : Ty} (hn : n.isMap = true) (ht : map.isAssignableFrom target = true) :
      Assigned n target (.built .map (if target.kind = .interface then linkedHashMap else target))
  | collectionToOther {target : Ty} (hn : n.isCollection = true) (hp : target ≠ traversable)
      (hseq : seq.isAssignableFrom target = false) (hset : set.isAssignableFrom target = false)
      (hmap : map.isAssignableFrom target = false) : Assigned n target .unbuildable
  | plainList (hn : Native.list.isAssignableFrom n = true) :
      Assigned n traversable (.built .sequence list)
  | plainSet (hl : Native.list.isAssignableFrom n = false)
      (hn : Native.set.isAssignableFrom n = true) :
      Assigned n traversable (.built .set linkedHashSet)
  | plainMap (hn : n.isMap = true) : Assigned n traversable (.built .map linkedHashMap)
  | plainOther (hl : Native.list.isAssignableFrom n = false)
      (hs : Native.set.isAssignableFrom n = false) (hm : n.isMap = false) :
      Assigned n traversable .unchanged

variable {r : Registry} {v w : Value} {f : Family} {target : Ty}

/-! ### Containers and targets -/

lemma NativeContainer.isContainer (h : NativeContainer v) : v.isContainer = true := by
  cases h with
  | items _ _ hc _ => exact hc
  | entries _ _ hs => exact Value.isContainer_of_shape hs

lemma NativeContainer.isNull (h : NativeContainer v) : v.isNull = false :=
  Value.isNull_of_isContainer h.isContainer

lemma NativeContainer.isMap_eq_false (h : NativeContainer v)
    (hn : v.runtimeType.isCollection = true) : v.runtimeType.isMap = false := by
  cases h with
  | items _ hm => exact hm
  | entries _ hc => exact absurd (hc.symm.trans hn) (by decide)

lemma NativeContainer.isCollection_eq_false (h : NativeContainer v)
    (hn : v.runtimeType.isMap = true) : v.runtimeType.isCollection = false := by
  cases h with
  | items _ hm => exact absurd (hm.symm.trans hn) (by decide)
  | entries _ hc => exact hc

lemma NativeContainer.shape_iff (h : NativeContainer v) :
    v.shape = some .map ↔ v.runtimeType.isMap = true := by
  cases h with
  | items _ hm _ hs => exact iff_of_false hs (Bool.eq_false_iff.mp hm)
  | entries hm _ hs => exact iff_of_true hs hm

lemma NativeContainer.collection_or_map (h : NativeContainer v) :
    v.runtimeType.isCollection = true ∨ v.runtimeType.isMap = true := by
  cases h with
  | items hcoll => exact Or.inl hcoll
  | entries hmap => exact Or.inr hmap

lemma Family.OnlyNative.isMap_iff {n : Ty} (h : f.OnlyNative n) : n.isMap = true ↔ f = .map := by
  cases f with
  | sequence => exact iff_of_false (Bool.eq_false_iff.mp h.2) (by decide)
  | set => exact iff_of_false (Bool.eq_false_iff.mp h.2.2) (by decide)
  | map => exact iff_of_true h.1 rfl

lemma constructible_eq (target fallback : Ty) :
    constructible target fallback = if target.kind = .interface then fallback else target := by
  simp [constructible, Ty.isInterface]

lemma Family.only_of_base (hone : ∀ f g : Family, f.base.isAssignableFrom target = true →
    g.base.isAssignableFrom target = true → f = g) (h : f.base.isAssignableFrom target = true) :
    f.Only target := by
  have hother : ∀ g : Family, g ≠ f → g.base.isAssignableFrom target = false := fun g hg =>
    Bool.eq_false_iff.mpr fun hb => hg (hone g f hb h)
  cases f with
  | sequence => exact ⟨h, hother .set (by decide), hother .map (by decide)⟩
  | set => exact ⟨h, hother .sequence (by decide), hother .map (by decide)⟩
  | map => exact ⟨h, hother .sequence (by decide), hother .set (by decide)⟩

/-! ### What dispatch comes to -/

section

variable (hr : Registry.build Cli.registrars = .ok r) (hn : NativeContainer v)
  (hcs : v.runtimeType.Canonical) (htrav : traversable.isAssignableFrom v.runtimeType = false)
  (hct : target.Canonical) (ht : traversable.isAssignableFrom target = true)
  (ha : target.isAssignableFrom v.runtimeType = false)

include hr hn htrav ha in
lemma refused_of_not_accepts (hacc : fromNative.accepts v.runtimeType target = false) :
    Outcome.refused.Of r.ruleBook v target := by
  have hnone : r.ruleBook.select? v.runtimeType target = none := by
    refine Option.eq_none_iff_forall_not_mem.mpr fun rule hrule => ?_
    rcases select?_cases hr hrule with ⟨-, hsource, -⟩ | ⟨-, haccepts, -⟩
    · exact absurd (htrav.symm.trans hsource) (by decide)
    · exact absurd (hacc.symm.trans haccepts) (by decide)
  refine ⟨?_, RuleBook.convert_of_select?_eq_none hn.isNull ha hnone⟩
  rw [RuleBook.canConvert_of_not_assignable ha, hnone]
  rfl

include hr hn hcs htrav hct ht ha

lemma convert_eq_wrapped (hacc : fromNative.accepts v.runtimeType target = true) :
    r.ruleBook.canConvert v.runtimeType target = true ∧
      r.ruleBook.convert v target = wrapped v v.runtimeType target := by
  have hsome : r.ruleBook.select? v.runtimeType target = some fromNative :=
    select?_into hr hcs htrav hn.collection_or_map hct ht hacc
  refine ⟨?_, RuleBook.convert_of_select? hn.isNull ha hsome⟩
  rw [RuleBook.canConvert_of_not_assignable ha, hsome]
  rfl

lemma unbuildable_of_targetFamily_none (hf : targetFamily target = none)
    (hp : target ≠ traversable) (hacc : fromNative.accepts v.runtimeType target = true) :
    Outcome.unbuildable.Of r.ruleBook v target := by
  obtain ⟨hcan, hconvert⟩ := convert_eq_wrapped hr hn hcs htrav hct ht ha hacc
  refine ⟨hcan, hconvert.trans (wrapped_of_targetFamily_none hn.isContainer hf fun hname => ?_)⟩
  exact hp (hct.eq traversable_mem_catalogue hname)

omit hct ht ha in
lemma unchanged_of_nativeFamily_none (hf : nativeFamily v.runtimeType = none) :
    Outcome.unchanged.Of r.ruleBook v traversable := by
  have hc : traversable.Canonical := Ty.canonical_of_mem_catalogue traversable_mem_catalogue
  have hw : wrapped v v.runtimeType traversable = _ := wrapped_traversable hn.isContainer
  rw [hf] at hw
  obtain ⟨hcan, hconvert⟩ := convert_eq_wrapped hr hn hcs htrav hc (Ty.isAssignableFrom_self _)
    htrav (accepts_traversable _)
  exact ⟨hcan, hconvert.trans hw⟩

end

section

variable {v : Value.Proper} (hr : Registry.build Cli.registrars = .ok r) (hn : NativeContainer v)
  (hcs : v.value.runtimeType.Canonical)
  (htrav : traversable.isAssignableFrom v.value.runtimeType = false)
  (hct : target.Canonical) (ht : traversable.isAssignableFrom target = true)
  (ha : target.isAssignableFrom v.value.runtimeType = false)

include hr hn hcs htrav hct ht ha

lemma built_of_wrapped {asked t : Ty} (hacc : fromNative.accepts v.value.runtimeType target = true)
    (hf : v.value.shape = some .map ↔ f = .map)
    (hw : wrapped v v.value.runtimeType target = f.build v asked t) :
    (Outcome.built f t).Of r.ruleBook v target := by
  obtain ⟨hcan, hconvert⟩ := convert_eq_wrapped hr hn hcs htrav hct ht ha hacc
  obtain ⟨w, hbuild⟩ := Family.exists_build_eq_ok hf hn.isContainer asked t
  obtain ⟨hshape, htype⟩ := Family.of_build hbuild
  exact ⟨hcan, w, (hconvert.trans hw).trans hbuild, hshape, htype,
    keepsContents_of_wrapped (hw.trans hbuild)⟩

lemma built_of_only (hf : f.Only target)
    (hacc : fromNative.accepts v.value.runtimeType target = true)
    (hs : v.value.runtimeType.isMap = true ↔ f = .map) :
    (Outcome.built f (if target.kind = .interface then f.fallback else target)).Of
      r.ruleBook v target := by
  rw [← constructible_eq]
  exact built_of_wrapped hr hn hcs htrav hct ht ha hacc (hn.shape_iff.trans hs)
    (wrapped_of_only hn.isContainer hf)

omit hct ht ha in
lemma built_of_onlyNative (hf : f.OnlyNative v.value.runtimeType) :
    (Outcome.built f f.fallback).Of r.ruleBook v traversable := by
  have hc : traversable.Canonical := Ty.canonical_of_mem_catalogue traversable_mem_catalogue
  have hw : wrapped v v.value.runtimeType traversable = _ := wrapped_traversable hn.isContainer
  rw [nativeFamily_of_onlyNative hcs hf] at hw
  exact built_of_wrapped hr hn hcs htrav hc (Ty.isAssignableFrom_self _) htrav
    (accepts_traversable _) (hn.shape_iff.trans hf.isMap_iff) hw

end

/-! ### The table -/

lemma NativeContainer.exists_assigned (h : NativeContainer v) (target : Ty) :
    ∃ o, Assigned v.runtimeType target o := by
  cases h with
  | items hn hm =>
    by_cases hmap : map.isAssignableFrom target = true
    · exact ⟨_, .collectionToMap hn hmap⟩
    by_cases hseq : seq.isAssignableFrom target = true
    · exact ⟨_, .collectionToSequence hn hseq⟩
    by_cases hset : set.isAssignableFrom target = true
    · exact ⟨_, .collectionToSet hn hset⟩
    rw [Bool.not_eq_true] at hmap hseq hset
    by_cases hp : target = traversable
    · subst hp
      by_cases hl : Native.list.isAssignableFrom v.runtimeType = true
      · exact ⟨_, .plainList hl⟩
      rw [Bool.not_eq_true] at hl
      by_cases hs : Native.set.isAssignableFrom v.runtimeType = true
      · exact ⟨_, .plainSet hl hs⟩
      · exact ⟨_, .plainOther hl (Bool.eq_false_iff.mpr hs) hm⟩
    · exact ⟨_, .collectionToOther hn hp hseq hset hmap⟩
  | entries hm =>
    by_cases hmap : map.isAssignableFrom target = true
    · exact ⟨_, .mapToMap hm hmap⟩
    by_cases hp : target = traversable
    · subst hp
      exact ⟨_, .plainMap hm⟩
    · exact ⟨_, .mapToOther hm (Bool.eq_false_iff.mpr hmap) hp⟩

/-- **A native container goes into the family as the table says.** Above its type and the target
stand the native and Vavr types as the catalogues have them; the target is a traversable, below one
of the three families at most, and the container is not below it. -/
theorem convert_assigned {v : Value.Proper} (hr : Registry.build Cli.registrars = .ok r)
    (hn : NativeContainer v) (hcs : v.value.runtimeType.Canonical)
    (htrav : traversable.isAssignableFrom v.value.runtimeType = false) (hct : target.Canonical)
    (ht : traversable.isAssignableFrom target = true)
    (hone : ∀ f g : Family, f.base.isAssignableFrom target = true →
      g.base.isAssignableFrom target = true → f = g)
    (ha : target.isAssignableFrom v.value.runtimeType = false) :
    (∃ o, Assigned v.value.runtimeType target o) ∧
    ∀ o, Assigned v.value.runtimeType target o → o.Of r.ruleBook v target := by
  refine ⟨hn.exists_assigned target, fun o ho => ?_⟩
  cases ho with
  | collectionToMap hcoll hmap =>
    exact refused_of_not_accepts hr hn htrav ha (not_accepts_collection hcoll hmap)
  | mapToOther hm hmap hp =>
    have hname : target.name ≠ traversable.name := fun h => hp (hct.eq traversable_mem_catalogue h)
    exact refused_of_not_accepts hr hn htrav ha (not_accepts_map hm hmap hname)
  | collectionToSequence hcoll hseq =>
    have hm := hn.isMap_eq_false hcoll
    have hf : Family.sequence.Only target := Family.only_of_base hone hseq
    exact built_of_only hr hn hcs htrav hct ht ha hf (accepts_collection hm hf.2.2)
      (iff_of_false (Bool.eq_false_iff.mp hm) (by decide))
  | collectionToSet hcoll hset =>
    have hm := hn.isMap_eq_false hcoll
    have hf : Family.set.Only target := Family.only_of_base hone hset
    exact built_of_only hr hn hcs htrav hct ht ha hf (accepts_collection hm hf.2.2)
      (iff_of_false (Bool.eq_false_iff.mp hm) (by decide))
  | mapToMap hm hmap =>
    have hf : Family.map.Only target := Family.only_of_base hone hmap
    exact built_of_only hr hn hcs htrav hct ht ha hf
      (accepts_map (hn.isCollection_eq_false hm) hmap) (iff_of_true hm rfl)
  | collectionToOther hcoll hp hseq hset hmap =>
    have hf : targetFamily target = none := by simp [targetFamily, hseq, hset, hmap]
    exact unbuildable_of_targetFamily_none hr hn hcs htrav hct ht ha hf hp
      (accepts_collection (hn.isMap_eq_false hcoll) hmap)
  | plainList hl =>
    have hm := hn.isMap_eq_false (collection_of_below (.inl rfl) hcs hl)
    exact built_of_onlyNative (f := .sequence) hr hn hcs htrav ⟨hl, hm⟩
  | plainSet hl hs =>
    have hm := hn.isMap_eq_false (collection_of_below (.inr rfl) hcs hs)
    exact built_of_onlyNative (f := .set) hr hn hcs htrav ⟨hs, hl, hm⟩
  | plainMap hm =>
    exact built_of_onlyNative (f := .map) hr hn hcs htrav ⟨hm, hn.isCollection_eq_false hm⟩
  | plainOther hl hs hm =>
    have hf : nativeFamily v.value.runtimeType = none := by
      rw [Ty.isMap] at hm
      simp [nativeFamily, hl, hs, hm]
    exact unchanged_of_nativeFamily_none hr hn hcs htrav hf

def taggedSet : Ty := .mk "com.example.TaggedSet" (by decide) .interface [set]

lemma canonical_taggedSet : taggedSet.Canonical := by
  refine Ty.canonical_of_supers_subset (by decide) fun s hs => all_subset_catalogue ?_
  rw [List.mem_singleton.mp hs]
  exact base_mem_all .set

def twiceLinked : Value.Proper := .sequence Native.linkedList [.text "a", .text "a"]

lemma nativeContainer_twiceLinked : NativeContainer twiceLinked :=
  .items (by cbv) (by cbv) rfl (by decide)

lemma Family.Only.eq_of_base (h : f.Only target) (g g' : Family)
    (hg : g.base.isAssignableFrom target = true) (hg' : g'.base.isAssignableFrom target = true) :
    g = g' :=
  ((h.base_iff g).mp hg).trans ((h.base_iff g').mp hg').symm

lemma eq_of_base_of_none (h : ∀ f : Family, f.base.isAssignableFrom target = false)
    (g g' : Family) (hg : g.base.isAssignableFrom target = true)
    (_ : g'.base.isAssignableFrom target = true) : g = g' :=
  absurd ((h g).symm.trans hg) (by decide)

lemma base_of_no_family (ht : target = traversable ∨ target = tree) (f : Family) :
    f.base.isAssignableFrom target = false := by
  rcases ht with rfl | rfl <;> cases f <;> cbv

/-- A linked list is refused as a map; as a tagged set it becomes a linked hash set, as a
traversable a list, and as a tree it cannot be built. -/
theorem convert_assigned_twiceLinked : ∃ r, Registry.build Cli.registrars = .ok r ∧
    NativeContainer twiceLinked ∧
    Outcome.refused.Of r.ruleBook twiceLinked map ∧
    (Outcome.built .set linkedHashSet).Of r.ruleBook twiceLinked taggedSet ∧
    (Outcome.built .sequence list).Of r.ruleBook twiceLinked traversable ∧
    Outcome.unbuildable.Of r.ruleBook twiceLinked tree := by
  obtain ⟨r, hr⟩ := exists_build
  have hlinked : Native.linkedList ∈ Native.all := by simp [Native.all]
  have hcs : twiceLinked.value.runtimeType.Canonical :=
    Ty.canonical_of_mem_catalogue (native_subset_catalogue hlinked)
  have hnot : ∀ t ∈ all, t.isAssignableFrom twiceLinked.value.runtimeType = false := fun t ht =>
    not_isAssignableFrom_native ht hlinked
  have hcollection : twiceLinked.value.runtimeType.isCollection = true := by cbv
  have hall : ∀ t ∈ all, t.Canonical := fun t ht =>
    Ty.canonical_of_mem_catalogue (all_subset_catalogue ht)
  have htagged : Family.set.Only taggedSet := ⟨by cbv, by cbv, by cbv⟩
  have hmap : Family.map.Only map := ⟨by cbv, by cbv, by cbv⟩
  have htraversable : traversable ∈ all := List.mem_cons_self
  have htree : tree ∈ all := by simp [all]
  have hassigned := fun (t : Ty) (hct : t.Canonical) ht hone ha => (convert_assigned hr
    nativeContainer_twiceLinked hcs (hnot _ htraversable) hct ht hone ha).2
  refine ⟨r, hr, nativeContainer_twiceLinked, ?_, ?_, ?_, ?_⟩
  · exact hassigned map (hall _ (base_mem_all .map)) (by cbv) hmap.eq_of_base
      (hnot _ (base_mem_all .map)) _ (.collectionToMap hcollection hmap.1)
  · exact hassigned taggedSet canonical_taggedSet (by cbv) htagged.eq_of_base (by cbv) _
      (.collectionToSet hcollection htagged.1)
  · have hbase := base_of_no_family (Or.inl rfl)
    exact hassigned traversable (hall _ htraversable) (by cbv) (eq_of_base_of_none hbase)
      (hnot _ htraversable) _ (.plainList (by cbv))
  · have hne : tree ≠ traversable := fun h => absurd (congrArg Ty.name h) (by decide)
    have hbase := base_of_no_family (Or.inr rfl)
    exact hassigned tree (hall _ htree) (by cbv) (eq_of_base_of_none hbase) (hnot _ htree) _
      (.collectionToOther hcollection hne (hbase .sequence) (hbase .set) (hbase .map))

end ForeignCollections.Vavr
