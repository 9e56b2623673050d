import ForeignCollections.Proofs.Registry.Build

/-!
The bases of maps and of collections. Either list of candidates begins with a native type, and
building compares the registered types only. So the two lists have a name in common exactly if
the native map type is registered as a collection type or the native collection type as a map
type; then whatever is below it counts as both.
-/

namespace ForeignCollections

/-- An available registrar declares a native base on the wrong side, by the name `n`. -/
def Registrar.Misplaced (gs : List Registrar) (n : String) : Prop :=
  ∃ g ∈ gs, g.available = true ∧
    (n = Native.map.name ∧ n ∈ g.collectionTypes.map Ty.name ∨
      n = Native.collection.name ∧ n ∈ g.mapTypes.map Ty.name)

namespace Registry

/-- The name of a candidate for maps and of one for collections. -/
def SharedBase (r : Registry) (n : String) : Prop :=
  n ∈ r.mapCandidates.types.map Ty.name ∧ n ∈ r.collectionCandidates.types.map Ty.name

/-- No registered type is a base on the other side, the native ones included. -/
structure BasesApart (r : Registry) : Prop where
  collections : ∀ t ∈ r.collectionTypes, r.isMapBaseType t = false
  maps : ∀ m ∈ r.mapTypes, m.name ≠ Native.collection.name ∧
    ∀ t ∈ r.collectionTypes, m.name ≠ t.name

variable {gs : List Registrar} {r : Registry} {n : String} {t : Ty}

lemma isMapBaseType_iff :
    r.isMapBaseType t = true ↔ t.name = Native.map.name ∨ t.name ∈ r.mapTypes.map Ty.name :=
  Candidates.has_of_iff

lemma not_mem_names_both (r : Registry) (n : String) :
    ¬(n ∈ r.mapTypes.map Ty.name ∧ n ∈ r.collectionTypes.map Ty.name) := by
  rintro ⟨hmaps, hcollections⟩
  obtain ⟨m, hm, hmn⟩ := List.mem_map.mp hmaps
  obtain ⟨t, ht, htn⟩ := List.mem_map.mp hcollections
  exact name_ne_of_mem hm ht (hmn.trans htn.symm)

/-- Registered types never meet each other, so one of the two is native. -/
lemma sharedBase_iff : r.SharedBase n ↔
    n = Native.map.name ∧ n ∈ r.collectionTypes.map Ty.name ∨
      n = Native.collection.name ∧ n ∈ r.mapTypes.map Ty.name := by
  have hne : Native.map.name ≠ Native.collection.name := by decide
  have hboth := r.not_mem_names_both n
  rw [SharedBase, mapCandidates, collectionCandidates, Candidates.mem_names_of,
    Candidates.mem_names_of]
  constructor
  · rintro ⟨rfl | hm, hc | hc⟩
    · exact absurd hc hne
    · exact Or.inl ⟨rfl, hc⟩
    · exact Or.inr ⟨hc, hm⟩
    · exact absurd ⟨hm, hc⟩ hboth
  · rintro (⟨hn, hc⟩ | ⟨hn, hm⟩)
    · exact ⟨Or.inl hn, Or.inr hc⟩
    · exact ⟨Or.inr hm, Or.inl hn⟩

lemma basesApart_iff_sharedBase : r.BasesApart ↔ ∀ n, ¬r.SharedBase n := by
  simp only [sharedBase_iff, not_or, not_and]
  constructor
  · rintro ⟨hcollections, hmaps⟩ n
    constructor
    · rintro rfl hc
      obtain ⟨t, ht, hn⟩ := List.mem_map.mp hc
      exact Bool.false_ne_true
        ((hcollections t ht).symm.trans (isMapBaseType_iff.mpr (Or.inl hn)))
    · rintro rfl hm
      obtain ⟨m, hm, hn⟩ := List.mem_map.mp hm
      exact (hmaps m hm).1 hn
  · intro h
    refine ⟨fun t ht => ?_, fun m hm => ⟨fun hn => ?_, fun t ht => name_ne_of_mem hm ht⟩⟩
    · rw [Bool.eq_false_iff, Ne, isMapBaseType_iff]
      rintro (hn | hm)
      · exact (h _).1 hn (List.mem_map_of_mem ht)
      · exact r.not_mem_names_both _ ⟨hm, List.mem_map_of_mem ht⟩
    · exact (h _).2 hn (List.mem_map_of_mem hm)

lemma sharedBase_iff_misplaced (h : build gs = .ok r) :
    r.SharedBase n ↔ Registrar.Misplaced gs n := by
  rw [sharedBase_iff, mapTypes, collectionTypes, registrars_of_build h,
    Registrar.mem_names_declared, Registrar.mem_names_declared]
  simp only [Registrar.Misplaced, List.mem_filter]
  constructor
  · rintro (⟨hn, g, ⟨hg, ha⟩, hc⟩ | ⟨hn, g, ⟨hg, ha⟩, hm⟩)
    · exact ⟨g, hg, ha, Or.inl ⟨hn, hc⟩⟩
    · exact ⟨g, hg, ha, Or.inr ⟨hn, hm⟩⟩
  · rintro ⟨g, hg, ha, ⟨hn, hc⟩ | ⟨hn, hm⟩⟩
    · exact Or.inl ⟨hn, g, ⟨hg, ha⟩, hc⟩
    · exact Or.inr ⟨hn, g, ⟨hg, ha⟩, hm⟩

/-- **Maps and collections share a base exactly if a native base is misplaced**, and then all
that is below this base counts as a map and as a collection. Registered types are never shared. -/
theorem basesApart_iff (h : build gs = .ok r) :
    (∀ m ∈ r.mapTypes, ∀ t ∈ r.collectionTypes, m.name ≠ t.name) ∧
    (∀ n, r.SharedBase n ↔ Registrar.Misplaced gs n) ∧
    (r.BasesApart ↔ ∀ n, ¬Registrar.Misplaced gs n) ∧
    ∀ b t : Ty, r.SharedBase b.name → b.isAssignableFrom t = true →
      r.isMap t = true ∧ r.isCollection t = true := by
  refine ⟨fun m hm t ht => name_ne_of_mem hm ht, fun n => sharedBase_iff_misplaced h, ?_, ?_⟩
  · simp only [basesApart_iff_sharedBase, sharedBase_iff_misplaced h]
  · intro b t hb ht
    exact ⟨Candidates.covers_of_mem_names hb.1 ht, Candidates.covers_of_mem_names hb.2 ht⟩

def collectionsAsMaps : Registrar where
  id := "collections-as-maps"
  mapTypes := [Native.collection]

def mapsAsCollections : Registrar where
  id := "maps-as-collections"
  collectionTypes := [Native.map]

theorem basesApart_iff_collectionsAsMaps : ∃ r, build [collectionsAsMaps] = .ok r ∧
    r.SharedBase Native.collection.name ∧ ¬r.BasesApart ∧
    r.isMap Native.arrayList = true ∧ r.isCollection Native.arrayList = true := by
  obtain ⟨r, hr⟩ := (exists_build_eq_ok_iff [collectionsAsMaps]).mpr rfl
  obtain ⟨-, hshared, hapart, hbelow⟩ := basesApart_iff hr
  have hmisplaced : Registrar.Misplaced [collectionsAsMaps] Native.collection.name :=
    ⟨_, List.mem_cons_self, rfl, Or.inr ⟨rfl, List.mem_cons_self⟩⟩
  have hbase := (hshared _).mpr hmisplaced
  exact ⟨r, hr, hbase, fun ha => hapart.mp ha _ hmisplaced, hbelow _ _ hbase (by cbv)⟩

/-- **The bases are not always kept apart**: building accepts the native map type as a
collection type, though it is a base of maps. -/
theorem not_basesApart_of_build : ¬∀ gs r, build gs = .ok r → r.BasesApart := by
  intro hall
  obtain ⟨r, hr⟩ := (exists_build_eq_ok_iff [mapsAsCollections]).mpr rfl
  have hregistered : Native.map ∈ r.collectionTypes := by
    rw [collectionTypes, registrars_of_build hr]
    exact List.mem_cons_self
  have hbase : r.isMapBaseType Native.map = true := isMapBaseType_iff.mpr (Or.inl rfl)
  exact Bool.false_ne_true (((hall _ r hr).collections _ hregistered).symm.trans hbase)

end Registry

end ForeignCollections
