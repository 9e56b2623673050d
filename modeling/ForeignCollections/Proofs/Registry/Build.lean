import ForeignCollections.Config.Environment
import ForeignCollections.Proofs.Registry.Candidates

/-!
Building a registry. It fails exactly if the registrars that take part declare one name as a map
type and as a collection type, and blames the first such map type. Else it loses nothing: each
list of types is the concatenation of what the registrars declare, less repetitions of a name.
-/

namespace ForeignCollections

open Entries

/-- The registrars that take part: the available ones, less those the configuration leaves out. -/
def Config.enabled (c : Config) (gs : List Registrar) : List Registrar :=
  gs.filter fun g => g.available && !c.isDisabled g.id

namespace Registrar

/-- Some name is declared as a map type and, by the same or another registrar, as a collection
type. -/
def Clash (gs : List Registrar) : Prop :=
  ∃ g ∈ gs, ∃ g' ∈ gs, ∃ m ∈ g.mapTypes, ∃ t ∈ g'.collectionTypes, t.name = m.name

/-- Of the map types, in the order of their declaration, `m` is the first that is declared as a
collection type, too. -/
def FirstClash (gs : List Registrar) (m : Ty) : Prop :=
  m.name ∈ (gs.flatMap (·.collectionTypes)).map Ty.name ∧
    ∃ before after, gs.flatMap (·.mapTypes) = before ++ m :: after ∧
      ∀ u ∈ before, u.name ∉ (gs.flatMap (·.collectionTypes)).map Ty.name

variable {gs : List Registrar} {m : Ty}

lemma mem_names_declared {types : Registrar → List Ty} {n : String} :
    n ∈ (declared types gs).map Ty.name ↔ ∃ g ∈ gs, n ∈ (types g).map Ty.name := by
  rw [declared, Ty.mem_names_distinct, List.map_flatMap, List.mem_flatMap]

lemma clash_iff : Clash gs ↔ ∃ m ∈ gs.flatMap (·.mapTypes),
    m.name ∈ (gs.flatMap (·.collectionTypes)).map Ty.name := by
  simp only [Clash, List.mem_flatMap, List.mem_map]
  constructor
  · rintro ⟨g, hg, g', hg', m, hm, t, ht, hn⟩
    exact ⟨m, ⟨g, hg, hm⟩, t, ⟨g', hg', ht⟩, hn⟩
  · rintro ⟨m, ⟨g, hg, hm⟩, t, ⟨g', hg', ht⟩, hn⟩
    exact ⟨g, hg, g', hg', m, hm, t, ht, hn⟩

lemma Clash.mono {gs' : List Registrar} (h : gs ⊆ gs') (hc : Clash gs) : Clash gs' := by
  obtain ⟨g, hg, g', hg', hn⟩ := hc
  exact ⟨g, h hg, g', h hg', hn⟩

/-- The search for a clash goes by names, so it does not matter that repetitions are left out. -/
lemma clash?_eq (gs : List Registrar) :
    clash? gs = (gs.flatMap (·.mapTypes)).find? fun m =>
      (gs.flatMap (·.collectionTypes)).any (· == m) := by
  have hcongr : ∀ a b : Ty, a.name = b.name →
      (gs.flatMap (·.collectionTypes)).any (· == a) =
        (gs.flatMap (·.collectionTypes)).any (· == b) := by
    intro a b hab
    rw [Bool.eq_iff_iff, Ty.any_beq_iff, Ty.any_beq_iff, hab]
  simp only [clash?, declared, Ty.any_beq_distinct]
  exact Ty.find?_distinct hcongr _

lemma clash?_eq_some_iff : clash? gs = some m ↔ FirstClash gs m := by
  rw [clash?_eq, List.find?_eq_some_iff_append, Ty.any_beq_iff, FirstClash]
  simp only [Bool.not_eq_true', Bool.eq_false_iff, Ne, Ty.any_beq_iff]

lemma clash?_eq_none_iff : clash? gs = none ↔ ¬Clash gs := by
  rw [clash?_eq, List.find?_eq_none, clash_iff]
  simp only [Ty.any_beq_iff, not_exists, not_and]

end Registrar

namespace Registry

variable {c : Config} {gs : List Registrar} {r : Registry} {t : Ty}

lemma build_cases (gs : List Registrar) :
    (∃ m, Registrar.clash? (gs.filter (·.available)) = some m ∧
      build gs = .error (.mapAndCollection m.name)) ∨
    (Registrar.clash? (gs.filter (·.available)) = none ∧
      ∃ r, build gs = .ok r ∧ r.registrars = gs.filter (·.available)) := by
  unfold build
  dsimp only
  split
  · rename_i m hm
    exact Or.inl ⟨m, hm, rfl⟩
  · rename_i hm
    exact Or.inr ⟨hm, _, rfl, rfl⟩

lemma registrars_of_build (h : build gs = .ok r) : r.registrars = gs.filter (·.available) := by
  obtain ⟨m, -, herr⟩ | ⟨-, r', hok, hr'⟩ := build_cases gs
  · exact nomatch herr.symm.trans h
  · cases hok.symm.trans h
    exact hr'

lemma build_eq_error_iff {e : CollectionError} : build gs = .error e ↔
    ∃ m, Registrar.clash? (gs.filter (·.available)) = some m ∧ e = .mapAndCollection m.name := by
  obtain ⟨m, hm, herr⟩ | ⟨hm, r', hok, -⟩ := build_cases gs
  · rw [herr, hm]
    simp [eq_comm]
  · rw [hok, hm]
    simp

lemma exists_build_eq_ok_iff (gs : List Registrar) :
    (∃ r, build gs = .ok r) ↔ Registrar.clash? (gs.filter (·.available)) = none := by
  obtain ⟨m, hm, herr⟩ | ⟨hm, r', hok, -⟩ := build_cases gs
  · rw [herr, hm]
    simp
  · exact iff_of_true ⟨r', hok⟩ hm

lemma exists_build_of_subset {gs' : List Registrar} (h : gs ⊆ gs')
    (hr : ∃ r, build gs' = .ok r) : ∃ r, build gs = .ok r := by
  rw [exists_build_eq_ok_iff, Registrar.clash?_eq_none_iff] at hr ⊢
  refine fun hc => hr (hc.mono fun g hg => ?_)
  obtain ⟨hg, ha⟩ := List.mem_filter.mp hg
  exact List.mem_filter.mpr ⟨h hg, ha⟩

lemma filter_available (c : Config) (gs : List Registrar) :
    (gs.filter fun g => !c.isDisabled g.id).filter (·.available) = c.enabled gs :=
  List.filter_filter

lemma configured_eq_error_iff {e : CollectionError} : configured c gs = .error e ↔
    ∃ m, Registrar.FirstClash (c.enabled gs) m ∧ e = .mapAndCollection m.name := by
  rw [configured, build_eq_error_iff, filter_available]
  exact exists_congr fun m => and_congr_left fun _ => Registrar.clash?_eq_some_iff

/-! ### What a registry holds -/

lemma not_clash (r : Registry) : ¬Registrar.Clash r.registrars :=
  Registrar.clash?_eq_none_iff.mp r.partition

lemma name_ne_of_mem {m : Ty} (hm : m ∈ r.mapTypes) (ht : t ∈ r.collectionTypes) :
    m.name ≠ t.name := by
  intro hn
  refine r.not_clash (Registrar.clash_iff.mpr ⟨m, Ty.mem_of_mem_distinct hm, ?_⟩)
  rw [hn]
  exact List.mem_map_of_mem (Ty.mem_of_mem_distinct ht)

lemma find?_flatMap_append {α : Type} {p : Ty → Bool} {f g : α → List Ty} {xs : List α}
    (h : (xs.flatMap f).find? p = none ∨ (xs.flatMap g).find? p = none) :
    (xs.flatMap fun x => f x ++ g x).find? p =
      ((xs.flatMap f).find? p).or ((xs.flatMap g).find? p) := by
  induction xs with
  | nil => rfl
  | cons x xs ih =>
    simp only [List.flatMap_cons, List.find?_append, Option.or_eq_none_iff] at h ⊢
    rw [ih (h.imp And.right And.right)]
    rcases h with ⟨hx, hxs⟩ | ⟨hx, hxs⟩
    · simp only [hx, hxs, Option.none_or]
    · simp only [hx, hxs, Option.or_none]

lemma find?_collection_or_map (r : Registry) (t : Ty) :
    (r.registrars.flatMap (·.collectionTypes)).find? (Ty.same t) = none ∨
      (r.registrars.flatMap (·.mapTypes)).find? (Ty.same t) = none := by
  simp only [Ty.find?_same_eq_none_iff]
  by_contra hc
  obtain ⟨hcoll, hmap⟩ := not_or.mp hc
  obtain ⟨m, hm, hmt⟩ := List.mem_map.mp (not_not.mp hmap)
  exact r.not_clash (Registrar.clash_iff.mpr ⟨m, hm, hmt ▸ not_not.mp hcoll⟩)

/-- The handle that stands for a name among all types is the one that stands for it in its part,
as no name is declared in both. -/
lemma mem_customTypes_iff : t ∈ r.customTypes ↔ t ∈ r.collectionTypes ∨ t ∈ r.mapTypes := by
  have hapart := r.find?_collection_or_map t
  unfold customTypes collectionTypes mapTypes Registrar.declared
  rw [Ty.mem_distinct_iff, Ty.mem_distinct_iff, Ty.mem_distinct_iff, find?_flatMap_append hapart,
    Option.or_eq_some_iff]
  rcases hapart with hnone | hnone <;> simp [hnone]

/-- **All types are the maps and the collections**, no more and no fewer, and each once. -/
lemma customTypes_perm (r : Registry) : r.customTypes.Perm (r.collectionTypes ++ r.mapTypes) := by
  have hcustom : r.customTypes.Nodup := Ty.nodup_distinct _
  have hparts : (r.collectionTypes ++ r.mapTypes).Nodup := by
    refine (Ty.nodup_distinct _).append (Ty.nodup_distinct _) fun t ht hm => ?_
    exact name_ne_of_mem hm ht rfl
  refine (List.perm_ext_iff_of_nodup hcustom hparts).mpr fun t => ?_
  rw [mem_customTypes_iff, List.mem_append]

/-- The registry holds exactly what these registrars declare. -/
structure Gathers (r : Registry) (gs : List Registrar) : Prop where
  registrarIds : r.registrarIds = gs.map (·.id)
  unwrappers : r.unwrappers = gs.map (·.unwrapper)
  mapTypes : r.mapTypes = withoutRepeats Ty.same (gs.flatMap (·.mapTypes))
  collectionTypes : r.collectionTypes = withoutRepeats Ty.same (gs.flatMap (·.collectionTypes))
  paginationTypes : r.paginationTypes = withoutRepeats Ty.same (gs.flatMap (·.paginationTypes))
  customTypes : r.customTypes.Perm (r.collectionTypes ++ r.mapTypes)
  disjoint : ∀ m ∈ r.mapTypes, ∀ t ∈ r.collectionTypes, m.name ≠ t.name
  length_customTypes :
    r.customTypes.length = r.mapTypes.length + r.collectionTypes.length
  isMap : ∀ m ∈ r.mapTypes, r.isMap m = true ∧ r.isMapBaseType m = true
  isCollection : ∀ t ∈ r.collectionTypes, r.isCollection t = true

lemma gathers (r : Registry) : r.Gathers r.registrars where
  registrarIds := rfl
  unwrappers := rfl
  mapTypes := Ty.distinct_eq_withoutRepeats _
  collectionTypes := Ty.distinct_eq_withoutRepeats _
  paginationTypes := Ty.distinct_eq_withoutRepeats _
  customTypes := r.customTypes_perm
  disjoint _ hm _ ht := name_ne_of_mem hm ht
  length_customTypes := by
    rw [r.customTypes_perm.length_eq, List.length_append, Nat.add_comm]
  isMap _ hm := ⟨Candidates.covers_of_has (Candidates.has_of_mem hm), Candidates.has_of_mem hm⟩
  isCollection _ ht := Candidates.covers_of_has (Candidates.has_of_mem ht)

/-- **A registry is built exactly from registrars that keep maps and collections apart**, and
then holds all that they declare; else the first map type that is a collection type, too, is to
blame. -/
theorem configured_iff (c : Config) (gs : List Registrar) :
    (∀ e, configured c gs = .error e ↔ ∃ m, Registrar.FirstClash (c.enabled gs) m ∧
      e = .mapAndCollection m.name ∧ e.category = .invalidArgument ∧
      e.detail = "Type " ++ m.name ++
        " must not be registered as both a map and a collection type") ∧
    ((∃ e, configured c gs = .error e) ↔ Registrar.Clash (c.enabled gs)) ∧
    ((∃ r, configured c gs = .ok r ∧ r.Gathers (c.enabled gs)) ↔
      ¬Registrar.Clash (c.enabled gs)) := by
  have hok := exists_build_eq_ok_iff (gs.filter fun g => !c.isDisabled g.id)
  rw [filter_available, Registrar.clash?_eq_none_iff] at hok
  refine ⟨fun e => ?_, ?_, ?_⟩
  · rw [configured, build_eq_error_iff, filter_available]
    refine exists_congr fun m => and_congr Registrar.clash?_eq_some_iff ?_
    constructor
    · rintro rfl
      exact ⟨rfl, rfl, rfl⟩
    · exact fun h => h.1
  · rw [configured, ← not_iff_not, ← hok]
    cases build (gs.filter fun g => !c.isDisabled g.id) <;> simp
  · rw [← hok]
    refine exists_congr fun r => ⟨fun h => h.1, fun h => ⟨h, ?_⟩⟩
    rw [← filter_available, ← registrars_of_build h]
    exact r.gathers

end Registry

end ForeignCollections
