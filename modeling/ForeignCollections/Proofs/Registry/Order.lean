import Mathlib.Data.List.Infix
import ForeignCollections.Proofs.Registry.Build

/-!
What the order of the registrars decides. In another order other handles may stand for a name
and other bases may be found, but the same types belong to the registry. And whoever comes first
stays first: registrars that are added at the end change no answer that there was.
-/

namespace ForeignCollections.Registry

variable {gs gs' extra : List Registrar} {r r' : Registry} {name : String} {t b : Ty}

/-! ### Looking up a name -/

lemma lookup_eq_ok_iff :
    r.lookup name = .ok t ↔ r.knownTypes.find? (·.name == Text.trim name) = some t := by
  unfold lookup
  cases r.knownTypes.find? (·.name == Text.trim name) <;> simp

lemma isOk_lookup_iff :
    (r.lookup name).isOk = true ↔ Text.trim name ∈ r.knownTypes.map Ty.name := by
  have hfound : (r.lookup name).isOk = (r.knownTypes.find? (·.name == Text.trim name)).isSome := by
    unfold lookup
    cases r.knownTypes.find? (·.name == Text.trim name) <;> rfl
  rw [hfound, List.find?_isSome, List.mem_map]
  simp only [beq_iff_eq]

/-! ### Other orders -/

/-- Both registries give the same answer to whatever asks if something belongs to them. -/
structure SameMembers (r r' : Registry) : Prop where
  isMap : ∀ t, r.isMap t = r'.isMap t
  isCollection : ∀ t, r.isCollection t = r'.isCollection t
  isMapBaseType : ∀ t, r.isMapBaseType t = r'.isMapBaseType t
  isCustom : ∀ t, r.isCustom t = r'.isCustom t
  mapTypes : ∀ t, r.mapTypes.any (· == t) = r'.mapTypes.any (· == t)
  collectionTypes : ∀ t, r.collectionTypes.any (· == t) = r'.collectionTypes.any (· == t)
  paginationTypes : ∀ t, r.paginationTypes.any (· == t) = r'.paginationTypes.any (· == t)
  mapBaseType : ∀ t, (r.mapBaseType t).isOk = (r'.mapBaseType t).isOk
  lookup : ∀ name, (r.lookup name).isOk = (r'.lookup name).isOk

lemma sameNames_declared (h : gs.Perm gs') (types : Registrar → List Ty) :
    Ty.SameNames (Registrar.declared types gs) (Registrar.declared types gs') :=
  Ty.sameNames_distinct_of_perm (h.flatMap_right types)

lemma sameNames_knownTypes (h : r.registrars.Perm r'.registrars) :
    Ty.SameNames r.knownTypes r'.knownTypes :=
  Ty.sameNames_distinct_of_perm ((h.flatMap_right _).append_left Native.all)

lemma sameNames_candidates (h : gs.Perm gs') (base : Ty) (types : Registrar → List Ty) :
    Ty.SameNames (Candidates.of base (Registrar.declared types gs)).types
      (Candidates.of base (Registrar.declared types gs')).types :=
  Candidates.sameNames_of (sameNames_declared h types)

lemma sameMembers_of_perm (h : r.registrars.Perm r'.registrars) : r.SameMembers r' where
  isMap := Candidates.covers_congr (sameNames_candidates h _ _)
  isCollection := Candidates.covers_congr (sameNames_candidates h _ _)
  isMapBaseType := Candidates.has_congr (sameNames_candidates h _ _)
  isCustom := (sameNames_declared h _).any_beq
  mapTypes := (sameNames_declared h _).any_beq
  collectionTypes := (sameNames_declared h _).any_beq
  paginationTypes := (sameNames_declared h _).any_beq
  mapBaseType t := by
    rw [mapBaseType, mapBaseType, Candidates.isOk_superType, Candidates.isOk_superType]
    exact Candidates.covers_congr (sameNames_candidates h _ _) t
  lookup name := by
    rw [Bool.eq_iff_iff, isOk_lookup_iff, isOk_lookup_iff]
    exact sameNames_knownTypes h _

/-- **The order of the registrars does not decide what belongs to a registry**, nor whether it
can be built. -/
theorem build_perm (h : gs.Perm gs') :
    ((∃ r, build gs = .ok r) ↔ ∃ r', build gs' = .ok r') ∧
    ∀ r r', build gs = .ok r → build gs' = .ok r' → r.SameMembers r' := by
  refine ⟨⟨exists_build_of_subset h.symm.subset, exists_build_of_subset h.subset⟩, ?_⟩
  intro r r' hr hr'
  refine sameMembers_of_perm ?_
  rw [registrars_of_build hr, registrars_of_build hr']
  exact h.filter _

def iterableBag : Ty := .mk "com.example.Bag" (by decide) .interface [Native.iterable]

def plainBag : Ty := .mk "com.example.Bag" (by decide) .interface []

def bags (id : String) (bag : Ty) : Registrar where
  id := id
  collectionTypes := [bag]

/-- Whichever handle of a bag comes first, a bag is a collection. -/
theorem build_perm_bags : ∃ r r',
    build [bags "a" iterableBag, bags "b" plainBag] = .ok r ∧
    build [bags "b" plainBag, bags "a" iterableBag] = .ok r' ∧
    r.collectionTypes = [iterableBag] ∧ r'.collectionTypes = [plainBag] ∧ r.SameMembers r' := by
  obtain ⟨r, hr⟩ := (exists_build_eq_ok_iff [bags "a" iterableBag, bags "b" plainBag]).mpr rfl
  obtain ⟨hbuilds, hsame⟩ := build_perm (.swap (bags "b" plainBag) (bags "a" iterableBag) [])
  obtain ⟨r', hr'⟩ := hbuilds.mp ⟨r, hr⟩
  refine ⟨r, r', hr, hr', ?_, ?_, hsame r r' hr hr'⟩
  · rw [collectionTypes, registrars_of_build hr]
    rfl
  · rw [collectionTypes, registrars_of_build hr']
    rfl

/-! ### More registrars -/

/-- The second registry has all that the first one has, in the same places, and gives every
answer that the first one gives. -/
structure Extends (r r' : Registry) : Prop where
  registrarIds : r.registrarIds <+: r'.registrarIds
  mapTypes : r.mapTypes <+: r'.mapTypes
  collectionTypes : r.collectionTypes <+: r'.collectionTypes
  customTypes : r.customTypes <+: r'.customTypes
  paginationTypes : r.paginationTypes <+: r'.paginationTypes
  knownTypes : r.knownTypes <+: r'.knownTypes
  isMap : ∀ t, r.isMap t = true → r'.isMap t = true
  isCollection : ∀ t, r.isCollection t = true → r'.isCollection t = true
  isMapBaseType : ∀ t, r.isMapBaseType t = true → r'.isMapBaseType t = true
  mapBaseType : ∀ t b, r.mapBaseType t = .ok b → r'.mapBaseType t = .ok b
  lookup : ∀ name t, r.lookup name = .ok t → r'.lookup name = .ok t

lemma prefix_declared (h : gs <+: gs') (types : Registrar → List Ty) :
    Registrar.declared types gs <+: Registrar.declared types gs' :=
  Ty.prefix_distinct (h.flatMap types)

lemma prefix_knownTypes (h : r.registrars <+: r'.registrars) :
    r.knownTypes <+: r'.knownTypes :=
  Ty.prefix_distinct ((List.prefix_append_right_inj Native.all).mpr (h.flatMap _))

lemma prefix_candidates (h : gs <+: gs') (base : Ty) (types : Registrar → List Ty) :
    (Candidates.of base (Registrar.declared types gs)).types <+:
      (Candidates.of base (Registrar.declared types gs')).types :=
  Candidates.prefix_of (prefix_declared h types)

lemma extends_of_isPrefix (h : r.registrars <+: r'.registrars) : r.Extends r' where
  registrarIds := h.map _
  mapTypes := prefix_declared h _
  collectionTypes := prefix_declared h _
  customTypes := prefix_declared h _
  paginationTypes := prefix_declared h _
  knownTypes := prefix_knownTypes h
  isMap _ := Candidates.covers_mono ((prefix_candidates h _ _).map _).subset
  isCollection _ := Candidates.covers_mono ((prefix_candidates h _ _).map _).subset
  isMapBaseType _ := Candidates.has_mono ((prefix_candidates h _ _).map _).subset
  mapBaseType _ _ := Candidates.superType_of_isPrefix (prefix_candidates h _ _)
  lookup name t ht := by
    rw [lookup_eq_ok_iff] at ht ⊢
    exact (prefix_knownTypes h).find?_eq_some ht

/-- **More registrars are a conservative extension**: if they can be added at the end, a registry
could be built without them, and they leave all its answers as they are. -/
theorem build_append (h : build (gs ++ extra) = .ok r') :
    ∃ r, build gs = .ok r ∧ r.Extends r' := by
  obtain ⟨r, hr⟩ := exists_build_of_subset (List.subset_append_left gs extra) ⟨r', h⟩
  refine ⟨r, hr, extends_of_isPrefix ?_⟩
  rw [registrars_of_build hr, registrars_of_build h, List.filter_append]
  exact List.prefix_append _ _

theorem build_append_bags : ∃ r r',
    build [bags "a" iterableBag] = .ok r ∧
    build ([bags "a" iterableBag] ++ [bags "b" plainBag]) = .ok r' ∧
    r.Extends r' ∧ r'.lookup "com.example.Bag" = .ok iterableBag := by
  obtain ⟨r', hr'⟩ :=
    (exists_build_eq_ok_iff ([bags "a" iterableBag] ++ [bags "b" plainBag])).mpr rfl
  obtain ⟨r, hr, hext⟩ := build_append hr'
  refine ⟨r, r', hr, hr', hext, hext.lookup _ _ ?_⟩
  rw [lookup_eq_ok_iff, knownTypes, registrars_of_build hr]
  rfl

end ForeignCollections.Registry
