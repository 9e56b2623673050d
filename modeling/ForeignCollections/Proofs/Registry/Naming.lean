import ForeignCollections.Proofs.Registry.Order

/-!
Which types answer to their own names. A look-up takes the blanks off the ends of the name it is
asked for, but a name is kept as it was declared; and only known types are kept by name, which need
not include the map and collection types of a registrar. So a type is found by its own name exactly
if this name has no blanks at its ends and is that of a native or a known type.
-/

namespace ForeignCollections

/-- The name is that of a native type or of one that an available registrar makes known. -/
def Registrar.Nameable (gs : List Registrar) (n : String) : Prop :=
  n ∈ Native.all.map Ty.name ∨
    ∃ g ∈ gs, g.available = true ∧ n ∈ g.knownTypes.map Ty.name

namespace Registry

/-- The name of the type leads to a type equal to it. -/
def FindsByName (r : Registry) (t : Ty) : Prop := ∃ u, r.lookup t.name = .ok u ∧ (u == t) = true

/-- Every type that the registry lists, as known or as registered, is found by its own name. -/
def Addressable (r : Registry) : Prop :=
  ∀ t, t ∈ r.knownTypes ∨ t ∈ r.customTypes → r.FindsByName t

variable {gs : List Registrar} {r : Registry} {n : String} {t u : Ty}

/-! ### Looking a name up -/

lemma name_of_lookup (h : r.lookup n = .ok u) : u.name = Text.trim n := by
  simpa using List.find?_some (lookup_eq_ok_iff.mp h)

lemma find?_knownTypes (ht : t ∈ r.knownTypes) :
    r.knownTypes.find? (·.name == t.name) = some t := by
  have hcongr : ∀ a b : Ty, a.name = b.name → (a.name == t.name) = (b.name == t.name) :=
    fun a b hab => by rw [hab]
  have hsame : (fun u : Ty => u.name == t.name) = Ty.same t :=
    funext fun u => Bool.eq_iff_iff.mpr (by rw [beq_iff_eq, Ty.same_iff, eq_comm])
  rw [knownTypes, Ty.find?_distinct hcongr, hsame]
  exact Ty.mem_distinct_iff.mp ht

lemma lookup_name_iff (ht : t ∈ r.knownTypes) :
    r.lookup t.name = .ok t ↔ Text.trim t.name = t.name := by
  refine ⟨fun h => (name_of_lookup h).symm, fun htrim => ?_⟩
  rw [lookup_eq_ok_iff, htrim]
  exact find?_knownTypes ht

lemma findsByName_iff_mem :
    r.FindsByName t ↔ Text.trim t.name = t.name ∧ t.name ∈ r.knownTypes.map Ty.name := by
  constructor
  · rintro ⟨u, hu, hut⟩
    have hname := Ty.beq_iff.mp hut
    refine ⟨(name_of_lookup hu).symm.trans hname, hname ▸ List.mem_map_of_mem ?_⟩
    exact List.mem_of_find?_eq_some (lookup_eq_ok_iff.mp hu)
  · rintro ⟨htrim, hmem⟩
    obtain ⟨u, hu, hname⟩ := Ty.mem_map_name.mp hmem
    rw [← hname] at htrim
    exact ⟨u, hname ▸ (lookup_name_iff hu).mpr htrim, Ty.beq_iff.mpr hname⟩

/-! ### The names of a registry -/

lemma mem_names_knownTypes (h : build gs = .ok r) :
    n ∈ r.knownTypes.map Ty.name ↔ Registrar.Nameable gs n := by
  rw [knownTypes, Ty.mem_names_distinct, registrars_of_build h, List.map_append, List.mem_append,
    List.map_flatMap, List.mem_flatMap]
  simp only [Registrar.Nameable, List.mem_filter, and_assoc]

lemma mem_names_customTypes (h : build gs = .ok r) : n ∈ r.customTypes.map Ty.name ↔
    ∃ g ∈ gs, g.available = true ∧ n ∈ (g.collectionTypes ++ g.mapTypes).map Ty.name := by
  rw [customTypes, Registrar.mem_names_declared, registrars_of_build h]
  simp only [List.mem_filter, and_assoc]

lemma findsByName_iff (h : build gs = .ok r) :
    r.FindsByName t ↔ Text.trim t.name = t.name ∧ Registrar.Nameable gs t.name := by
  rw [findsByName_iff_mem, mem_names_knownTypes h]

lemma trim_name_of_native (ht : n ∈ Native.all.map Ty.name) : Text.trim n = n := by
  have htable : (Native.all.map Ty.name).all (fun n => Text.trim n == n) = true := by
    decide +kernel
  exact eq_of_beq (List.all_eq_true.mp htable n ht)

lemma trim_of_nameable (hknown : ∀ g ∈ gs, g.available = true → ∀ t ∈ g.knownTypes,
    Text.trim t.name = t.name) (hn : Registrar.Nameable gs n) : Text.trim n = n := by
  rcases hn with hn | ⟨g, hg, ha, hn⟩
  · exact trim_name_of_native hn
  · obtain ⟨t, ht, rfl⟩ := Ty.mem_map_name.mp hn
    exact hknown g hg ha t ht

lemma Addressable.trim (hr : r.Addressable) (h : build gs = .ok r)
    (hn : Registrar.Nameable gs n) : Text.trim n = n := by
  obtain ⟨t, ht, rfl⟩ := Ty.mem_map_name.mp ((mem_names_knownTypes h).mpr hn)
  exact (findsByName_iff_mem.mp (hr t (Or.inl ht))).1

lemma Addressable.nameable (hr : r.Addressable) (h : build gs = .ok r)
    (hn : n ∈ r.customTypes.map Ty.name) : Registrar.Nameable gs n := by
  obtain ⟨t, ht, rfl⟩ := Ty.mem_map_name.mp hn
  exact ((findsByName_iff h).mp (hr t (Or.inr ht))).2

/-- **A type is found by its own name exactly if the name has no blanks at its ends and is that of
a native or a known type**; a known type is then the handle that is found. So all types of a
registry answer to their names exactly if every known type of an available registrar has a name
without such blanks, and every collection and map type of one is known or native by name. -/
theorem addressable_iff (h : build gs = .ok r) :
    (∀ t : Ty, r.FindsByName t ↔ Text.trim t.name = t.name ∧ Registrar.Nameable gs t.name) ∧
    (∀ t ∈ r.knownTypes, r.lookup t.name = .ok t ↔ Text.trim t.name = t.name) ∧
    (r.Addressable ↔
      (∀ g ∈ gs, g.available = true → ∀ t ∈ g.knownTypes, Text.trim t.name = t.name) ∧
      ∀ g ∈ gs, g.available = true → ∀ t ∈ g.collectionTypes ++ g.mapTypes,
        Registrar.Nameable gs t.name) := by
  refine ⟨fun t => findsByName_iff h, fun t ht => lookup_name_iff ht, ?_⟩
  constructor
  · intro hr
    refine ⟨fun g hg ha t ht => ?_, fun g hg ha t ht => ?_⟩
    · exact hr.trim h (Or.inr ⟨g, hg, ha, List.mem_map_of_mem ht⟩)
    · exact hr.nameable h ((mem_names_customTypes h).mpr ⟨g, hg, ha, List.mem_map_of_mem ht⟩)
  · rintro ⟨hknown, hcustom⟩ t ht
    have hn : Registrar.Nameable gs t.name := by
      rcases ht with ht | ht
      · exact (mem_names_knownTypes h).mp (List.mem_map_of_mem ht)
      · obtain ⟨g, hg, ha, hmem⟩ := (mem_names_customTypes h).mp (List.mem_map_of_mem ht)
        obtain ⟨u, hu, hname⟩ := Ty.mem_map_name.mp hmem
        exact hname ▸ hcustom g hg ha u hu
    exact (findsByName_iff h).mpr ⟨trim_of_nameable hknown hn, hn⟩

def shelf : Ty := .mk "com.example.Shelf" (by decide) .interface []

def paddedShelf : Ty := .mk "com.example.Shelf " (by decide) .interface []

def shelves : Registrar where
  id := "shelves"
  knownTypes := [paddedShelf, shelf]

def unnamedShelves : Registrar where
  id := "unnamed-shelves"
  collectionTypes := [shelf]
  knownTypes := []

lemma knownTypes_shelves (hr : build [shelves] = .ok r) :
    r.knownTypes = Native.all ++ [paddedShelf, shelf] := by
  rw [knownTypes, registrars_of_build hr]
  rfl

lemma trim_name_shelf : Text.trim shelf.name = shelf.name := by decide

lemma trim_name_paddedShelf : Text.trim paddedShelf.name = shelf.name := by decide

lemma trim_name_paddedShelf_ne : Text.trim paddedShelf.name ≠ paddedShelf.name := by
  rw [trim_name_paddedShelf]
  decide

theorem addressable_iff_shelves : ∃ r, build [shelves] = .ok r ∧ paddedShelf ∈ r.knownTypes ∧
    r.lookup paddedShelf.name = .ok shelf ∧ ¬r.FindsByName paddedShelf ∧ ¬r.Addressable ∧
    r.lookup shelf.name = .ok shelf := by
  obtain ⟨r, hr⟩ := (exists_build_eq_ok_iff [shelves]).mpr rfl
  obtain ⟨hfinds, hlookup, haddressable⟩ := addressable_iff hr
  have hshelf : r.lookup shelf.name = .ok shelf :=
    (hlookup shelf (by simp [knownTypes_shelves hr])).mpr trim_name_shelf
  refine ⟨r, hr, by simp [knownTypes_shelves hr], ?_, ?_, ?_, hshelf⟩
  · rw [lookup_eq_ok_iff, trim_name_paddedShelf, ← trim_name_shelf, ← lookup_eq_ok_iff]
    exact hshelf
  · exact fun hf => trim_name_paddedShelf_ne ((hfinds paddedShelf).mp hf).1
  · exact fun ha => trim_name_paddedShelf_ne ((haddressable.mp ha).1 shelves List.mem_cons_self rfl
      paddedShelf List.mem_cons_self)

lemma not_findsByName_unnamed (hr : build [unnamedShelves] = .ok r) : ¬r.FindsByName shelf := by
  rw [findsByName_iff hr]
  rintro ⟨-, hnative | ⟨g, hg, -, hn⟩⟩
  · exact absurd hnative (by decide)
  · rw [List.mem_singleton.mp hg] at hn
    exact List.not_mem_nil hn

/-- **Not all that a registry lists answers to its name**: a known type whose name ends in a blank
does not, nor does a registered type that is not known. -/
theorem not_addressable_of_build :
    (¬∀ gs r, build gs = .ok r → ∀ t ∈ r.knownTypes, r.FindsByName t) ∧
    ¬∀ gs r, build gs = .ok r → ∀ t ∈ r.customTypes, r.FindsByName t := by
  constructor
  · intro hall
    obtain ⟨r, hr⟩ := (exists_build_eq_ok_iff [shelves]).mpr rfl
    have hknown : paddedShelf ∈ r.knownTypes := by simp [knownTypes_shelves hr]
    exact trim_name_paddedShelf_ne (findsByName_iff_mem.mp (hall _ r hr _ hknown)).1
  · intro hall
    obtain ⟨r, hr⟩ := (exists_build_eq_ok_iff [unnamedShelves]).mpr rfl
    have hregistered : shelf ∈ r.customTypes := by
      rw [customTypes, registrars_of_build hr]
      exact List.mem_cons_self
    exact not_findsByName_unnamed hr (hall _ r hr _ hregistered)

end Registry

end ForeignCollections
