import ForeignCollections.Proofs.Registry.Naming

/-!
Whom a name belongs to. The known types of a registry are the native ones and then those of the
registrars, and a name stands for the handle that was there first. So no registrar gives a new
meaning to a native name, nor to one that a registrar before it has taken, whatever supertypes its
own handle of that name has.
-/

namespace ForeignCollections

open Entries

namespace Registrar

/-- Of these registrars `t` is from the first one that knows a type of the name, and it is the first
one of that name there. -/
def FirstKnown (gs : List Registrar) (n : String) (t : Ty) : Prop :=
  ∃ before g after, gs = before ++ g :: after ∧
    (∀ g' ∈ before, n ∉ g'.knownTypes.map Ty.name) ∧
    ∃ ts us, g.knownTypes = ts ++ t :: us ∧ t.name = n ∧ n ∉ ts.map Ty.name

variable {gs : List Registrar} {n : String} {t : Ty}

lemma find?_name_eq_none_iff {ts : List Ty} :
    ts.find? (·.name == n) = none ↔ n ∉ ts.map Ty.name := by
  simp only [List.find?_eq_none, beq_iff_eq, List.mem_map, not_exists, not_and]

lemma find?_name_eq_some_iff {ts : List Ty} : ts.find? (·.name == n) = some t ↔
    ∃ before after, ts = before ++ t :: after ∧ t.name = n ∧ n ∉ before.map Ty.name := by
  simp only [List.find?_eq_some_iff_append, beq_iff_eq, Bool.not_eq_true', beq_eq_false_iff_ne,
    List.mem_map, not_exists, not_and]
  constructor
  · rintro ⟨hn, before, after, hts, hbefore⟩
    exact ⟨before, after, hts, hn, hbefore⟩
  · rintro ⟨before, after, hts, hn, hbefore⟩
    exact ⟨hn, before, after, hts, hbefore⟩

lemma find?_flatMap_knownTypes :
    (gs.flatMap (·.knownTypes)).find? (·.name == n) = some t ↔ FirstKnown gs n t := by
  rw [List.find?_flatMap, List.findSome?_eq_some_iff]
  simp only [find?_name_eq_some_iff, find?_name_eq_none_iff]
  constructor
  · rintro ⟨before, g, after, hgs, ht, hbefore⟩
    exact ⟨before, g, after, hgs, hbefore, ht⟩
  · rintro ⟨before, g, after, hgs, hbefore, ht⟩
    exact ⟨before, g, after, hgs, ht, hbefore⟩

end Registrar

namespace Registry

variable {gs : List Registrar} {r : Registry} {n : String} {t : Ty}

lemma find?_native_of_mem (ht : t ∈ Native.all) : Native.all.find? (·.name == t.name) = some t := by
  obtain ⟨before, after, hall⟩ := List.append_of_mem ht
  have hnodup := Native.nodup_names
  rw [hall, List.map_append, List.map_cons, List.nodup_middle, List.nodup_cons,
    List.mem_append, not_or] at hnodup
  exact Registrar.find?_name_eq_some_iff.mpr ⟨before, after, hall, rfl, hnodup.1.1⟩

/-- **A name stands for the native type of that name**, and else for the type that is the first to
be known under it. -/
lemma lookup_eq_ok_iff_firstKnown : r.lookup n = .ok t ↔
    (t ∈ Native.all ∧ t.name = Text.trim n) ∨
      (Text.trim n ∉ Native.all.map Ty.name ∧
        Registrar.FirstKnown r.registrars (Text.trim n) t) := by
  have hcongr : ∀ a b : Ty, a.name = b.name → (a.name == Text.trim n) = (b.name == Text.trim n) :=
    fun a b hab => by rw [hab]
  rw [lookup_eq_ok_iff, knownTypes, Ty.find?_distinct hcongr, List.find?_append,
    Option.or_eq_some_iff, Registrar.find?_flatMap_knownTypes, Registrar.find?_name_eq_none_iff]
  refine or_congr_left ⟨fun h => ?_, ?_⟩
  · exact ⟨List.mem_of_find?_eq_some h, by simpa using List.find?_some h⟩
  · rintro ⟨ht, hn⟩
    rw [← hn]
    exact find?_native_of_mem ht

lemma knownTypes_eq_append (r : Registry) : r.knownTypes = Native.all ++
    (withoutRepeats Ty.same (r.registrars.flatMap (·.knownTypes))).filter
      fun t => t.name ∉ Native.all.map Ty.name := by
  have hnative : withoutRepeats Ty.same Native.all = Native.all := by
    refine withoutRepeats_of_distinct ((List.pairwise_map.mp Native.nodup_names).imp ?_)
    intro t u hne
    exact Bool.eq_false_iff.mpr fun h => hne (Ty.same_iff.mp h).symm
  rw [knownTypes, Ty.distinct_eq_withoutRepeats, withoutRepeats_append, hnative]
  congr 1
  refine List.filter_congr fun t _ => ?_
  rw [Bool.eq_iff_iff]
  simp only [Bool.not_eq_true', List.any_eq_false, Ty.same_iff, decide_eq_true_eq, List.mem_map,
    not_exists, not_and, @eq_comm _ t.name]

lemma lookup_eq_error_iff {e : CollectionError} (h : build gs = .ok r) : r.lookup n = .error e ↔
    ¬Registrar.Nameable gs (Text.trim n) ∧ e = .unknownType n := by
  rw [← mem_names_knownTypes h, ← isOk_lookup_iff, lookup]
  cases r.knownTypes.find? (·.name == Text.trim n) with
  | none => simp [Except.isOk, Except.toBool, eq_comm]
  | some t => simp [Except.isOk, Except.toBool]

/-- **No registrar can shadow a name.** The known types begin with the native ones and go on with
those of the registrars, each name at its first place; and a name leads to the native type of that
name, or else to the handle that the first registrar to know it has first, or nowhere. -/
theorem lookup_unshadowed (h : build gs = .ok r) :
    (r.knownTypes.map Ty.name).Nodup ∧
    r.knownTypes = Native.all ++
      (withoutRepeats Ty.same ((gs.filter (·.available)).flatMap (·.knownTypes))).filter
        (fun t => t.name ∉ Native.all.map Ty.name) ∧
    (∀ s t, r.lookup s = .ok t ↔
      (t ∈ Native.all ∧ t.name = Text.trim s) ∨
        (Text.trim s ∉ Native.all.map Ty.name ∧
          Registrar.FirstKnown (gs.filter (·.available)) (Text.trim s) t)) ∧
    ∀ s e, r.lookup s = .error e ↔
      ¬Registrar.Nameable gs (Text.trim s) ∧ e = .unknownType s ∧
        e.category = .invalidArgument ∧ e.detail = "Unknown type: " ++ s := by
  refine ⟨Ty.nodup_names_distinct _, ?_, fun s t => ?_, fun s e => ?_⟩
  · rw [← registrars_of_build h]
    exact r.knownTypes_eq_append
  · rw [← registrars_of_build h]
    exact lookup_eq_ok_iff_firstKnown
  · rw [lookup_eq_error_iff h]
    refine and_congr_right fun _ => ⟨?_, fun he => he.1⟩
    rintro rfl
    exact ⟨rfl, rfl, rfl⟩

/-- A handle that bears the name of the native lists but is no collection. -/
def falseList : Ty := .mk Native.list.name Native.list.notBlank .concrete []

def crate : Ty := .mk "com.example.Crate" (by decide) .interface [Native.collection]

def mapCrate : Ty := .mk "com.example.Crate" (by decide) .concrete [Native.map]

def tray : Ty := .mk "com.example.Tray" (by decide) .interface []

/-- Three registrars that claim each other's names, the first of which is not available. -/
def rivals : List Registrar :=
  [{ id := "absent", available := false, knownTypes := [mapCrate] },
   { id := "early", knownTypes := [falseList, crate, mapCrate] },
   { id := "late", knownTypes := [mapCrate, tray] }]

theorem lookup_unshadowed_rivals : ∃ r, build rivals = .ok r ∧
    r.knownTypes = Native.all ++ [crate, tray] ∧
    r.lookup " java.util.List\n" = .ok Native.list ∧ r.lookup "com.example.Crate" = .ok crate ∧
    r.lookup "com.example.Box" = .error (.unknownType "com.example.Box") := by
  obtain ⟨r, hr⟩ := (exists_build_eq_ok_iff rivals).mpr rfl
  obtain ⟨-, hknown, hfound, hunknown⟩ := lookup_unshadowed hr
  have hlist : r.knownTypes = Native.all ++ [crate, tray] := hknown.trans (by rfl)
  refine ⟨r, hr, hlist, (hfound _ _).mpr (Or.inl ?_), (hfound _ _).mpr (Or.inr ⟨?_, ?_⟩), ?_⟩
  · exact ⟨by simp [Native.all], by decide⟩
  · decide +kernel
  · -- of the available registrars it is from the first, where a handle of another name precedes it
    refine ⟨[], rivals[1], [rivals[2]], rfl, (fun _ h => nomatch h), [falseList], [mapCrate], rfl,
      ?_⟩
    decide +kernel
  · refine (hunknown _ _).mpr ⟨?_, rfl, rfl, rfl⟩
    rw [← mem_names_knownTypes hr, hlist]
    decide +kernel

end Registry

end ForeignCollections
