import ForeignCollections.Proofs.Vavr.Routes

/-!
The two ways out of the family. Unwrapping a value and converting it to one of the native
abstractions come to the same: the same container or the same complaint, since both go by the
value alone. What has been unwrapped is native, so unwrapping it again changes nothing; what
cannot be unwrapped is a value whose shape does not fit the family of its type.
-/

namespace ForeignCollections.Vavr

/-- A value of the Vavr family whose type belongs to none of the three families of containers, or
to one that its shape does not fit. -/
structure Misfit (v : Value) : Prop where
  traversable : traversable.isAssignableFrom v.runtimeType = true
  family : familyOf v.runtimeType = none ∨ familyOf v.runtimeType ≠ v.shape

variable {r : Registry} {v u : Value} {f : Family}

lemma exists_shape (h : traversable.isAssignableFrom v.runtimeType = true) :
    ∃ f, v.shape = some f := by
  have hscalar : ∀ {t : Ty}, t ∈ Native.all → ¬traversable.isAssignableFrom t = true :=
    fun ht => Bool.eq_false_iff.mp (not_isAssignableFrom_native List.mem_cons_self ht)
  cases v with
  | null => exact absurd h (hscalar (t := Native.object) (by simp [Native.all]))
  | bool => exact absurd h (hscalar (t := Native.boolean) (by simp [Native.all]))
  | int => exact absurd h (hscalar (t := Native.long) (by simp [Native.all]))
  | text => exact absurd h (hscalar (t := Native.string) (by simp [Native.all]))
  | sequence => exact ⟨.sequence, rfl⟩
  | set => exact ⟨.set, rfl⟩
  | map => exact ⟨.map, rfl⟩

lemma misfit_iff (ht : traversable.isAssignableFrom v.runtimeType = true)
    (hs : v.shape = some f) : Misfit v ↔ familyOf v.runtimeType ≠ some f := by
  refine ⟨fun h hf => ?_, fun h => ⟨ht, Or.inr (hs.symm ▸ h)⟩⟩
  rcases h.family with hn | hne
  · rw [hf] at hn
    exact nomatch hn
  · exact hne (hf.trans hs.symm)

section

variable (hr : Registry.build Cli.registrars = .ok r)

include hr

lemma unwrap_of_not_traversable (h : traversable.isAssignableFrom v.runtimeType = false) :
    r.unwrap v = .ok v := by
  rw [unwrap_eq hr, h, if_neg (by decide)]

lemma unwrap_of_traversable (ht : traversable.isAssignableFrom v.runtimeType = true)
    (hs : v.shape = some f) : r.unwrap v = if familyOf v.runtimeType = some f then
      .ok (v.withType (f.native v.runtimeType)) else .error (.unsupported v.runtimeType.name) := by
  rw [unwrap_eq hr, if_pos ht, unwrapped_of_shape hs]

lemma unwrap_eq_error_iff {e : CollectionError} :
    r.unwrap v = .error e ↔ Misfit v ∧ e = .unsupported v.runtimeType.name := by
  by_cases ht : traversable.isAssignableFrom v.runtimeType = true
  · obtain ⟨f, hs⟩ := exists_shape ht
    rw [unwrap_of_traversable hr ht hs, misfit_iff ht hs]
    by_cases hf : familyOf v.runtimeType = some f <;> simp [hf, eq_comm]
  · rw [unwrap_of_not_traversable hr (by simpa using ht)]
    exact iff_of_false nofun fun h => ht h.1.traversable

lemma not_traversable_of_unwrap (h : r.unwrap v = .ok u) :
    traversable.isAssignableFrom u.runtimeType = false := by
  by_cases ht : traversable.isAssignableFrom v.runtimeType = true
  · obtain ⟨f, hs⟩ := exists_shape ht
    rw [unwrap_of_traversable hr ht hs] at h
    split at h
    · cases h
      rw [Value.runtimeType_withType hs]
      exact not_traversable_native f _
    · exact nomatch h
  · rw [Bool.not_eq_true] at ht
    rw [unwrap_of_not_traversable hr ht] at h
    cases h
    exact ht

/-- **Unwrapping is a projection** onto what is not of the family, and conversion to a native
abstraction is the same; both fail for misfits alone, with the same complaint. -/
theorem convert_eq_unwrap :
    (∀ v target, v.runtimeType.Canonical →
      traversable.isAssignableFrom v.runtimeType = true → target ∈ Native.collectionsAndMap →
      target.isAssignableFrom v.runtimeType = false → r.ruleBook.convert v target = r.unwrap v) ∧
    (∀ v u, r.unwrap v = .ok u →
      traversable.isAssignableFrom u.runtimeType = false ∧ r.unwrap u = .ok u) ∧
    ∀ v e, r.unwrap v = .error e ↔ Misfit v ∧ e = .unsupported v.runtimeType.name := by
  refine ⟨fun v target hc ht htarget ha => ?_, fun v u h => ?_, fun v e => unwrap_eq_error_iff hr⟩
  · obtain ⟨f, hs⟩ := exists_shape ht
    rw [convert_out hr hc ht htarget (Value.isNull_of_shape hs) ha, unwrap_eq hr, if_pos ht]
  · have hu := not_traversable_of_unwrap hr h
    exact ⟨hu, unwrap_of_not_traversable hr hu⟩

end

/-- A Vavr list asked for as a native set becomes an array list either way; a map that is tagged
as a list is refused. -/
theorem convert_eq_unwrap_list : ∃ r, Registry.build Cli.registrars = .ok r ∧
    let v : Value := .sequence list [.text "a"]
    let u : Value := .sequence Native.arrayList [.text "a"]
    r.ruleBook.convert v Native.set = r.unwrap v ∧ r.unwrap v = .ok u ∧
      traversable.isAssignableFrom u.runtimeType = false ∧ r.unwrap u = .ok u ∧
      r.unwrap (.map list []) = .error (.unsupported "io.vavr.collection.List") := by
  obtain ⟨r, hr⟩ := exists_build
  obtain ⟨hconvert, hproject, herror⟩ := convert_eq_unwrap hr
  have hc : list.Canonical := Ty.canonical_of_mem_catalogue (fallback_mem_catalogue .sequence)
  have ht := traversable_of_fallback .sequence
  have ho := only_fallback .sequence
  have hfamily : familyOf list = some .sequence := familyOf_of_only ho
  have hmisfit : Misfit (.map list []) := by
    refine ⟨ht, Or.inr ?_⟩
    show familyOf list ≠ some .map
    rw [hfamily]
    decide
  refine ⟨r, hr, ?_⟩
  intro v u
  have hu : r.unwrap v = .ok u := unwrap_of_only hr (v := v) rfl hc ho
  obtain ⟨hnot, hagain⟩ := hproject v u hu
  exact ⟨hconvert v Native.set hc ht (by simp [Native.collectionsAndMap]) (by cbv), hu, hnot,
    hagain, (herror _ _).mpr ⟨hmisfit, rfl⟩⟩

end ForeignCollections.Vavr
