import ForeignCollections.Proofs.Vavr.Routes

/-!
There and back. A native container that is converted into the family and unwrapped again keeps
its shape and its elements, and its type on the way is known: one of the family in between, and a
native one of its own kind at the end. A Vavr container that is unwrapped and converted back to its
type is the same container as before.
-/

namespace ForeignCollections.Vavr

variable {r : Registry} {v : Value} {f : Family} {target : Ty}

lemma onlyNative_native (f : Family) (t : Ty) : f.OnlyNative (f.native t) := by
  have hmem := f.native_mem t
  cases f with
  | sequence => exact ⟨by cbv, by cbv⟩
  | set =>
    rcases List.mem_pair.mp hmem with h | h <;> rw [h] <;> exact ⟨by cbv, by cbv, by cbv⟩
  | map => rcases List.mem_pair.mp hmem with h | h <;> rw [h] <;> exact ⟨by cbv, by cbv⟩

/-! ### Into the family and back -/

/-- The container `w` that stands between, and the native container `u` that comes back: both hold
what `v` holds, and `u` is of the native kind of the family. Unless `v` can stand for the target
itself, `w` is of the family, under the type that can be built for the target, and `u` has the
native type that goes with this one. -/
structure ThereAndBack (v : Value) (target : Ty) (f : Family) (w u : Value) : Prop where
  there : w = v.withType w.runtimeType
  back : u = v.withType u.runtimeType
  native : f.OnlyNative u.runtimeType ∧ traversable.isAssignableFrom u.runtimeType = false
  kept : target.isAssignableFrom v.runtimeType = true → w = v ∧ u = v
  built : target.isAssignableFrom v.runtimeType = false →
    w.runtimeType = constructible target f.fallback ∧ f.Only w.runtimeType ∧
      traversable.isAssignableFrom w.runtimeType = true ∧
      u.runtimeType = f.native w.runtimeType ∧ u.runtimeType ∈ f.natives

lemma thereAndBack_self (hn : f.OnlyNative v.runtimeType)
    (htrav : traversable.isAssignableFrom v.runtimeType = false)
    (ha : target.isAssignableFrom v.runtimeType = true) : ThereAndBack v target f v v where
  there := v.withType_runtimeType.symm
  back := v.withType_runtimeType.symm
  native := ⟨hn, htrav⟩
  kept _ := ⟨rfl, rfl⟩
  built h := absurd (ha.symm.trans h) (by decide)

lemma thereAndBack_withType (hs : v.shape = some f) {t : Ty} (hc : t.Canonical) (ho : f.Only t)
    (ht : t = constructible target f.fallback)
    (ha : target.isAssignableFrom v.runtimeType = false) :
    ThereAndBack v target f (v.withType t) (v.withType (f.native t)) := by
  have hw := Value.runtimeType_withType hs t
  have hu := Value.runtimeType_withType hs (f.native t)
  constructor
  case there => rw [hw]
  case back => rw [hu]
  case native => rw [hu]; exact ⟨onlyNative_native f t, not_traversable_native f t⟩
  case kept => exact fun h => absurd (ha.symm.trans h) (by decide)
  case built =>
    rw [hw, hu]
    exact fun _ => ⟨ht, ho, traversable_of_only hc ho, rfl, f.native_mem t⟩

lemma unwrap_withType (hr : Registry.build Cli.registrars = .ok r) (hs : v.shape = some f)
    {t : Ty} (hc : t.Canonical) (ho : f.Only t) :
    r.unwrap (v.withType t) = .ok (v.withType (f.native t)) := by
  have ht := Value.runtimeType_withType hs t
  have hst : (v.withType t).shape = some f := by rw [Value.shape_withType, hs]
  have h := unwrap_of_only hr hst (ht.symm ▸ hc) (ht.symm ▸ ho)
  rwa [ht, Value.withType_withType] at h

/-- **Native, Vavr, native**: the shape and the elements are those of the start, all the way. -/
theorem unwrap_convert {v : Value.Proper} (hr : Registry.build Cli.registrars = .ok r)
    (hs : v.value.shape = some f) (hcv : v.value.runtimeType.Canonical)
    (htrav : traversable.isAssignableFrom v.value.runtimeType = false)
    (hn : f.OnlyNative v.value.runtimeType) (hc : target.Canonical)
    (ht : target = traversable ∨ f.Only target) :
    ∃ w u, r.ruleBook.convert v target = .ok w ∧ r.unwrap w = .ok u ∧
      ThereAndBack v target f w u := by
  cases ha : target.isAssignableFrom v.value.runtimeType with
  | true =>
    -- nothing to convert, and nothing to unwrap
    have hunwrap : r.unwrap v = .ok v.value := by rw [unwrap_eq hr, htrav, if_neg (by decide)]
    exact ⟨v, v, RuleBook.convert_of_assignable _ ha, hunwrap, thereAndBack_self hn htrav ha⟩
  | false =>
    let t := constructible target f.fallback
    have hcanonical : t.Canonical := canonical_constructible hc
    obtain ⟨hconvert, honly⟩ :
        r.ruleBook.convert v target = .ok (v.value.withType t) ∧ f.Only t := by
      rcases ht with rfl | ht
      · exact ⟨convert_to_traversable hr hs hcv htrav hn, only_fallback f⟩
      · exact ⟨convert_of_only hr hs hcv htrav hn hc ht ha, only_constructible ht⟩
    exact ⟨_, _, hconvert, unwrap_withType hr hs hcanonical honly,
      thereAndBack_withType hs hcanonical honly rfl ha⟩

def rope : Ty := .mk "com.example.Rope" (by decide) .concrete [vector]

lemma canonical_rope : rope.Canonical := by
  refine Ty.canonical_of_supers_subset (by decide) fun s hs => all_subset_catalogue ?_
  rw [List.mem_singleton.mp hs]
  simp [all]

lemma only_rope : Family.sequence.Only rope := ⟨by cbv, by cbv, by cbv⟩

def pairOf (t : Ty) : Value.Proper := .sequence t [.text "b", .text "a"]

theorem unwrap_convert_rope : ∃ r, Registry.build Cli.registrars = .ok r ∧
    ∃ w u, r.ruleBook.convert (pairOf Native.linkedList) rope = .ok w ∧ r.unwrap w = .ok u ∧
      ThereAndBack (pairOf Native.linkedList) rope .sequence w u := by
  obtain ⟨r, hr⟩ := exists_build
  have hlist : Native.linkedList.Canonical :=
    Ty.canonical_of_mem_catalogue (native_subset_catalogue (by simp [Native.all]))
  have htrav : traversable.isAssignableFrom Native.linkedList = false := by cbv
  have hnative : Family.sequence.OnlyNative Native.linkedList := ⟨by cbv, by cbv⟩
  exact ⟨r, hr, unwrap_convert (v := pairOf Native.linkedList) hr rfl hlist htrav hnative
    canonical_rope (Or.inr only_rope)⟩

/-! ### Out of the family and back -/

lemma Family.Only.not_isAssignableFrom_native (ht : f.Only target) (hc : target.Canonical)
    {n : Ty} (hn : n ∈ Native.all) : target.isAssignableFrom n = false := by
  rw [Bool.eq_false_iff]
  intro h
  have hb := Vavr.not_isAssignableFrom_native (base_mem_all f) (hc.mem_native hn h)
  rw [ht.base] at hb
  exact absurd hb (by decide)

lemma native_ne {n : Ty} (t : Ty) (hn : n.name ∉ f.natives.map Ty.name) : f.native t ≠ n :=
  fun h => hn (h ▸ List.mem_map_of_mem (f.native_mem t))

/-- A type that keeps its order is told from the others of its family by its name. -/
lemma ite_linked_iff {t linked : Ty} (hc : t.Canonical) (hl : linked ∈ catalogue) {n n' : Ty}
    (hne : n'.name ≠ n.name) : (if t == linked then n else n') = n ↔ t = linked := by
  have ht : (t == linked) = true ↔ t = linked :=
    ⟨fun h => hc.eq hl (Ty.beq_iff.mp h), fun h => h ▸ Ty.beq_refl linked⟩
  rw [← ht, ite_eq_left_iff]
  exact ⟨fun h => by_contra fun hf => hne (congrArg Ty.name (h hf)), fun h hf => absurd h hf⟩

lemma native_linked_iff {t : Ty} (hc : t.Canonical) (ht : f.Only t) :
    (f.native t = Native.linkedHashSet ↔ t = linkedHashSet) ∧
      (f.native t = Native.linkedHashMap ↔ t = linkedHashMap) := by
  have hset : t = linkedHashSet → f = .set := by
    rintro rfl
    exact ((ht.base_iff .set).mp (only_fallback .set).base).symm
  have hmap : t = linkedHashMap → f = .map := by
    rintro rfl
    exact ((ht.base_iff .map).mp (only_fallback .map).base).symm
  cases f with
  | sequence =>
    exact ⟨iff_of_false (native_ne t (by decide)) (mt hset (by decide)),
      iff_of_false (native_ne t (by decide)) (mt hmap (by decide))⟩
  | set =>
    exact ⟨ite_linked_iff hc (fallback_mem_catalogue .set) (by decide),
      iff_of_false (native_ne t (by decide)) (mt hmap (by decide))⟩
  | map =>
    exact ⟨iff_of_false (native_ne t (by decide)) (mt hset (by decide)),
      ite_linked_iff hc (fallback_mem_catalogue .map) (by decide)⟩

/-- **Vavr, native, Vavr**: a container of a type that can be built comes back as it was. -/
theorem convert_unwrap {v : Value.Proper} (hr : Registry.build Cli.registrars = .ok r)
    (hs : v.value.shape = some f) (hc : v.value.runtimeType.Canonical)
    (hk : v.value.runtimeType.kind = .concrete) (ho : f.Only v.value.runtimeType) :
    ∃ u, r.unwrap v = .ok u ∧ u.runtimeType ∈ Native.all ∧
      (u.runtimeType = Native.linkedHashSet ↔ v.value.runtimeType = linkedHashSet) ∧
      (u.runtimeType = Native.linkedHashMap ↔ v.value.runtimeType = linkedHashMap) ∧
      r.ruleBook.convert u v.value.runtimeType = .ok v := by
  let n := f.native v.value.runtimeType
  have hn : n ∈ Native.all := native_mem_all f _
  have hu : (v.withType n).value.runtimeType = n := Value.runtimeType_withType hs n
  obtain ⟨hset, hmap⟩ := native_linked_iff hc ho
  refine ⟨v.withType n, unwrap_of_only hr hs hc ho, ?_⟩
  rw [hu]
  refine ⟨hn, hset, hmap, ?_⟩
  -- on the way back the type is built itself, as it is no interface
  have hbuilt : constructible v.value.runtimeType f.fallback = v.value.runtimeType := by
    simp [constructible, Ty.isInterface, hk]
  have hsn : (v.withType n).value.shape = some f := (v.value.shape_withType n).trans hs
  have hback := convert_of_only hr hsn
    (hu.symm ▸ Ty.canonical_of_mem_catalogue (native_subset_catalogue hn))
    (hu.symm ▸ not_traversable_native f _) (hu.symm ▸ onlyNative_native f _) hc ho
    (hu.symm ▸ ho.not_isAssignableFrom_native hc hn)
  simpa [hbuilt] using hback

theorem convert_unwrap_rope : ∃ r, Registry.build Cli.registrars = .ok r ∧
    ∃ u, r.unwrap (pairOf rope) = .ok u ∧ u.runtimeType ∈ Native.all ∧
      (u.runtimeType = Native.linkedHashSet ↔ rope = linkedHashSet) ∧
      (u.runtimeType = Native.linkedHashMap ↔ rope = linkedHashMap) ∧
      r.ruleBook.convert u rope = .ok (pairOf rope) := by
  obtain ⟨r, hr⟩ := exists_build
  exact ⟨r, hr, convert_unwrap (v := pairOf rope) hr rfl canonical_rope rfl only_rope⟩

end ForeignCollections.Vavr
