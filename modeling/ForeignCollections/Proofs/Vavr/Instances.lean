import ForeignCollections.Proofs.Vavr.Routes

/-!
Whether a conversion gives an instance of the type asked for. Out of the family the value alone
decides what is built, and a native container of no known abstraction counts as traversable as
it is. Otherwise what is given back is an instance, unless the interface asked for is one that
its fallback is not below.
-/

namespace ForeignCollections

/-- A value can stand where the type is asked for; null can everywhere. -/
def Value.InstanceOf (v : Value) (t : Ty) : Prop :=
  v.isNull = true ∨ t.isAssignableFrom v.runtimeType = true

lemma Value.not_instanceOf {v : Value} {t : Ty} (hn : v.isNull = false)
    (ha : t.isAssignableFrom v.runtimeType = false) : ¬v.InstanceOf t := by
  rintro (h | h)
  · exact absurd (hn.symm.trans h) (by decide)
  · exact absurd (ha.symm.trans h) (by decide)

namespace Vavr

/-- The native abstractions that the native types of a family are not below. -/
def Family.misses : Family → List Ty
  | sequence => [Native.set, Native.map]
  | set => [Native.list, Native.map]
  | map => [Native.collection, Native.list, Native.set]

/-- The native collection or map type is among the ancestors of the type. -/
def BelowNative (t : Ty) : Prop :=
  Native.collection.name ∈ t.ancestors.map Ty.name ∨ Native.map.name ∈ t.ancestors.map Ty.name

/-- What is given back goes by the value alone: a Vavr container is asked for as a native
abstraction of another family, or a container below the native collection or map type that is
neither a native list nor a set nor a map is asked for as traversable. -/
inductive OffTarget (v : Value) : Ty → Value → Prop where
  | retagged {target : Ty} {f : Family} (hs : v.shape = some f)
      (hf : familyOf v.runtimeType = some f) (ht : target ∈ f.misses)
      (hv : target.isAssignableFrom v.runtimeType = false) :
      OffTarget v target (v.withType (f.native v.runtimeType))
  | asIs (hc : v.isContainer = true) (hb : BelowNative v.runtimeType)
      (hn : nativeFamily v.runtimeType = none)
      (hv : traversable.isAssignableFrom v.runtimeType = false) : OffTarget v traversable v

variable {r : Registry} {v w : Value} {target : Ty}

lemma misses_subset (f : Family) : f.misses ⊆ Native.collectionsAndMap := by
  cases f <;> simp [Family.misses, Native.collectionsAndMap]

lemma indexedSeq_mem_all : indexedSeq ∈ all := by simp [all]

/-! ### Out of the family -/

lemma isAssignableFrom_native (f : Family) (t : Ty) {c : Ty} (hc : c ∈ Native.collectionsAndMap) :
    c.isAssignableFrom (f.native t) = !(f.misses.any (· == c)) := by
  have htable : (f.natives.all fun n => Native.collectionsAndMap.all fun c =>
      c.isAssignableFrom n == !(f.misses.any (· == c))) = true := by cases f <;> cbv
  have hrow := List.all_eq_true.mp htable _ (f.native_mem t)
  simpa using List.all_eq_true.mp hrow c hc

lemma any_misses_iff {f : Family} {c : Ty} (hc : c ∈ Native.collectionsAndMap) :
    f.misses.any (· == c) = true ↔ c ∈ f.misses := by
  rw [List.any_eq_true]
  constructor
  · rintro ⟨m, hm, hmc⟩
    have hcat : Native.collectionsAndMap ⊆ catalogue :=
      List.Subset.trans collectionsAndMap_subset native_subset_catalogue
    exact eq_of_name_eq (hcat (misses_subset f hm)) (hcat hc) (Ty.beq_iff.mp hmc) ▸ hm
  · exact fun hm => ⟨c, hm, Ty.beq_refl c⟩

lemma instance_of_unwrapped (ht : target ∈ Native.collectionsAndMap) (hn : v.isNull = false)
    (hv : target.isAssignableFrom v.runtimeType = false) (h : unwrapped v = .ok w) :
    w.InstanceOf target ∨ OffTarget v target w := by
  rcases unwrapped_cases h with ⟨rfl, -⟩ | ⟨f, hs, hf, rfl⟩
  · exact absurd hn (by decide)
  · by_cases hm : target ∈ f.misses
    · exact Or.inr (.retagged hs hf hm hv)
    · refine Or.inl (Or.inr ?_)
      rw [Value.runtimeType_withType hs, isAssignableFrom_native f _ ht,
        Bool.eq_false_iff.mpr (mt (any_misses_iff ht).mp hm), Bool.not_false]

/-! ### Into the family -/

lemma mem_all_of_ancestors (ht : target ∈ catalogue)
    (h : traversable.name ∈ target.ancestors.map Ty.name) : target ∈ all := by
  refine (List.mem_append.mp ht).resolve_left fun hn => ?_
  rw [← (Ty.canonical_of_mem_catalogue ht).isAssignableFrom_iff_mem_ancestors,
    not_isAssignableFrom_native List.mem_cons_self hn] at h
  exact absurd h (by decide)

/-- Whatever is built for a type is below it, but for the interface of indexed sequences. -/
lemma instance_of_constructible (f : Family) (ht : target ∈ all)
    (hb : f.base.isAssignableFrom target = true)
    (hv : target.isAssignableFrom v.runtimeType = false)
    (hw : w.runtimeType = constructible target f.fallback) :
    w.InstanceOf target ∨ target = indexedSeq ∧
      indexedSeq.isAssignableFrom v.runtimeType = false ∧ w.InstanceOf seq := by
  have htable : (all.all fun t => !f.base.isAssignableFrom t ||
      t.isAssignableFrom (constructible t f.fallback) ||
      (t == indexedSeq && seq.isAssignableFrom (constructible t f.fallback))) = true := by
    cases f <;> cbv
  have hrow := List.all_eq_true.mp htable target ht
  rw [hb, ← hw, Bool.not_true, Bool.false_or, Bool.or_eq_true, Bool.and_eq_true] at hrow
  refine hrow.imp Or.inr fun h => ?_
  obtain rfl := eq_of_name_eq (all_subset_catalogue ht) (all_subset_catalogue indexedSeq_mem_all)
    (Ty.beq_iff.mp h.1)
  exact ⟨rfl, hv, Or.inr h.2⟩

lemma isContainer_of_belowNative (hn : v.isNull = false) (h : BelowNative v.runtimeType) :
    v.isContainer = true := by
  have hscalar : ∀ t ∈ Native.all, Native.collection.isAssignableFrom t = false →
      Native.map.isAssignableFrom t = false → ¬BelowNative t := by
    intro t ht hc hm
    have hct := Ty.canonical_of_mem_catalogue (native_subset_catalogue ht)
    rw [BelowNative, ← hct.isAssignableFrom_iff_mem_ancestors,
      ← hct.isAssignableFrom_iff_mem_ancestors, hc, hm]
    decide
  cases v with
  | null => exact nomatch hn
  | bool => exact absurd h (hscalar Native.boolean (by simp [Native.all]) (by cbv) (by cbv))
  | int => exact absurd h (hscalar Native.long (by simp [Native.all]) (by cbv) (by cbv))
  | text => exact absurd h (hscalar Native.string (by simp [Native.all]) (by cbv) (by cbv))
  | sequence | set | map => rfl

lemma instance_of_wraps (ht : target ∈ all) (hn : v.isNull = false)
    (hbelow : BelowNative v.runtimeType) (hv : target.isAssignableFrom v.runtimeType = false)
    (h : Wraps v v.runtimeType target w) :
    w.InstanceOf target ∨ OffTarget v target w ∨ target = indexedSeq ∧
      indexedSeq.isAssignableFrom v.runtimeType = false ∧ w.InstanceOf seq := by
  have hc := isContainer_of_belowNative hn hbelow
  have hplain : target.name = traversable.name → target = traversable := eq_of_name_eq
    (all_subset_catalogue ht) traversable_mem_catalogue
  cases h with
  | scalar hs =>
    rw [hc] at hs
    exact absurd hs (by decide)
  | sequence hb _ hw =>
    exact (instance_of_constructible .sequence ht hb hv (hw ▸ rfl)).imp_right Or.inr
  | set hb _ hw => exact (instance_of_constructible .set ht hb hv (hw ▸ rfl)).imp_right Or.inr
  | map hb _ hw => exact (instance_of_constructible .map ht hb hv (hw ▸ rfl)).imp_right Or.inr
  | plainSequence hname _ _ hw =>
    rw [hplain hname, hw]
    exact Or.inl (Or.inr (traversable_of_fallback .sequence))
  | plainSet hname _ _ hw =>
    rw [hplain hname, hw]
    exact Or.inl (Or.inr (traversable_of_fallback .set))
  | plainMap hname _ _ hw =>
    rw [hplain hname, hw]
    exact Or.inl (Or.inr (traversable_of_fallback .map))
  | asIs hname hl hs hm hw =>
    obtain rfl := hplain hname
    rw [hw]
    exact Or.inr (Or.inl (.asIs hc hbelow (by simp [nativeFamily, hl, hs, hm]) hv))

/-! ### Both ways -/

/-- What goes by the value alone is never an instance. -/
lemma OffTarget.not_instanceOf (h : OffTarget v target w) : ¬w.InstanceOf target := by
  cases h with
  | @retagged _ f hs _ ht _ =>
    have hshape : (v.withType (f.native v.runtimeType)).shape = some f := by
      rw [Value.shape_withType, hs]
    have hc := misses_subset f ht
    refine Value.not_instanceOf (Value.isNull_of_shape hshape) ?_
    rw [Value.runtimeType_withType hs, isAssignableFrom_native f _ hc,
      (any_misses_iff hc).mpr ht, Bool.not_true]
  | asIs hc _ _ hv =>
    refine Value.not_instanceOf ?_ hv
    cases v with
    | null => exact nomatch hc
    | _ => rfl

/-- **A conversion gives an instance of the type asked for**, except where what it gives goes by
the value alone; what is made an indexed sequence is known only to be a sequence. -/
theorem convert_instanceOf (hr : Registry.build Cli.registrars = .ok r)
    (ht : target ∈ r.knownTypes) (h : r.ruleBook.convert v target = .ok w) :
    (w.InstanceOf target ∨ OffTarget v target w ∨ target = indexedSeq ∧
      indexedSeq.isAssignableFrom v.runtimeType = false ∧ w.InstanceOf seq) ∧
    (OffTarget v target w → ¬w.InstanceOf target) := by
  rw [knownTypes_eq hr] at ht
  refine ⟨?_, OffTarget.not_instanceOf⟩
  rcases RuleBook.convert_cases h with ⟨-, rfl⟩ | ⟨hv, rfl⟩ | ⟨hn, hv, rule, hrule, h⟩
  · exact Or.inl (Or.inl rfl)
  · exact Or.inl (Or.inr hv)
  · rcases select?_cases hr hrule with ⟨rfl, -, c, hc, hname⟩ | ⟨rfl, -, hsource, htarget⟩
    · obtain rfl := eq_of_name_eq (native_subset_catalogue (collectionsAndMap_subset hc)) ht hname
      exact (instance_of_unwrapped hc hn hv h).imp_right Or.inl
    · exact instance_of_wraps (mem_all_of_ancestors ht htarget) hn hsource hv (wraps_of_wrapped h)

def singleOf (t : Ty) : Value := .sequence t [.text "a"]

lemma convert_singleOf_arrayList (hr : Registry.build Cli.registrars = .ok r)
    (hc : target ∈ all) (ht : Family.sequence.Only target) :
    r.ruleBook.convert (singleOf Native.arrayList) target =
      .ok (singleOf (constructible target list)) := by
  have hn : Native.arrayList ∈ Native.all := by simp [Native.all]
  have hlist := Ty.canonical_of_mem_catalogue (native_subset_catalogue hn)
  have hnative : Family.sequence.OnlyNative Native.arrayList := ⟨by cbv, by cbv⟩
  have htrav := not_isAssignableFrom_native List.mem_cons_self hn
  exact convert_of_only hr (v := .sequence Native.arrayList [.text "a"]) rfl hlist htrav hnative
    (Ty.canonical_of_mem_catalogue (all_subset_catalogue hc)) ht (not_isAssignableFrom_native hc hn)

lemma convert_singleOf_list (hr : Registry.build Cli.registrars = .ok r) :
    r.ruleBook.convert (singleOf list) Native.set = .ok (singleOf Native.arrayList) := by
  have hlist : (singleOf list).runtimeType.Canonical :=
    Ty.canonical_of_mem_catalogue (fallback_mem_catalogue .sequence)
  have hf : familyOf (singleOf list).runtimeType = some .sequence :=
    familyOf_of_only (only_fallback .sequence)
  rw [convert_out hr hlist (traversable_of_fallback .sequence)
    (by simp [Native.collectionsAndMap]) rfl (by cbv), unwrapped_of_shape rfl, if_pos hf]
  rfl

lemma convert_singleOf_collection (hr : Registry.build Cli.registrars = .ok r) :
    r.ruleBook.convert (singleOf Native.collection) traversable =
      .ok (singleOf Native.collection) := by
  have hn : Native.collection ∈ Native.all := by simp [Native.all]
  have htrav := not_isAssignableFrom_native List.mem_cons_self hn
  have hl : Native.list.isAssignableFrom Native.collection = false := by cbv
  have hs : Native.set.isAssignableFrom Native.collection = false := by cbv
  have hm : Native.map.isAssignableFrom Native.collection = false := by cbv
  have hself : ∀ t ∈ catalogue, t.name ∈ t.ancestors.map Ty.name := fun t ht =>
    (Ty.canonical_of_mem_catalogue ht).isAssignableFrom_iff_mem_ancestors.mp
      (Ty.isAssignableFrom_self t)
  have hfound : r.ruleBook.select? Native.collection traversable = some fromNative :=
    select?_fromNative hr htrav (Or.inl (hself _ (native_subset_catalogue hn)))
      (hself _ traversable_mem_catalogue) (accepts_traversable _)
  rw [RuleBook.convert_of_select? rfl htrav hfound]
  show wrapped (singleOf Native.collection) Native.collection traversable = _
  rw [wrapped_traversable rfl]
  simp [nativeFamily, hl, hs, hm]

theorem convert_instanceOf_vector : ∃ r, Registry.build Cli.registrars = .ok r ∧
    vector ∈ r.knownTypes ∧
    r.ruleBook.convert (singleOf Native.arrayList) vector = .ok (singleOf vector) ∧
    ((singleOf vector).InstanceOf vector ∨
      OffTarget (singleOf Native.arrayList) vector (singleOf vector) ∨
      vector = indexedSeq ∧ indexedSeq.isAssignableFrom Native.arrayList = false ∧
        (singleOf vector).InstanceOf seq) ∧
    (OffTarget (singleOf Native.arrayList) vector (singleOf vector) →
      ¬(singleOf vector).InstanceOf vector) := by
  obtain ⟨r, hr⟩ := exists_build
  have hvector : vector ∈ all := by simp [all]
  have honly : Family.sequence.Only vector := ⟨by cbv, by cbv, by cbv⟩
  have hknown : vector ∈ r.knownTypes := by
    rw [knownTypes_eq hr]
    exact all_subset_catalogue hvector
  have h := convert_singleOf_arrayList hr hvector honly
  exact ⟨r, hr, hknown, h, convert_instanceOf hr hknown h⟩

/-- **Not everything that is given back is an instance**: a Vavr list asked for as a native set
becomes an array list, a collection that is neither a list nor a set stays what it is, and an
array list becomes a Vavr list where an indexed sequence is asked for. -/
theorem exists_convert_not_instanceOf : ∃ r, Registry.build Cli.registrars = .ok r ∧
    Native.set ∈ r.knownTypes ∧ traversable ∈ r.knownTypes ∧ indexedSeq ∈ r.knownTypes ∧
    (r.ruleBook.convert (singleOf list) Native.set = .ok (singleOf Native.arrayList) ∧
      ¬(singleOf Native.arrayList).InstanceOf Native.set) ∧
    (r.ruleBook.convert (singleOf Native.collection) traversable =
        .ok (singleOf Native.collection) ∧
      ¬(singleOf Native.collection).InstanceOf traversable) ∧
    (r.ruleBook.convert (singleOf Native.arrayList) indexedSeq = .ok (singleOf list) ∧
      ¬(singleOf list).InstanceOf indexedSeq) := by
  obtain ⟨r, hr⟩ := exists_build
  have hseq : Family.sequence.Only indexedSeq := ⟨by cbv, by cbv, by cbv⟩
  have hset : Native.set ∈ catalogue := native_subset_catalogue (by simp [Native.all])
  refine ⟨r, hr, ?_⟩
  rw [knownTypes_eq hr]
  exact ⟨hset, traversable_mem_catalogue, all_subset_catalogue indexedSeq_mem_all,
    ⟨convert_singleOf_list hr, Value.not_instanceOf rfl (by cbv)⟩,
    ⟨convert_singleOf_collection hr, Value.not_instanceOf rfl (by cbv)⟩,
    ⟨convert_singleOf_arrayList hr indexedSeq_mem_all hseq, Value.not_instanceOf rfl (by cbv)⟩⟩

end Vavr

end ForeignCollections
