import ForeignCollections.Proofs.Vavr.Routes

/-!
The two orders in which the families take precedence. What is built for a target below several
families is a sequence first, then a set; what a type counts as is a sequence first, then a map.
So the rule out of the family takes back whatever the rule into it has built, unless it has built a
set under a type that counts as a map.
-/

namespace ForeignCollections.Vavr

/-- The type can be built and is below the sets and the maps, but not below the sequences: a set is
built for it, and it counts as a map. -/
structure Torn (t : Ty) : Prop where
  concrete : t.kind = .concrete
  set : set.isAssignableFrom t = true
  map : map.isAssignableFrom t = true
  seq : seq.isAssignableFrom t = false

variable {v w : Value} {f : Family} {source target : Ty}

lemma exists_targetFamily (h : ∃ f : Family, f.base.isAssignableFrom target = true) :
    ∃ f, targetFamily target = some f := by
  obtain ⟨f, hf⟩ := h
  unfold targetFamily
  split_ifs with hseq hset hmap
  · exact ⟨_, rfl⟩
  · exact ⟨_, rfl⟩
  · exact ⟨_, rfl⟩
  · cases f with
    | sequence => exact absurd hf hseq
    | set => exact absurd hf hset
    | map => exact absurd hf hmap

/-- The two orders agree on a type unless it is a set and a map and no sequence. -/
lemma familyOf_eq_some_iff (ht : targetFamily target = some f) : familyOf target = some f ↔
    ¬(set.isAssignableFrom target = true ∧ map.isAssignableFrom target = true ∧
      seq.isAssignableFrom target = false) := by
  unfold targetFamily at ht
  unfold familyOf
  split_ifs at ht ⊢ <;> cases ht <;> simp_all

lemma familyOf_constructible_iff (ht : targetFamily target = some f) :
    familyOf (constructible target f.fallback) = some f ↔ ¬Torn target := by
  unfold constructible Ty.isInterface
  cases hk : target.kind with
  | interface =>
    refine iff_of_true (familyOf_of_only (only_fallback f)) fun h => ?_
    cases hk.symm.trans h.concrete
  | concrete =>
    rw [if_neg (by decide), familyOf_eq_some_iff ht, not_iff_not]
    exact ⟨fun ⟨hs, hm, hq⟩ => ⟨hk, hs, hm, hq⟩, fun h => ⟨h.set, h.map, h.seq⟩⟩

lemma shape_of_wrapped (hc : v.isContainer = true) (ht : targetFamily target = some f)
    (h : wrapped v source target = .ok w) :
    w.shape = some f ∧ w.runtimeType = constructible target f.fallback := by
  rw [wrapped_of_targetFamily hc ht] at h
  exact Family.of_build h

lemma Torn.targetFamily (h : Torn target) : targetFamily target = some .set := by
  simp [Vavr.targetFamily, h.seq, h.set]

lemma Torn.constructible (h : Torn target) (fallback : Ty) :
    constructible target fallback = target := by
  simp [Vavr.constructible, Ty.isInterface, h.concrete]

/-- **What one rule builds the other takes back, unless the target is torn.** For any container
and any target below a family, what the rule into the family gives is a container that the rule out
of it retags as a native one, with all its elements in their order, whatever it is asked for;
exactly for torn targets it refuses instead. -/
theorem takesBack_iff (hc : v.isContainer = true)
    (ht : ∃ f : Family, f.base.isAssignableFrom target = true)
    (h : fromNative.convert v source target = .ok w) :
    ((∀ asked, ∃ t ∈ Native.all, toNative.convert w w.runtimeType asked = .ok (w.withType t)) ↔
      ¬Torn target) ∧
    (Torn target → ∀ asked,
      toNative.convert w w.runtimeType asked = .error (.unsupported target.name)) := by
  obtain ⟨f, hf⟩ := exists_targetFamily ht
  obtain ⟨hshape, htype⟩ := shape_of_wrapped hc hf h
  have hunwrapped := unwrapped_of_shape hshape
  rw [htype] at hunwrapped
  have hback : ¬Torn target → ∀ asked, ∃ t ∈ Native.all,
      toNative.convert w w.runtimeType asked = .ok (w.withType t) := by
    intro hn asked
    rw [if_pos ((familyOf_constructible_iff hf).mpr hn)] at hunwrapped
    exact ⟨_, natives_subset f (f.native_mem _), hunwrapped⟩
  have hrefused : Torn target → ∀ asked,
      toNative.convert w w.runtimeType asked = .error (.unsupported target.name) := by
    intro htorn asked
    rw [if_neg (fun hfam => (familyOf_constructible_iff hf).mp hfam htorn), htorn.constructible]
      at hunwrapped
    exact hunwrapped
  refine ⟨⟨fun hall htorn => ?_, hback⟩, hrefused⟩
  obtain ⟨t, -, ht⟩ := hall target
  cases (hrefused htorn target).symm.trans ht

def ledger : Ty := .mk "com.example.Ledger" (by decide) .concrete [seq, map]

def tally : Ty := .mk "com.example.Tally" (by decide) .concrete [set, map]

lemma torn_tally : Torn tally := ⟨rfl, by cbv, by cbv, by cbv⟩

def textInList : Value := .sequence Native.arrayList [.text "a"]

lemma wrapped_textInList_ledger :
    fromNative.convert textInList Native.arrayList ledger = .ok (.sequence ledger [.text "a"]) := by
  have hseq : seq.isAssignableFrom ledger = true := by cbv
  show wrapped textInList Native.arrayList ledger = _
  rw [wrapped_of_targetFamily rfl (show targetFamily ledger = some .sequence by
    simp [targetFamily, hseq])]
  rfl

theorem takesBack_iff_ledger : textInList.isContainer = true ∧
    (∃ f : Family, f.base.isAssignableFrom ledger = true) ∧
    fromNative.convert textInList Native.arrayList ledger = .ok (.sequence ledger [.text "a"]) ∧
    map.isAssignableFrom ledger = true ∧ ¬Torn ledger ∧
    ∃ t ∈ Native.all, toNative.convert (.sequence ledger [.text "a"]) ledger Native.map =
      .ok (.sequence t [.text "a"]) := by
  have hbelow : ∃ f : Family, f.base.isAssignableFrom ledger = true := ⟨.sequence, by cbv⟩
  have htorn : ¬Torn ledger := by
    intro h
    have hseq : seq.isAssignableFrom ledger = true := by cbv
    cases hseq.symm.trans h.seq
  exact ⟨rfl, hbelow, wrapped_textInList_ledger, by cbv, htorn,
    (takesBack_iff rfl hbelow wrapped_textInList_ledger).1.mpr htorn Native.map⟩

/-- **Not all that is built is taken back**: a tally is built as a set, and then counts as a map. -/
theorem not_takesBack_of_built : ¬∀ (v w : Value) (source target : Ty), v.isContainer = true →
    (∃ f : Family, f.base.isAssignableFrom target = true) →
    fromNative.convert v source target = .ok w →
    ∀ asked, ∃ t, toNative.convert w w.runtimeType asked = .ok (w.withType t) := by
  intro hall
  have hbuilt : fromNative.convert textInList Native.arrayList tally =
      .ok (.setOf tally [.text "a"]) := by
    show wrapped textInList Native.arrayList tally = _
    rw [wrapped_of_targetFamily rfl torn_tally.targetFamily, torn_tally.constructible]
    rfl
  obtain ⟨t, ht⟩ := hall _ _ _ _ rfl ⟨.set, torn_tally.set⟩ hbuilt Native.set
  have hfamily : ¬familyOf tally = some .set := fun h =>
    (familyOf_eq_some_iff torn_tally.targetFamily).mp h
      ⟨torn_tally.set, torn_tally.map, torn_tally.seq⟩
  have hrefused : unwrapped (.setOf tally [.text "a"]) = .error (.unsupported tally.name) := by
    rw [unwrapped_of_shape (f := .set) rfl]
    exact if_neg hfamily
  cases hrefused.symm.trans ht

end ForeignCollections.Vavr
