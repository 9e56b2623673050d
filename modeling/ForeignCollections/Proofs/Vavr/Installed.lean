import ForeignCollections.Cli.Commands
import ForeignCollections.Proofs.Registry.Build
import ForeignCollections.Proofs.RuleBook.Dispatch
import ForeignCollections.Proofs.Vavr.Canonical

/-!
The registry over the registrars of the program, and the rules that are left in its rule book:
the two rules of the Vavr family, each under its own pairs. The general rule, which would take a
collection for its first item, is gone.
-/

namespace ForeignCollections

namespace Vavr

variable {r : Registry} {s t source target : Ty}

lemma exists_build : ∃ r, Registry.build Cli.registrars = .ok r :=
  ⟨⟨Cli.registrars, by cbv⟩, rfl⟩

lemma registrars_eq (hr : Registry.build Cli.registrars = .ok r) : r.registrars = [registrar] :=
  Registry.registrars_of_build hr

lemma knownTypes_eq (hr : Registry.build Cli.registrars = .ok r) : r.knownTypes = catalogue := by
  rw [Registry.knownTypes, registrars_eq hr]
  rfl

lemma ruleBook_eq (hr : Registry.build Cli.registrars = .ok r) :
    r.ruleBook = ((RuleBook.withDefaults.remove Native.collection Native.object).add
      fromNative).add toNative := by
  rw [Registry.ruleBook, Registry.install, registrars_eq hr]
  rfl

lemma rulesFor_remove_withDefaults (s t : Ty) :
    (RuleBook.withDefaults.remove Native.collection Native.object).rulesFor s t = [] := by
  rw [RuleBook.rulesFor_remove, RuleBook.withDefaults, RuleBook.rulesFor_add]
  by_cases h : Native.collection.name = s.name ∧ Native.object.name = t.name
  · rw [if_pos h]
  · have hd : ¬Rule.firstItem.declares s t = true := by
      simpa [Rule.declares, Rule.firstItem, Ty.beq_iff] using h
    rw [if_neg h, if_neg hd, RuleBook.rulesFor_empty]

/-- **The rules that are left.** -/
lemma mem_rulesFor_iff (hr : Registry.build Cli.registrars = .ok r) {x : Rule} :
    x ∈ r.ruleBook.rulesFor s t ↔
      (x = toNative ∧ toNative.declares s t = true) ∨
      (x = fromNative ∧ fromNative.declares s t = true) := by
  have hid : (fromNative.id != toNative.id) = true := by decide
  rw [ruleBook_eq hr, RuleBook.rulesFor_add, RuleBook.rulesFor_add, rulesFor_remove_withDefaults]
  by_cases ht : toNative.declares s t = true <;> by_cases hf : fromNative.declares s t = true <;>
    simp [ht, hf, hid]

lemma declares_toNative :
    toNative.declares s t = true ↔
      s.name = traversable.name ∧ ∃ c ∈ Native.collectionsAndMap, c.name = t.name := by
  simp only [Rule.declares, toNative, List.any_map, List.any_eq_true, Function.comp_apply,
    Bool.and_eq_true, Ty.beq_iff]
  constructor
  · rintro ⟨c, hc, hs, ht⟩
    exact ⟨hs.symm, c, hc, ht⟩
  · rintro ⟨hs, c, hc, ht⟩
    exact ⟨c, hc, hs.symm, ht⟩

lemma declares_fromNative :
    fromNative.declares s t = true ↔
      (s.name = Native.collection.name ∨ s.name = Native.map.name) ∧
        t.name = traversable.name := by
  simp only [Rule.declares, fromNative, List.any_cons, List.any_nil, Bool.or_false,
    Bool.or_eq_true, Bool.and_eq_true, Ty.beq_iff, @eq_comm _ _ s.name, @eq_comm _ _ t.name,
    or_and_right]

lemma accepts_toNative :
    toNative.accepts source target = true ↔
      traversable.isAssignableFrom source = true ∧
        ∃ c ∈ Native.collectionsAndMap, c.name = target.name := by
  simp only [toNative, Ty.isAssignableTo, Bool.and_eq_true, List.contains_iff_exists_mem_beq,
    Ty.beq_iff, @eq_comm _ target.name]

lemma accepts_fromNative :
    fromNative.accepts source target = true ↔
      (source.isCollection = true → map.isAssignableFrom target = false) ∧
      (source.isMap = true → map.isAssignableFrom target = true ∨
        target.name = traversable.name) := by
  simp only [fromNative, Bool.and_eq_true, Bool.not_eq_true', Bool.or_eq_true, Ty.beq_iff,
    Bool.eq_false_iff, Ne]
  tauto

lemma accepts_collection (hm : source.isMap = false) (ht : map.isAssignableFrom target = false) :
    fromNative.accepts source target = true :=
  accepts_fromNative.mpr ⟨fun _ => ht, fun h => absurd (hm.symm.trans h) (by decide)⟩

lemma accepts_map (hc : source.isCollection = false) (ht : map.isAssignableFrom target = true) :
    fromNative.accepts source target = true :=
  accepts_fromNative.mpr ⟨fun h => absurd (hc.symm.trans h) (by decide), fun _ => Or.inl ht⟩

lemma not_accepts_collection (hc : source.isCollection = true)
    (ht : map.isAssignableFrom target = true) : fromNative.accepts source target = false :=
  Bool.eq_false_iff.mpr fun h =>
    absurd (((accepts_fromNative.mp h).1 hc).symm.trans ht) (by decide)

lemma not_accepts_map (hm : source.isMap = true) (ht : map.isAssignableFrom target = false)
    (hp : target.name ≠ traversable.name) : fromNative.accepts source target = false := by
  refine Bool.eq_false_iff.mpr fun h => ?_
  rcases (accepts_fromNative.mp h).2 hm with hmap | hname
  · exact absurd (ht.symm.trans hmap) (by decide)
  · exact hp hname

/-- What dispatch can find, and under which ancestors. -/
lemma select?_cases (hr : Registry.build Cli.registrars = .ok r) {x : Rule}
    (h : r.ruleBook.select? source target = some x) :
    (x = toNative ∧ traversable.isAssignableFrom source = true ∧
      ∃ c ∈ Native.collectionsAndMap, c.name = target.name) ∨
    (x = fromNative ∧ fromNative.accepts source target = true ∧
      (Native.collection.name ∈ source.ancestors.map Ty.name ∨
        Native.map.name ∈ source.ancestors.map Ty.name) ∧
      traversable.name ∈ target.ancestors.map Ty.name) := by
  obtain ⟨ha, s, hs, t, ht, hx⟩ := RuleBook.exists_of_select? h
  rcases (mem_rulesFor_iff hr).mp hx with ⟨rfl, -⟩ | ⟨rfl, hd⟩
  · exact Or.inl ⟨rfl, accepts_toNative.mp ha⟩
  · obtain ⟨hsource, htarget⟩ := declares_fromNative.mp hd
    refine Or.inr ⟨rfl, ha, ?_, htarget ▸ List.mem_map_of_mem ht⟩
    have hmem : s.name ∈ source.ancestors.map Ty.name := List.mem_map_of_mem hs
    rcases hsource with hn | hn
    · exact Or.inl (hn ▸ hmem)
    · exact Or.inr (hn ▸ hmem)

lemma select?_of_no_registrars (h : r.registrars = []) (s t : Ty) :
    r.ruleBook.select? s t = none := by
  have hbook : r.ruleBook = RuleBook.withDefaults.remove Native.collection Native.object := by
    rw [Registry.ruleBook, Registry.install, h]
    rfl
  refine Option.eq_none_iff_forall_not_mem.mpr fun rule hrule => ?_
  obtain ⟨-, s', -, t', -, hmem⟩ := RuleBook.exists_of_select? hrule
  rw [hbook, rulesFor_remove_withDefaults] at hmem
  exact nomatch hmem

/-- Into the family: a native container that is no Vavr one is converted by the rule for it. -/
lemma select?_fromNative (hr : Registry.build Cli.registrars = .ok r)
    (hsource : traversable.isAssignableFrom source = false)
    (hn : Native.collection.name ∈ source.ancestors.map Ty.name ∨
      Native.map.name ∈ source.ancestors.map Ty.name)
    (htarget : traversable.name ∈ target.ancestors.map Ty.name)
    (ha : fromNative.accepts source target = true) :
    r.ruleBook.select? source target = some fromNative := by
  obtain ⟨s, hs, hsn⟩ : ∃ s ∈ source.ancestors,
      s.name = Native.collection.name ∨ s.name = Native.map.name := by
    rcases hn with hn | hn
    · obtain ⟨s, hs, hsn⟩ := Ty.mem_map_name.mp hn
      exact ⟨s, hs, Or.inl hsn⟩
    · obtain ⟨s, hs, hsn⟩ := Ty.mem_map_name.mp hn
      exact ⟨s, hs, Or.inr hsn⟩
  obtain ⟨t, ht, htn⟩ := Ty.mem_map_name.mp htarget
  have hmem : fromNative ∈ r.ruleBook.rulesFor s t :=
    (mem_rulesFor_iff hr).mpr (Or.inr ⟨rfl, declares_fromNative.mpr ⟨hsn, htn⟩⟩)
  obtain ⟨x, hx⟩ := RuleBook.exists_select? hs ht hmem ha
  rcases select?_cases hr hx with ⟨-, hf, -⟩ | ⟨rfl, -⟩
  · rw [hsource] at hf
    exact absurd hf (by decide)
  · exact hx

/-- Out of the family: a Vavr container asked for as one of the native abstractions. -/
lemma select?_toNative (hr : Registry.build Cli.registrars = .ok r)
    (hsource : traversable.isAssignableFrom source = true)
    (hs : traversable.name ∈ source.ancestors.map Ty.name)
    (ht : target ∈ Native.collectionsAndMap)
    (htarget : traversable.name ∉ target.ancestors.map Ty.name) :
    r.ruleBook.select? source target = some toNative := by
  obtain ⟨s, hs, hsn⟩ := Ty.mem_map_name.mp hs
  have htself : target ∈ target.ancestors :=
    List.mem_append_left _ (Ty.self_mem_closure _ target)
  have hmem : toNative ∈ r.ruleBook.rulesFor s target :=
    (mem_rulesFor_iff hr).mpr (Or.inl ⟨rfl, declares_toNative.mpr ⟨hsn, target, ht, rfl⟩⟩)
  obtain ⟨x, hx⟩ := RuleBook.exists_select? hs htself hmem
    (accepts_toNative.mpr ⟨hsource, target, ht, rfl⟩)
  rcases select?_cases hr hx with ⟨rfl, -⟩ | ⟨-, -, -, hf⟩
  · exact hx
  · exact absurd hf htarget

lemma unwrap_eq (hr : Registry.build Cli.registrars = .ok r) (v : Value) :
    r.unwrap v =
      if traversable.isAssignableFrom v.runtimeType = true then unwrapped v else .ok v := by
  rw [Registry.unwrap, Registry.unwrappers, registrars_eq hr, List.map_singleton]
  simp only [List.foldlM_cons, List.foldlM_nil, bind_pure]
  rfl

end Vavr

end ForeignCollections
