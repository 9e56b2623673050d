import ForeignCollections.Proofs.Ty.Reachability
import ForeignCollections.Proofs.Ty.Search

/-!
Assignability as an order. In a family of types whose handles agree on what a name stands for, a
value of one type can stand for another exactly if the other is the root or is found, by name, by
going up declared supertypes. Going up comes to ever smaller handles, and in such a family a way up
can be followed from any handle of a name; so no two names are assignable both ways.
-/

namespace ForeignCollections.Ty

variable {F : Set Ty} {a b t u s : Ty}

/-! ### Going up -/

lemma sizeOf_lt_of_declares (h : Declares t s) : sizeOf s < sizeOf t :=
  Nat.lt_trans (List.sizeOf_lt_of_mem h) (sizeOf_supers_lt t)

lemma sizeOf_lt_of_reaches (h : Reaches t s) (hn : s.name ≠ t.name) : sizeOf s < sizeOf t := by
  have hle : ∀ u, Reaches t u → sizeOf u ≤ sizeOf t := by
    intro u hu
    induction hu with
    | refl => exact Nat.le_refl _
    | tail _ hs ih => exact Nat.le_trans (Nat.le_of_lt (sizeOf_lt_of_declares hs)) ih
  rcases Relation.ReflTransGen.cases_tail h with rfl | ⟨u, hu, hus⟩
  · exact absurd rfl hn
  · exact Nat.lt_of_lt_of_le (sizeOf_lt_of_declares hus) (hle u hu)

namespace Coherent

/-- A way up can be followed, by name, from any handle of the name it begins at. -/
lemma exists_reaches_name (hF : Coherent F) (ht : t ∈ F) (hu : u ∈ F) (hn : t.name = u.name)
    (h : Reaches u s) : ∃ s', Reaches t s' ∧ s'.name = s.name := by
  induction h with
  | refl => exact ⟨t, .refl, hn⟩
  | @tail v p huv hvp ih =>
    obtain ⟨v', htv, hv⟩ := ih
    have hnames := hF.agree v' (hF.mem_of_reaches ht htv) v (hF.mem_of_reaches hu huv) hv
    have hp : p.name ∈ v'.supers.map name := hnames ▸ List.mem_map_of_mem hvp
    obtain ⟨p', hvp', hp⟩ := mem_map_name.mp hp
    exact ⟨p', htv.tail hvp', hp⟩

/-- **Assignability is reachability.** -/
lemma isAssignableFrom_iff_reachable (hF : Coherent F) (hb : b ∈ F) :
    a.isAssignableFrom b = true ↔
      a.isObject = true ∨ a.name = b.name ∨
        ∃ s, Relation.TransGen Declares b s ∧ s.name = a.name := by
  constructor
  · intro h
    cases ho : a.isObject with
    | true => exact Or.inl rfl
    | false =>
      obtain ⟨s, hbs, hs⟩ := exists_reaches_of_isAssignableFrom h ho
      rcases Relation.reflTransGen_iff_eq_or_transGen.mp hbs with rfl | hbs
      · exact Or.inr (Or.inl hs.symm)
      · exact Or.inr (Or.inr ⟨s, hbs, hs⟩)
  · rintro (ho | hn | ⟨s, hbs, hs⟩)
    · exact isAssignableFrom_iff.mpr (Or.inl ho)
    · rw [isAssignableFrom_congr hn]
      exact isAssignableFrom_self b
    · rw [← isAssignableFrom_congr hs]
      exact isAssignableFrom_of_reaches (hF.follows hb hb) (hF.rootBare hb)
        (isAssignableFrom_self b) hbs.to_reflTransGen

/-- Two names are not found above each other: the handles on a way up and back get smaller. -/
lemma not_reaches_both (hF : Coherent F) (ha : a ∈ F) (hb : b ∈ F) (hn : a.name ≠ b.name)
    {s s' : Ty} (hbs : Reaches b s) (hs : s.name = a.name) (has : Reaches a s')
    (hs' : s'.name = b.name) : False := by
  -- below any handle of the name of `b` there is another handle of it that is larger
  suffices h : ∀ n, ∀ t ∈ F, t.name = b.name → sizeOf t < n → False from
    h (sizeOf b + 1) b hb rfl (Nat.lt_succ_self _)
  intro n
  induction n with
  | zero => exact fun t _ _ h => Nat.not_lt_zero _ h
  | succ n ih =>
    intro t ht htb hlt
    obtain ⟨u, htu, hu⟩ := hF.exists_reaches_name ht hb htb hbs
    have huF := hF.mem_of_reaches ht htu
    obtain ⟨v, huv, hv⟩ := hF.exists_reaches_name huF ha (hu.trans hs) has
    have hvb := hv.trans hs'
    have hut := sizeOf_lt_of_reaches htu (by rwa [hu, hs, htb])
    have hvu := sizeOf_lt_of_reaches huv (by rw [hvb, hu, hs]; exact hn.symm)
    exact ih v (hF.mem_of_reaches huF huv) hvb (by omega)

lemma isAssignableFrom_antisymm (hF : Coherent F) (ha : a ∈ F) (hb : b ∈ F)
    (hab : a.isAssignableFrom b = true) (hba : b.isAssignableFrom a = true) : a.name = b.name := by
  -- above the root there is no other name
  have htop : ∀ {r t : Ty}, r ∈ F → r.isObject = true → t.isAssignableFrom r = true →
      t.isObject = true := by
    intro r t hr hro h
    by_contra hto
    obtain ⟨s, hrs, hs⟩ := exists_reaches_of_isAssignableFrom h (Bool.eq_false_iff.mpr hto)
    rcases Relation.ReflTransGen.cases_head hrs with rfl | ⟨u, hru, -⟩
    · rw [isObject_iff, ← hs, ← isObject_iff] at hto
      exact hto hro
    · rw [Declares, hF.bare r hr hro] at hru
      exact absurd hru List.not_mem_nil
  by_contra hn
  cases hao : a.isObject with
  | true => exact hn ((isObject_iff.mp hao).trans (isObject_iff.mp (htop ha hao hba)).symm)
  | false =>
    cases hbo : b.isObject with
    | true => exact hn ((isObject_iff.mp (htop hb hbo hab)).trans (isObject_iff.mp hbo).symm)
    | false =>
      obtain ⟨s, hbs, hs⟩ := exists_reaches_of_isAssignableFrom hab hao
      obtain ⟨s', has, hs'⟩ := exists_reaches_of_isAssignableFrom hba hbo
      exact hF.not_reaches_both ha hb hn hbs hs has hs'

end Coherent

/-- Assignability orders the names of the family, and the root is above all of them. -/
structure OrdersNames (F : Set Ty) : Prop where
  refl : ∀ a ∈ F, a.isAssignableFrom a = true
  trans : ∀ a ∈ F, ∀ b ∈ F, ∀ c ∈ F, a.isAssignableFrom b = true → b.isAssignableFrom c = true →
    a.isAssignableFrom c = true
  antisymm : ∀ a ∈ F, ∀ b ∈ F, a.isAssignableFrom b = true → b.isAssignableFrom a = true →
    a.name = b.name
  greatest : ∀ a : Ty, a.isObject = true → ∀ b ∈ F, b.isAssignableTo a = true

lemma Coherent.ordersNames (hF : Coherent F) : OrdersNames F where
  refl a _ := isAssignableFrom_self a
  trans _ _ _ hb _ hc hab hbc := hF.isAssignableFrom_trans hc hb hab hbc
  antisymm _ ha _ hb := hF.isAssignableFrom_antisymm ha hb
  greatest _ ho _ _ := isAssignableFrom_iff.mpr (Or.inl ho)

/-- **Assignability is reachability, and an order.** In a coherent family of types, `b` is
assignable to `a` if and only if `a` is the root, has the name of `b`, or bears a name that is
reached from `b` by one or more declared supertypes; this orders the names of the family, with the
root on top. The search for `a` above `b` ends for all types, with this answer. -/
theorem isAssignableFrom_order (hF : Coherent F) :
    (∀ a : Ty, ∀ b ∈ F, a.isAssignableFrom b = true ↔
      a.isObject = true ∨ a.name = b.name ∨
        ∃ s, Relation.TransGen Declares b s ∧ s.name = a.name) ∧
    OrdersNames F ∧
    ∀ a b : Ty, ∃ rounds, ∀ n ≥ rounds, searchFor a b n = some (a.isAssignableFrom b) :=
  ⟨fun _ _ hb => hF.isAssignableFrom_iff_reachable hb, hF.ordersNames,
    fun a b => ⟨_, fun _ hn => searchFor_eq a b hn⟩⟩

def walkable : Ty := mk "com.example.Walkable" (by decide) .interface []

def walkableClass : Ty := mk "com.example.Walkable" (by decide) .concrete []

def forwards : Ty := mk "com.example.Forwards" (by decide) .interface [walkable]

def backwards : Ty := mk "com.example.Backwards" (by decide) .interface [walkableClass]

def bothWays : Ty := mk "com.example.BothWays" (by decide) .concrete [forwards, backwards]

def walkables : List Ty := [object, walkable, walkableClass, forwards, backwards, bothWays]

lemma coherent_walkables : Coherent {t | t ∈ walkables} where
  supers t ht s hs := by
    have hclosed : walkables.flatMap Ty.supers ⊆ walkables := by
      show [walkable, walkableClass, forwards, backwards] ⊆ walkables
      simp [walkables]
    exact hclosed (List.mem_flatMap.mpr ⟨t, ht, hs⟩)
  agree := by
    show ∀ a ∈ walkables, ∀ b ∈ walkables, a.name = b.name → a.supers.map name = b.supers.map name
    decide
  bare t ht ho := by
    have hbare : ∀ t ∈ walkables, t.isObject = true → t.supers.isEmpty = true := by decide
    exact List.isEmpty_iff.mp (hbare t ht ho)

theorem isAssignableFrom_order_bothWays :
    Coherent {t | t ∈ walkables} ∧ walkable.isAssignableFrom bothWays = true ∧
      bothWays.isAssignableFrom walkable = false := by
  have hwalkable : walkable ∈ walkables := by simp [walkables]
  have hbothWays : bothWays ∈ walkables := by simp [walkables]
  obtain ⟨hreach, horder, -⟩ := isAssignableFrom_order coherent_walkables
  have hup : Relation.TransGen Declares bothWays walkable :=
    .tail (.single (b := forwards) List.mem_cons_self) List.mem_cons_self
  have hbelow : walkable.isAssignableFrom bothWays = true :=
    (hreach walkable bothWays hbothWays).mpr (Or.inr (Or.inr ⟨walkable, hup, rfl⟩))
  refine ⟨coherent_walkables, hbelow, Bool.eq_false_iff.mpr fun h => ?_⟩
  have hname := horder.antisymm walkable hwalkable bothWays hbothWays hbelow h
  exact absurd hname (by decide)

end ForeignCollections.Ty
