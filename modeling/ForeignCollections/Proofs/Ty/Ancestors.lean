import Mathlib.Order.Bounds.Basic
import ForeignCollections.Proofs.Ty.Search

/-!
The order of the ancestors. They are listed level by level: the level of a type is the least number
of links to it from the type below, where a link goes to a name that a listed handle declares and on
to the handle that is listed for this name. Each name is listed once, at the handle that is
discovered first, and whether a type is an ancestor is whether it is assignable.

The levels are the generations of the search. A type stands in one generation only, since a name is
met once; and what a generation declares has been met by the end of the next one, so that no other
way up is shorter.
-/

namespace ForeignCollections.Ty

variable {keep : Ty → Bool} {seen : List String} {level : List Ty} {t s p : Ty} {k : ℕ}

/-! ### Generations -/

/-- `s` stands in the `k`-th generation from `level` on. -/
def InGeneration (keep : Ty → Bool) (seen : List String) (level : List Ty) (k : ℕ) (s : Ty) :
    Prop :=
  ∃ g, (generations keep seen level)[k]? = some g ∧ s ∈ g

lemma inGeneration_zero_iff : InGeneration keep seen level 0 s ↔ s ∈ level := by
  cases level with
  | nil => simp [InGeneration]
  | cons t ts =>
    rw [InGeneration, generations]
    simp

lemma inGeneration_succ_iff : InGeneration keep seen level (k + 1) s ↔
    InGeneration keep (seen ++ (nextGeneration keep seen level).map name)
      (nextGeneration keep seen level) k s := by
  cases level with
  | nil => simp [InGeneration, nextGeneration, unseen]
  | cons t ts =>
    rw [InGeneration, generations, List.getElem?_cons_succ]
    rfl

lemma mem_flatten_iff_inGeneration :
    s ∈ (generations keep seen level).flatten ↔ ∃ k, InGeneration keep seen level k s := by
  rw [List.mem_flatten]
  constructor
  · rintro ⟨g, hg, hs⟩
    obtain ⟨k, hk⟩ := List.mem_iff_getElem?.mp hg
    exact ⟨k, g, hk, hs⟩
  · rintro ⟨k, g, hk, hs⟩
    exact ⟨g, List.mem_of_getElem? hk, hs⟩

lemma exists_declares_of_inGeneration (h : InGeneration keep seen level (k + 1) s) :
    ∃ t, InGeneration keep seen level k t ∧ Declares t s ∧ keep s = true := by
  induction k generalizing seen level with
  | zero =>
    rw [inGeneration_succ_iff, inGeneration_zero_iff] at h
    obtain ⟨⟨t, ht, hts⟩, hk⟩ := mem_nextGeneration h
    exact ⟨t, inGeneration_zero_iff.mpr ht, hts, hk⟩
  | succ k ih =>
    rw [inGeneration_succ_iff] at h
    obtain ⟨t, ht, hts⟩ := ih h
    exact ⟨t, inGeneration_succ_iff.mpr ht, hts⟩

/-- What a generation declares has been met by the end of the next one. -/
lemma met_of_inGeneration (h : InGeneration keep seen level k s) (hp : Declares s p)
    (hk : keep p = true) : p.name ∈ seen ∨
      ∃ j ≤ k + 1, ∃ q, InGeneration keep seen level j q ∧ q.name = p.name := by
  have hnext : ∀ q ∈ nextGeneration keep seen level, InGeneration keep seen level 1 q :=
    fun q hq => inGeneration_succ_iff.mpr (inGeneration_zero_iff.mpr hq)
  induction k generalizing seen level with
  | zero =>
    by_cases hs : p.name ∈ seen
    · exact Or.inl hs
    · have hnew : p.name ∈ (nextGeneration keep seen level).map name :=
        mem_names_nextGeneration.mpr ⟨⟨s, inGeneration_zero_iff.mp h, p, hp, hk, rfl⟩, hs⟩
      obtain ⟨q, hq, hn⟩ := mem_map_name.mp hnew
      exact Or.inr ⟨1, by omega, q, hnext q hq, hn⟩
  | succ k ih =>
    rcases ih (inGeneration_succ_iff.mp h) fun q hq =>
      inGeneration_succ_iff.mpr (inGeneration_zero_iff.mpr hq) with hs | ⟨j, hj, q, hq, hn⟩
    · rcases List.mem_append.mp hs with hs | hs
      · exact Or.inl hs
      · obtain ⟨q, hq, hn⟩ := mem_map_name.mp hs
        exact Or.inr ⟨1, by omega, q, hnext q hq, hn⟩
    · exact Or.inr ⟨j + 1, by omega, q, inGeneration_succ_iff.mpr hq, hn⟩

lemma pairwise_flatten_generations (keep : Ty → Bool) (seen : List String) (level : List Ty) :
    (generations keep seen level).flatten.Pairwise fun x y =>
      ∃ j k, j ≤ k ∧ InGeneration keep seen level j x ∧ InGeneration keep seen level k y := by
  rw [List.pairwise_flatten]
  refine ⟨fun g hg => ?_, ?_⟩
  · obtain ⟨k, hk⟩ := List.mem_iff_getElem?.mp hg
    refine List.Pairwise.imp_of_mem ?_ (List.pairwise_of_forall fun _ _ => trivial)
    exact fun hx hy _ => ⟨k, k, Nat.le_refl k, ⟨g, hk, hx⟩, ⟨g, hk, hy⟩⟩
  · rw [List.pairwise_iff_getElem]
    intro j k hj hk hjk x hx y hy
    exact ⟨j, k, Nat.le_of_lt hjk, ⟨_, List.getElem?_eq_getElem hj, hx⟩,
      ⟨_, List.getElem?_eq_getElem hk, hy⟩⟩

lemma inGeneration_unique (hn : (generations keep seen level).flatten.Nodup) {j k : ℕ}
    (hj : InGeneration keep seen level j s) (hk : InGeneration keep seen level k s) : j = k := by
  obtain ⟨g, hg, hsg⟩ := hj
  obtain ⟨g', hg', hsg'⟩ := hk
  obtain ⟨hj, rfl⟩ := List.getElem?_eq_some_iff.mp hg
  obtain ⟨hk, rfl⟩ := List.getElem?_eq_some_iff.mp hg'
  have hdisjoint := List.pairwise_iff_getElem.mp (List.nodup_flatten.mp hn).2
  rcases Nat.lt_trichotomy j k with hjk | hjk | hjk
  · exact absurd hsg' (hdisjoint j k hj hk hjk hsg)
  · exact hjk
  · exact absurd hsg (hdisjoint k j hk hj hjk hsg')

/-! ### Levels -/

/-- Going up from `t`, the handle `s` of `ts` is found after `n` links: each link goes from a
handle to a name that it declares, not the root's, and on to the handle that `ts` has for it. -/
inductive FoundAfter (ts : List Ty) (t : Ty) : ℕ → Ty → Prop where
  | start : FoundAfter ts t 0 t
  | link {n : ℕ} {h p s : Ty} (below : FoundAfter ts t n h) (declared : Declares h p)
      (kept : p.notRoot = true) (listed : s ∈ ts) (named : s.name = p.name) :
      FoundAfter ts t (n + 1) s

/-- The level of `s` above `t`: the least number of links after which it is found. -/
def IsLevel (ts : List Ty) (t s : Ty) (n : ℕ) : Prop := IsLeast {k | FoundAfter ts t k s} n

/-- `ts` lists `t` and what stands above it, but for the root, in the order of discovery: each
name once, at the handle that comes first among those that the listed handles declare, and lower
levels in front of higher ones. -/
structure ListsAbove (t : Ty) (ts : List Ty) : Prop where
  first : ts = distinct (t :: (ts.flatMap supers).filter notRoot)
  found : ∀ s ∈ ts, ∃ n, IsLevel ts t s n
  ordered : ts.Pairwise fun x y => ∀ m n, IsLevel ts t x m → IsLevel ts t y n → m ≤ n

lemma foundAfter_of_inGeneration (h : InGeneration notRoot [t.name] [t] k s) :
    FoundAfter (t.closure notRoot) t k s := by
  induction k generalizing s with
  | zero =>
    rw [inGeneration_zero_iff, List.mem_singleton] at h
    exact h ▸ .start
  | succ k ih =>
    obtain ⟨h', hh', hs, hk⟩ := exists_declares_of_inGeneration h
    exact .link (ih hh') hs hk (mem_flatten_iff_inGeneration.mpr ⟨_, h⟩) rfl

/-- No way up is shorter than the one that the generations take. -/
lemma inGeneration_of_foundAfter {n : ℕ} (h : FoundAfter (t.closure notRoot) t n s) :
    ∃ k ≤ n, InGeneration notRoot [t.name] [t] k s := by
  have hstart : InGeneration notRoot [t.name] [t] 0 t :=
    inGeneration_zero_iff.mpr List.mem_cons_self
  induction h with
  | start => exact ⟨0, Nat.le_refl 0, hstart⟩
  | @link n h p s _ declared kept listed named ih =>
    obtain ⟨k, hk, hin⟩ := ih
    -- a name stands in the generations once, so the handle of this name there is `s`
    have hself : ∀ j q, InGeneration notRoot [t.name] [t] j q → q.name = p.name → q = s :=
      fun j q hq hn => List.inj_on_of_nodup_map (nodup_names_closure notRoot t)
        (mem_flatten_iff_inGeneration.mpr ⟨j, hq⟩) listed (hn.trans named.symm)
    rcases met_of_inGeneration hin declared kept with hmet | ⟨j, hj, q, hq, hn⟩
    · rw [List.mem_singleton] at hmet
      exact ⟨0, Nat.zero_le _, hself 0 t hstart hmet.symm ▸ hstart⟩
    · exact ⟨j, by omega, hself j q hq hn ▸ hq⟩

lemma isLevel_of_inGeneration (h : InGeneration notRoot [t.name] [t] k s) :
    IsLevel (t.closure notRoot) t s k := by
  refine ⟨foundAfter_of_inGeneration h, fun n hn => ?_⟩
  obtain ⟨j, hj, hin⟩ := inGeneration_of_foundAfter hn
  have hnodup := List.Nodup.of_map name (nodup_names_closure notRoot t)
  rwa [inGeneration_unique hnodup h hin]

lemma listsAbove_closure (t : Ty) : ListsAbove t (t.closure notRoot) where
  first := closure_eq_distinct notRoot t
  found s hs := by
    obtain ⟨k, hk⟩ := mem_flatten_iff_inGeneration.mp hs
    exact ⟨k, isLevel_of_inGeneration hk⟩
  ordered := by
    refine (pairwise_flatten_generations notRoot [t.name] [t]).imp ?_
    rintro x y ⟨j, k, hjk, hx, hy⟩ m n hm hn
    rwa [hm.unique (isLevel_of_inGeneration hx), hn.unique (isLevel_of_inGeneration hy)]

/-! ### The list as a whole -/

lemma ancestors_eq (t : Ty) :
    t.ancestors = t.closure notRoot ++ if t.isObject then [] else [object] := rfl

lemma notRoot_of_mem_closure (ht : t.isObject = false) (hs : s ∈ t.closure notRoot) :
    s.notRoot = true := by
  rw [closure_eq_distinct] at hs
  rcases List.mem_cons.mp (mem_of_mem_distinct hs) with rfl | hs
  · rw [notRoot, ht, Bool.not_false]
  · exact (List.mem_filter.mp hs).2

lemma nodup_names_ancestors (t : Ty) : (t.ancestors.map name).Nodup := by
  rw [ancestors_eq]
  cases ht : t.isObject with
  | true => simpa using nodup_names_closure notRoot t
  | false =>
    rw [if_neg Bool.false_ne_true, List.map_append, List.map_singleton, List.nodup_append]
    refine ⟨nodup_names_closure notRoot t, List.nodup_singleton _, fun n hn m hm => ?_⟩
    obtain ⟨s, hs, rfl⟩ := mem_map_name.mp hn
    rw [List.mem_singleton.mp hm]
    exact notRoot_iff.mp (notRoot_of_mem_closure ht hs)

lemma closure_eq_cons (keep : Ty → Bool) (t : Ty) : ∃ ts, t.closure keep = t :: ts := by
  rw [closure, flatten_generations]
  exact ⟨_, rfl⟩

lemma head?_ancestors (t : Ty) : t.ancestors.head? = some t := by
  obtain ⟨ts, hts⟩ := closure_eq_cons notRoot t
  rw [ancestors_eq, hts]
  rfl

lemma exists_getLast?_ancestors (ht : t.RootBare) :
    ∃ o, t.ancestors.getLast? = some o ∧ o.isObject = true := by
  rw [ancestors_eq]
  cases ho : t.isObject with
  | true =>
    rw [closure_of_supers_eq_nil (ht t .refl ho)]
    exact ⟨t, rfl, ho⟩
  | false => exact ⟨object, by simp, rfl⟩

/-- **The ancestors are what is assigned to, in the order of discovery.** If no handle of the root
in the hierarchy of a type declares supertypes, a type is an ancestor by name if and only if it is
assignable from it. The ancestors begin with the type and end with the root, no name occurs twice,
and in between they are listed level by level, each name where it is discovered first: as the
search with a queue expands them that passes over the root. -/
theorem ancestors_listed (ht : t.RootBare) :
    (∀ a : Ty, a.name ∈ t.ancestors.map name ↔ a.isAssignableFrom t = true) ∧
    t.ancestors.head? = some t ∧
    (∃ o, t.ancestors.getLast? = some o ∧ o.isObject = true) ∧
    (t.ancestors.map name).Nodup ∧
    ∃ ts, t.ancestors = ts ++ (if t.isObject then [] else [object]) ∧ ListsAbove t ts ∧
      ∃ rounds, (Search.round notRoot)^[rounds] (Search.above t) = ⟨ts, []⟩ := by
  refine ⟨fun a => (isAssignableFrom_iff_mem_ancestors ht).symm, head?_ancestors t,
    exists_getLast?_ancestors ht, nodup_names_ancestors t, t.closure notRoot, ancestors_eq t,
    listsAbove_closure t, _, Search.iterate_round_above notRoot t (Nat.le_refl _)⟩

def counted : Ty := mk "com.example.Counted" (by decide) .interface []

def basket : Ty := mk "com.example.Basket" (by decide) .interface []

def countedBasket : Ty := mk "com.example.Basket" (by decide) .interface [counted]

def fullBasket : Ty := mk "com.example.FullBasket" (by decide) .interface [countedBasket]

def sortedBasket : Ty := mk "com.example.SortedBasket" (by decide) .concrete [basket, fullBasket]

def baskets : List Ty := [sortedBasket, basket, fullBasket, countedBasket, counted]

lemma rootBare_sortedBasket : sortedBasket.RootBare := by
  have hclosed : baskets.flatMap supers ⊆ baskets := by
    show [basket, fullBasket, countedBasket, counted] ⊆ baskets
    simp [baskets]
  have hnames : ∀ s ∈ baskets, s.isObject = false := by decide
  intro s hs ho
  rw [hnames s (hs.mem hclosed List.mem_cons_self)] at ho
  exact absurd ho Bool.false_ne_true

/-- The name of the basket is discovered at a handle that declares nothing, and so what the other
handle declares is no ancestor. -/
theorem ancestors_listed_sortedBasket :
    sortedBasket.RootBare ∧ counted.isAssignableFrom sortedBasket = false ∧
      counted.name ∉ sortedBasket.ancestors.map name ∧
      ∃ ts, sortedBasket.ancestors = ts ++ [object] ∧ ListsAbove sortedBasket ts := by
  obtain ⟨hiff, -, -, -, ts, hts, habove, -⟩ := ancestors_listed rootBare_sortedBasket
  have hcounted : counted.isAssignableFrom sortedBasket = false := by cbv
  refine ⟨rootBare_sortedBasket, hcounted, fun h => ?_, ts, hts, habove⟩
  rw [(hiff counted).mp h] at hcounted
  exact absurd hcounted.symm Bool.false_ne_true

end ForeignCollections.Ty
