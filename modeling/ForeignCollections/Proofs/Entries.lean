import Mathlib.Data.List.Forall2
import Mathlib.Data.List.Pairwise
import Mathlib.Tactic.Common
import ForeignCollections.Entries

/-!
Lists without repetition. Adding members one by one keeps the first of those that are the same,
which is what leaving out the repetitions of a list comes to once `same` passes on. Two such lists
can be put side by side, item by item, if no two items of one go to the same item of the other.
-/

namespace ForeignCollections.Entries

variable {κ α β : Type} {same : κ → κ → Bool}

/-- No item is the same as an earlier one. -/
def Distinct (same : κ → κ → Bool) (xs : List κ) : Prop :=
  xs.Pairwise fun x y => same y x = false

/-- A list without the items that are the same as an earlier one. -/
def withoutRepeats (same : κ → κ → Bool) : List κ → List κ
  | [] => []
  | x :: xs => x :: (withoutRepeats same xs).filter fun y => !same y x

/-- On the items of a list, being the same passes on. -/
def PassesOn (same : κ → κ → Bool) (xs : List κ) : Prop :=
  ∀ x ∈ xs, ∀ y ∈ xs, ∀ z ∈ xs, same x y = true → same y z = true → same x z = true

lemma mem_of_mem_withoutRepeats {x : κ} {xs : List κ} (h : x ∈ withoutRepeats same xs) :
    x ∈ xs := by
  induction xs with
  | nil => exact h
  | cons y ys ih =>
    rcases List.mem_cons.mp h with rfl | h
    · exact List.mem_cons_self
    · exact List.mem_cons_of_mem _ (ih (List.mem_filter.mp h).1)

lemma distinct_withoutRepeats (xs : List κ) : Distinct same (withoutRepeats same xs) := by
  induction xs with
  | nil => exact List.Pairwise.nil
  | cons x xs ih =>
    refine List.Pairwise.cons (fun y hy => ?_) (ih.filter _)
    simpa using (List.mem_filter.mp hy).2

lemma withoutRepeats_of_distinct {xs : List κ} (h : Distinct same xs) :
    withoutRepeats same xs = xs := by
  induction xs with
  | nil => rfl
  | cons x xs ih =>
    obtain ⟨hx, hxs⟩ := List.pairwise_cons.mp h
    rw [withoutRepeats, ih hxs, List.filter_eq_self.mpr]
    intro y hy
    simp [hx y hy]

lemma mem_withoutRepeats_iff {x : κ} {xs : List κ} (hself : ∀ y, same y y = true) :
    x ∈ withoutRepeats same xs ↔ xs.find? (same x) = some x := by
  induction xs with
  | nil => simp [withoutRepeats]
  | cons a as ih =>
    rw [withoutRepeats, List.mem_cons, List.mem_filter, ih, List.find?_cons]
    by_cases hxa : same x a = true
    · rw [hxa, Bool.not_true]
      simp [eq_comm]
    · rw [Bool.eq_false_iff.mpr hxa, Bool.not_false]
      have hne : x ≠ a := by
        rintro rfl
        exact hxa (hself x)
      simp [hne]

lemma find?_withoutRepeats {p : κ → Bool} (hp : ∀ x y, same x y = true → p x = p y)
    (xs : List κ) : (withoutRepeats same xs).find? p = xs.find? p := by
  induction xs with
  | nil => rfl
  | cons a as ih =>
    rw [withoutRepeats, List.find?_cons, List.find?_cons, List.find?_filter]
    cases ha : p a with
    | true => rfl
    | false =>
      have hfilter : (fun y => !same y a && p y) = p := by
        funext y
        cases hya : same y a with
        | false => rfl
        | true => exact (ha.symm.trans (hp y a hya).symm)
      simp only [Bool.decide_and, Bool.decide_eq_true, hfilter]
      exact ih

lemma withoutRepeats_append (xs ys : List κ) : withoutRepeats same (xs ++ ys) =
    withoutRepeats same xs ++ (withoutRepeats same ys).filter fun y => !xs.any (same y) := by
  induction xs with
  | nil => exact (List.filter_eq_self.mpr fun _ _ => rfl).symm
  | cons x xs ih =>
    rw [List.cons_append, withoutRepeats, withoutRepeats, ih, List.filter_append,
      List.filter_filter, List.cons_append]
    simp only [List.any_cons, Bool.not_or]

lemma prefix_withoutRepeats {xs ys : List κ} (h : xs <+: ys) :
    withoutRepeats same xs <+: withoutRepeats same ys := by
  obtain ⟨zs, rfl⟩ := h
  rw [withoutRepeats_append]
  exact List.prefix_append _ _

lemma withoutRepeats_map {same' : β → β → Bool} {f : κ → β} {xs : List κ}
    (h : ∀ x ∈ xs, ∀ y ∈ xs, same' (f x) (f y) = same x y) :
    withoutRepeats same' (xs.map f) = (withoutRepeats same xs).map f := by
  induction xs with
  | nil => rfl
  | cons x xs ih =>
    have htail := ih fun y hy z hz => h y (List.mem_cons_of_mem x hy) z (List.mem_cons_of_mem x hz)
    rw [List.map_cons, withoutRepeats, withoutRepeats, htail, List.map_cons, List.filter_map]
    congr 2
    refine List.filter_congr fun y hy => ?_
    have hy := List.mem_cons_of_mem x (mem_of_mem_withoutRepeats hy)
    rw [Function.comp_apply, h y hy x List.mem_cons_self]

lemma exists_same_mem_withoutRepeats {x : κ} {xs : List κ} (hx : x ∈ xs)
    (hself : ∀ y, same y y = true) (h : PassesOn same xs) :
    ∃ y ∈ withoutRepeats same xs, same x y = true := by
  induction xs with
  | nil => exact nomatch hx
  | cons a as ih =>
    rcases List.mem_cons.mp hx with rfl | hx
    · exact ⟨x, List.mem_cons_self, hself x⟩
    · have htail : PassesOn same as := fun u hu v hv w hw =>
        h u (List.mem_cons_of_mem a hu) v (List.mem_cons_of_mem a hv) w (List.mem_cons_of_mem a hw)
      obtain ⟨y, hy, hxy⟩ := ih hx htail
      by_cases hya : same y a = true
      · have hys := List.mem_cons_of_mem a (mem_of_mem_withoutRepeats hy)
        exact ⟨a, List.mem_cons_self,
          h x (List.mem_cons_of_mem a hx) y hys a List.mem_cons_self hxy hya⟩
      · exact ⟨y, List.mem_cons_of_mem a (List.mem_filter.mpr ⟨hy, by simpa using hya⟩), hxy⟩

/-- Adding members to some that are there leaves out what is the same as one of these. -/
lemma foldl_addMember (acc xs : List κ) (h : PassesOn same (acc ++ xs)) :
    xs.foldl (addMember same) acc =
      acc ++ (withoutRepeats same xs).filter fun y => !acc.any (same y) := by
  induction xs generalizing acc with
  | nil => simp [withoutRepeats]
  | cons x xs ih =>
    rw [List.foldl_cons, addMember, withoutRepeats]
    by_cases hx : acc.any (same x) = true
    · -- `x` is dropped, and with it whatever is the same as `x`
      obtain ⟨a, ha, hxa⟩ := List.any_eq_true.mp hx
      have hsub : PassesOn same (acc ++ xs) := fun u hu v hv w hw =>
        h u (by grind) v (by grind) w (by grind)
      rw [if_pos hx, ih acc hsub, List.filter_cons_of_neg (by simp [hx]), List.filter_filter]
      congr 1
      refine List.filter_congr fun y hy => ?_
      have hya : same y x = true → same y a = true := fun hyx =>
        h y (by simp [mem_of_mem_withoutRepeats hy]) x (by simp) a (by simp [ha]) hyx hxa
      by_cases hyx : same y x = true
      · have : acc.any (same y) = true := List.any_eq_true.mpr ⟨a, ha, hya hyx⟩
        simp [this]
      · simp [hyx]
    · rw [if_neg hx, ih (acc ++ [x]) (by simpa using h),
        List.filter_cons_of_pos (by simpa using hx), List.filter_filter, List.append_assoc,
        List.singleton_append]
      congr 2
      refine List.filter_congr fun y _ => ?_
      simp [Bool.not_or]

/-- **The members of a list** are its items without the repetitions. -/
lemma membersOf_eq_withoutRepeats {xs : List κ} (h : PassesOn same xs) :
    membersOf same xs = withoutRepeats same xs := by
  have hfold := foldl_addMember [] xs h
  rw [membersOf, hfold, List.nil_append, List.filter_eq_self]
  intro y _
  rfl

lemma mem_put {es : List (κ × α)} {k : κ} {v : α} {e : κ × α} (h : e ∈ put same es k v) :
    e.1 ∈ k :: es.map (·.1) ∧ e.2 ∈ v :: es.map (·.2) := by
  induction es with
  | nil =>
    rw [put, List.mem_singleton] at h
    simp [h]
  | cons f es ih =>
    rw [put] at h
    split at h
    · rcases List.mem_cons.mp h with rfl | h
      · simp
      · simp [List.mem_map_of_mem h]
    · rcases List.mem_cons.mp h with rfl | h
      · simp
      · have := ih h
        grind

lemma mem_entriesOf {es : List (κ × α)} {e : κ × α} (h : e ∈ entriesOf same es) :
    e.1 ∈ es.map (·.1) ∧ e.2 ∈ es.map (·.2) := by
  suffices hfold : ∀ found : List (κ × α),
      e ∈ es.foldl (fun found e => put same found e.1 e.2) found →
        e.1 ∈ found.map (·.1) ++ es.map (·.1) ∧ e.2 ∈ found.map (·.2) ++ es.map (·.2) from
    hfold [] h
  clear h
  induction es with
  | nil =>
    intro found h
    rw [List.foldl_nil] at h
    exact ⟨List.mem_append_left _ (List.mem_map_of_mem h),
      List.mem_append_left _ (List.mem_map_of_mem h)⟩
  | cons f es ih =>
    intro found h
    obtain ⟨hk, hv⟩ := ih _ h
    have hput := @mem_put κ α same found f.1 f.2
    simp only [List.mem_append, List.mem_map, List.map_cons, List.mem_cons] at hk hv hput ⊢
    grind

lemma put_of_new {es : List (κ × α)} {k : κ} (h : ∀ e ∈ es, same k e.1 = false) (v : α) :
    put same es k v = es ++ [(k, v)] := by
  induction es with
  | nil => rfl
  | cons e es ih =>
    rw [List.forall_mem_cons] at h
    rw [put, h.1, if_neg Bool.false_ne_true, ih h.2, List.cons_append]

lemma foldl_put {found es : List (κ × α)} (h : Distinct same ((found ++ es).map (·.1))) :
    es.foldl (fun found e => put same found e.1 e.2) found = found ++ es := by
  induction es generalizing found with
  | nil => rw [List.foldl_nil, List.append_nil]
  | cons e es ih =>
    have hnew : ∀ f ∈ found, same e.1 f.1 = false := fun f hf =>
      (List.pairwise_append.mp (List.pairwise_map.mp h)).2.2 f hf e List.mem_cons_self
    rw [List.foldl_cons, put_of_new hnew, ih (by simpa using h), List.append_assoc]
    rfl

/-- **Entries of distinct keys** stay as they are. -/
lemma entriesOf_of_distinct {es : List (κ × α)} (h : Distinct same (es.map (·.1))) :
    entriesOf same es = es := by
  rw [entriesOf, foldl_put (by simpa using h), List.nil_append]

lemma Distinct.eq_of_same {es : List (κ × α)} (h : Distinct same (es.map (·.1))) {e f : κ × α}
    (he : e ∈ es) (hf : f ∈ es) (hef : same e.1 f.1 = true) (hfe : same f.1 e.1 = true) :
    e = f := by
  let Apart (e f : κ × α) : Prop := ¬(same e.1 f.1 = true ∧ same f.1 e.1 = true)
  have hsymm : Std.Symm Apart := ⟨fun _ _ hc hs => hc hs.symm⟩
  have hp : es.Pairwise Apart := (List.pairwise_map.mp h).imp fun hne hc => by simp [hne] at hc
  by_contra hne
  exact hp.forall he hf hne ⟨hef, hfe⟩

/-! ### Lists side by side -/

variable {γ : Type} {R S : α → β → Prop} {xs : List α} {ys : List β}

lemma map_eq_map_of_forall₂ {f : β → γ} {g : α → γ} (h : List.Forall₂ R xs ys)
    (hfg : ∀ x ∈ xs, ∀ y, R x y → f y = g x) : ys.map f = xs.map g := by
  induction h with
  | nil => rfl
  | cons hxy _ ih =>
    rw [List.forall_mem_cons] at hfg
    rw [List.map_cons, List.map_cons, hfg.1 _ hxy, ih hfg.2]

lemma exists_right_of_forall₂ (h : List.Forall₂ R xs ys) {x : α} (hx : x ∈ xs) :
    ∃ y ∈ ys, R x y := by
  induction h with
  | nil => cases hx
  | cons hxy _ ih =>
    rcases List.mem_cons.mp hx with rfl | hx
    · exact ⟨_, List.mem_cons_self, hxy⟩
    · obtain ⟨y, hy, hxy⟩ := ih hx
      exact ⟨y, List.mem_cons_of_mem _ hy, hxy⟩

lemma exists_left_of_forall₂ (h : List.Forall₂ R xs ys) {y : β} (hy : y ∈ ys) :
    ∃ x ∈ xs, R x y :=
  exists_right_of_forall₂ h.flip hy

lemma forall₂_iff_of_mem (h : ∀ x ∈ xs, ∀ y ∈ ys, R x y ↔ S x y) :
    List.Forall₂ R xs ys ↔ List.Forall₂ S xs ys := by
  induction xs generalizing ys with
  | nil => cases ys <;> simp
  | cons x xs ih =>
    cases ys with
    | nil => simp
    | cons y ys =>
      rw [List.forall₂_cons, List.forall₂_cons, h x List.mem_cons_self y List.mem_cons_self]
      refine and_congr_right fun _ => ih fun x hx y hy => ?_
      exact h x (List.mem_cons_of_mem _ hx) y (List.mem_cons_of_mem _ hy)

lemma forall₂_and_iff :
    List.Forall₂ (fun x y => R x y ∧ S x y) xs ys ↔
      List.Forall₂ R xs ys ∧ List.Forall₂ S xs ys := by
  induction xs generalizing ys with
  | nil => cases ys <;> simp
  | cons x xs ih =>
    cases ys with
    | nil => simp
    | cons y ys =>
      simp only [List.forall₂_cons, ih]
      exact and_and_and_comm

/-- If the items of one list go to items of another that is no longer, no two to the same one, then
the other list can be put in the order in which its items are met. -/
lemma exists_perm_forall₂ (hlen : ys.length ≤ xs.length)
    (hinj : xs.Pairwise fun x x' => ∀ y ∈ ys, R x y → ¬R x' y)
    (h : ∀ x ∈ xs, ∃ y ∈ ys, R x y) : ∃ zs, zs.Perm ys ∧ List.Forall₂ R xs zs := by
  induction xs generalizing ys with
  | nil =>
    rw [List.length_nil, Nat.le_zero, List.length_eq_zero_iff] at hlen
    exact ⟨[], hlen ▸ .refl _, .nil⟩
  | cons x xs ih =>
    obtain ⟨y₀, hy₀, hxy₀⟩ := h x List.mem_cons_self
    obtain ⟨as, bs, rfl⟩ := List.append_of_mem hy₀
    obtain ⟨hx, hxs⟩ := List.pairwise_cons.mp hinj
    -- `y₀` is taken by `x` alone, so the others find theirs beside it
    have hrest : ∀ x' ∈ xs, ∃ y ∈ as ++ bs, R x' y := by
      intro x' hx'
      obtain ⟨y, hy, hxy⟩ := h x' (List.mem_cons_of_mem _ hx')
      have hne : y ≠ y₀ := by
        rintro rfl
        exact hx x' hx' y hy₀ hxy₀ hxy
      exact ⟨y, by grind, hxy⟩
    obtain ⟨zs, hperm, hzs⟩ := ih (by simp at hlen ⊢; omega)
      (hxs.imp fun hc y hy => hc y (by grind)) hrest
    exact ⟨y₀ :: zs, (hperm.cons y₀).trans List.perm_middle.symm, .cons hxy₀ hzs⟩

lemma forall_exists_of_length_le (hlen : ys.length ≤ xs.length)
    (hinj : xs.Pairwise fun x x' => ∀ y ∈ ys, R x y → ¬R x' y)
    (h : ∀ x ∈ xs, ∃ y ∈ ys, R x y) : ∀ y ∈ ys, ∃ x ∈ xs, R x y := by
  obtain ⟨zs, hperm, hzs⟩ := exists_perm_forall₂ hlen hinj h
  exact fun y hy => exists_left_of_forall₂ hzs (hperm.mem_iff.mpr hy)

end ForeignCollections.Entries
