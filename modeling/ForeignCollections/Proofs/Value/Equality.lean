import Mathlib.Data.List.Forall2
import ForeignCollections.Proofs.Entries
import ForeignCollections.Value.Basic

/-!
Equality of values is an equivalence, on the values that are well formed: no set in them has two
equal members and no map two equal keys. A `Proper` value carries the proof of this, and what is built
with `setOf` and `mapOf` from proper values is proper.
Symmetry and transitivity need each other, since the place of an entry in a map is found by its
key; both are proved together, by induction on a bound for the sizes of the values compared.
-/

namespace ForeignCollections.Value

open Entries

/-- No set has two equal members and no map two equal keys, at any depth. -/
inductive WellFormed : Value → Prop where
  | null : WellFormed .null
  | bool (b : Bool) : WellFormed (.bool b)
  | int (n : Int64) : WellFormed (.int n)
  | text (s : String) : WellFormed (.text s)
  | sequence (t : Ty) {xs : List Value} (items : ∀ x ∈ xs, WellFormed x) :
      WellFormed (.sequence t xs)
  | set (t : Ty) {xs : List Value} (distinct : Distinct equal xs)
      (members : ∀ x ∈ xs, WellFormed x) : WellFormed (.set t xs)
  | map (t : Ty) {es : List (Value × Value)} (distinct : Distinct equal (es.map (·.1)))
      (keys : ∀ e ∈ es, WellFormed e.1) (values : ∀ e ∈ es, WellFormed e.2) :
      WellFormed (.map t es)

def EqualEntry (e f : Value × Value) : Prop := e.1.equal f.1 = true ∧ e.2.equal f.2 = true

lemma equalItems_iff {xs ys : List Value} :
    equalItems xs ys = true ↔ List.Forall₂ (fun x y => x.equal y = true) xs ys := by
  induction xs generalizing ys with
  | nil => cases ys <;> simp [equalItems]
  | cons x xs ih => cases ys <;> simp [equalItems, ih]

lemma allIn_iff {xs ys : List Value} :
    allIn xs ys = true ↔ ∀ x ∈ xs, ∃ y ∈ ys, x.equal y = true := by
  induction xs with
  | nil => simp [allIn]
  | cons x xs ih => simp [allIn, ih]

lemma entriesIn_iff {es fs : List (Value × Value)} :
    entriesIn es fs = true ↔
      ∀ e ∈ es, ∃ f, fs.find? (fun f => e.1.equal f.1) = some f ∧ e.2.equal f.2 = true := by
  induction es with
  | nil => simp [entriesIn]
  | cons e es ih =>
    rw [entriesIn, Bool.and_eq_true, ih, List.forall_mem_cons]
    refine and_congr_left fun _ => ?_
    cases fs.find? fun f => e.1.equal f.1 <;> simp

lemma mem_of_find?_key {k : Value} {fs : List (Value × Value)} {f : Value × Value}
    (h : fs.find? (fun f => k.equal f.1) = some f) : f ∈ fs ∧ k.equal f.1 = true :=
  ⟨List.mem_of_find?_eq_some h, by simpa using List.find?_some h⟩

lemma exists_equalEntry_of_entriesIn {es fs : List (Value × Value)}
    (h : entriesIn es fs = true) : ∀ e ∈ es, ∃ f ∈ fs, EqualEntry e f := by
  intro e he
  obtain ⟨f, hf, hv⟩ := entriesIn_iff.mp h e he
  obtain ⟨hm, hk⟩ := mem_of_find?_key hf
  exact ⟨f, hm, hk, hv⟩

/-- Where a key is equal to one key at most, equal entries can be looked for anywhere. -/
lemma entriesIn_of_unique {es fs : List (Value × Value)}
    (hu : ∀ e ∈ es, ∀ f ∈ fs, ∀ g ∈ fs, e.1.equal f.1 = true → e.1.equal g.1 = true → f = g)
    (h : ∀ e ∈ es, ∃ f ∈ fs, EqualEntry e f) : entriesIn es fs = true := by
  refine entriesIn_iff.mpr fun e he => ?_
  obtain ⟨f, hf, hk, hv⟩ := h e he
  have hsome : (fs.find? fun f => e.1.equal f.1).isSome = true :=
    List.find?_isSome.mpr ⟨f, hf, hk⟩
  obtain ⟨g, hg⟩ := Option.isSome_iff_exists.mp hsome
  obtain ⟨hm, hk'⟩ := mem_of_find?_key hg
  have hfg := hu e he f hf g hm hk hk'
  exact ⟨g, hg, hfg ▸ hv⟩

/-- On the values with the property `P`, equality is symmetric and transitive. -/
structure LawfulOn (P : Value → Prop) : Prop where
  symm : ∀ a b, P a → P b → a.equal b = true → b.equal a = true
  trans : ∀ a b c, P a → P b → P c → a.equal b = true → b.equal c = true → a.equal c = true

namespace LawfulOn

variable {P : Value → Prop} (hP : LawfulOn P)

include hP

lemma equalItems_symm {xs ys : List Value} (hx : ∀ x ∈ xs, P x) (hy : ∀ y ∈ ys, P y)
    (h : equalItems xs ys = true) : equalItems ys xs = true := by
  rw [equalItems_iff] at h ⊢
  induction h with
  | nil => exact List.Forall₂.nil
  | cons hxy _ ih =>
    rw [List.forall_mem_cons] at hx hy
    exact List.Forall₂.cons (hP.symm _ _ hx.1 hy.1 hxy) (ih hx.2 hy.2)

lemma equalItems_trans {xs ys zs : List Value} (hx : ∀ x ∈ xs, P x) (hy : ∀ y ∈ ys, P y)
    (hz : ∀ z ∈ zs, P z) (h : equalItems xs ys = true) (h' : equalItems ys zs = true) :
    equalItems xs zs = true := by
  rw [equalItems_iff] at h h' ⊢
  induction h generalizing zs with
  | nil => exact h'
  | cons hxy _ ih =>
    cases h' with
    | cons hyz h' =>
      rw [List.forall_mem_cons] at hx hy hz
      exact List.Forall₂.cons (hP.trans _ _ _ hx.1 hy.1 hz.1 hxy hyz) (ih hx.2 hy.2 hz.2 h')

lemma pairwise_apart {α : Type} {key : α → Value} {xs : List α}
    (hd : Distinct equal (xs.map key)) (hx : ∀ x ∈ xs, P (key x)) :
    xs.Pairwise fun x x' => ∀ y, P y → (key x).equal y = true → ¬(key x').equal y = true := by
  refine (List.pairwise_map.mp hd).imp_of_mem fun {x x'} hm hm' hne y hy hxy hxy' => ?_
  have hyx := hP.symm _ _ (hx x hm) hy hxy
  have hxx := hP.trans _ _ _ (hx x' hm') hy (hx x hm) hxy' hyx
  rw [hne] at hxx
  exact absurd hxx (by decide)

lemma members_apart {xs ys : List Value} (hx : ∀ x ∈ xs, P x) (hy : ∀ y ∈ ys, P y)
    (hd : Distinct equal xs) :
    xs.Pairwise fun x x' => ∀ y ∈ ys, x.equal y = true → ¬x'.equal y = true := by
  have hd' : Distinct equal (xs.map id) := by rwa [List.map_id]
  exact (hP.pairwise_apart hd' hx).imp fun hc y hm => hc y (hy y hm)

lemma entries_apart {es fs : List (Value × Value)} (he : ∀ e ∈ es, P e.1) (hf : ∀ f ∈ fs, P f.1)
    (hd : Distinct equal (es.map (·.1))) :
    es.Pairwise fun e e' => ∀ f ∈ fs, EqualEntry e f → ¬EqualEntry e' f :=
  (hP.pairwise_apart hd he).imp fun hc f hm hef hef' => hc f.1 (hf f hm) hef.1 hef'.1

lemma unique_entry {es : List (Value × Value)} {k : Value} (hd : Distinct equal (es.map (·.1)))
    (hk : P k) (he : ∀ e ∈ es, P e.1) :
    ∀ e ∈ es, ∀ f ∈ es, k.equal e.1 = true → k.equal f.1 = true → e = f := by
  intro e hm f hm' hke hkf
  have hek := hP.symm _ _ hk (he e hm) hke
  have hfk := hP.symm _ _ hk (he f hm') hkf
  exact hd.eq_of_same hm hm' (hP.trans _ _ _ (he e hm) hk (he f hm') hek hkf)
    (hP.trans _ _ _ (he f hm') hk (he e hm) hfk hke)

lemma allIn_symm {xs ys : List Value} (hx : ∀ x ∈ xs, P x) (hy : ∀ y ∈ ys, P y)
    (hd : Distinct equal xs) (hlen : xs.length = ys.length) (h : allIn xs ys = true) :
    allIn ys xs = true := by
  rw [allIn_iff] at h ⊢
  intro y hm
  obtain ⟨x, hm', hxy⟩ := forall_exists_of_length_le (Nat.le_of_eq hlen.symm)
    (hP.members_apart hx hy hd) h y hm
  exact ⟨x, hm', hP.symm _ _ (hx x hm') (hy y hm) hxy⟩

lemma allIn_trans {xs ys zs : List Value} (hx : ∀ x ∈ xs, P x) (hy : ∀ y ∈ ys, P y)
    (hz : ∀ z ∈ zs, P z) (h : allIn xs ys = true) (h' : allIn ys zs = true) :
    allIn xs zs = true := by
  rw [allIn_iff] at h h' ⊢
  intro x hm
  obtain ⟨y, hm', hxy⟩ := h x hm
  obtain ⟨z, hm'', hyz⟩ := h' y hm'
  exact ⟨z, hm'', hP.trans _ _ _ (hx x hm) (hy y hm') (hz z hm'') hxy hyz⟩

variable {es fs gs : List (Value × Value)}

lemma entriesIn_symm (he : ∀ e ∈ es, P e.1 ∧ P e.2) (hf : ∀ f ∈ fs, P f.1 ∧ P f.2)
    (hd : Distinct equal (es.map (·.1))) (hlen : es.length = fs.length)
    (h : entriesIn es fs = true) : entriesIn fs es = true := by
  have hinj := hP.entries_apart (fun e hm => (he e hm).1) (fun f hm => (hf f hm).1) hd
  refine entriesIn_of_unique ?_ ?_
  · intro f hm
    exact hP.unique_entry hd (hf f hm).1 fun e hm => (he e hm).1
  · intro f hm
    obtain ⟨e, hm', hk, hv⟩ := forall_exists_of_length_le (Nat.le_of_eq hlen.symm) hinj
      (exists_equalEntry_of_entriesIn h) f hm
    exact ⟨e, hm', hP.symm _ _ (he e hm').1 (hf f hm).1 hk,
      hP.symm _ _ (he e hm').2 (hf f hm).2 hv⟩

lemma entriesIn_trans (he : ∀ e ∈ es, P e.1 ∧ P e.2) (hf : ∀ f ∈ fs, P f.1 ∧ P f.2)
    (hg : ∀ g ∈ gs, P g.1 ∧ P g.2) (hd : Distinct equal (gs.map (·.1)))
    (h : entriesIn es fs = true) (h' : entriesIn fs gs = true) : entriesIn es gs = true := by
  refine entriesIn_of_unique ?_ ?_
  · intro e hm
    exact hP.unique_entry hd (he e hm).1 fun g hm => (hg g hm).1
  · intro e hm
    obtain ⟨f, hm', hk, hv⟩ := exists_equalEntry_of_entriesIn h e hm
    obtain ⟨g, hm'', hk', hv'⟩ := exists_equalEntry_of_entriesIn h' f hm'
    exact ⟨g, hm'', hP.trans _ _ _ (he e hm).1 (hf f hm').1 (hg g hm'').1 hk hk',
      hP.trans _ _ _ (he e hm).2 (hf f hm').2 (hg g hm'').2 hv hv'⟩

end LawfulOn

/-! ### The equivalence -/

def Below (n : Nat) (a : Value) : Prop := a.WellFormed ∧ sizeOf a < n

lemma below_of_mem {n : Nat} {xs : List Value} (hx : ∀ x ∈ xs, x.WellFormed)
    (h : sizeOf xs ≤ n) : ∀ x ∈ xs, x.Below n :=
  fun x hm => ⟨hx x hm, Nat.lt_of_lt_of_le (List.sizeOf_lt_of_mem hm) h⟩

lemma below_of_mem_entries {n : Nat} {es : List (Value × Value)}
    (hk : ∀ e ∈ es, e.1.WellFormed) (hv : ∀ e ∈ es, e.2.WellFormed) (h : sizeOf es ≤ n) :
    ∀ e ∈ es, e.1.Below n ∧ e.2.Below n := by
  rintro ⟨k, v⟩ hm
  have hlt := List.sizeOf_lt_of_mem hm
  rw [Prod.mk.sizeOf_spec] at hlt
  exact ⟨⟨hk _ hm, show sizeOf k < n by omega⟩, ⟨hv _ hm, show sizeOf v < n by omega⟩⟩

lemma symm_succ {n : Nat} (ih : LawfulOn (Below n)) {a b : Value} (ha : a.Below (n + 1))
    (hb : b.Below (n + 1)) (h : a.equal b = true) : b.equal a = true := by
  obtain ⟨ha, hsa⟩ := ha
  obtain ⟨hb, hsb⟩ := hb
  cases ha with
  | null => cases b <;> simp_all [equal]
  | bool => cases b <;> simp_all [equal]
  | int => cases b <;> simp_all [equal]
  | text => cases b <;> simp_all [equal]
  | sequence t hx =>
    cases hb with
    | sequence u hy =>
      simp only [sequence.sizeOf_spec] at hsa hsb
      rw [equal] at h ⊢
      exact ih.equalItems_symm (below_of_mem hx (by omega)) (below_of_mem hy (by omega)) h
    | _ => simp [equal] at h
  | set t hd hx =>
    cases hb with
    | set u _ hy =>
      simp only [set.sizeOf_spec] at hsa hsb
      rw [equal, Bool.and_eq_true, beq_iff_eq] at h ⊢
      exact ⟨h.1.symm, ih.allIn_symm (below_of_mem hx (by omega))
        (below_of_mem hy (by omega)) hd h.1 h.2⟩
    | _ => simp [equal] at h
  | map t hd hk hv =>
    cases hb with
    | map u _ hk' hv' =>
      simp only [map.sizeOf_spec] at hsa hsb
      rw [equal, Bool.and_eq_true, beq_iff_eq] at h ⊢
      exact ⟨h.1.symm, ih.entriesIn_symm (below_of_mem_entries hk hv (by omega))
        (below_of_mem_entries hk' hv' (by omega)) hd h.1 h.2⟩
    | _ => simp [equal] at h

lemma trans_succ {n : Nat} (ih : LawfulOn (Below n)) {a b c : Value} (ha : a.Below (n + 1))
    (hb : b.Below (n + 1)) (hc : c.Below (n + 1)) (h : a.equal b = true)
    (h' : b.equal c = true) : a.equal c = true := by
  obtain ⟨ha, hsa⟩ := ha
  obtain ⟨hb, hsb⟩ := hb
  obtain ⟨hc, hsc⟩ := hc
  cases hb with
  | null => cases a <;> simp_all [equal]
  | bool => cases a <;> simp_all [equal]
  | int => cases a <;> simp_all [equal]
  | text => cases a <;> simp_all [equal]
  | sequence t hy =>
    cases ha with
    | sequence u hx =>
      cases hc with
      | sequence w hz =>
        simp only [sequence.sizeOf_spec] at hsa hsb hsc
        rw [equal] at h h' ⊢
        exact ih.equalItems_trans (below_of_mem hx (by omega)) (below_of_mem hy (by omega))
          (below_of_mem hz (by omega)) h h'
      | _ => simp [equal] at h'
    | _ => simp [equal] at h
  | set t _ hy =>
    cases ha with
    | set u _ hx =>
      cases hc with
      | set w _ hz =>
        simp only [set.sizeOf_spec] at hsa hsb hsc
        rw [equal, Bool.and_eq_true, beq_iff_eq] at h h' ⊢
        exact ⟨h.1.trans h'.1, ih.allIn_trans (below_of_mem hx (by omega))
          (below_of_mem hy (by omega)) (below_of_mem hz (by omega)) h.2 h'.2⟩
      | _ => simp [equal] at h'
    | _ => simp [equal] at h
  | map t _ hk' hv' =>
    cases ha with
    | map u _ hk hv =>
      cases hc with
      | map w hd hk'' hv'' =>
        simp only [map.sizeOf_spec] at hsa hsb hsc
        rw [equal, Bool.and_eq_true, beq_iff_eq] at h h' ⊢
        exact ⟨h.1.trans h'.1, ih.entriesIn_trans (below_of_mem_entries hk hv (by omega))
          (below_of_mem_entries hk' hv' (by omega)) (below_of_mem_entries hk'' hv'' (by omega))
          hd h.2 h'.2⟩
      | _ => simp [equal] at h'
    | _ => simp [equal] at h

lemma lawfulOn_below (n : Nat) : LawfulOn (Below n) := by
  induction n with
  | zero =>
    exact ⟨fun _ _ ha _ _ => absurd ha.2 (Nat.not_lt_zero _),
      fun _ _ _ ha _ _ _ _ => absurd ha.2 (Nat.not_lt_zero _)⟩
  | succ n ih =>
    exact ⟨fun _ _ ha hb h => symm_succ ih ha hb h,
      fun _ _ _ ha hb hc h h' => trans_succ ih ha hb hc h h'⟩

/-- **Equality of well-formed values is symmetric and transitive.** -/
lemma lawfulOn_wellFormed : LawfulOn WellFormed where
  symm a b ha hb h := by
    refine (lawfulOn_below (sizeOf a + sizeOf b + 1)).symm a b ⟨ha, ?_⟩ ⟨hb, ?_⟩ h <;> omega
  trans a b c ha hb hc h h' := by
    refine (lawfulOn_below (sizeOf a + sizeOf b + sizeOf c + 1)).trans a b c ⟨ha, ?_⟩ ⟨hb, ?_⟩
      ⟨hc, ?_⟩ h h' <;> omega

/-! ### Sets built from items -/

lemma WellFormed.items {v : Value} (hv : v.WellFormed) : ∀ x ∈ v.items, x.WellFormed := by
  cases hv with
  | sequence _ hx => exact hx
  | set _ _ hx => exact hx
  | _ => exact fun _ hx => absurd hx List.not_mem_nil

def entries : Value → List (Value × Value)
  | map _ es => es
  | _ => []

lemma WellFormed.keys {v : Value} (hv : v.WellFormed) : ∀ e ∈ v.entries, e.1.WellFormed := by
  cases hv with
  | map _ _ hk _ => exact hk
  | _ => exact fun _ he => absurd he List.not_mem_nil

lemma membersOf_sameKey {xs : List Value} (hx : ∀ x ∈ xs, x.WellFormed) :
    membersOf sameKey xs = withoutRepeats equal xs := by
  have hsame : sameKey = equal := funext fun a => funext fun b => sameKey_eq_equal a b
  have hpass : PassesOn equal xs := fun x hxm y hym z hzm =>
    lawfulOn_wellFormed.trans x y z (hx x hxm) (hx y hym) (hx z hzm)
  rw [hsame, membersOf_eq_withoutRepeats hpass]

/-- **A set holds its items without the repetitions.** -/
lemma setOf_eq {xs : List Value} (hx : ∀ x ∈ xs, x.WellFormed) (t : Ty) :
    setOf t xs = .set t (withoutRepeats equal xs) := by
  rw [setOf, membersOf_sameKey hx]

/-- **What is built from well-formed values is well formed**, sets first. -/
lemma wellFormed_setOf {xs : List Value} (hx : ∀ x ∈ xs, x.WellFormed) (t : Ty) :
    (setOf t xs).WellFormed := by
  rw [setOf_eq hx]
  exact .set t (distinct_withoutRepeats xs) fun x hm => hx x (mem_of_mem_withoutRepeats hm)

lemma wellFormed_mapOf {es : List (Value × Value)} (hk : ∀ e ∈ es, e.1.WellFormed)
    (hv : ∀ e ∈ es, e.2.WellFormed) (t : Ty) : (mapOf t es).WellFormed := by
  have hkeys : ∀ x ∈ es.map (·.1), x.WellFormed := List.forall_mem_map.mpr hk
  have hvalues : ∀ x ∈ es.map (·.2), x.WellFormed := List.forall_mem_map.mpr hv
  refine .map t ?_ (fun e he => hkeys _ (mem_entriesOf he).1)
    fun e he => hvalues _ (mem_entriesOf he).2
  rw [keys_entriesOf, membersOf_sameKey hkeys]
  exact distinct_withoutRepeats _

lemma setOf_of_wellFormed {t : Ty} {xs : List Value} (h : (set t xs).WellFormed) (u : Ty) :
    setOf u xs = .set u xs := by
  cases h with
  | set _ hd hx => rw [setOf_eq hx, withoutRepeats_of_distinct hd]

/-! ### Values that are well formed as they are built -/

/-- A value with the proof that it is well formed. -/
structure Proper where
  value : Value
  wellFormed : value.WellFormed

namespace Proper

instance : CoeOut Proper Value := ⟨value⟩

def null : Proper := ⟨.null, .null⟩

def int (n : Int64) : Proper := ⟨.int n, .int n⟩

def text (s : String) : Proper := ⟨.text s, .text s⟩

def sequence (t : Ty) (xs : List Proper) : Proper :=
  ⟨.sequence t (xs.map value), .sequence t (List.forall_mem_map.mpr fun x _ => x.wellFormed)⟩

def setOf (t : Ty) (xs : List Proper) : Proper :=
  ⟨.setOf t (xs.map value), wellFormed_setOf (List.forall_mem_map.mpr fun x _ => x.wellFormed) t⟩

def mapOf (t : Ty) (es : List (Proper × Proper)) : Proper where
  value := .mapOf t (es.map fun e => (e.1.value, e.2.value))
  wellFormed := wellFormed_mapOf (List.forall_mem_map.mpr fun e _ => e.1.wellFormed)
    (List.forall_mem_map.mpr fun e _ => e.2.wellFormed) t

end Proper

end ForeignCollections.Value
