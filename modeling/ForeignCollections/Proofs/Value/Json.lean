import Mathlib.Data.List.Perm.Subperm
import ForeignCollections.Proofs.Json.WellFormed
import ForeignCollections.Proofs.Value.Equality
import ForeignCollections.Value.Json

/-!
What a JSON value is read into and what it becomes on the way back. A JSON value without repeated
keys comes back as it was: its members keep their order, and since all keys are texts a map is never
written as pairs. Equality of what is read is equality of JSON values up to the order of members, so
that a set that is built from an array is written as the array without its repetitions.
-/

namespace ForeignCollections

namespace Json

open Entries

/-- The same JSON value, if the order of the members of objects does not count. -/
inductive Same : Json → Json → Prop where
  | null : Same .null .null
  | bool (b : Bool) : Same (.bool b) (.bool b)
  | number (n : Number) : Same (.number n) (.number n)
  | text (s : String) : Same (.text s) (.text s)
  | array {js ks : List Json} (items : List.Forall₂ Same js ks) : Same (.array js) (.array ks)
  | object {ms ns : List (String × Json)} (keys : ∀ k, k ∈ ms.map (·.1) ↔ k ∈ ns.map (·.1))
      (values : ∀ m ∈ ms, ∀ n ∈ ns, m.1 = n.1 → Same m.2 n.2) : Same (.object ms) (.object ns)

open Classical in
/-- An array without the items that are the same as an earlier one. -/
noncomputable def firsts (js : List Json) : List Json :=
  withoutRepeats (fun a b => decide (a.Same b)) js

lemma same_iff_eq {a b : Json} (harray : ∀ js, a ≠ .array js) (hobject : ∀ ms, a ≠ .object ms) :
    a.Same b ↔ a = b := by
  constructor
  · intro h
    cases h with
    | array => exact absurd rfl (harray _)
    | object => exact absurd rfl (hobject _)
    | _ => rfl
  · rintro rfl
    cases a with
    | array js => exact absurd rfl (harray js)
    | object ms => exact absurd rfl (hobject ms)
    | _ => constructor

/-- Of two objects with as many members, each without repeated keys, it is enough to look up the
members of one in the other. -/
lemma same_object_iff {ms ns : List (String × Json)} (hm : (ms.map (·.1)).Nodup)
    (hn : (ns.map (·.1)).Nodup) : Same (.object ms) (.object ns) ↔
      ms.length = ns.length ∧ ∀ m ∈ ms, ∃ n ∈ ns, m.1 = n.1 ∧ m.2.Same n.2 := by
  constructor
  · intro h
    cases h with
    | object keys values =>
      refine ⟨by simpa using ((List.perm_ext_iff_of_nodup hm hn).mpr keys).length_eq, ?_⟩
      intro m hmem
      obtain ⟨n, hnmem, hk⟩ := List.mem_map.mp ((keys m.1).mp (List.mem_map_of_mem hmem))
      exact ⟨n, hnmem, hk.symm, values m hmem n hnmem hk.symm⟩
  · rintro ⟨hlen, h⟩
    have hsub : ms.map (·.1) ⊆ ns.map (·.1) := by
      intro k hk
      obtain ⟨m, hmem, rfl⟩ := List.mem_map.mp hk
      obtain ⟨n, hnmem, hkey, -⟩ := h m hmem
      exact hkey ▸ List.mem_map_of_mem hnmem
    have hperm := (List.subperm_of_subset hm hsub).perm_of_length_le (by simp [hlen])
    refine .object (fun k => hperm.mem_iff) fun m hmem n hnmem hk => ?_
    obtain ⟨n', hnmem', hk', hsame⟩ := h m hmem
    rwa [List.inj_on_of_nodup_map hn hnmem hnmem' (hk.symm.trans hk')]

lemma Number.ofInt64_of_int64? {n : Number} {i : Int64} (h : n.int64? = some i) :
    .ofInt64 i = n := by
  cases n with
  | integer z =>
    rw [Number.int64?] at h
    split at h
    · rename_i hz
      cases h
      rw [Number.ofInt64, Int64.toInt_ofInt_of_le hz.1 (Int.lt_of_le_of_lt hz.2 (by decide))]
    · cases h
  | real => cases h

end Json

namespace Value

open Entries

/-! ### Reading -/

/-- The entry of a map that a member of an object is read into. -/
structure OfMember (m : String × Json) (e : Value × Value) : Prop where
  key : e.1 = .text m.1
  value : ofJson m.2 = .ok e.2

/-- What a JSON value is read into, by its form. -/
inductive OfJson : Json → Value → Prop where
  | null : OfJson .null .null
  | bool (b : Bool) : OfJson (.bool b) (.bool b)
  | int (i : Int64) : OfJson (.number (.ofInt64 i)) (.int i)
  | text (s : String) : OfJson (.text s) (.text s)
  | array {js : List Json} {vs : List Value}
      (items : List.Forall₂ (fun j v => ofJson j = .ok v) js vs) : OfJson (.array js) (arrayList vs)
  | object {ms : List (String × Json)} {es : List (Value × Value)}
      (members : List.Forall₂ OfMember ms es) :
      OfJson (.object ms) (.map Native.linkedHashMap es)

lemma forall₂_of_ofJsonItems {js : List Json} {vs : List Value} (h : ofJsonItems js = .ok vs) :
    List.Forall₂ (fun j v => ofJson j = .ok v) js vs := by
  induction js generalizing vs with
  | nil =>
    cases h
    exact .nil
  | cons j js ih =>
    obtain ⟨v, hv, h⟩ := bind_eq_ok_iff.mp h
    obtain ⟨vs, hvs, h⟩ := bind_eq_ok_iff.mp h
    cases h
    exact .cons hv (ih hvs)

lemma forall₂_of_ofJsonMembers {ms : List (String × Json)} {es : List (Value × Value)}
    (h : ofJsonMembers ms = .ok es) : List.Forall₂ OfMember ms es := by
  induction ms generalizing es with
  | nil =>
    cases h
    exact .nil
  | cons m ms ih =>
    obtain ⟨v, hv, h⟩ := bind_eq_ok_iff.mp h
    obtain ⟨es, hes, h⟩ := bind_eq_ok_iff.mp h
    cases h
    exact .cons ⟨rfl, hv⟩ (ih hes)

lemma keys_of_forall₂ {ms : List (String × Json)} {es : List (Value × Value)}
    (h : List.Forall₂ OfMember ms es) : es.map (·.1) = (ms.map (·.1)).map .text := by
  rw [List.map_map]
  exact map_eq_map_of_forall₂ h fun _ _ _ he => he.key

lemma wellFormed_keys {ms : List (String × Json)} {es : List (Value × Value)}
    (h : List.Forall₂ OfMember ms es) : ∀ e ∈ es, e.1.WellFormed := by
  intro e he
  obtain ⟨m, -, hm⟩ := exists_left_of_forall₂ h he
  rw [hm.key]
  exact .text m.1

lemma distinct_texts {keys : List String} (h : keys.Nodup) :
    Distinct equal (keys.map .text) := by
  refine List.pairwise_map.mpr (h.imp fun {k l} hne => ?_)
  rw [equal, beq_eq_false_iff_ne]
  exact hne.symm

/-- **Without repeated keys**, no member of an object is lost. -/
lemma ofJson_cases {j : Json} {v : Value} (hj : j.WellFormed) (h : ofJson j = .ok v) :
    OfJson j v := by
  cases hj with
  | null =>
    cases h
    exact .null
  | bool b =>
    cases h
    exact .bool b
  | number n =>
    rw [ofJson] at h
    split at h
    · rename_i i hi
      cases h
      exact Json.Number.ofInt64_of_int64? hi ▸ .int i
    · cases h
  | text s =>
    cases h
    exact .text s
  | array =>
    obtain ⟨vs, hvs, rfl⟩ := map_eq_ok_iff.mp h
    exact .array (forall₂_of_ofJsonItems hvs)
  | object distinct =>
    obtain ⟨es, hes, rfl⟩ := map_eq_ok_iff.mp h
    have hmembers := forall₂_of_ofJsonMembers hes
    have hd : Distinct sameKey (es.map (·.1)) := by
      rw [funext₂ sameKey_eq_equal, keys_of_forall₂ hmembers]
      exact distinct_texts distinct
    rw [linkedHashMap, mapOf, entriesOf_of_distinct hd]
    exact .object hmembers

/-! ### Writing -/

lemma toJsonItems_eq_map (vs : List Value) : toJsonItems vs = vs.map toJson := by
  induction vs with
  | nil => rfl
  | cons v vs ih => rw [toJsonItems, ih, List.map_cons]

lemma toJsonPairs_eq_map (es : List (Value × Value)) :
    toJsonPairs es = es.map fun e => (e.1.toJson, e.2.toJson) := by
  induction es with
  | nil => rfl
  | cons e es ih => rw [toJsonPairs, ih, List.map_cons]

lemma ofPairs_texts {ms : List (String × Json)} (h : (ms.map (·.1)).Nodup) :
    Json.ofPairs (ms.map fun m => (.text m.1, m.2)) = .object ms := by
  have hmembers : ((ms.map fun m => (Json.text m.1, m.2)).mapM fun p =>
      p.1.text?.map fun k => (k, p.2)) = some ms := by
    clear h
    induction ms with
    | nil => rfl
    | cons m ms ih =>
      rw [List.map_cons, List.mapM_cons, ih]
      rfl
  rw [Json.ofPairs, hmembers]
  exact Json.ofMembers_of_nodup h

/-- **What is read is written as it was**, members in their order. -/
lemma toJson_of_ofJson {j : Json} {v : Value} (hj : j.WellFormed) (h : ofJson j = .ok v) :
    v.toJson = j := by
  induction hj generalizing v with
  | null | bool | number | text =>
    cases ofJson_cases (by constructor) h
    rfl
  | array hjs ih =>
    cases ofJson_cases (.array hjs) h with
    | array items =>
      rw [arrayList, toJson, toJsonItems_eq_map, map_eq_map_of_forall₂ items ih, List.map_id']
  | object distinct values ih =>
    cases ofJson_cases (.object distinct values) h with
    | object members =>
      have hpairs : ∀ m ∈ _, ∀ e, OfMember m e →
          (e.1.toJson, e.2.toJson) = (Json.text m.1, m.2) := fun m hm e he => by
        rw [he.key, ih m hm he.value, toJson]
      rw [toJson, toJsonPairs_eq_map, map_eq_map_of_forall₂ members hpairs, ofPairs_texts distinct]

/-! ### Equality -/

lemma equalItems_iff_same {js ks : List Json} {xs ys : List Value}
    (hx : List.Forall₂ (fun j v => ofJson j = .ok v) js xs)
    (hy : List.Forall₂ (fun j v => ofJson j = .ok v) ks ys)
    (h : ∀ j ∈ js, ∀ k ∈ ks, ∀ x y, ofJson j = .ok x → ofJson k = .ok y →
      (x.equal y = true ↔ j.Same k)) :
    equalItems xs ys = true ↔ List.Forall₂ Json.Same js ks := by
  rw [equalItems_iff]
  induction hx generalizing ks ys with
  | nil => cases hy <;> simp
  | cons hjx _ ih =>
    cases hy with
    | nil => simp
    | cons hky hys =>
      rw [List.forall₂_cons, List.forall₂_cons,
        h _ List.mem_cons_self _ List.mem_cons_self _ _ hjx hky]
      refine and_congr_right fun _ => ih hys fun j hj k hk => ?_
      exact h j (List.mem_cons_of_mem _ hj) k (List.mem_cons_of_mem _ hk)

lemma equal_key_iff {m n : String × Json} {e f : Value × Value} (he : OfMember m e)
    (hf : OfMember n f) : e.1.equal f.1 = true ↔ m.1 = n.1 := by
  rw [he.key, hf.key, equal, beq_iff_eq]

lemma entriesIn_iff_same {ms ns : List (String × Json)} {es fs : List (Value × Value)}
    (he : List.Forall₂ OfMember ms es) (hf : List.Forall₂ OfMember ns fs)
    (hn : (ns.map (·.1)).Nodup)
    (h : ∀ m ∈ ms, ∀ n ∈ ns, ∀ x y, ofJson m.2 = .ok x → ofJson n.2 = .ok y →
      (x.equal y = true ↔ m.2.Same n.2)) :
    entriesIn es fs = true ↔ ∀ m ∈ ms, ∃ n ∈ ns, m.1 = n.1 ∧ m.2.Same n.2 := by
  constructor
  · intro hin m hm
    obtain ⟨e, hes, hme⟩ := exists_right_of_forall₂ he hm
    obtain ⟨f, hfs, hkey, hvalue⟩ := exists_equalEntry_of_entriesIn hin e hes
    obtain ⟨n, hns, hnf⟩ := exists_left_of_forall₂ hf hfs
    exact ⟨n, hns, (equal_key_iff hme hnf).mp hkey,
      (h m hm n hns _ _ hme.value hnf.value).mp hvalue⟩
  · intro hsame
    -- all keys are texts, and these are distinct, so that a key is found at one place only
    have hdistinct : Distinct equal (fs.map (·.1)) := keys_of_forall₂ hf ▸ distinct_texts hn
    refine entriesIn_of_unique (fun e hes => ?_) fun e hes => ?_
    · exact lawfulOn_wellFormed.unique_entry hdistinct (wellFormed_keys he e hes)
        (wellFormed_keys hf)
    · obtain ⟨m, hm, hme⟩ := exists_left_of_forall₂ he hes
      obtain ⟨n, hns, hkey, hvalue⟩ := hsame m hm
      obtain ⟨f, hfs, hnf⟩ := exists_right_of_forall₂ hf hns
      exact ⟨f, hfs, (equal_key_iff hme hnf).mpr hkey,
        (h m hm n hns _ _ hme.value hnf.value).mpr hvalue⟩

/-- **Values are equal if they are read from the same**, up to the order of members. -/
lemma equal_iff_same {a b : Json} {x y : Value} (ha : a.WellFormed) (hb : b.WellFormed)
    (hx : ofJson a = .ok x) (hy : ofJson b = .ok y) : x.equal y = true ↔ a.Same b := by
  induction ha generalizing b x y with
  | null | bool | number | text =>
    cases ofJson_cases (by constructor) hx
    refine Iff.trans ?_ (Json.same_iff_eq (by simp) (by simp)).symm
    cases ofJson_cases hb hy <;> simp [equal, arrayList, Json.Number.ofInt64, Int64.toInt_inj]
  | array hjs ih =>
    cases ofJson_cases (.array hjs) hx with
    | array items =>
      cases ofJson_cases hb hy with
      | array items' =>
        cases hb with
        | array hks =>
          have hitems := equalItems_iff_same items items' fun j hj k hk x y => ih j hj (hks k hk)
          rw [arrayList, arrayList, equal, hitems]
          refine ⟨.array, fun h => ?_⟩
          cases h
          assumption
      | _ => exact iff_of_false (by simp [equal, arrayList]) (by rintro ⟨⟩)
  | object distinct values ih =>
    cases ofJson_cases (.object distinct values) hx with
    | object members =>
      cases ofJson_cases hb hy with
      | object members' =>
        cases hb with
        | object distinct' values' =>
          have hentries := entriesIn_iff_same members members' distinct' fun m hm n hn x y =>
            ih m hm (values' n hn)
          rw [equal, Bool.and_eq_true, beq_iff_eq, hentries, ← members.length_eq,
            ← members'.length_eq, Json.same_object_iff distinct distinct']
      | _ => exact iff_of_false (by simp [equal, arrayList]) (by rintro ⟨⟩)

/-! ### Sets -/

lemma wellFormed_of_ofJson {j : Json} {v : Value} (hj : j.WellFormed) (h : ofJson j = .ok v) :
    v.WellFormed := by
  induction hj generalizing v with
  | null | bool | number | text =>
    cases ofJson_cases (by constructor) h
    constructor
  | array hjs ih =>
    cases ofJson_cases (.array hjs) h with
    | array items =>
      refine .sequence _ fun v hv => ?_
      obtain ⟨j, hj, h⟩ := exists_left_of_forall₂ items hv
      exact ih j hj h
  | object distinct values ih =>
    cases ofJson_cases (.object distinct values) h with
    | object members =>
      have hdistinct := keys_of_forall₂ members ▸ distinct_texts distinct
      refine .map _ hdistinct (wellFormed_keys members) fun e he => ?_
      obtain ⟨m, hm, h⟩ := exists_left_of_forall₂ members he
      exact ih m hm h.value

lemma firsts_map_toJson {vs : List Value}
    (h : ∀ v ∈ vs, ∃ j : Json, j.WellFormed ∧ ofJson j = .ok v) :
    Json.firsts (vs.map toJson) = (withoutRepeats equal vs).map toJson := by
  classical
  refine withoutRepeats_map fun x hx y hy => ?_
  obtain ⟨j, hj, hjx⟩ := h x hx
  obtain ⟨k, hk, hky⟩ := h y hy
  rw [toJson_of_ofJson hj hjx, toJson_of_ofJson hk hky, Bool.eq_iff_iff, decide_eq_true_iff,
    equal_iff_same hj hk hjx hky]

/-- **A set that is built from an array** is written as the array without its repetitions. -/
lemma toJson_setOf {js : List Json} {vs : List Value} (hj : Json.WellFormed (.array js))
    (h : ofJson (.array js) = .ok (arrayList vs)) (t : Ty) :
    (setOf t vs).toJson = .array (Json.firsts js) := by
  have hv : ∀ v ∈ vs, ∃ j : Json, j.WellFormed ∧ ofJson j = .ok v := by
    intro v hv
    cases ofJson_cases hj h with
    | array items =>
      cases hj with
      | array hjs =>
        obtain ⟨j, hmem, hread⟩ := exists_left_of_forall₂ items hv
        exact ⟨j, hjs j hmem, hread⟩
  have hwritten : vs.map toJson = js := by
    have h := toJson_of_ofJson hj h
    rwa [arrayList, toJson, toJsonItems_eq_map, Json.array.injEq] at h
  have hset : setOf t vs = .set t (withoutRepeats equal vs) :=
    setOf_eq (wellFormed_of_ofJson hj h).items t
  rw [hset, toJson, toJsonItems_eq_map, ← firsts_map_toJson hv, hwritten]

end Value

end ForeignCollections
