import ForeignCollections.Proofs.Value.Content
import ForeignCollections.Proofs.Value.Json

/-!
Reading JSON values and writing them undo each other. What is read is written as it was; a value is
refused only for a number that is no 64-bit integer, and then for the first one in the order of the
text. In the other direction every value whose maps have texts for keys comes back with the runtime
types that reading gives and its sets as sequences, but with all items and entries in their order.
-/

namespace ForeignCollections

namespace Json

mutual

def numbers : Json → List Number
  | .null | .bool _ | .text _ => []
  | .number n => [n]
  | .array items => numbersOfItems items
  | .object members => numbersOfMembers members

def numbersOfItems : List Json → List Number
  | [] => []
  | j :: js => numbers j ++ numbersOfItems js

def numbersOfMembers : List (String × Json) → List Number
  | [] => []
  | (_, j) :: ms => numbers j ++ numbersOfMembers ms

end

def Number.IsInt64 (n : Number) : Prop := ∃ i : Int64, n = .integer i.toInt

lemma Number.int64?_eq_none_iff {n : Number} : n.int64? = none ↔ ¬n.IsInt64 := by
  constructor
  · rintro h ⟨i, rfl⟩
    exact nomatch h.symm.trans (Number.int64?_ofInt64 i)
  · intro h
    by_contra hsome
    obtain ⟨i, hi⟩ := Option.ne_none_iff_exists'.mp hsome
    exact h ⟨i, (Number.ofInt64_of_int64? hi).symm⟩

/-- The first number in a value that is no integer of 64 bits. -/
def FirstNotInt64 (j : Json) (n : Number) : Prop :=
  ¬n.IsInt64 ∧ ∃ before after, j.numbers = before ++ n :: after ∧ ∀ m ∈ before, m.IsInt64

end Json

namespace Value

open Entries

/-! ### Values that are refused -/

def refusal? (ns : List Json.Number) : Option CollectionError :=
  (ns.find? (·.int64?.isNone)).map .notIntegral

lemma refusal?_append (ns ms : List Json.Number) :
    refusal? (ns ++ ms) = (refusal? ns).or (refusal? ms) := by
  rw [refusal?, List.find?_append, Option.map_or]
  rfl

mutual

/-- Reading fails for the first number that is no integer of 64 bits, and for nothing else. -/
theorem failure?_ofJson : ∀ j : Json, failure? (ofJson j) = refusal? j.numbers
  | .null | .bool _ | .text _ => rfl
  | .number n => by
    rw [ofJson, Json.numbers, refusal?]
    cases h : n.int64? <;> simp [failure?, h]
  | .array items => by
    rw [ofJson, failure?_map, Json.numbers, failure?_ofJsonItems]
  | .object members => by
    rw [ofJson, failure?_map, Json.numbers, failure?_ofJsonMembers]

theorem failure?_ofJsonItems : ∀ js : List Json,
    failure? (ofJsonItems js) = refusal? (Json.numbersOfItems js)
  | [] => rfl
  | j :: js => by
    rw [ofJsonItems, failure?_bind₂, Json.numbersOfItems, refusal?_append, failure?_ofJson j,
      failure?_ofJsonItems js]

theorem failure?_ofJsonMembers : ∀ ms : List (String × Json),
    failure? (ofJsonMembers ms) = refusal? (Json.numbersOfMembers ms)
  | [] => rfl
  | (k, j) :: ms => by
    rw [ofJsonMembers, failure?_bind₂ _ _ fun v es => (Value.text k, v) :: es, Json.numbersOfMembers,
      refusal?_append, failure?_ofJson j, failure?_ofJsonMembers ms]

end

variable {j : Json} {v : Value}

lemma exists_ofJson_iff (j : Json) : (∃ v, ofJson j = .ok v) ↔ ∀ n ∈ j.numbers, n.IsInt64 := by
  rw [← failure?_eq_none_iff, failure?_ofJson, refusal?, Option.map_eq_none_iff, List.find?_eq_none]
  simp only [Option.isNone_iff_eq_none, Json.Number.int64?_eq_none_iff, not_not]

lemma ofJson_eq_error_iff {e : CollectionError} :
    ofJson j = .error e ↔ ∃ n, j.FirstNotInt64 n ∧ e = .notIntegral n := by
  rw [← failure?_eq_some_iff, failure?_ofJson, refusal?, Option.map_eq_some_iff]
  simp only [List.find?_eq_some_iff_append, Bool.not_eq_true', ← Bool.not_eq_true,
    Option.isNone_iff_eq_none, Json.Number.int64?_eq_none_iff, not_not, Json.FirstNotInt64,
    @eq_comm _ e]

/-! ### Values whose maps have texts for keys -/

/-- All keys of maps are texts, at any depth. -/
inductive TextKeyed : Value → Prop where
  | null : TextKeyed .null
  | bool (b : Bool) : TextKeyed (.bool b)
  | int (n : Int64) : TextKeyed (.int n)
  | text (s : String) : TextKeyed (.text s)
  | sequence (t : Ty) {xs : List Value} (items : ∀ x ∈ xs, TextKeyed x) : TextKeyed (.sequence t xs)
  | set (t : Ty) {xs : List Value} (members : ∀ x ∈ xs, TextKeyed x) : TextKeyed (.set t xs)
  | map (t : Ty) {es : List (Value × Value)} (keys : ∀ e ∈ es, ∃ s, e.1 = .text s)
      (values : ∀ e ∈ es, TextKeyed e.2) : TextKeyed (.map t es)

mutual

/-- A value in plain containers: sets as sequences, every sequence an array list and every map a
linked map. -/
def plain : Value → Value
  | null => null
  | bool b => bool b
  | int n => int n
  | text s => text s
  | sequence _ xs | set _ xs => arrayList (plainItems xs)
  | map _ es => map Native.linkedHashMap (plainEntries es)

def plainItems : List Value → List Value
  | [] => []
  | x :: xs => plain x :: plainItems xs

def plainEntries : List (Value × Value) → List (Value × Value)
  | [] => []
  | (k, v) :: es => (k, plain v) :: plainEntries es

end

lemma plainItems_eq_map (xs : List Value) : plainItems xs = xs.map plain := by
  induction xs with
  | nil => rfl
  | cons x xs ih => rw [plainItems, ih, List.map_cons]

lemma plainEntries_eq_map (es : List (Value × Value)) :
    plainEntries es = es.map fun e => (e.1, plain e.2) := by
  induction es with
  | nil => rfl
  | cons e es ih => rw [plainEntries, ih, List.map_cons]

lemma exists_members {es : List (Value × Value)} (h : ∀ e ∈ es, ∃ s, e.1 = .text s) :
    ∃ ms : List (String × Value), es = ms.map fun m => (.text m.1, m.2) := by
  induction es with
  | nil => exact ⟨[], rfl⟩
  | cons e es ih =>
    obtain ⟨⟨s, hs⟩, hes⟩ := List.forall_mem_cons.mp h
    obtain ⟨ms, rfl⟩ := ih hes
    exact ⟨(s, e.2) :: ms, by rw [List.map_cons, ← hs]⟩

lemma nodup_keys_of_distinct {ms : List (String × Value)}
    (h : Distinct equal ((ms.map fun m => ((.text m.1, m.2) : Value × Value)).map (·.1))) :
    (ms.map (·.1)).Nodup := by
  rw [List.map_map, Distinct, List.pairwise_map] at h
  refine List.pairwise_map.mpr (h.imp fun {m n} hne hmn => ?_)
  rw [Function.comp_apply, Function.comp_apply, equal, hmn, beq_self_eq_true] at hne
  cases hne

lemma keys_plainEntries (es : List (Value × Value)) :
    (plainEntries es).map (·.1) = es.map (·.1) := by
  rw [plainEntries_eq_map, List.map_map]
  rfl

lemma linkedHashMap_of_distinct {es : List (Value × Value)} (h : Distinct equal (es.map (·.1))) :
    linkedHashMap es = .map Native.linkedHashMap es := by
  rw [linkedHashMap, mapOf, funext₂ sameKey_eq_equal, entriesOf_of_distinct h]

/-- **A map whose keys are texts is written as an object** with these keys, none of which gets
lost. -/
lemma toJson_map {t : Ty} {ms : List (String × Value)} (h : (ms.map (·.1)).Nodup) :
    toJson (.map t (ms.map fun m => (.text m.1, m.2))) =
      .object (ms.map fun m => (m.1, m.2.toJson)) := by
  have hnodup : ((ms.map fun m => (m.1, m.2.toJson)).map (·.1)).Nodup := by
    rwa [List.map_map]
  rw [toJson, toJsonPairs_eq_map, ← ofPairs_texts hnodup, List.map_map, List.map_map]
  rfl

lemma exists_toJson_map {t : Ty} {es : List (Value × Value)} (hv : (map t es).WellFormed)
    (ht : (map t es).TextKeyed) : ∃ ms, toJson (map t es) = .object ms ∧ (ms.map (·.1)).Nodup ∧
      ms.map (fun m => text m.1) = es.map (·.1) := by
  cases ht with
  | map _ hkeys _ =>
    obtain ⟨ms, rfl⟩ := exists_members hkeys
    cases hv with
    | map _ hdistinct _ _ =>
      have hnodup := nodup_keys_of_distinct hdistinct
      refine ⟨_, toJson_map hnodup, ?_, ?_⟩
      · rwa [List.map_map]
      · rw [List.map_map, List.map_map]
        rfl

lemma ofJsonItems_map {xs : List Value} (h : ∀ x ∈ xs, ofJson x.toJson = .ok x.plain) :
    ofJsonItems (xs.map toJson) = .ok (xs.map plain) := by
  induction xs with
  | nil => rfl
  | cons x xs ih =>
    obtain ⟨hx, hxs⟩ := List.forall_mem_cons.mp h
    rw [List.map_cons, ofJsonItems, hx, ih hxs]
    rfl

lemma ofJsonMembers_map {ms : List (String × Value)}
    (h : ∀ m ∈ ms, ofJson m.2.toJson = .ok m.2.plain) :
    ofJsonMembers (ms.map fun m => (m.1, m.2.toJson)) =
      .ok (ms.map fun m => (.text m.1, m.2.plain)) := by
  induction ms with
  | nil => rfl
  | cons m ms ih =>
    obtain ⟨hm, hms⟩ := List.forall_mem_cons.mp h
    rw [List.map_cons, ofJsonMembers, hm, ih hms]
    rfl

/-- **What is written is read as plain containers**, and all entries of a map are kept. -/
lemma ofJson_toJson (hv : v.WellFormed) (ht : v.TextKeyed) : ofJson v.toJson = .ok v.plain := by
  induction ht with
  | null | bool | text => rfl
  | int n =>
    rw [toJson, ofJson, Json.Number.int64?_ofInt64]
    rfl
  | sequence t _ ih | set t _ ih =>
    have hitems := ofJsonItems_map fun x hx => ih x hx (hv.items x hx)
    rw [toJson, ofJson, toJsonItems_eq_map, hitems, plain, plainItems_eq_map]
    rfl
  | map t hkeys _ ih =>
    obtain ⟨ms, rfl⟩ := exists_members hkeys
    simp only [List.forall_mem_map] at ih
    cases hv with
    | map _ hdistinct _ hvalues =>
      simp only [List.forall_mem_map] at hvalues
      have hnodup := nodup_keys_of_distinct hdistinct
      have hread := ofJsonMembers_map fun m hm => ih m hm (hvalues m hm)
      rw [toJson_map hnodup, ofJson, hread, plain,
        ← linkedHashMap_of_distinct (by rwa [keys_plainEntries]), plainEntries_eq_map, List.map_map]
      rfl

/-! ### Values that are read -/

lemma textKeyed_of_ofJson {j : Json} (hj : j.WellFormed) (h : ofJson j = .ok v) : v.TextKeyed := by
  induction hj generalizing v with
  | null | bool | number | text =>
    cases ofJson_cases (by constructor) h
    constructor
  | array hjs ih =>
    cases ofJson_cases (.array hjs) h with
    | array items =>
      refine .sequence _ fun v hv => ?_
      obtain ⟨j, hj, h⟩ := exists_left_of_forall₂ items hv
      exact ih j hj h
  | object distinct values ih =>
    cases ofJson_cases (.object distinct values) h with
    | object members =>
      refine .map _ (fun e he => ?_) fun e he => ?_
      · obtain ⟨m, -, h⟩ := exists_left_of_forall₂ members he
        exact ⟨m.1, h.key⟩
      · obtain ⟨m, hm, h⟩ := exists_left_of_forall₂ members he
        exact ih m hm h.value

lemma plain_of_ofJson {j : Json} (hj : j.WellFormed) (h : ofJson j = .ok v) : v.plain = v := by
  have hagain := ofJson_toJson (wellFormed_of_ofJson hj h) (textKeyed_of_ofJson hj h)
  rw [toJson_of_ofJson hj h, h] at hagain
  exact (Except.ok.inj hagain).symm

/-- **Reading and writing undo each other.** A JSON value is read exactly if all its numbers are
integers of 64 bits, and then written as it was, while otherwise the first number that is none is to
blame. A value whose maps have texts for keys is read back with the same items and entries in plain
containers, which are the only ones that reading gives; each entry of a map is a member of its own.
-/
theorem ofJson_toJson_inverse :
    (∀ j : Json, j.WellFormed →
      ((∃ v, ofJson j = .ok v) ↔ ∀ n ∈ j.numbers, n.IsInt64) ∧
      (∀ v, ofJson j = .ok v → v.toJson = j ∧ v.WellFormed ∧ v.TextKeyed ∧ v.plain = v) ∧
      ∀ e, ofJson j = .error e ↔ ∃ n, j.FirstNotInt64 n ∧ e = .notIntegral n ∧
        e.category = .invalidArgument ∧
        e.detail = "Only integral numbers are supported: " ++ n.text) ∧
    ∀ v : Proper, v.value.TextKeyed → ofJson v.value.toJson = .ok v.value.plain ∧
      ∀ t es, v.value = .map t es → ∃ ms, v.value.toJson = .object ms ∧ (ms.map (·.1)).Nodup ∧
        ms.map (fun m => text m.1) = es.map (·.1) := by
  refine ⟨fun j hj => ⟨exists_ofJson_iff j, fun v hv => ?_, fun e => ?_⟩, fun ⟨v, hv⟩ ht => ?_⟩
  · exact ⟨toJson_of_ofJson hj hv, wellFormed_of_ofJson hj hv, textKeyed_of_ofJson hj hv,
      plain_of_ofJson hj hv⟩
  · rw [ofJson_eq_error_iff]
    refine exists_congr fun n => and_congr_right fun _ => ⟨?_, fun he => he.1⟩
    rintro rfl
    exact ⟨rfl, rfl, rfl⟩
  · refine ⟨ofJson_toJson hv ht, ?_⟩
    rintro t es rfl
    exact exists_toJson_map hv ht

lemma textKeyed_nested : nested.value.TextKeyed := by
  have hset : (set Native.hashSet [.int 1, .int 2]).TextKeyed := by
    refine .set _ ?_
    simp only [List.forall_mem_cons]
    exact ⟨.int 1, .int 2, fun _ h => absurd h List.not_mem_nil⟩
  have hmap : (map Native.hashMap [(text "one", .int 1), (text "two", .int 2)]).TextKeyed := by
    refine .map _ ?_ ?_
    · simp
    · simp only [List.forall_mem_cons]
      exact ⟨.int 1, .int 2, fun _ h => absurd h List.not_mem_nil⟩
  rw [value_nested]
  refine .set _ ?_
  simp only [List.forall_mem_cons]
  exact ⟨hset, hmap, fun _ h => absurd h List.not_mem_nil⟩

def outOfRange : Json :=
  .array [.number (.integer 7), .number (.integer 9223372036854775808),
    .number (.real true Binary64.zero)]

/-- Nested sets come back as lists, and a map among them keeps its entries; of two numbers that are
no integers of 64 bits the first is to blame. -/
theorem ofJson_toJson_inverse_nested :
    ofJson nested.value.toJson = .ok (arrayList [arrayList [.int 1, .int 2],
      .map Native.linkedHashMap [(text "one", .int 1), (text "two", .int 2)]]) ∧
    ofJson outOfRange = .error (.notIntegral (.integer 9223372036854775808)) := by
  obtain ⟨hread, hwritten⟩ := ofJson_toJson_inverse
  have hnested := (hwritten nested textKeyed_nested).1
  rw [value_nested] at hnested ⊢
  refine ⟨hnested, ?_⟩
  have hj : outOfRange.WellFormed := by
    refine .array ?_
    simp only [List.forall_mem_cons]
    exact ⟨.number _, .number _, .number _, fun _ h => absurd h List.not_mem_nil⟩
  obtain ⟨-, -, hrefused⟩ := hread outOfRange hj
  refine (hrefused _).mpr
    ⟨.integer 9223372036854775808, ⟨?_, [.integer 7], _, rfl, ?_⟩, rfl, rfl, rfl⟩
  · exact Json.Number.int64?_eq_none_iff.mp rfl
  · simp only [List.forall_mem_singleton]
    exact ⟨7, rfl⟩

end Value

end ForeignCollections
