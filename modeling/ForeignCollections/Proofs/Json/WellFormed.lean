import Mathlib.Data.List.Nodup
import ForeignCollections.Json.Parser
import ForeignCollections.Proofs.Entries
import ForeignCollections.Proofs.Results

/-!
JSON values in which no object has two members of one key. Every value that is read from a text is
of this kind: a property of all that a reader takes off a text passes on to the readers of arrays
and of objects made of it, and the members of an object are put under distinct keys.
-/

namespace ForeignCollections.Json

open Entries

/-- No object has two members of one key, at any depth. -/
inductive WellFormed : Json → Prop where
  | null : WellFormed .null
  | bool (b : Bool) : WellFormed (.bool b)
  | number (n : Number) : WellFormed (.number n)
  | text (s : String) : WellFormed (.text s)
  | array {js : List Json} (items : ∀ j ∈ js, WellFormed j) : WellFormed (.array js)
  | object {ms : List (String × Json)} (distinct : (ms.map (·.1)).Nodup)
      (values : ∀ m ∈ ms, WellFormed m.2) : WellFormed (.object ms)

lemma distinct_iff_nodup {keys : List String} :
    Distinct (fun a b : String => a == b) keys ↔ keys.Nodup := by
  simp only [Distinct, List.Nodup, beq_eq_false_iff_ne, ne_comm]

lemma ofMembers_of_nodup {ms : List (String × Json)} (h : (ms.map (·.1)).Nodup) :
    ofMembers ms = .object ms := by
  rw [ofMembers, entriesOf_of_distinct (distinct_iff_nodup.mpr h)]

lemma wellFormed_ofMembers {ms : List (String × Json)} (h : ∀ m ∈ ms, m.2.WellFormed) :
    (ofMembers ms).WellFormed := by
  have hvalues : ∀ j ∈ ms.map (·.2), j.WellFormed := List.forall_mem_map.mpr h
  refine .object ?_ fun m hm => hvalues _ (mem_entriesOf hm).2
  have hpass : PassesOn (fun a b : String => a == b) (ms.map (·.1)) := by
    intro a _ b _ c _ hab hbc
    simpa using (eq_of_beq hab).trans (eq_of_beq hbc)
  rw [keys_entriesOf, membersOf_eq_withoutRepeats hpass, ← distinct_iff_nodup]
  exact distinct_withoutRepeats _

/-! ### What readers give -/

/-- Whatever the reader takes off a text has the property. -/
def Gives {α : Type} (r : Reader α) (P : α → Prop) : Prop :=
  ∀ input t, r input = .ok t → P t.value

namespace Gives

variable {α β κ σ : Type} {r : Reader α} {P : α → Prop}

lemma map {f : α → β} {Q : β → Prop} (h : Gives r fun a => Q (f a)) : Gives (r.map f) Q := by
  intro input t ht
  obtain ⟨u, hu, rfl⟩ := map_eq_ok_iff.mp ht
  exact h input u hu

lemma spaced (h : Gives r P) : Gives r.spaced P := by
  intro input t ht
  obtain ⟨u, hu, rfl⟩ := map_eq_ok_iff.mp ht
  exact h _ u hu

lemma afterColon (h : Gives r P) : Gives (afterColon r) P := by
  intro input t ht
  obtain ⟨c, -, ht⟩ := bind_eq_ok_iff.mp ht
  obtain ⟨u, hu, ht⟩ := bind_eq_ok_iff.mp ht
  cases ht
  exact h _ u hu

lemma member {key : Reader κ} {value : κ → Reader α} (h : ∀ k, Gives (value k) P) :
    Gives (member key value) P := by
  intro input t ht
  cases input with
  | nil => cases ht
  | cons c rest =>
    rw [Json.member] at ht
    split at ht
    · obtain ⟨k, -, ht⟩ := bind_eq_ok_iff.mp ht
      obtain ⟨u, hu, ht⟩ := bind_eq_ok_iff.mp ht
      cases ht
      exact h _ _ u hu
    · cases ht

lemma entries {close : Char} {entry : σ → Reader σ} {P : σ → Prop}
    (h : ∀ s, P s → Gives (entry s) P) (first : Bool) {s : σ} (hs : P s) :
    Gives (entries close entry first s) P := by
  intro input
  induction first, s, input using Json.entries.induct with
  | case1 first s input ih =>
    intro t ht
    rw [Json.entries] at ht
    obtain ⟨next, -, ht⟩ := bind_eq_ok_iff.mp ht
    cases next with
    | closed rest fits =>
      cases ht
      exact hs
    | entry start fits =>
      obtain ⟨e, he, ht⟩ := bind_eq_ok_iff.mp ht
      obtain ⟨u, hu, ht⟩ := bind_eq_ok_iff.mp ht
      cases ht
      exact ih start fits e (h s hs start e he) u hu

lemma items (h : Gives r P) : Gives (items r) fun xs => ∀ x ∈ xs, P x := by
  have hentry : ∀ found : List α, (∀ x ∈ found, P x) →
      Gives (r.map (· :: found)) fun xs => ∀ x ∈ xs, P x := fun found hf =>
    map fun input t ht => List.forall_mem_cons.mpr ⟨h input t ht, hf⟩
  refine map ?_
  simp only [List.mem_reverse]
  exact entries hentry true fun x hx => nomatch hx

lemma members {key : Reader κ} (h : Gives r P) :
    Gives (members key r) fun ms => ∀ m ∈ ms, P m.2 := by
  have hentry : ∀ found : List (κ × α), (∀ m ∈ found, P m.2) →
      Gives (Json.member key fun k => (Json.afterColon r).map fun v => (k, v) :: found)
        fun ms => ∀ m ∈ ms, P m.2 := fun found hf => member fun k => map fun input t ht =>
    List.forall_mem_cons.mpr ⟨h.afterColon input t ht, hf⟩
  refine map ?_
  simp only [List.mem_reverse]
  exact entries hentry true fun m hm => nomatch hm

end Gives

/-! ### Values that are kept -/

lemma gives_scalar : Gives keeping.scalar WellFormed := by
  intro input t ht
  unfold Builder.scalar at ht
  split at ht
  · cases ht
  · obtain ⟨u, -, rfl⟩ := map_eq_ok_iff.mp ht
    exact .null
  · obtain ⟨u, -, rfl⟩ := map_eq_ok_iff.mp ht
    exact .bool true
  · obtain ⟨u, -, rfl⟩ := map_eq_ok_iff.mp ht
    exact .bool false
  · obtain ⟨u, hu, rfl⟩ := map_eq_ok_iff.mp ht
    exact Gives.map (Q := WellFormed) (fun _ s _ => .text s.value) _ u hu
  · split at ht
    · exact Gives.map (Q := WellFormed) (fun _ n _ => .number n.value) _ t ht
    · cases ht

lemma gives_value (depth : Nat) : Gives (keeping.value depth) WellFormed := by
  induction depth with
  | zero =>
    rw [Builder.value]
    refine Gives.spaced fun input t ht => ?_
    split at ht
    · cases ht
    · cases ht
    · exact gives_scalar _ t ht
  | succ depth ih =>
    rw [Builder.value]
    refine Gives.spaced fun input t ht => ?_
    split at ht
    · obtain ⟨u, hu, rfl⟩ := map_eq_ok_iff.mp ht
      exact .array (ih.items _ u hu)
    · obtain ⟨u, hu, rfl⟩ := map_eq_ok_iff.mp ht
      exact wellFormed_ofMembers (ih.members _ u hu)
    · exact gives_scalar _ t ht

/-- **No object of a value that is read has two members of one key.** -/
lemma wellFormed_of_parse {s : String} {j : Json} (h : parse s = .ok j) : j.WellFormed := by
  obtain ⟨t, ht, h⟩ := bind_eq_ok_iff.mp h
  split at h
  · cases h
    exact gives_value maxDepth _ t ht
  · cases h

end ForeignCollections.Json
