import Mathlib.Algebra.BigOperators.Group.List.Basic
import Mathlib.Algebra.GroupWithZero.Nat
import Mathlib.Data.List.Induction
import ForeignCollections.Proofs.Entries
import ForeignCollections.Proofs.RuleBook.Dispatch

/-!
What a rule book holds, read off its history. Rules are added and pairs are dropped in any order;
under a pair stand the rules that were added for it since it was last dropped, the newest first
and of each id only the newest. A rule therefore replaces the one that has its id under the pairs
of the new rule, and under no other pair.
-/

namespace ForeignCollections

open Entries

def Rule.sameId (a b : Rule) : Bool := a.id == b.id

/-- A change of a rule book. -/
inductive Edit where
  | add (rule : Rule)
  | remove (source target : Ty)

namespace Edit

def apply (b : RuleBook) : Edit → RuleBook
  | add r => b.add r
  | remove s t => b.remove s t

def drops (s t : Ty) : Edit → Bool
  | add _ => false
  | remove s' t' => s' == s && t' == t

def rule? (s t : Ty) : Edit → Option Rule
  | add r => if r.declares s t = true then some r else none
  | remove _ _ => none

def pairs : Edit → List (Ty × Ty)
  | add r => r.pairs
  | remove _ _ => []

end Edit

/-- The edits of a rule book, the oldest first. -/
abbrev History := List Edit

namespace History

def book (h : History) : RuleBook := h.foldl Edit.apply .empty

/-- The rules added under a pair since its rules were last dropped, the newest first. -/
def additions (h : History) (s t : Ty) : List Rule :=
  (h.reverse.takeWhile fun e => !e.drops s t).filterMap (Edit.rule? s t)

/-- These rules, of each id only the one that was added last. -/
def current (h : History) (s t : Ty) : List Rule :=
  withoutRepeats Rule.sameId (h.additions s t)

def samePair (p q : Ty × Ty) : Bool := p.1 == q.1 && p.2 == q.2

/-- The pairs that rules were added under, each once. -/
def pairs (h : History) : List (Ty × Ty) := withoutRepeats samePair (h.flatMap Edit.pairs)

variable {h : History} {b : RuleBook} {r : Rule} {s t : Ty}

/-! ### One more edit -/

@[simp] lemma additions_nil : additions [] s t = [] := rfl

@[simp] lemma additions_add (h : History) (r : Rule) (s t : Ty) :
    additions (h ++ [.add r]) s t =
      if r.declares s t = true then r :: h.additions s t else h.additions s t := by
  rw [additions, List.reverse_append, List.reverse_singleton, List.singleton_append,
    List.takeWhile_cons_of_pos rfl, List.filterMap_cons]
  by_cases hd : r.declares s t = true <;> simp [Edit.rule?, hd, additions]

@[simp] lemma additions_remove (h : History) (s' t' s t : Ty) :
    additions (h ++ [.remove s' t']) s t =
      if (s' == s && t' == t) = true then [] else h.additions s t := by
  rw [additions, List.reverse_append, List.reverse_singleton, List.singleton_append,
    List.takeWhile_cons]
  by_cases hd : (s' == s && t' == t) = true
  · simp [Edit.drops, hd]
  · rw [Edit.drops, Bool.eq_false_iff.mpr hd, Bool.not_false, if_pos rfl, List.filterMap_cons]
    rfl

@[simp] lemma current_nil : current [] s t = [] := rfl

@[simp] lemma current_add (h : History) (r : Rule) (s t : Ty) :
    current (h ++ [.add r]) s t =
      if r.declares s t = true then r :: (h.current s t).filter fun r' => r'.id != r.id
      else h.current s t := by
  rw [current, additions_add]
  split <;> rfl

@[simp] lemma current_remove (h : History) (s' t' s t : Ty) :
    current (h ++ [.remove s' t']) s t =
      if (s' == s && t' == t) = true then [] else h.current s t := by
  rw [current, additions_remove]
  split <;> rfl

/-- **What a history does to a pair**: the rules it adds stand in front, of what was there
before those remain whose ids it does not add, and nothing remains if it drops the pair. -/
lemma rulesFor_foldl_apply (h : History) (b : RuleBook) (s t : Ty) :
    (h.foldl Edit.apply b).rulesFor s t = h.current s t ++
      (if h.any (Edit.drops s t) = true then [] else b.rulesFor s t).filter
        fun r => !(h.additions s t).any r.sameId := by
  induction h using List.reverseRecOn with
  | nil =>
    rw [current_nil, List.nil_append]
    exact (List.filter_eq_self.mpr fun _ _ => rfl).symm
  | append_singleton h e ih =>
    rw [List.foldl_append, List.foldl_cons, List.foldl_nil, List.any_append, List.any_cons,
      List.any_nil, Bool.or_false]
    cases e with
    | add r =>
      rw [Edit.apply, RuleBook.rulesFor_add, ih, current_add, additions_add, Edit.drops,
        Bool.or_false]
      by_cases hd : r.declares s t = true
      · -- the new rule takes the place of one with its id, among the added and the older ones
        have hid : ∀ r' : Rule, (r'.id != r.id) = !r'.sameId r := fun _ => rfl
        rw [if_pos hd, if_pos hd, if_pos hd, List.cons_append, List.filter_append,
          List.filter_filter]
        simp only [hid, List.any_cons, Bool.not_or]
      · rw [if_neg hd, if_neg hd, if_neg hd]
    | remove s' t' =>
      rw [Edit.apply, RuleBook.rulesFor_remove, ih, current_remove, additions_remove, Edit.drops]
      have hn : (s' == s && t' == t) = true ↔ s'.name = s.name ∧ t'.name = t.name := by
        rw [Bool.and_eq_true, Ty.beq_iff, Ty.beq_iff]
      by_cases hd : (s' == s && t' == t) = true
      · rw [if_pos (hn.mp hd), if_pos hd, if_pos hd, hd, Bool.or_true, if_pos rfl]
        rfl
      · rw [if_neg (mt hn.mpr hd), if_neg hd, if_neg hd, Bool.eq_false_iff.mpr hd, Bool.or_false]

lemma rulesFor_book (h : History) (s t : Ty) : h.book.rulesFor s t = h.current s t := by
  rw [book, rulesFor_foldl_apply, RuleBook.rulesFor_empty, ite_self, List.filter_nil,
    List.append_nil]

/-! ### The number of rules -/

lemma samePair_iff {p q : Ty × Ty} :
    samePair p q = true ↔ p.1.name = q.1.name ∧ p.2.name = q.2.name := by
  rw [samePair, Bool.and_eq_true, Ty.beq_iff, Ty.beq_iff]

lemma distinct_pairs (h : History) : Distinct samePair h.pairs := distinct_withoutRepeats _

lemma exists_mem_pairs {p : Ty × Ty} (hp : p ∈ h.flatMap Edit.pairs) :
    ∃ q ∈ h.pairs, samePair p q = true := by
  refine exists_same_mem_withoutRepeats hp (fun q => samePair_iff.mpr ⟨rfl, rfl⟩) ?_
  intro x _ y _ z _ hxy hyz
  rw [samePair_iff] at hxy hyz ⊢
  exact ⟨hxy.1.trans hyz.1, hxy.2.trans hyz.2⟩

lemma length_eq_sum {ps : List (Ty × Ty)} {fs : List Filing} (hd : Distinct samePair ps)
    (hc : ∀ f ∈ fs, ∃ p ∈ ps, f.isUnder p.1 p.2 = true) :
    fs.length = (ps.map fun p => (fs.filter (·.isUnder p.1 p.2)).length).sum := by
  induction ps generalizing fs with
  | nil =>
    cases fs with
    | nil => rfl
    | cons f fs =>
      obtain ⟨p, hp, -⟩ := hc f List.mem_cons_self
      exact nomatch hp
  | cons p ps ih =>
    obtain ⟨hp, hps⟩ := List.pairwise_cons.mp hd
    let rest := fs.filter fun f => !f.isUnder p.1 p.2
    have hrest : ∀ f ∈ rest, ∃ q ∈ ps, f.isUnder q.1 q.2 = true := by
      intro f hf
      obtain ⟨hf, hn⟩ := List.mem_filter.mp hf
      obtain ⟨q, hq, hfq⟩ := hc f hf
      rcases List.mem_cons.mp hq with rfl | hq
      · rw [hfq] at hn
        exact absurd hn (by decide)
      · exact ⟨q, hq, hfq⟩
    -- under a pair other than `p` nothing is lost with what is under `p`
    have hunder : ∀ q ∈ ps, rest.filter (·.isUnder q.1 q.2) = fs.filter (·.isUnder q.1 q.2) := by
      intro q hq
      rw [List.filter_filter]
      refine List.filter_congr fun f _ => ?_
      cases hf : f.isUnder q.1 q.2 with
      | false => rfl
      | true =>
        have hne : ¬(p.1.name = q.1.name ∧ p.2.name = q.2.name) := fun hn =>
          absurd (samePair_iff.mpr ⟨hn.1.symm, hn.2.symm⟩) (by simp [hp q hq])
        rw [Filing.not_isUnder hf hne]
        rfl
    have hsum := ih hps hrest
    have hsplit := List.length_eq_length_filter_add (l := fs) (·.isUnder p.1 p.2)
    rw [List.map_cons, List.sum_cons, hsplit, hsum]
    congr 2
    exact List.map_congr_left fun q hq => by rw [hunder q hq]

lemma isUnder_of_mem_foldl_file {f : Filing} {ps : List (Ty × Ty)}
    (hf : f ∈ (ps.foldl (RuleBook.file r) b).filings) :
    f ∈ b.filings ∨ ∃ p ∈ ps, f.isUnder p.1 p.2 = true := by
  induction ps generalizing b with
  | nil => exact Or.inl hf
  | cons p ps ih =>
    rcases ih hf with hf | ⟨q, hq, hfq⟩
    · rcases List.mem_cons.mp hf with rfl | hf
      · exact Or.inr ⟨p, List.mem_cons_self, Filing.isUnder_iff.mpr ⟨rfl, rfl⟩⟩
      · exact Or.inl (List.mem_filter.mp hf).1
    · exact Or.inr ⟨q, List.mem_cons_of_mem p hq, hfq⟩

lemma isUnder_of_mem_book {f : Filing} (hf : f ∈ h.book.filings) :
    ∃ p ∈ h.flatMap Edit.pairs, f.isUnder p.1 p.2 = true := by
  induction h using List.reverseRecOn with
  | nil => exact nomatch hf
  | append_singleton h e ih =>
    rw [book, List.foldl_append, List.foldl_cons, List.foldl_nil] at hf
    rw [List.flatMap_append, List.flatMap_singleton]
    have hearlier : f ∈ (h.foldl Edit.apply .empty).filings →
        ∃ p ∈ h.flatMap Edit.pairs ++ e.pairs, f.isUnder p.1 p.2 = true := fun hf =>
      (ih hf).imp fun _ hp => ⟨List.mem_append_left _ hp.1, hp.2⟩
    cases e with
    | add r =>
      rcases isUnder_of_mem_foldl_file hf with hf | ⟨p, hp, hfp⟩
      · exact hearlier hf
      · exact ⟨p, List.mem_append_right _ hp, hfp⟩
    | remove s t => exact hearlier (List.mem_filter.mp hf).1

/-- The size of a book is the number of rules under the pairs of any list that holds each pair
of its history once. -/
lemma size_book {ps : List (Ty × Ty)} (hd : Distinct samePair ps)
    (hc : ∀ p ∈ h.flatMap Edit.pairs, ∃ q ∈ ps, samePair p q = true) :
    h.book.size = (ps.map fun p => (h.book.rulesFor p.1 p.2).length).sum := by
  have hunder : ∀ f ∈ h.book.filings, ∃ q ∈ ps, f.isUnder q.1 q.2 = true := by
    intro f hf
    obtain ⟨p, hp, hfp⟩ := isUnder_of_mem_book hf
    obtain ⟨q, hq, hpq⟩ := hc p hp
    obtain ⟨hs, ht⟩ := samePair_iff.mp hpq
    exact ⟨q, hq, (Filing.isUnder_congr hs ht).symm.trans hfp⟩
  rw [RuleBook.size, length_eq_sum hd hunder]
  simp only [RuleBook.rulesFor, List.length_map]

lemma size_congr {h' : History} (hr : ∀ s t, h.book.rulesFor s t = h'.book.rulesFor s t) :
    h.book.size = h'.book.size := by
  have hc := fun p hp => exists_mem_pairs (h := h ++ h') (p := p) hp
  rw [size_book (distinct_pairs (h ++ h')) fun p hp => hc p (by simp [hp]),
    size_book (distinct_pairs (h ++ h')) fun p hp => hc p (by simp [hp])]
  simp only [hr]

lemma current_eq_nil_of_not_mem (hn : h.pairs.any (samePair (s, t)) = false) :
    h.current s t = [] := by
  rw [← rulesFor_book, RuleBook.rulesFor, List.map_eq_nil_iff, List.filter_eq_nil_iff]
  intro f hf hu
  obtain ⟨p, hp, hfp⟩ := isUnder_of_mem_book hf
  obtain ⟨q, hq, hpq⟩ := exists_mem_pairs hp
  rw [Filing.isUnder_iff] at hu hfp
  obtain ⟨hs, ht⟩ := samePair_iff.mp hpq
  refine List.any_eq_false.mp hn q hq (samePair_iff.mpr ⟨?_, ?_⟩)
  · exact hu.1.symm.trans (hfp.1.trans hs)
  · exact hu.2.symm.trans (hfp.2.trans ht)

/-- **A rule book refines its history**: under each pair stand the rules added for it since it was
last dropped, newest first and one for each id; their numbers under the different pairs add up to
the size of the book, and the book is empty if nothing stands under any pair. -/
theorem book_refines (h : History) :
    (∀ s t, h.book.rulesFor s t = h.current s t) ∧
    h.book.size = (h.pairs.map fun p => (h.current p.1 p.2).length).sum ∧
    Distinct samePair h.pairs ∧
    (∀ s t, h.pairs.any (samePair (s, t)) = true ∨ h.current s t = []) ∧
    (h.book.isEmpty = true ↔ ∀ s t, h.current s t = []) := by
  have hsize : h.book.size = (h.pairs.map fun p => (h.current p.1 p.2).length).sum := by
    rw [size_book (distinct_pairs h) fun p hp => exists_mem_pairs hp]
    simp only [rulesFor_book]
  refine ⟨rulesFor_book h, hsize, distinct_pairs h, fun s t => ?_, ?_⟩
  · by_cases hn : h.pairs.any (samePair (s, t)) = true
    · exact Or.inl hn
    · exact Or.inr (current_eq_nil_of_not_mem (Bool.eq_false_iff.mpr hn))
  · rw [RuleBook.isEmpty, beq_iff_eq]
    constructor
    · intro h0 s t
      rw [← rulesFor_book, RuleBook.rulesFor, List.length_eq_zero_iff.mp h0]
      rfl
    · intro hnil
      simp [hsize, hnil]

end History

/-! ### Rules under a known id -/

namespace RuleBook

/-- Under this pair stands a rule with this id. -/
def Lists (b : RuleBook) (id : String) (s t : Ty) : Prop := id ∈ (b.rulesFor s t).map (·.id)

lemma lists_add (b : RuleBook) (r : Rule) (s t : Ty) :
    (b.add r).Lists r.id s t ↔ r.declares s t = true ∨ b.Lists r.id s t := by
  unfold Lists
  rw [rulesFor_add]
  by_cases hd : r.declares s t = true
  · rw [if_pos hd, List.map_cons]
    exact iff_of_true List.mem_cons_self (Or.inl hd)
  · rw [if_neg hd]
    exact (or_iff_right hd).symm

lemma filter_sameId_rulesFor_add (b : RuleBook) (r : Rule) (s t : Ty) :
    ((b.add r).rulesFor s t).filter (·.sameId r) =
      if r.declares s t = true then [r] else (b.rulesFor s t).filter (·.sameId r) := by
  rw [rulesFor_add]
  by_cases hd : r.declares s t = true
  · have hself : r.sameId r = true := beq_self_eq_true r.id
    have hothers : ((b.rulesFor s t).filter fun r' => r'.id != r.id).filter (·.sameId r) = [] := by
      rw [List.filter_filter, List.filter_eq_nil_iff]
      intro r' _
      simp [Rule.sameId]
    rw [if_pos hd, if_pos hd, List.filter_cons, if_pos hself, hothers]
  · rw [if_neg hd, if_neg hd]

end RuleBook

namespace History

/-- **A rule replaces those with its id under its own pairs, and only there**: under each of its
pairs it is then the only one with this id, and under other pairs the id is listed as before. So
the id is listed exactly under the pairs of the rule if it was under no other pair before. -/
theorem rulesFor_add_sameId (h : History) (r : Rule) :
    (∀ s t, ((h.book.add r).rulesFor s t).filter (·.sameId r) =
      if r.declares s t = true then [r] else (h.book.rulesFor s t).filter (·.sameId r)) ∧
    ((∀ s t, (h.book.add r).Lists r.id s t ↔ r.declares s t = true) ↔
      ∀ s t, h.book.Lists r.id s t → r.declares s t = true) := by
  refine ⟨h.book.filter_sameId_rulesFor_add r, ?_⟩
  simp only [RuleBook.lists_add]
  exact forall₂_congr fun _ _ => or_iff_left_iff_imp

def toText (source : Ty) : Rule where
  id := "to-text"
  pairs := [(source, Native.string)]
  convert value _ _ := .ok value

/-- An id can be listed where its newest rule does not belong: the rule for sets does not take
the place of the one for lists. -/
theorem not_lists_add_iff_declares :
    ¬ ∀ (h : History) (r : Rule) (s t : Ty),
      (h.book.add r).Lists r.id s t ↔ r.declares s t = true := by
  intro hall
  have hlist : (toText Native.list).declares Native.list Native.string = true := by decide
  have hset : ¬(toText Native.set).declares Native.list Native.string = true := by decide
  have hbefore : (book [.add (toText Native.list)]).Lists "to-text" Native.list Native.string :=
    (RuleBook.lists_add .empty (toText Native.list) _ _).mpr (Or.inl hlist)
  have hafter := (RuleBook.lists_add _ (toText Native.set) _ _).mpr (Or.inr hbefore)
  exact hset ((hall _ _ _ _).mp hafter)

end History

end ForeignCollections
