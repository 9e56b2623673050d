import ForeignCollections.Proofs.RuleBook.History
import ForeignCollections.Registry.Basic

/-!
Installing a registry in a rule book. Installation is a history of its own: the pair of the
general rule is dropped, then the rules of the registrars are added. So the installed rules stand
in front under each pair, and what stood there under other ids stays behind them. A second
installation finds the ids of all its rules in use by these very rules, and changes nothing.
-/

namespace ForeignCollections

open Entries

namespace Registry

def rules (r : Registry) : List Rule := r.registrars.flatMap (·.rules)

/-- What installation does to a book. -/
def edits (r : Registry) : History :=
  .remove Native.collection Native.object :: r.rules.map .add

/-- The rules that the registrars install under a pair: the last one first, and of each id only
the last. -/
def installed (r : Registry) (s t : Ty) : List Rule :=
  withoutRepeats Rule.sameId (r.rules.filter (·.declares s t)).reverse

/-- The registrars install a rule with the id of `x` under this pair. -/
def replaces (r : Registry) (s t : Ty) (x : Rule) : Bool :=
  (r.rules.filter (·.declares s t)).any x.sameId

variable {r : Registry} {s t : Ty} {x : Rule}

lemma install_eq (r : Registry) (b : RuleBook) : r.install b = r.edits.foldl Edit.apply b := by
  rw [install, edits, List.foldl_cons, List.foldl_map]
  rfl

lemma install_book (r : Registry) (h : History) : r.install h.book = (h ++ r.edits).book := by
  rw [install_eq, History.book, History.book, List.foldl_append]

lemma additions_edits (r : Registry) (s t : Ty) :
    r.edits.additions s t = (r.rules.filter (·.declares s t)).reverse := by
  rw [edits]
  induction r.rules using List.reverseRecOn with
  | nil =>
    have h := History.additions_remove [] Native.collection Native.object s t
    rwa [List.nil_append, History.additions_nil, ite_self] at h
  | append_singleton xs x ih =>
    rw [List.map_append, List.map_singleton, ← List.cons_append, History.additions_add, ih,
      List.filter_append]
    by_cases hd : x.declares s t = true <;> simp [hd]

lemma current_edits (r : Registry) (s t : Ty) : r.edits.current s t = r.installed s t := by
  rw [History.current, additions_edits, installed]

lemma any_drops_edits (r : Registry) (s t : Ty) :
    r.edits.any (Edit.drops s t) = (Native.collection == s && Native.object == t) := by
  rw [edits, List.any_cons, List.any_map]
  have hadd : r.rules.any (Edit.drops s t ∘ Edit.add) = false :=
    List.any_eq_false.mpr fun x _ hx => nomatch hx
  rw [hadd, Bool.or_false]
  rfl

/-- **Installation, pair by pair.** -/
lemma rulesFor_install (r : Registry) (b : RuleBook) (s t : Ty) :
    (r.install b).rulesFor s t = r.installed s t ++
      if (Native.collection == s && Native.object == t) = true then []
      else (b.rulesFor s t).filter fun x => !r.replaces s t x := by
  rw [install_eq, History.rulesFor_foldl_apply, current_edits, any_drops_edits, additions_edits]
  simp only [List.any_reverse]
  split <;> rfl

lemma mem_rules_of_mem_installed (hx : x ∈ r.installed s t) :
    x ∈ r.rules.filter (·.declares s t) :=
  List.mem_reverse.mp (mem_of_mem_withoutRepeats hx)

lemma replaces_of_mem_installed (hx : x ∈ r.installed s t) : r.replaces s t x = true :=
  List.any_eq_true.mpr ⟨x, mem_rules_of_mem_installed hx, beq_self_eq_true x.id⟩

lemma rulesFor_install_install (r : Registry) (b : RuleBook) (s t : Ty) :
    (r.install (r.install b)).rulesFor s t = (r.install b).rulesFor s t := by
  rw [rulesFor_install, rulesFor_install]
  by_cases hp : (Native.collection == s && Native.object == t) = true
  · rw [if_pos hp, if_pos hp]
  · have hnone : ((r.installed s t).filter fun x => !r.replaces s t x) = [] := by
      refine List.filter_eq_nil_iff.mpr fun x hx => ?_
      simp [replaces_of_mem_installed hx]
    rw [if_neg hp, if_neg hp, List.filter_append, hnone, List.nil_append, List.filter_filter]
    simp only [Bool.and_self]

end Registry

/-! ### Installation in any book -/

/-- A call on a rule book. -/
inductive Call where
  | edit (e : Edit)
  | install (r : Registry)

namespace Call

def apply (b : RuleBook) : Call → RuleBook
  | edit e => e.apply b
  | install r => r.install b

def edits : Call → History
  | edit e => [e]
  | install r => r.edits

def book (calls : List Call) : RuleBook := calls.foldl apply .empty

lemma apply_eq (b : RuleBook) (c : Call) : c.apply b = c.edits.foldl Edit.apply b := by
  cases c with
  | edit e => rfl
  | install r => exact r.install_eq b

lemma book_eq (calls : List Call) : book calls = History.book (calls.flatMap edits) := by
  have happly : apply = fun b c => c.edits.foldl Edit.apply b := funext₂ apply_eq
  rw [book, History.book, List.foldl_flatMap, happly]

end Call

namespace Registry

/-- **Installing twice is installing once**, for whoever looks up rules, counts them or converts;
and installing leaves the rules of others alone, but for those under the pair of the general
rule and those whose ids the registrars use under the same pair. -/
theorem install_install (r : Registry) (calls : List Call) :
    let b := Call.book calls
    let once := r.install b
    let twice := r.install once
    (∀ s t, twice.rulesFor s t = once.rulesFor s t) ∧
    twice.size = once.size ∧
    (∀ s t, twice.canConvert s t = once.canConvert s t) ∧
    (∀ v t, twice.convert v t = once.convert v t) ∧
    once.rulesFor Native.collection Native.object ⊆
      r.rules.filter (·.declares Native.collection Native.object) ∧
    ∀ s t, once.rulesFor s t = r.installed s t ++
      if (Native.collection == s && Native.object == t) = true then []
      else (b.rulesFor s t).filter fun x => !r.replaces s t x := by
  intro b once twice
  have hrules : ∀ s t, twice.rulesFor s t = once.rulesFor s t := r.rulesFor_install_install b
  have hselect := RuleBook.select?_congr hrules
  -- books of one content are of one size only if edits have made them
  let h := calls.flatMap Call.edits
  have honce : once = History.book (h ++ r.edits) := by
    rw [← install_book, ← Call.book_eq]
  have htwice : twice = History.book (h ++ r.edits ++ r.edits) := by
    rw [← install_book, ← honce]
  refine ⟨hrules, ?_, ?_, ?_, ?_, r.rulesFor_install b⟩
  · rw [htwice, honce] at hrules ⊢
    exact History.size_congr hrules
  · intro s t
    simp only [RuleBook.canConvert, hselect]
  · intro v t
    simp only [RuleBook.convert, hselect]
  · intro x hx
    rw [rulesFor_install, if_pos (by decide), List.append_nil] at hx
    exact mem_rules_of_mem_installed hx

end Registry

end ForeignCollections
