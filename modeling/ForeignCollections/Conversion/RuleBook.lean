import ForeignCollections.Error
import ForeignCollections.Value.Basic

/-!
Conversion rules, and the book in which they are filed under pairs of types and found by
hierarchy. A rule declares the pairs of types it is responsible for, narrows them by a test on the
concrete types at hand, and converts; anybody may bring rules, so a rule is a record of functions.
A rule is looked for under every pair of an ancestor of the source and an ancestor of the target,
the nearest source ancestor first, then the nearest target ancestor, then the newest rule.

The view of a book is the list of rules under each pair; `rulesFor_file` and `rulesFor_remove`
say what the two operations do to it.
-/

namespace ForeignCollections

structure Rule where
  /-- Adding a rule under a known id replaces the earlier one on the pairs of the new rule. -/
  id : String
  /-- The pairs of source and target type the rule is looked up by. -/
  pairs : List (Ty × Ty)
  accepts : Ty → Ty → Bool := fun _ _ => true
  convert : Value → Ty → Ty → Except CollectionError Value

namespace Rule

/-- The general rule that turns any native collection into its first item, or into null. -/
def firstItem : Rule where
  id := "collection-to-object"
  pairs := [(Native.collection, Native.object)]
  convert value _ _ := .ok (value.items.head?.getD .null)

end Rule

structure Filing where
  source : String
  target : String
  rule : Rule

namespace Filing

/-- The rule is filed under this pair. -/
def isUnder (f : Filing) (source target : Ty) : Bool :=
  f.source == source.name && f.target == target.name

theorem isUnder_iff {f : Filing} {s t : Ty} :
    f.isUnder s t = true ↔ f.source = s.name ∧ f.target = t.name := by
  simp [isUnder]

theorem isUnder_congr {f : Filing} {s t s' t' : Ty} (hs : s.name = s'.name)
    (ht : t.name = t'.name) : f.isUnder s t = f.isUnder s' t' := by
  rw [isUnder, isUnder, hs, ht]

theorem not_isUnder {f : Filing} {s t s' t' : Ty} (hf : f.isUnder s' t' = true)
    (h : ¬(s.name = s'.name ∧ t.name = t'.name)) : f.isUnder s t = false := by
  rw [isUnder_iff] at hf
  refine Bool.eq_false_iff.2 fun hf' => h ?_
  rw [isUnder_iff] at hf'
  exact ⟨hf'.1.symm.trans hf.1, hf'.2.symm.trans hf.2⟩

end Filing

/-- Filed rules, the newest first. -/
structure RuleBook where
  filings : List Filing

namespace RuleBook

def empty : RuleBook := ⟨[]⟩

/-- Files a rule under one pair, in front of the others and in place of one with its id. -/
def file (rule : Rule) (b : RuleBook) (pair : Ty × Ty) : RuleBook :=
  ⟨⟨pair.1.name, pair.2.name, rule⟩ ::
    b.filings.filter fun f => !(f.isUnder pair.1 pair.2 && f.rule.id == rule.id)⟩

def add (b : RuleBook) (rule : Rule) : RuleBook := rule.pairs.foldl (file rule) b

/-- Drops all rules filed under exactly this pair. -/
def remove (b : RuleBook) (source target : Ty) : RuleBook :=
  ⟨b.filings.filter fun f => !f.isUnder source target⟩

def withDefaults : RuleBook := empty.add .firstItem

/-- The rules filed under exactly this pair, the newest first. -/
def rulesFor (b : RuleBook) (source target : Ty) : List Rule :=
  (b.filings.filter (·.isUnder source target)).map (·.rule)

def size (b : RuleBook) : Nat := b.filings.length

def isEmpty (b : RuleBook) : Bool := b.size == 0

/-- The rule that takes `source` and `target`: the most specific and newest that accepts. -/
def select? (b : RuleBook) (source target : Ty) : Option Rule :=
  source.ancestors.findSome? fun s =>
    target.ancestors.findSome? fun t =>
      (b.rulesFor s t).find? (·.accepts source target)

def canConvert (b : RuleBook) (source target : Ty) : Bool :=
  target.isAssignableFrom source || (b.select? source target).isSome

/-- Converts a value to a type. Null stays null, and a value that already has the type stays
as it is. -/
def convert (b : RuleBook) (value : Value) (target : Ty) : Except CollectionError Value :=
  if value.isNull then .ok .null
  else
    let source := value.runtimeType
    if target.isAssignableFrom source then .ok value
    else
      match b.select? source target with
      | some rule => rule.convert value source target
      | none => .error (.noConverter source.name target.name)

@[simp] theorem rulesFor_empty (s t : Ty) : empty.rulesFor s t = [] := rfl

theorem rulesFor_file (rule : Rule) (b : RuleBook) (p : Ty × Ty) (s t : Ty) :
    (file rule b p).rulesFor s t =
      if p.1.name = s.name ∧ p.2.name = t.name then
        rule :: (b.rulesFor s t).filter fun r => r.id != rule.id
      else b.rulesFor s t := by
  simp only [file, rulesFor, List.filter_cons, List.filter_filter, List.filter_map]
  by_cases h : p.1.name = s.name ∧ p.2.name = t.name
  · rw [if_pos (Filing.isUnder_iff.2 h), if_pos h, List.map_cons]
    congr 2
    refine List.filter_congr fun f _ => ?_
    rw [Filing.isUnder_congr h.1 h.2]
    cases f.isUnder s t <;> simp [bne]
  · rw [if_neg (mt Filing.isUnder_iff.1 h), if_neg h]
    congr 1
    refine List.filter_congr fun f _ => ?_
    cases hf : f.isUnder s t
    · rfl
    · simp [Filing.not_isUnder hf h]

theorem rulesFor_remove (b : RuleBook) (s t s' t' : Ty) :
    (b.remove s t).rulesFor s' t' =
      if s.name = s'.name ∧ t.name = t'.name then [] else b.rulesFor s' t' := by
  simp only [remove, rulesFor, List.filter_filter]
  by_cases h : s.name = s'.name ∧ t.name = t'.name
  · rw [if_pos h, List.map_eq_nil_iff, List.filter_eq_nil_iff]
    intro f _
    rw [Filing.isUnder_congr h.1 h.2]
    cases f.isUnder s' t' <;> decide
  · rw [if_neg h]
    congr 1
    refine List.filter_congr fun f _ => ?_
    cases hf : f.isUnder s' t'
    · rfl
    · simp [Filing.not_isUnder hf h]

end RuleBook

end ForeignCollections
