import ForeignCollections.Error
import ForeignCollections.Text.Basic

/-!
Runtime types. A type is a handle: a qualified name that is not blank, a kind, and the
handles of its direct supertypes. Any name that is not blank can be declared. Two handles of one
name are the same type, whatever their kinds and supertypes, so `==` compares names only.
-/

namespace ForeignCollections

inductive Kind where
  | interface
  | concrete
  deriving DecidableEq

inductive Ty where
  | mk (name : String) (notBlank : Text.isBlank name = false) (kind : Kind) (supers : List Ty)

namespace Ty

def name : Ty → String
  | mk n _ _ _ => n

def kind : Ty → Kind
  | mk _ _ k _ => k

def supers : Ty → List Ty
  | mk _ _ _ s => s

theorem notBlank : ∀ t : Ty, Text.isBlank t.name = false
  | mk _ h _ _ => h

instance : BEq Ty := ⟨fun a b => a.name == b.name⟩

/-- A new handle, unless the name is blank. -/
def declare (name : String) (kind : Kind) (supers : List Ty) : Except CollectionError Ty :=
  if h : Text.isBlank name = false then .ok (mk name h kind supers) else .error .blankTypeName

theorem beq_iff {a b : Ty} : (a == b) = true ↔ a.name = b.name := by
  simp [BEq.beq]

theorem beq_refl (a : Ty) : (a == a) = true := beq_iff.2 rfl

def isInterface (t : Ty) : Bool := t.kind = .interface

def simpleName (t : Ty) : String :=
  String.ofList (t.name.toList.reverse.takeWhile (· ≠ '.')).reverse

/-- The root of every hierarchy: each type is assignable to it. -/
def object : Ty := mk "java.lang.Object" (by decide) .concrete []

/-- A type that bears the name of the root, whatever its handle. -/
def isObject (t : Ty) : Bool := t == object

/-- The types of `ts` whose names are not in `seen`, each name at its first place only. -/
def unseen (seen : List String) : List Ty → List Ty
  | [] => []
  | t :: ts => if t.name ∈ seen then unseen seen ts else t :: unseen (t.name :: seen) ts

/-- The types of `ts` with the later repetitions of a name left out. -/
def distinct (ts : List Ty) : List Ty := unseen [] ts

theorem mem_of_mem_unseen {t : Ty} {seen : List String} {ts : List Ty}
    (h : t ∈ unseen seen ts) : t ∈ ts ∧ t.name ∉ seen := by
  induction ts generalizing seen with
  | nil => simp [unseen] at h
  | cons u us ih =>
    rw [unseen] at h
    split at h
    · have := ih h
      exact ⟨List.mem_cons_of_mem _ this.1, this.2⟩
    · rcases List.mem_cons.1 h with rfl | h
      · exact ⟨List.mem_cons_self, by assumption⟩
      · have := ih h
        exact ⟨List.mem_cons_of_mem _ this.1, fun hs => this.2 (List.mem_cons_of_mem _ hs)⟩

theorem mem_names_unseen {n : String} {seen : List String} {ts : List Ty} :
    n ∈ (unseen seen ts).map name ↔ n ∈ ts.map name ∧ n ∉ seen := by
  induction ts generalizing seen with
  | nil => simp [unseen]
  | cons t ts ih =>
    rw [unseen]
    split
    · rename_i h
      rw [ih, List.map_cons, List.mem_cons]
      refine ⟨fun ⟨h₁, h₂⟩ => ⟨Or.inr h₁, h₂⟩, ?_⟩
      rintro ⟨rfl | h₁, h₂⟩
      · exact absurd h h₂
      · exact ⟨h₁, h₂⟩
    · rename_i h
      rw [List.map_cons, List.map_cons, List.mem_cons, List.mem_cons, ih, List.mem_cons, not_or]
      by_cases hn : n = t.name
      · simp [hn, h]
      · simp [hn]

theorem nodup_names_unseen (seen : List String) (ts : List Ty) :
    ((unseen seen ts).map name).Nodup := by
  induction ts generalizing seen with
  | nil => simp [unseen]
  | cons t ts ih =>
    rw [unseen]
    split
    · exact ih seen
    · rw [List.map_cons, List.nodup_cons, mem_names_unseen]
      exact ⟨fun h => h.2 List.mem_cons_self, ih _⟩

theorem nodup_names_distinct (ts : List Ty) : ((distinct ts).map name).Nodup :=
  nodup_names_unseen [] ts

end Ty

end ForeignCollections
