import ForeignCollections.Entries
import ForeignCollections.Native.Catalogue

/-!
Values. A scalar has a fixed native type; a container is a sequence, a set or a map that is
tagged with a runtime type of any kind, sensible or not for its shape. Members and entries are
kept in encounter order.

Equality of values goes by content: runtime types do not take part, sequences are compared in
order, sets and maps regardless of order. The digest of a value is what is compared first when
a member or a key is looked for; equal values have equal digests.
-/

namespace ForeignCollections

inductive Value where
  | null
  | bool (b : Bool)
  | int (n : Int64)
  | text (s : String)
  | sequence (type : Ty) (items : List Value)
  | set (type : Ty) (members : List Value)
  | map (type : Ty) (entries : List (Value × Value))

namespace Value

def runtimeType : Value → Ty
  | null => Native.object
  | bool _ => Native.boolean
  | int _ => Native.long
  | text _ => Native.string
  | sequence t _ | set t _ | map t _ => t

def isNull : Value → Bool
  | null => true
  | _ => false

def isContainer : Value → Bool
  | sequence _ _ | set _ _ | map _ _ => true
  | _ => false

/-- The items of a sequence or the members of a set; all other values have none. -/
def items : Value → List Value
  | sequence _ xs | set _ xs => xs
  | _ => []

def size : Value → Nat
  | sequence _ xs | set _ xs => xs.length
  | map _ es => es.length
  | _ => 0

mutual

/-- Equality by content. -/
def equal : Value → Value → Bool
  | null, null => true
  | bool a, bool b => a == b
  | int a, int b => a == b
  | text a, text b => a == b
  | sequence _ xs, sequence _ ys => equalItems xs ys
  | set _ xs, set _ ys => xs.length == ys.length && allIn xs ys
  | map _ xs, map _ ys => xs.length == ys.length && entriesIn xs ys
  | _, _ => false

def equalItems : List Value → List Value → Bool
  | [], [] => true
  | x :: xs, y :: ys => equal x y && equalItems xs ys
  | _, _ => false

def allIn : List Value → List Value → Bool
  | [], _ => true
  | x :: xs, ys => ys.any (fun y => equal x y) && allIn xs ys

/-- Each of the first entries has an equal value under its key in the second. -/
def entriesIn : List (Value × Value) → List (Value × Value) → Bool
  | [], _ => true
  | (k, v) :: es, ys =>
    (match ys.find? (fun e => equal k e.1) with
      | some e => equal v e.2
      | none => false) && entriesIn es ys

end

inductive Mark where
  | null
  | bool (b : Bool)
  | int (n : Int64)
  | text (s : String)
  | sequence (length : Nat)
  | set (size : Nat)
  | map (size : Nat)
  deriving DecidableEq

mutual

/-- The digest of a value: sequences go in with all their items, sets and maps only with their
sizes, as they may be met in another order. -/
def digest : Value → List Mark
  | null => [.null]
  | bool b => [.bool b]
  | int n => [.int n]
  | text s => [.text s]
  | sequence _ xs => .sequence xs.length :: digestItems xs
  | set _ xs => [.set xs.length]
  | map _ es => [.map es.length]

def digestItems : List Value → List Mark
  | [] => []
  | x :: xs => digest x ++ digestItems xs

end

/-- Equality as members and keys are looked for: by digest first, then by content. -/
def sameKey (a b : Value) : Bool := a.digest == b.digest && a.equal b

mutual

theorem digest_eq_of_equal : ∀ {a b : Value}, a.equal b = true → a.digest = b.digest
  | null, b, h => by cases b <;> simp_all [equal, digest]
  | bool _, b, h => by cases b <;> simp_all [equal, digest]
  | int _, b, h => by cases b <;> simp_all [equal, digest]
  | text _, b, h => by cases b <;> simp_all [equal, digest]
  | sequence _ xs, b, h => by
    cases b with
    | sequence _ ys =>
      have h₁ : equalItems xs ys = true := by simpa [equal] using h
      have h₂ := digestItems_eq_of_equal h₁
      simp [digest, h₂.1, h₂.2]
    | _ => simp [equal] at h
  | set _ _, b, h => by cases b <;> simp_all [equal, digest]
  | map _ _, b, h => by cases b <;> simp_all [equal, digest]

theorem digestItems_eq_of_equal : ∀ {xs ys : List Value}, equalItems xs ys = true →
    xs.length = ys.length ∧ digestItems xs = digestItems ys
  | [], ys, h => by cases ys <;> simp_all [equalItems]
  | x :: xs, ys, h => by
    cases ys with
    | nil => simp [equalItems] at h
    | cons y ys =>
      simp only [equalItems, Bool.and_eq_true] at h
      have h₁ := digest_eq_of_equal h.1
      have h₂ := digestItems_eq_of_equal h.2
      simp [digestItems, h₁, h₂.1, h₂.2]

end

theorem sameKey_eq_equal (a b : Value) : a.sameKey b = a.equal b := by
  rcases h : a.equal b with _ | _
  · simp [sameKey, h]
  · simp [sameKey, h, digest_eq_of_equal h]

/-- A set from items in order: an item equal to an earlier one is dropped. -/
def setOf (type : Ty) (items : List Value) : Value :=
  set type (Entries.membersOf sameKey items)

/-- A map from entries in order: a key equal to an earlier one gives that key a new value. -/
def mapOf (type : Ty) (entries : List (Value × Value)) : Value :=
  map type (Entries.entriesOf sameKey entries)

def arrayList (items : List Value) : Value := sequence Native.arrayList items

def hashSet (items : List Value) : Value := setOf Native.hashSet items

def linkedHashSet (items : List Value) : Value := setOf Native.linkedHashSet items

def hashMap (entries : List (Value × Value)) : Value := mapOf Native.hashMap entries

def linkedHashMap (entries : List (Value × Value)) : Value := mapOf Native.linkedHashMap entries

def contains (v x : Value) : Bool := v.items.any x.sameKey

def get? (v k : Value) : Option Value :=
  match v with
  | map _ es => Entries.get? sameKey es k
  | _ => none

end Value

end ForeignCollections
