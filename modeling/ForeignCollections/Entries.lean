/-!
Sets and maps in encounter order, as lists without repetition. What counts as a repetition is
a test `same` given by the caller. A member that is already there stays as it is; of two
entries with one key the first keeps its key and its place and the second gives the value.
-/

namespace ForeignCollections.Entries

variable {κ α : Type}

/-- Adds a member at the end unless one like it is there. -/
def addMember (same : κ → κ → Bool) (members : List κ) (x : κ) : List κ :=
  if members.any (same x) then members else members ++ [x]

/-- The members of a list, each at its first place. -/
def membersOf (same : κ → κ → Bool) (xs : List κ) : List κ :=
  xs.foldl (addMember same) []

/-- Sets the value of a key, at the end if the key is new. -/
def put (same : κ → κ → Bool) : List (κ × α) → κ → α → List (κ × α)
  | [], k, v => [(k, v)]
  | e :: es, k, v => if same k e.1 then (e.1, v) :: es else e :: put same es k v

/-- The entries of a list, later values for a key put in place of earlier ones. -/
def entriesOf (same : κ → κ → Bool) (es : List (κ × α)) : List (κ × α) :=
  es.foldl (fun found e => put same found e.1 e.2) []

def get? (same : κ → κ → Bool) (es : List (κ × α)) (k : κ) : Option α :=
  (es.find? fun e => same k e.1).map (·.2)

theorem keys_put (same : κ → κ → Bool) (es : List (κ × α)) (k : κ) (v : α) :
    (put same es k v).map (·.1) = addMember same (es.map (·.1)) k := by
  induction es with
  | nil => simp [put, addMember]
  | cons e es ih =>
    rw [put, addMember, List.map_cons, List.any_cons]
    split
    · rename_i h
      simp [h]
    · rename_i h
      rw [List.map_cons, ih, addMember]
      rw [Bool.not_eq_true] at h
      rw [h, Bool.false_or]
      split <;> simp

theorem keys_entriesOf (same : κ → κ → Bool) (es : List (κ × α)) :
    (entriesOf same es).map (·.1) = membersOf same (es.map (·.1)) := by
  suffices h : ∀ found : List (κ × α),
      (es.foldl (fun found e => put same found e.1 e.2) found).map (·.1) =
        (es.map (·.1)).foldl (addMember same) (found.map (·.1)) from h []
  induction es with
  | nil => intro found; rfl
  | cons e es ih =>
    intro found
    rw [List.foldl_cons, List.map_cons, List.foldl_cons, ih, keys_put]

end ForeignCollections.Entries
