/-!
Texts. A class of characters is given by ranges of code points. A character is blank when it has
the Unicode property White_Space; a text is blank when all its characters are, and trimming takes
blank characters off both ends. A text can be cut at every place where a given character stands.
-/

namespace ForeignCollections.Text

/-- Closed ranges of code points, lowest first. -/
abbrev CharRanges := List (Nat × Nat)

def CharRanges.holds (ranges : CharRanges) (c : Char) : Bool :=
  ranges.any fun r => r.1 ≤ c.toNat && c.toNat ≤ r.2

/-- The code points with the property White_Space. -/
def blankRanges : CharRanges :=
  [(0x09, 0x0D), (0x20, 0x20), (0x85, 0x85), (0xA0, 0xA0), (0x1680, 0x1680), (0x2000, 0x200A),
   (0x2028, 0x2029), (0x202F, 0x202F), (0x205F, 0x205F), (0x3000, 0x3000)]

def isBlankChar (c : Char) : Bool := blankRanges.holds c

def isBlank (s : String) : Bool := s.toList.all isBlankChar

def trimChars (cs : List Char) : List Char :=
  ((cs.dropWhile isBlankChar).reverse.dropWhile isBlankChar).reverse

/-- A text without the blanks at its two ends. -/
def trim (s : String) : String := String.ofList (trimChars s.toList)

@[simp] theorem toList_trim (s : String) : (trim s).toList = trimChars s.toList := by
  simp [trim]

/-- The pieces between the separators: one more than there are separators, some maybe empty. -/
def piecesChars (separator : Char) : List Char → List (List Char)
  | [] => [[]]
  | c :: cs =>
    if c = separator then [] :: piecesChars separator cs
    else
      match piecesChars separator cs with
      | [] => [[c]]
      | p :: ps => (c :: p) :: ps

def pieces (separator : Char) (s : String) : List String :=
  (piecesChars separator s.toList).map String.ofList

theorem piecesChars_ne_nil (separator : Char) (cs : List Char) :
    piecesChars separator cs ≠ [] := by
  cases cs with
  | nil => simp [piecesChars]
  | cons c cs => unfold piecesChars; split <;> (try split) <;> simp

theorem piecesChars_of_not_mem {separator : Char} {p : List Char} (h : separator ∉ p) :
    piecesChars separator p = [p] := by
  induction p with
  | nil => rfl
  | cons c p ih =>
    rw [List.mem_cons, not_or] at h
    rw [piecesChars, if_neg (Ne.symm h.1), ih h.2]

theorem piecesChars_append {separator : Char} {p : List Char} (h : separator ∉ p)
    (rest : List Char) :
    piecesChars separator (p ++ separator :: rest) = p :: piecesChars separator rest := by
  induction p with
  | nil => rw [List.nil_append, piecesChars, if_pos rfl]
  | cons c p ih =>
    rw [List.mem_cons, not_or] at h
    rw [List.cons_append, piecesChars, if_neg (Ne.symm h.1), ih h.2]

theorem not_mem_of_mem_piecesChars {separator : Char} {cs p : List Char}
    (h : p ∈ piecesChars separator cs) : separator ∉ p := by
  induction cs generalizing p with
  | nil => rw [piecesChars, List.mem_singleton] at h; simp [h]
  | cons c cs ih =>
    rw [piecesChars] at h
    split at h
    · rcases List.mem_cons.1 h with rfl | h
      · simp
      · exact ih h
    · rename_i hc
      split at h
      · rw [List.mem_singleton] at h
        simp [h, Ne.symm hc]
      · rename_i q qs hq
        rcases List.mem_cons.1 h with rfl | h
        · have hq' : separator ∉ q := ih (by simp [hq])
          simp [Ne.symm hc, hq']
        · exact ih (by simp [hq, h])

end ForeignCollections.Text
