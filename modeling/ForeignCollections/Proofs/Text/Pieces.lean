import Mathlib.Data.List.DropRight
import ForeignCollections.Text.Basic

/-!
Trimming a text and cutting it into pieces. What trimming takes off is blank, and what stands in
blanks is trimmed like what stands alone; the pieces of a text are those that give it when they are
joined, and none of them holds the separator.
-/

namespace ForeignCollections

namespace Text

variable {a b s t : String} {separator : Char}

/-! ### Trimming -/

lemma trimChars_eq (cs : List Char) :
    trimChars cs = (cs.dropWhile isBlankChar).rdropWhile isBlankChar := rfl

lemma trimChars_append {as bs : List Char} (ha : ∀ c ∈ as, isBlankChar c = true)
    (hb : ∀ c ∈ bs, isBlankChar c = true) (cs : List Char) :
    trimChars (as ++ cs ++ bs) = trimChars cs := by
  have hfront : (as ++ cs ++ bs).dropWhile isBlankChar = (cs ++ bs).dropWhile isBlankChar := by
    rw [List.append_assoc, List.dropWhile_append_of_pos ha]
  rw [trimChars_eq, trimChars_eq, hfront, List.dropWhile_append]
  split
  · rename_i hempty
    rw [List.isEmpty_iff] at hempty
    rw [hempty, List.dropWhile_eq_nil_iff.mpr hb]
  · rw [List.rdropWhile, List.reverse_append,
      List.dropWhile_append_of_pos fun c hc => hb c (List.mem_reverse.mp hc), List.rdropWhile]

lemma isBlank_iff : isBlank s = true ↔ ∀ c ∈ s.toList, isBlankChar c = true := List.all_eq_true

lemma trim_append (ha : isBlank a = true) (hb : isBlank b = true) (s : String) :
    trim (a ++ s ++ b) = trim s := by
  rw [trim, trim, String.toList_append, String.toList_append,
    trimChars_append (isBlank_iff.mp ha) (isBlank_iff.mp hb)]

lemma exists_eq_append_trim (s : String) :
    ∃ a b, isBlank a = true ∧ isBlank b = true ∧ s = a ++ trim s ++ b := by
  refine ⟨.ofList (s.toList.takeWhile isBlankChar),
    .ofList ((s.toList.dropWhile isBlankChar).rtakeWhile isBlankChar), ?_, ?_, ?_⟩
  · rw [isBlank, String.toList_ofList]
    exact List.all_takeWhile
  · rw [isBlank_iff, String.toList_ofList]
    exact fun c hc => List.mem_rtakeWhile_imp hc
  · apply String.toList_injective
    simp only [String.toList_append, String.toList_ofList, toList_trim, trimChars_eq,
      List.append_assoc, List.rdropWhile_append_rtakeWhile, List.takeWhile_append_dropWhile]

@[simp] lemma trim_trim (s : String) : trim (trim s) = trim s := by
  obtain ⟨a, b, ha, hb, hs⟩ := exists_eq_append_trim s
  conv_rhs => rw [hs, trim_append ha hb]

lemma isBlank_append : isBlank (s ++ t) = true ↔ isBlank s = true ∧ isBlank t = true := by
  rw [isBlank, String.toList_append, List.all_append, Bool.and_eq_true]
  rfl

lemma trim_eq_empty_iff : trim s = "" ↔ isBlank s = true := by
  constructor
  · intro h
    obtain ⟨a, b, ha, hb, hs⟩ := exists_eq_append_trim s
    rw [hs, h, String.append_empty]
    exact isBlank_append.mpr ⟨ha, hb⟩
  · intro h
    have hs : s ++ "" ++ "" = s := by simp
    rw [← hs, trim_append h rfl]
    rfl

lemma isBlank_trim_iff : isBlank (trim s) = true ↔ trim s = "" := by
  rw [← trim_eq_empty_iff, trim_trim]

/-! ### Pieces -/

lemma not_mem_of_mem_pieces {p : String} (h : p ∈ pieces separator s) : separator ∉ p.toList := by
  obtain ⟨cs, hcs, rfl⟩ := List.mem_map.mp h
  rw [String.toList_ofList]
  exact not_mem_of_mem_piecesChars hcs

lemma intercalate_piecesChars (separator : Char) (cs : List Char) :
    [separator].intercalate (piecesChars separator cs) = cs := by
  induction cs with
  | nil => rfl
  | cons c cs ih =>
    obtain ⟨p, ps, hps⟩ := List.exists_cons_of_ne_nil (piecesChars_ne_nil separator cs)
    rw [hps] at ih
    rw [piecesChars, hps]
    split
    · rename_i hc
      rw [List.intercalate_cons_cons, ih, hc, List.nil_append, List.singleton_append]
    · cases ps <;> simpa using ih

lemma piecesChars_intercalate {ps : List (List Char)} (hne : ps ≠ [])
    (h : ∀ p ∈ ps, separator ∉ p) : piecesChars separator ([separator].intercalate ps) = ps := by
  induction ps with
  | nil => exact absurd rfl hne
  | cons p ps ih =>
    obtain ⟨hp, hps⟩ := List.forall_mem_cons.mp h
    cases ps with
    | nil => rw [List.intercalate_singleton, piecesChars_of_not_mem hp]
    | cons q qs =>
      rw [List.intercalate_cons_cons, List.append_assoc, List.singleton_append,
        piecesChars_append hp, ih (List.cons_ne_nil q qs) hps]

/-- The pieces with commas between them are the text. -/
lemma intercalate_pieces (s : String) : ",".intercalate (pieces ',' s) = s := by
  apply String.toList_injective
  rw [String.toList_intercalate, pieces, List.map_map]
  simp only [Function.comp_def, String.toList_ofList, List.map_id']
  exact intercalate_piecesChars ',' s.toList

/-- Pieces that are joined by commas are found again, if they hold none. -/
lemma pieces_intercalate {ps : List String} (hne : ps ≠ []) (h : ∀ p ∈ ps, ',' ∉ p.toList) :
    pieces ',' (",".intercalate ps) = ps := by
  have hchars : ∀ p ∈ ps.map String.toList, ',' ∉ p := List.forall_mem_map.mpr h
  have hsplit := piecesChars_intercalate (by simpa using hne) hchars
  rw [pieces, String.toList_intercalate]
  refine (congrArg (List.map String.ofList) hsplit).trans ?_
  simp [Function.comp_def]

end Text

end ForeignCollections
