import ForeignCollections.Json.Pretty
import ForeignCollections.Proofs.Json.Record

/-!
Which texts stand for a value. White space between the parts of a value is free, and so are the
escapes in its strings; what is left is the value. The indented form of a value is one of its forms,
since a block of lines is a list in brackets whose entries have their line breaks in front of them.
Main statement: a record is read from every form of an object as the members of the object have it,
so a reader need not know how the text was laid out (`Record.parse_of_spells`).
-/

namespace ForeignCollections.Json

/-- How a value is written. The digits of a number are not free. -/
inductive Form : List Char → Json → Prop where
  | null : Form ['n', 'u', 'l', 'l'] .null
  | true : Form ['t', 'r', 'u', 'e'] (.bool true)
  | false : Form ['f', 'a', 'l', 's', 'e'] (.bool false)
  | number (n : Number) : Form n.chars (.number n)
  | text {w : List Char} {s : String} (text : TextForm w s) : Form w (.text s)
  | array {w : List Char} {js : List Json} (items : ArrayForm Form w js) : Form w (.array js)
  -- Keys and values stand in two lists, since a relation on members that has this one inside would
  -- be refused as a nested type; `memberForms` puts the two together again.
  | object {ms : List Member} {gap : List Char} {kjs : List (String × Json)}
      (spaced : ∀ m ∈ ms, m.Spaced) (space : Space gap)
      (keys : List.Forall₂ TextForm (ms.map Member.key) (kjs.map (·.1)))
      (values : List.Forall₂ Form (ms.map Member.value) (kjs.map (·.2))) :
      Form (bracketed '{' '}' (ms.map Member.piece) gap) (.object kjs)

structure MemberForm (m : Member) (kj : String × Json) : Prop where
  key : TextForm m.key kj.1
  value : Form m.value kj.2

lemma memberForms {ms : List Member} {kjs : List (String × Json)}
    (keys : List.Forall₂ TextForm (ms.map Member.key) (kjs.map (·.1)))
    (values : List.Forall₂ Form (ms.map Member.value) (kjs.map (·.2))) :
    List.Forall₂ MemberForm ms kjs := by
  rw [List.forall₂_map_left_iff, List.forall₂_map_right_iff] at keys values
  exact (Entries.forall₂_and_iff.mpr ⟨keys, values⟩).imp fun _ _ h => ⟨h.1, h.2⟩

/-- The text spells this value, white space around it left aside. -/
def Spells (s : String) (j : Json) : Prop :=
  ∃ before w after, s.toList = before ++ w ++ after ∧ Space before ∧ Form w j ∧ Space after

lemma Spells.append {s gap : String} {j : Json} (h : Spells s j) (hgap : Space gap.toList) :
    Spells (s ++ gap) j := by
  obtain ⟨before, w, after, hs, hbefore, hw, hafter⟩ := h
  refine ⟨before, w, after ++ gap.toList, ?_, hbefore, hw, ?_⟩
  · rw [String.toList_append, hs, List.append_assoc _ after]
  · exact List.forall_mem_append.mpr ⟨hafter, hgap⟩

/-! ### The indented form -/

lemma space_newline (level : Nat) : Space (newline level) := by
  refine List.forall_mem_cons.mpr ⟨by decide, fun c hc => ?_⟩
  rw [List.eq_of_mem_replicate hc]
  decide

def line (level : Nat) (entry : List Char) : Piece := ⟨newline level, entry, []⟩

def closingGap (level : Nat) (entries : List (List Char)) : List Char :=
  if entries.isEmpty then [] else newline level

lemma space_closingGap (level : Nat) (entries : List (List Char)) :
    Space (closingGap level entries) := by
  rw [closingGap]
  split
  · exact space_nil
  · exact space_newline level

lemma block_eq_bracketed (opening closing : Char) (level : Nat) (entries : List (List Char)) :
    block opening closing level entries =
      bracketed opening closing (entries.map (line (level + 1))) (closingGap level entries) := by
  cases entries with
  | nil => rfl
  | cons e es =>
    rw [bracketed, List.map_cons, List.map_cons, intercalate_texts, List.flatMap_map]
    simp [block, closingGap, line, Piece.text]

lemma body_line (level : Nat) (entries : List (List Char)) :
    (entries.map (line level)).map Piece.body = entries := by
  simp [line, Function.comp_def]

lemma form_array_block (level : Nat) {entries : List (List Char)} {js : List Json}
    (h : List.Forall₂ Form entries js) : Form (block '[' ']' level entries) (.array js) := by
  rw [block_eq_bracketed]
  refine .array (.mk (List.forall_mem_map.mpr fun _ _ => ⟨space_newline _, space_nil⟩)
    (space_closingGap level entries) ?_)
  rwa [body_line]

def memberLine (level : Nat) (kj : String × Json) : Member :=
  ⟨newline level, writtenText kj.1, [], [' '], prettyAt level kj.2, []⟩

lemma spaced_memberLine (level : Nat) (kj : String × Json) : (memberLine level kj).Spaced :=
  ⟨⟨space_newline level, space_nil⟩, space_nil, List.forall_mem_singleton.mpr (by decide)⟩

lemma piece_memberLine (level : Nat) (ms : List (String × Json)) :
    (ms.map (memberLine level)).map Member.piece = (prettyMembers level ms).map (line level) := by
  induction ms with
  | nil => rfl
  | cons m ms ih =>
    rw [prettyMembers, List.map_cons, List.map_cons, List.map_cons, ih]
    simp [memberLine, Member.piece, Member.assigned, line]

lemma keys_memberLine (level : Nat) (ms : List (String × Json)) :
    List.Forall₂ TextForm ((ms.map (memberLine level)).map Member.key) (ms.map (·.1)) := by
  rw [List.map_map, List.forall₂_map_left_iff, List.forall₂_map_right_iff, List.forall₂_same]
  exact fun kj _ => textForm_writtenText kj.1

lemma form_object_block (level : Nat) {ms : List (String × Json)}
    (h : List.Forall₂ Form ((ms.map (memberLine (level + 1))).map Member.value) (ms.map (·.2))) :
    Form (block '{' '}' level (prettyMembers (level + 1) ms)) (.object ms) := by
  rw [block_eq_bracketed, ← piece_memberLine]
  exact .object (List.forall_mem_map.mpr fun kj _ => spaced_memberLine _ kj)
    (space_closingGap _ _) (keys_memberLine _ ms) h

-- The recursion is that of the three functions that write a value, its items and its members; what
-- a bracket does to the lines in it has been said above, so only the levels have to fit.
mutual

theorem form_prettyAt (level : Nat) : ∀ j : Json, Form (prettyAt level j) j
  | .null => .null
  | .bool true => .true
  | .bool false => .false
  | .number n => .number n
  | .text s => .text (textForm_writtenText s)
  | .array js => form_array_block level (forms_prettyItems (level + 1) js)
  | .object ms => form_object_block level (forms_memberLines (level + 1) ms)

theorem forms_prettyItems (level : Nat) :
    ∀ js : List Json, List.Forall₂ Form (prettyItems level js) js
  | [] => .nil
  | j :: js => .cons (form_prettyAt level j) (forms_prettyItems level js)

theorem forms_memberLines (level : Nat) : ∀ ms : List (String × Json),
    List.Forall₂ Form ((ms.map (memberLine level)).map Member.value) (ms.map (·.2))
  | [] => .nil
  | (_, j) :: ms => .cons (form_prettyAt level j) (forms_memberLines level ms)

end

/-- **The indented form of a value spells it.** -/
lemma spells_pretty (j : Json) : Spells j.pretty j :=
  ⟨[], prettyAt 0 j, [], by simp [pretty], space_nil, form_prettyAt 0 j, space_nil⟩

/-! ### Values of one kind -/

namespace Form

variable {w : List Char}

lemma textForm {s : String} (h : Form w (.text s)) : TextForm w s := by
  cases h with
  | text text => exact text

lemma readsSpaced_aText {s : String} (h : Form w (.text s)) : ReadsSpaced Reader.aText w s :=
  Json.readsSpaced_aText h.textForm

lemma readsSpaced_aTextOrNull {o : Option String} (h : Form w (o.elim .null .text)) :
    ReadsSpaced Reader.aTextOrNull w o := by
  refine Json.readsSpaced_aTextOrNull ?_
  cases o with
  | none =>
    cases h
    exact .null
  | some s => exact .text h.textForm

lemma readsSpaced_someTexts {ss : List String} (h : Form w (texts ss)) :
    ReadsSpaced Reader.someTexts w ss := by
  refine Json.readsSpaced_someTexts ?_
  cases h with
  | array items =>
    cases items with
    | mk spaced space items =>
      rw [List.forall₂_map_right_iff] at items
      exact .mk spaced space (items.imp fun _ _ => textForm)

lemma readsSpaced_aBool {b : Bool} (h : Form w (.bool b)) : ReadsSpaced Reader.aBool w b := by
  cases h with
  | true =>
    refine Reads.spaced (fun rest _ => ?_) (starts_cons _ (by decide))
    exact (takes_literal ['r', 'u', 'e'] rest).map _
  | false =>
    refine Reads.spaced (fun rest _ => ?_) (starts_cons _ (by decide))
    exact (takes_literal ['a', 'l', 's', 'e'] rest).map _

end Form

/-! ### Records -/

namespace Record

variable {σ α β : Type} {fields : List (Field σ)} {s s' s'' : σ}

/-- What a member makes of the state of a record, however it is written. -/
def Sets (fields : List (Field σ)) (kj : String × Json) (s s' : σ) : Prop :=
  ∀ m, MemberForm m kj → Assigns fields m s s'

/-- What members make of the state of a record one after another, however they are written. -/
def SetsAll (fields : List (Field σ)) (kjs : List (String × Json)) (s s' : σ) : Prop :=
  ∀ ms, List.Forall₂ MemberForm ms kjs → AssignsAll fields ms s s'

lemma Sets.of {name : String} {get : σ → Option β} {put : σ → β → σ} {r : Reader β} {b : β}
    {j : Json} (found : fields.find? (·.name == name) = some (.of name get put r))
    (unset : get s = none) (value : ∀ w, Form w j → ReadsSpaced r w b) :
    Sets fields (name, j) s (put s b) :=
  fun _ hm => .of hm.key found unset (value _ hm.value)

lemma SetsAll.nil (s : σ) : SetsAll fields [] s s := by
  rintro ms ⟨⟩
  exact .nil s

lemma SetsAll.cons {kj : String × Json} {kjs : List (String × Json)} (first : Sets fields kj s s')
    (others : SetsAll fields kjs s' s'') : SetsAll fields (kj :: kjs) s s'' := by
  rintro (_ | ⟨m, ms⟩) h
  · cases h
  · obtain ⟨hm, hms⟩ := List.forall₂_cons.mp h
    exact .cons (first m hm) (others ms hms)

variable {r : Record σ α} {a : α}

/-- **A record is read from every form of an object** as the members of the object have it. -/
lemma parse_of_spells {kjs : List (String × Json)} {text : String}
    (h : SetsAll r.fields kjs r.start s) (hfinish : r.finish s = some a)
    (htext : Spells text (.object kjs)) : r.parse text = .ok a := by
  obtain ⟨before, w, after, heq, hbefore, hw, hafter⟩ := htext
  cases hw with
  | object spaced space keys values =>
    have hread := readsSpaced_reader_object spaced space (h _ (memberForms keys values)) hfinish
    exact readAll_eq_ok hread hbefore hafter heq

end Record

end ForeignCollections.Json
