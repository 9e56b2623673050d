import ForeignCollections.Json.Record
import ForeignCollections.Proofs.Entries
import ForeignCollections.Proofs.Json.Reading

/-!
Records are read as the grammar has them. In object form the members lead from one state to the
next, a known one by the value of its field and an unknown one not at all; in array form the items
do, field by field, and the last fields may be left out where the record allows it. What is read in
the end depends on the state that is reached, and not on the way there.
-/

namespace ForeignCollections.Json

open Entries

/-! ### Strings, and lists of them -/

lemma readsSpaced_aText {w : List Char} {s : String} (h : TextForm w s) :
    ReadsSpaced Reader.aText w s := by
  refine Reads.spaced (fun rest hs => ?_) h.readsQuoted.starts
  obtain ⟨v, rfl, hv⟩ := h.readsQuoted
  rw [List.cons_append, List.append_assoc]
  exact (hv rest).widen _

lemma OptionalTextForm.starts {w : List Char} {s : Option String} (h : OptionalTextForm w s) :
    Starts w := by
  cases h with
  | null => exact starts_cons _ (by decide)
  | text text => exact text.readsQuoted.starts

lemma readsSpaced_aTextOrNull {w : List Char} {s : Option String} (h : OptionalTextForm w s) :
    ReadsSpaced Reader.aTextOrNull w s := by
  cases h with
  | null =>
    refine Reads.spaced (fun rest hs => ?_) (starts_cons _ (by decide))
    exact (takes_literal ['u', 'l', 'l'] rest).map _
  | @text w s text =>
    refine Reads.spaced (fun rest hs => ?_) text.readsQuoted.starts
    have ht := ((readsSpaced_aText text).reads rest hs).map some
    obtain ⟨v, rfl, -⟩ := text.readsQuoted
    exact ht

lemma ArrayForm.starts {α : Type} {Item : List Char → α → Prop} {w : List Char} {as : List α}
    (h : ArrayForm Item w as) : Starts w := by
  cases h with
  | mk => exact starts_bracketed (by decide) _ _ _

lemma readsSpaced_someTexts {w : List Char} {ss : List String} (h : ArrayForm TextForm w ss) :
    ReadsSpaced Reader.someTexts w ss := by
  cases h with
  | @mk ps gap ss spaced space items =>
    have hstarts : ∀ p ∈ ps, Starts p.body := fun p hp => by
      obtain ⟨s, -, hs⟩ := exists_right_of_forall₂ items (List.mem_map_of_mem hp)
      exact hs.readsQuoted.starts
    have hps : Listed ']' ps gap := ⟨by decide, spaced, hstarts, space⟩
    have hitems : List.Forall₂ (Reads Reader.aText) (ps.map Piece.body) ss :=
      items.imp fun w s h => (readsSpaced_aText h).reads
    refine Reads.spaced (fun rest hs => ?_) (starts_bracketed (by decide) _ _ _)
    rw [bracketed_append]
    exact (takes_items hps hitems rest).widen _

/-! ### Records -/

namespace Record

section Forms

variable {σ : Type} {fields : List (Field σ)} {s s' s'' : σ}

/-- What a member makes of the state of a record. -/
inductive Assigns (fields : List (Field σ)) : Member → σ → σ → Prop where
  | known {m : Member} {key : String} {f : Field σ} {s s' : σ} (named : TextForm m.key key)
      (found : fields.find? (·.name == key) = some f) (unset : f.isSet s = false)
      (value : ReadsSpaced (f.read s) m.value s') : Assigns fields m s s'
  | unknown {m : Member} {key : String} {s : σ} (named : TextForm m.key key)
      (found : fields.find? (·.name == key) = none) (value : ValueForm m.value) :
      Assigns fields m s s

inductive AssignsAll (fields : List (Field σ)) : List Member → σ → σ → Prop where
  | nil (s : σ) : AssignsAll fields [] s s
  | cons {m : Member} {ms : List Member} {s s' s'' : σ} (first : Assigns fields m s s')
      (others : AssignsAll fields ms s' s'') : AssignsAll fields (m :: ms) s s''

lemma Assigns.of {β : Type} {name : String} {get : σ → Option β} {put : σ → β → σ} {r : Reader β}
    {b : β} {m : Member} (named : TextForm m.key name)
    (found : fields.find? (·.name == name) = some (.of name get put r)) (unset : get s = none)
    (value : ReadsSpaced r m.value b) : Assigns fields m s (put s b) := by
  have hunset : (get s).isSome = false := by rw [unset, Option.isSome_none]
  exact .known named found hunset (value.map (put s))

lemma Assigns.readsQuoted {m : Member} (h : Assigns fields m s s') :
    ∃ key, ReadsQuoted Reader.text m.key key := by
  cases h with
  | known named | unknown named => exact ⟨_, named.readsQuoted⟩

lemma Assigns.reads {m : Member} (h : Assigns fields m s s') (hm : m.Spaced) :
    Reads (member Reader.text (memberValue fields s)) m.piece.body s' := by
  cases h with
  | known named found unset value =>
    refine reads_member named.readsQuoted ?_
    simp only [memberValue, found, unset, Bool.false_eq_true, if_false]
    exact reads_afterColon hm value
  | unknown named found value =>
    refine reads_member named.readsQuoted ?_
    simp only [memberValue, found]
    exact reads_afterColon hm ((readsSpaced_skipped value).map _)

lemma AssignsAll.run {ms : List Member} (h : AssignsAll fields ms s s')
    (hms : ∀ m ∈ ms, m.Spaced) :
    Run (fun s => member Reader.text (memberValue fields s)) s
      ((ms.map Member.piece).map Piece.body) s' := by
  induction h with
  | nil s => exact .nil s
  | cons first _ ih =>
    obtain ⟨hm, hms⟩ := List.forall_mem_cons.mp hms
    exact .cons (first.reads hm) (ih hms)

lemma AssignsAll.starts {ms : List Member} (h : AssignsAll fields ms s s') :
    ∀ m ∈ ms, Starts m.key := by
  induction h with
  | nil s => exact fun _ hm => nomatch hm
  | cons first _ ih =>
    obtain ⟨key, hkey⟩ := first.readsQuoted
    exact List.forall_mem_cons.mpr ⟨hkey.starts, ih⟩

lemma takes_objectForm {ms : List Member} {gap : List Char} (h : AssignsAll fields ms s s')
    (hms : ∀ m ∈ ms, m.Spaced) (hgap : Space gap) (rest : List Char) :
    Takes (objectForm fields s (opened '}' (ms.map Member.piece) gap rest)) s' rest :=
  takes_entries (listed_members hms h.starts hgap) (h.run hms) rest

/-- What items make of the state of a record whose next fields these are. -/
inductive Fills (mayEndEarly : Bool) : List (Field σ) → List (List Char) → σ → σ → Prop where
  | all (s : σ) : Fills mayEndEarly [] [] s s
  | early (f : Field σ) (fs : List (Field σ)) (s : σ) (may : mayEndEarly = true) :
      Fills mayEndEarly (f :: fs) [] s s
  | item {f : Field σ} {fs : List (Field σ)} {w : List Char} {ws : List (List Char)} {s s' s'' : σ}
      (first : Reads (f.read s) w s') (others : Fills mayEndEarly fs ws s' s'') :
      Fills mayEndEarly (f :: fs) (w :: ws) s s''

variable {mayEndEarly first : Bool} {f : Field σ} {input start left rest : List Char}

lemma takes_arrayForm_closed {fits : rest.length < input.length}
    (h : next ']' first input = .ok (.closed rest fits)) (may : mayEndEarly = true) :
    Takes (arrayForm mayEndEarly first (f :: fields) s input) s rest := by
  refine Takes.of_eq_ok h ?_
  rw [may]
  exact .ok fits

lemma takes_arrayForm_item {fits : start.length ≤ input.length}
    (h : next ']' first input = .ok (.entry start fits)) (hitem : Takes (f.read s start) s' left)
    (hothers : Takes (arrayForm mayEndEarly false fields s' left) s'' rest) :
    Takes (arrayForm mayEndEarly first (f :: fields) s input) s'' rest :=
  Takes.of_eq_ok h (hitem.bind fun _ => hothers.bind fun _ => .ok _)

lemma takes_arrayEnd {gap after : List Char} (hafter : Space after) (hgap : Space gap)
    (rest : List Char) : Takes (arrayEnd s (after ++ (gap ++ ']' :: rest))) s rest := by
  refine takes_spaced ?_
  rw [skipSpace_append hafter, skipSpace_append hgap, skipSpace_cons rest (by decide)]
  exact .ok _

lemma takes_arrayForm_continued {ps : List Piece} {gap after : List Char} (h : Listed ']' ps gap)
    (hfills : Fills mayEndEarly fields (ps.map Piece.body) s s') (hafter : Space after)
    (rest : List Char) :
    Takes (arrayForm mayEndEarly false fields s (after ++ continued ']' ps gap rest)) s' rest := by
  induction ps generalizing fields s after with
  | nil =>
    cases hfills with
    | all => exact takes_arrayEnd hafter h.space rest
    | early f fs _ may =>
      obtain ⟨fits, hn⟩ := h.next_closing hafter false rest
      exact takes_arrayForm_closed hn may
  | cons p ps ih =>
    cases hfills with
    | item first others =>
      obtain ⟨fits, hn⟩ := h.next_continued hafter rest
      have hp := (h.spaced p List.mem_cons_self).2
      exact takes_arrayForm_item hn (first _ (h.tail.stops_continued hp rest)) (ih h.tail others hp)

lemma takes_arrayForm {ps : List Piece} {gap : List Char} (h : Listed ']' ps gap)
    (hfills : Fills mayEndEarly fields (ps.map Piece.body) s s') (rest : List Char) :
    Takes (arrayForm mayEndEarly true fields s (opened ']' ps gap rest)) s' rest := by
  cases ps with
  | nil =>
    cases hfills with
    | all => exact takes_arrayEnd space_nil h.space rest
    | early f fs _ may =>
      obtain ⟨fits, hn⟩ := h.next_closing space_nil true rest
      exact takes_arrayForm_closed hn may
  | cons p ps =>
    cases hfills with
    | item first others =>
      obtain ⟨fits, hn⟩ := h.next_opened rest
      have hp := (h.spaced p List.mem_cons_self).2
      exact takes_arrayForm_item hn (first _ (h.tail.stops_continued hp rest))
        (takes_arrayForm_continued h.tail others hp rest)

end Forms

section Readers

variable {σ α : Type} {r : Record σ α} {s : σ} {a : α}

lemma readsSpaced_reader_object {ms : List Member} {gap : List Char} (hms : ∀ m ∈ ms, m.Spaced)
    (hgap : Space gap) (h : AssignsAll r.fields ms r.start s) (hfinish : r.finish s = some a) :
    ReadsSpaced r.reader (bracketed '{' '}' (ms.map Member.piece) gap) a := by
  intro before hbefore rest hs
  refine Takes.bind (a := s) (Reads.spaced (fun rest _ => ?_) (starts_bracketed (by decide) _ _ _)
    before hbefore rest hs) fun fits => ?_
  · rw [bracketed_append]
    exact (takes_objectForm h hms hgap rest).widen _
  · simp only [hfinish]
    exact .ok _

lemma readsSpaced_reader_array {ps : List Piece} {gap : List Char} (hps : Listed ']' ps gap)
    (h : Fills r.mayEndEarly r.fields (ps.map Piece.body) r.start s)
    (hfinish : r.finish s = some a) : ReadsSpaced r.reader (bracketed '[' ']' ps gap) a := by
  intro before hbefore rest hs
  refine Takes.bind (a := s) (Reads.spaced (fun rest _ => ?_) (starts_bracketed (by decide) _ _ _)
    before hbefore rest hs) fun fits => ?_
  · rw [bracketed_append]
    exact (takes_arrayForm hps h rest).widen _
  · simp only [hfinish]
    exact .ok _

end Readers

end Record

lemma readAll_eq_ok {α : Type} {r : Reader α} {a : α} {before w after : List Char}
    (h : ReadsSpaced r w a) (hbefore : Space before) (hafter : Space after) {text : String}
    (htext : text.toList = before ++ w ++ after) : readAll r text = .ok a := by
  have hstops : Stops after := by simpa using stops_nil.space_append hafter
  obtain ⟨fits, ht⟩ := h before hbefore after hstops
  rw [readAll, htext, ht]
  simp [bind, Except.bind, skipSpace_of_space hafter]

end ForeignCollections.Json
