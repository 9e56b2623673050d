import ForeignCollections.Config.Basic
import ForeignCollections.Proofs.Text.Pieces

/-!
The list that replaces the registrars to leave out. Each of its pieces between the commas is an id
with blanks around it, or blank altogether; the ids in their order are what is kept. Trimming cannot
uncover a comma, since commas are not blank, so the ids can be joined again, with any blanks around
them and blank pieces among them, and the same ids come back. The lists that give some ids are
exactly those that spell them so.
-/

namespace ForeignCollections

namespace Config

/-- An id as it is kept: trimmed, not blank and without a comma. -/
structure IsId (id : String) : Prop where
  ne_empty : id ≠ ""
  no_comma : ',' ∉ id.toList
  trimmed : Text.trim id = id

/-- The pieces are the ids in their order, each with blanks around it, and any blank pieces. -/
inductive Spelled : (ids pieces : List String) → Prop where
  | nil : Spelled [] []
  | blank {ids ps : List String} {p : String} (hp : Text.isBlank p = true) (h : Spelled ids ps) :
      Spelled ids (p :: ps)
  | id {ids ps : List String} {a id b : String} (ha : Text.isBlank a = true)
      (hb : Text.isBlank b = true) (h : Spelled ids ps) : Spelled (id :: ids) ((a ++ id ++ b) :: ps)

variable {ids ps : List String} {id list : String}

lemma comma_not_mem_of_isBlank (h : Text.isBlank id = true) : ',' ∉ id.toList := fun hc =>
  absurd (Text.isBlank_iff.mp h ',' hc) (by decide)

lemma mem_idsOf_iff :
    id ∈ idsOf list ↔ id ≠ "" ∧ ∃ p ∈ Text.pieces ',' list, id = Text.trim p := by
  simp only [idsOf, List.mem_filter, List.mem_map, decide_eq_true_eq, @eq_comm _ id]
  exact and_comm

lemma isId_of_mem_idsOf (h : id ∈ idsOf list) : IsId id := by
  obtain ⟨hne, p, hp, rfl⟩ := mem_idsOf_iff.mp h
  refine ⟨hne, fun hc => Text.not_mem_of_mem_pieces hp ?_, Text.trim_trim p⟩
  obtain ⟨a, b, -, -, hs⟩ := Text.exists_eq_append_trim p
  rw [hs, String.toList_append, String.toList_append]
  exact List.mem_append_left _ (List.mem_append_right _ hc)

namespace Spelled

lemma trimmed (ps : List String) : Spelled ((ps.map Text.trim).filter (· ≠ "")) ps := by
  induction ps with
  | nil => exact .nil
  | cons p ps ih =>
    rw [List.map_cons, List.filter_cons]
    by_cases hp : Text.trim p = ""
    · rw [if_neg (by simpa using hp)]
      exact .blank (Text.trim_eq_empty_iff.mp hp) ih
    · rw [if_pos (by simpa using hp)]
      obtain ⟨a, b, ha, hb, hs⟩ := Text.exists_eq_append_trim p
      have hid : Spelled (Text.trim p :: _) ((a ++ Text.trim p ++ b) :: ps) := .id ha hb ih
      rwa [← hs] at hid

variable (h : Spelled ids ps) (hids : ∀ id ∈ ids, IsId id)

include h hids

lemma filter_trim : (ps.map Text.trim).filter (· ≠ "") = ids := by
  induction h with
  | nil => rfl
  | blank hp _ ih =>
    rw [List.map_cons, Text.trim_eq_empty_iff.mpr hp, List.filter_cons_of_neg (by decide), ih hids]
  | id ha hb _ ih =>
    obtain ⟨hid, hids⟩ := List.forall_mem_cons.mp hids
    rw [List.map_cons, Text.trim_append ha hb, hid.trimmed,
      List.filter_cons_of_pos (by simpa using hid.ne_empty), ih hids]

lemma no_comma : ∀ p ∈ ps, ',' ∉ p.toList := by
  induction h with
  | nil => exact fun p hp => nomatch hp
  | blank hp _ ih => exact List.forall_mem_cons.mpr ⟨comma_not_mem_of_isBlank hp, ih hids⟩
  | id ha hb _ ih =>
    obtain ⟨hid, hids⟩ := List.forall_mem_cons.mp hids
    refine List.forall_mem_cons.mpr ⟨?_, ih hids⟩
    rw [String.toList_append, String.toList_append, List.mem_append, List.mem_append, not_or,
      not_or]
    exact ⟨⟨comma_not_mem_of_isBlank ha, hid.no_comma⟩, comma_not_mem_of_isBlank hb⟩

/-- **Ids that are joined again come back**, whatever blanks there are. -/
lemma idsOf_intercalate : idsOf (",".intercalate ps) = ids := by
  cases ps with
  | nil =>
    cases h
    rfl
  | cons p ps =>
    rw [idsOf, Text.pieces_intercalate (List.cons_ne_nil p ps) (h.no_comma hids)]
    exact h.filter_trim hids

end Spelled

lemma idsOf_eq_idsOf_iff {list' : String} : idsOf list' = idsOf list ↔
    ∃ ps, Spelled (idsOf list) ps ∧ list' = ",".intercalate ps := by
  constructor
  · intro h
    exact ⟨Text.pieces ',' list', h ▸ Spelled.trimmed _, (Text.intercalate_pieces list').symm⟩
  · rintro ⟨ps, hps, rfl⟩
    exact hps.idsOf_intercalate fun id => isId_of_mem_idsOf

/-- **The list of ids is a normal form.** After it has been replaced, exactly the trimmed pieces
that are not empty are left out; they are kept trimmed, without commas and in the order in which
the list spells them, and the filter stays as it is. Replacing it once more changes nothing exactly
if the new list spells the ids that are kept, with whatever blanks and blank pieces. -/
theorem override_normal (c : Config) (list : String) :
    let c' := c.override list
    (∀ id, c'.isDisabled id = true ↔
      id ≠ "" ∧ ∃ p ∈ Text.pieces ',' list, id = Text.trim p) ∧
    (∀ id ∈ c'.disabled, IsId id) ∧
    Spelled c'.disabled (Text.pieces ',' list) ∧ ",".intercalate (Text.pieces ',' list) = list ∧
    c'.logFilter = c.logFilter ∧
    ∀ list', c'.override list' = c' ↔
      ∃ ps, Spelled c'.disabled ps ∧ list' = ",".intercalate ps := by
  intro c'
  refine ⟨fun id => ?_, fun id => isId_of_mem_idsOf, Spelled.trimmed _, Text.intercalate_pieces list,
    rfl, fun list' => ?_⟩
  · rw [isDisabled, List.contains_iff_mem]
    exact mem_idsOf_iff
  · refine Iff.trans ⟨fun h => ?_, fun h => ?_⟩ idsOf_eq_idsOf_iff
    · exact congrArg Config.disabled h
    · exact congrArg (Config.mk · c.logFilter) h

/-- Blanks of several kinds, a blank piece and a comma at the end do not count. -/
theorem override_normal_blanks :
    let c := override ⟨["guava"], some "debug"⟩ " vavr, ,eclipse collections,"
    c.disabled = ["vavr", "eclipse collections"] ∧ c.logFilter = some "debug" ∧
      c.isDisabled "vavr" = true ∧ IsId "eclipse collections" ∧
      c.override "\u2003vavr\n,,\teclipse collections" = c := by
  intro c
  have hids : c.disabled = ["vavr", "eclipse collections"] := by decide +kernel
  have htrimmed : (["\u2003vavr\n", "", "\teclipse collections"].map Text.trim).filter (· ≠ "") =
      ["vavr", "eclipse collections"] := by decide +kernel
  have hspelled := Spelled.trimmed ["\u2003vavr\n", "", "\teclipse collections"]
  rw [htrimmed, ← hids] at hspelled
  have hpiece : " vavr" ∈ Text.pieces ',' " vavr, ,eclipse collections," := by decide +kernel
  have htrim : "vavr" = Text.trim " vavr" := by decide +kernel
  have hjoined : "\u2003vavr\n,,\teclipse collections" =
      ",".intercalate ["\u2003vavr\n", "", "\teclipse collections"] := by decide +kernel
  obtain ⟨hdisabled, hid, -, -, hfilter, hagain⟩ :=
    override_normal ⟨["guava"], some "debug"⟩ " vavr, ,eclipse collections,"
  have hlast : "eclipse collections" ∈ c.disabled :=
    hids ▸ List.mem_cons_of_mem _ List.mem_cons_self
  exact ⟨hids, hfilter, (hdisabled "vavr").mpr ⟨by decide, " vavr", hpiece, htrim⟩, hid _ hlast,
    (hagain _).mpr ⟨_, hspelled, hjoined⟩⟩

end Config

end ForeignCollections
