import ForeignCollections.Proofs.Config.Precedence
import ForeignCollections.Proofs.Json.Record

/-!
The texts that spell a configuration: objects with the two members, each at most once and in any
order, among members under other names; and arrays with the two values in their order, of which the
last ones may be left out. White space and escapes are free, and so is what stands under a name that
means nothing. Main statement: all spellings of one configuration give the same result, which is
this configuration unless it names a blank id.
-/

namespace ForeignCollections.Config

open Json

/-- What a member says. -/
inductive Setting where
  | disabled (ids : List String)
  | logFilter (filter : Option String)
  /-- Nothing, since its name means nothing. -/
  | unknown

namespace Setting

def disabled? : Setting → Option (List String)
  | disabled ids => some ids
  | _ => none

def logFilter? : Setting → Option (Option String)
  | logFilter filter => some filter
  | _ => none

/-- How a setting is written. -/
inductive Form : Member → Setting → Prop where
  | disabled {m : Member} {ids : List String} (named : TextForm m.key "disabled_registrars")
      (value : ArrayForm TextForm m.value ids) : Form m (.disabled ids)
  | logFilter {m : Member} {filter : Option String} (named : TextForm m.key "log_filter")
      (value : OptionalTextForm m.value filter) : Form m (.logFilter filter)
  | unknown {m : Member} {name : String} (named : TextForm m.key name)
      (notDisabled : name ≠ "disabled_registrars") (notLogFilter : name ≠ "log_filter")
      (value : ValueForm m.value) : Form m .unknown

end Setting

/-- The items of a configuration in array form. -/
inductive ItemsForm : List (List Char) → Config → Prop where
  | none : ItemsForm [] ⟨[], .none⟩
  | disabled {w : List Char} {ids : List String} (first : ArrayForm TextForm w ids) :
      ItemsForm [w] ⟨ids, .none⟩
  | both {w v : List Char} {ids : List String} {filter : Option String}
      (first : ArrayForm TextForm w ids) (second : OptionalTextForm v filter) :
      ItemsForm [w, v] ⟨ids, filter⟩

/-- The two ways to write a configuration. In an object each of the two members stands at most once,
and one that is missing has its default. -/
inductive Written : List Char → Config → Prop where
  | object {w : List Char} {settings : List Setting} {ids : Option (List String)}
      {filter : Option (Option String)} (form : ObjectForm Setting.Form w settings)
      (disabled : settings.filterMap Setting.disabled? = ids.toList)
      (logFilter : settings.filterMap Setting.logFilter? = filter.toList) :
      Written w ⟨ids.getD [], filter.getD none⟩
  | array {ps : List Piece} {gap : List Char} {c : Config} (spaced : ∀ p ∈ ps, p.Spaced)
      (space : Space gap) (items : ItemsForm (ps.map Piece.body) c) :
      Written (bracketed '[' ']' ps gap) c

/-- The text spells this configuration. -/
def Spells (s : String) (c : Config) : Prop :=
  ∃ before w after, s.toList = before ++ w ++ after ∧ Space before ∧ Written w c ∧ Space after

/-! ### Objects -/

lemma eq_of_toList_eq {α : Type} {o p : Option α} (h : o.toList = p.toList) : o = p := by
  simpa using congrArg List.head? h

lemma eq_none_of_toList_append {α : Type} {o p : Option α} {a : α} {as : List α}
    (h : o.toList ++ a :: as = p.toList) : o = none := by
  cases o with
  | none => rfl
  | some b => cases p <;> simp at h

lemma assignsAll_settings {ms : List Member} {settings : List Setting}
    (h : List.Forall₂ Setting.Form ms settings) {d : Draft} {ids : Option (List String)}
    {filter : Option (Option String)}
    (hids : d.disabled.toList ++ settings.filterMap Setting.disabled? = ids.toList)
    (hfilter : d.logFilter.toList ++ settings.filterMap Setting.logFilter? = filter.toList) :
    Record.AssignsAll record.fields ms d ⟨ids, filter⟩ := by
  induction h generalizing d with
  | nil =>
    rw [List.filterMap_nil, List.append_nil] at hids hfilter
    rw [← eq_of_toList_eq hids, ← eq_of_toList_eq hfilter]
    exact .nil d
  | @cons m setting ms settings hm _ ih =>
    cases hm with
    | disabled named value =>
      have hnone : d.disabled = none := eq_none_of_toList_append hids
      refine .cons (.of named rfl hnone (readsSpaced_someTexts value)) (ih ?_ hfilter)
      rwa [hnone] at hids
    | logFilter named value =>
      have hnone : d.logFilter = none := eq_none_of_toList_append hfilter
      refine .cons (.of named rfl hnone (readsSpaced_aTextOrNull value)) (ih hids ?_)
      rwa [hnone] at hfilter
    | @unknown name named notDisabled notLogFilter value =>
      have hfind : record.fields.find? (·.name == name) = none := by
        simp [record, Field.of, notDisabled.symm, notLogFilter.symm]
      exact .cons (.unknown named hfind value) (ih hids hfilter)

/-! ### Arrays -/

lemma fills_items {ws : List (List Char)} {c : Config} (h : ItemsForm ws c) :
    ∃ d, Record.Fills true record.fields ws {} d ∧ record.finish d = some c := by
  cases h with
  | none => exact ⟨{}, .early _ _ _ rfl, rfl⟩
  | @disabled w ids first =>
    exact ⟨⟨some ids, none⟩,
      .item ((readsSpaced_someTexts first).reads.map _) (.early _ _ _ rfl), rfl⟩
  | @both w v ids filter first second =>
    exact ⟨⟨some ids, some filter⟩, .item ((readsSpaced_someTexts first).reads.map _)
      (.item ((readsSpaced_aTextOrNull second).reads.map _) (.all _)), rfl⟩

lemma ItemsForm.starts {ws : List (List Char)} {c : Config} (h : ItemsForm ws c) :
    ∀ w ∈ ws, Starts w := by
  cases h with
  | none => exact fun _ hw => nomatch hw
  | disabled first => exact List.forall_mem_singleton.mpr first.starts
  | both first second =>
    exact List.forall_mem_cons.mpr ⟨first.starts, List.forall_mem_singleton.mpr second.starts⟩

/-! ### The result -/

lemma readsSpaced_written {w : List Char} {c : Config} (h : Written w c) :
    ReadsSpaced record.reader w c := by
  cases h with
  | @object w settings ids filter form disabled logFilter =>
    cases form with
    | mk spaced space members =>
      exact Record.readsSpaced_reader_object spaced space
        (assignsAll_settings members disabled logFilter) rfl
  | @array ps gap c spaced space items =>
    obtain ⟨d, hfills, hfinish⟩ := fills_items items
    have hstarts := List.forall_mem_map.mp items.starts
    exact Record.readsSpaced_reader_array ⟨by decide, spaced, hstarts, space⟩ hfills hfinish

lemma parse_of_spells {s : String} {c : Config} (h : Spells s c) : record.parse s = .ok c := by
  obtain ⟨before, w, after, hs, hbefore, hw, hafter⟩ := h
  exact readAll_eq_ok (readsSpaced_written hw) hbefore hafter hs

lemma checked_of_noBlank {c : Config} (h : c.NoBlank) : c.checked = .ok c := by
  have hnone : c.disabled.find? Text.isBlank = none :=
    List.find?_eq_none.mpr fun id hid => by simp [h id hid]
  rw [checked, hnone]

lemma checked_of_blank {c : Config} {before after : List String} {id : String}
    (hc : c.disabled = before ++ id :: after) (hbefore : ∀ b ∈ before, Text.isBlank b = false)
    (hid : Text.isBlank id = true) : c.checked = .error (.blankRegistrar id) := by
  have hsome : c.disabled.find? Text.isBlank = some id := by
    rw [hc, List.find?_append, List.find?_eq_none.mpr fun b hb => by simp [hbefore b hb],
      Option.none_or, List.find?_cons_of_pos hid]
  rw [checked, hsome]

/-! ### A spelling of each configuration -/

def writtenArray (c : Config) : List Char :=
  bracketed '[' ']'
    [⟨[], bracketed '[' ']' (c.disabled.map fun id => ⟨[], writtenText id, []⟩) [], []⟩,
     ⟨[], (c.logFilter.map writtenText).getD ['n', 'u', 'l', 'l'], []⟩] []

lemma spells_writtenArray (c : Config) : Spells (String.ofList c.writtenArray) c := by
  have hids : ArrayForm TextForm
      (bracketed '[' ']' (c.disabled.map fun id => ⟨[], writtenText id, []⟩) []) c.disabled := by
    refine .mk (List.forall_mem_map.mpr fun _ _ => ⟨space_nil, space_nil⟩) space_nil ?_
    rw [List.map_map, List.forall₂_map_left_iff, List.forall₂_same]
    exact fun id _ => textForm_writtenText id
  have hfilter : OptionalTextForm ((c.logFilter.map writtenText).getD ['n', 'u', 'l', 'l'])
      c.logFilter := by
    cases c.logFilter with
    | none => exact .null
    | some filter => exact .text (textForm_writtenText filter)
  exact ⟨[], c.writtenArray, [], by simp, space_nil,
    .array (by simp [Piece.Spaced, space_nil]) space_nil (.both hids hfilter), space_nil⟩

/-! ### The result of all spellings -/

lemma message_blankRegistrar (id : String) : (SetupError.blankRegistrar id).message =
    "Configuration error: disabled_registrars contains a blank id: " ++ Text.quoted id := by
  have hwords : "Configuration error: " ++ "disabled_registrars contains a blank id: " =
      "Configuration error: disabled_registrars contains a blank id: " := by decide +kernel
  have h : (SetupError.blankRegistrar id).message = "Configuration error: " ++
      ("disabled_registrars contains a blank id: " ++ Text.quoted id) := rfl
  rw [← String.append_assoc, hwords] at h
  exact h

/-- **Spellings of a configuration**: they all give the same result, which is this configuration if
it names no blank id, and otherwise the error that quotes the first blank one. -/
theorem ofText_eq_of_spells {s t : String} {c : Config} (hs : Spells s c) (ht : Spells t c) :
    ofText s = ofText t ∧ (c.NoBlank → ofText s = .ok c) ∧
      ∀ before id after, c.disabled = before ++ id :: after →
        (∀ b ∈ before, Text.isBlank b = false) → Text.isBlank id = true →
        ∃ e, ofText s = .error e ∧ e.message =
          "Configuration error: disabled_registrars contains a blank id: " ++ Text.quoted id := by
  have hchecked : ∀ {s}, Spells s c → ofText s = c.checked := fun h => by
    rw [ofText, parse_of_spells h]
  refine ⟨(hchecked hs).trans (hchecked ht).symm, fun hc => ?_, fun before id after hc hb hid => ?_⟩
  · rw [hchecked hs, checked_of_noBlank hc]
  · exact ⟨.blankRegistrar id, by rw [hchecked hs, checked_of_blank hc hb hid],
      message_blankRegistrar id⟩

/-- An unknown member that is skipped over half of a pair of surrogates, and a name and an id that
are escaped. -/
def escapedObject : String :=
  "\x7b\"x\":[\x7b\"\\uD800\":null\x7d], \"\\u0064isabled_registrars\":[\"\\uD83D\\ude00\"]\x7d\n"

lemma spells_escapedObject : Spells escapedObject ⟨["😀"], none⟩ := by
  have hhalf : HexQuad ['D', '8', '0', '0'] 0xD800 :=
    @HexQuad.mk _ _ _ _ 13 8 0 0 (by decide) (by decide) (by decide) (by decide)
  have hnested : ValueForm (bracketed '{' '}' (List.map Member.piece
      [⟨[], ['"', '\\', 'u', 'D', '8', '0', '0', '"'], [], [], ['n', 'u', 'l', 'l'], []⟩]) []) :=
    .object (by decide) (by decide)
      (List.forall_mem_singleton.mpr (@LooseText.mk _ [()] (.escape (.unit hhalf) .nil)))
      (List.forall_mem_singleton.mpr .null)
  have hunknown : Setting.Form
      ⟨[], writtenText "x", [], [], bracketed '[' ']' [⟨[], _, []⟩] [], []⟩ .unknown :=
    .unknown (textForm_writtenText "x") (by decide) (by decide)
      (.array (by decide) (by decide) (List.forall_mem_singleton.mpr hnested))
  have hd : HexQuad ['0', '0', '6', '4'] 'd'.toNat :=
    @HexQuad.mk _ _ _ _ 0 0 6 4 (by decide) (by decide) (by decide) (by decide)
  have hhigh : HexQuad ['D', '8', '3', 'D'] (0xD800 + 0xF600 / 0x400) :=
    @HexQuad.mk _ _ _ _ 13 8 3 13 (by decide) (by decide) (by decide) (by decide)
  have hlow : HexQuad ['d', 'e', '0', '0'] (0xDC00 + 0xF600 % 0x400) :=
    @HexQuad.mk _ _ _ _ 13 14 0 0 (by decide) (by decide) (by decide) (by decide)
  have hid : TextForm _ "😀" := @TextForm.mk _ "😀" (.escape (.pair (by decide) hhigh hlow) .nil)
  have hname : TextForm _ "disabled_registrars" := @TextForm.mk _ "disabled_registrars"
    (.escape (.unit hd) (between_written "isabled_registrars".toList))
  have hdisabled : Setting.Form
      ⟨[' '], _, [], [], bracketed '[' ']' [⟨[], _, []⟩] [], []⟩ (.disabled ["😀"]) :=
    .disabled hname (.mk (by decide) (by decide) (.cons hid .nil))
  have hform := @ObjectForm.mk _ Setting.Form _ [] _ (by decide) (by decide)
    (.cons hunknown (.cons hdisabled .nil))
  exact ⟨[], _, ['\n'], by decide, by decide,
    @Written.object _ _ (some ["😀"]) none hform rfl rfl, by decide⟩

theorem ofText_eq_of_spells_escaped :
    Spells escapedObject ⟨["😀"], none⟩ ∧ Spells "[[\"😀\"],null]" ⟨["😀"], none⟩ ∧
      Spells "[[\"a\",\"\\t\"],\"warn\"]" ⟨["a", "\t"], some "warn"⟩ ∧
      ofText escapedObject = ofText "[[\"😀\"],null]" ∧ ofText escapedObject = .ok ⟨["😀"], none⟩ ∧
      ∃ e, ofText "[[\"a\",\"\\t\"],\"warn\"]" = .error e ∧ e.message =
        "Configuration error: disabled_registrars contains a blank id: " ++ Text.quoted "\t" := by
  have hplain : Spells "[[\"😀\"],null]" ⟨["😀"], none⟩ := spells_writtenArray ⟨["😀"], none⟩
  have hblank : Spells "[[\"a\",\"\\t\"],\"warn\"]" ⟨["a", "\t"], some "warn"⟩ :=
    spells_writtenArray ⟨["a", "\t"], some "warn"⟩
  obtain ⟨heq, hok, -⟩ := ofText_eq_of_spells spells_escapedObject hplain
  obtain ⟨-, -, herror⟩ := ofText_eq_of_spells hblank hblank
  exact ⟨spells_escapedObject, hplain, hblank, heq, hok (List.forall_mem_singleton.mpr (by decide)),
    herror ["a"] "\t" [] rfl (List.forall_mem_singleton.mpr (by decide)) (by decide)⟩

end ForeignCollections.Config
