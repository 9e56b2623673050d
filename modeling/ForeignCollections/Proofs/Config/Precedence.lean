import ForeignCollections.Config.Environment
import ForeignCollections.Proofs.Results
import ForeignCollections.Proofs.Text.Pieces

/-!
Which source of the configuration counts. The file that is named explicitly takes the place of
the one at home even when it is missing, and what stands in the other does not matter, be it
broken. A list that is set replaces the registrars to leave out, but it cannot make up for a file
that is refused. Either way no blank id gets in: the file is checked, and the list is trimmed.
-/

namespace ForeignCollections

def Config.NoBlank (c : Config) : Prop := ∀ id ∈ c.disabled, Text.isBlank id = false

namespace ConfigFile

/-- The file is there, and is refused for this reason. -/
def Refused : ConfigFile → SetupError → Prop
  | missing, _ => False
  | directory, e => e = .file .isDirectory
  | notText, e => e = .file .notText
  | text content, e => Config.ofText content = .error e

/-- The file configures this much; one that is missing leaves nothing out and sets no filter. -/
def Configures : ConfigFile → Config → Prop
  | missing, c => c = ⟨[], none⟩
  | directory, _ | notText, _ => False
  | text content, c => Config.ofText content = .ok c

end ConfigFile

namespace Config

lemma checked_eq_ok {c c' : Config} (h : c.checked = .ok c') : c' = c ∧ c.NoBlank := by
  unfold checked at h
  split at h
  · exact nomatch h
  · rename_i hnone
    cases h
    exact ⟨rfl, fun id hid => by simpa using List.find?_eq_none.mp hnone id hid⟩

lemma noBlank_of_ofText {s : String} {c : Config} (h : ofText s = .ok c) : c.NoBlank := by
  unfold ofText at h
  split at h
  · obtain ⟨rfl, hc⟩ := checked_eq_ok h
    exact hc
  · exact nomatch h

lemma not_isBlank_of_mem_idsOf {list id : String} (h : id ∈ idsOf list) :
    Text.isBlank id = false := by
  obtain ⟨hid, hne⟩ := List.mem_filter.mp h
  obtain ⟨piece, -, rfl⟩ := List.mem_map.mp hid
  exact Bool.eq_false_iff.mpr fun hb => of_decide_eq_true hne (Text.isBlank_trim_iff.mp hb)

lemma noBlank_override (c : Config) (list : String) : (c.override list).NoBlank :=
  fun _ hid => not_isBlank_of_mem_idsOf hid

end Config

namespace Environment

variable {env : Environment} {c : Config} {e : SetupError}

lemma fileConfig_eq_error_iff : env.fileConfig = .error e ↔ env.file.Refused e := by
  unfold fileConfig
  cases env.file <;> simp [Config.ofFile, ConfigFile.Refused, eq_comm]

lemma fileConfig_eq_ok_iff : env.fileConfig = .ok c ↔ env.file.Configures c := by
  unfold fileConfig
  cases env.file <;> simp [Config.ofFile, ConfigFile.Configures, eq_comm]

lemma noBlank_of_configures {f : ConfigFile} (h : f.Configures c) : c.NoBlank := by
  cases f with
  | missing =>
    rw [show c = _ from h]
    exact fun id hid => nomatch hid
  | directory | notText => exact False.elim h
  | text => exact Config.noBlank_of_ofText h

lemma config_eq_error_iff : env.config = .error e ↔ env.file.Refused e := by
  rw [← fileConfig_eq_error_iff, config]
  cases env.fileConfig <;> simp [Except.map]

lemma config_eq_ok_iff : env.config = .ok c ↔ ∃ c', env.file.Configures c' ∧
    c = env.disabledList.elim c' c'.override := by
  simp only [← fileConfig_eq_ok_iff, config, map_eq_ok_iff, @eq_comm _ c]

lemma noBlank_of_config (h : env.config = .ok c) : c.NoBlank := by
  obtain ⟨c', hc', rfl⟩ := config_eq_ok_iff.mp h
  cases env.disabledList with
  | none => exact noBlank_of_configures hc'
  | some list => exact c'.noBlank_override list

/-- **The file that counts alone decides** whether there is a configuration, and why not; it gives
the filter, and the registrars to leave out unless a list is set, be it empty. -/
theorem config_precedence (home : ConfigFile) (named : Option ConfigFile)
    (list : Option String) :
    let selected := named.getD home
    let env : Environment := ⟨home, named, list⟩
    (∀ e, env.config = .error e ↔ selected.Refused e) ∧
    (∀ c, env.config = .ok c ↔ ∃ c', selected.Configures c' ∧ c.logFilter = c'.logFilter ∧
      c.disabled = list.elim c'.disabled Config.idsOf) ∧
    (∀ home', named.isSome = true → (⟨home', named, list⟩ : Environment).config = env.config) ∧
    ∀ c, env.config = .ok c → c.NoBlank := by
  intro selected env
  refine ⟨fun e => config_eq_error_iff, fun c => ?_, fun home' hn => ?_, fun c => noBlank_of_config⟩
  · refine config_eq_ok_iff.trans (exists_congr fun c' => and_congr_right fun _ => ?_)
    obtain ⟨disabled, filter⟩ := c
    obtain ⟨disabled', filter'⟩ := c'
    cases list <;> simp [env, Config.override, and_comm]
  · obtain ⟨file, rfl⟩ := Option.isSome_iff_exists.mp hn
    rfl

/-- The file at home breaks off, but another one is named, and so is what to leave out. -/
theorem config_precedence_named :
    let env : Environment :=
      ⟨.text "[", some (.text "[[\"eclipse\"], \"debug\"]"), some " vavr, ,guava "⟩
    env.config = .ok ⟨["vavr", "guava"], some "debug"⟩ ∧
      Config.NoBlank ⟨["vavr", "guava"], some "debug"⟩ ∧
      ∀ home', (⟨home', env.namedFile, env.disabledList⟩ : Environment).config = env.config := by
  intro env
  have h : env.config = .ok ⟨["vavr", "guava"], some "debug"⟩ :=
    eq_ok_of_toOption (by decide +kernel)
  obtain ⟨-, -, hhome, hblank⟩ := config_precedence env.homeFile env.namedFile env.disabledList
  exact ⟨h, hblank _ h, fun home' => hhome home' rfl⟩

end Environment

end ForeignCollections
