import TableBooking.Proofs.Program.Run
import TableBooking.Proofs.Settings.Placeholder
import TableBooking.Proofs.Settings.Validity

/-!
What an invocation takes its settings from. A settings file that is named on the command line leaves
the environment no say but through the placeholders written in it. Wherever they come from, settings
are used exactly when they are valid, since every source counts the timeout in 64 bits.
-/
namespace TableBooking

open Placeholder (Variables IsName written names)

namespace SettingsFile

def Mentions (path : Path) (tree : FileTree) (name : String) : Prop :=
  ∃ content text, tree.read path = .ok content ∧ Json.ofUtf8? content = some text ∧
    IsName name.toList ∧ written name.toList <:+: text.toList

variable {v : Variables} {path : Path} {tree : FileTree}

theorem mentions_iff {content : Json.Bytes} {text : String} (read : tree.read path = .ok content)
    (decoded : Json.ofUtf8? content = some text) (name : String) :
    Mentions path tree name ↔ name ∈ names text.toList := by
  rw [Placeholder.mem_names_iff]
  constructor
  · rintro ⟨content', text', read', decoded', mentioned⟩
    cases read.symm.trans read'
    cases decoded.symm.trans decoded'
    exact mentioned
  · intro mentioned
    exact ⟨content, text, read, decoded, mentioned⟩

theorem timeout_of_ofDocument? {document : Toml.Members} {file : SettingsFile}
    (read : ofDocument? document = some file) : ∃ ms, file.settings.callTimeout = .ofMillis ms := by
  simp only [ofDocument?, Option.bind_eq_bind, Option.bind_eq_some_iff] at read
  obtain ⟨services, -, origin, -, auth, -, timeout, -, logging, -, made⟩ := read
  cases made
  exact ⟨_, rfl⟩

theorem timeout_of_ofText {text : String} {file : SettingsFile}
    (read : ofText v text = .ok file) : ∃ ms, file.settings.callTimeout = .ofMillis ms := by
  unfold ofText at read
  dsimp only at read
  split at read
  · rename_i decoded
    cases read
    obtain ⟨document, -, decoded⟩ := Option.bind_eq_some_iff.1 decoded
    exact timeout_of_ofDocument? decoded
  · cases read

theorem timeout_of_load {file : SettingsFile} (loaded : load v path tree = .ok file) :
    ∃ ms, file.settings.callTimeout = .ofMillis ms := by
  unfold load at loaded
  split at loaded
  · cases loaded
  · split at loaded
    · cases loaded
    · exact timeout_of_ofText loaded

end SettingsFile

def SettingsFile.sample : String :=
  "[http]\ncors_origin = \"$\x7bORIGIN\x7d\"\n"

namespace Settings

theorem timeout_of_timeoutOf {field value : String} {timeout : Duration}
    (given : timeoutOf field value = .ok timeout) : ∃ ms, timeout = .ofMillis ms := by
  unfold timeoutOf at given
  split at given
  · cases given
    exact ⟨_, rfl⟩
  · cases given

theorem timeout_of_ofEnvironment {v : Variables} {settings : Settings}
    (made : ofEnvironment v = .ok settings) : ∃ ms, settings.callTimeout = .ofMillis ms := by
  unfold ofEnvironment at made
  dsimp only at made
  split at made
  · obtain ⟨timeout, given, made⟩ := bind_eq_ok_iff.1 made
    cases made
    exact timeout_of_timeoutOf given
  · cases made
    exact ⟨5000, rfl⟩

end Settings

namespace Program

variable {arguments : Arguments} {words : List String} {v w : Variables} {tree : FileTree}
  {path : Path}

/-- Wherever settings come from, their timeout is a number of milliseconds of 64 bits. -/
theorem timeout_of_settings {given : Settings} (found : settings arguments v tree = .ok given) :
    ∃ ms, (effective arguments given).callTimeout = .ofMillis ms := by
  unfold effective
  cases arguments.timeoutMs with
  | some ms => exact ⟨ms, rfl⟩
  | none =>
    unfold settings at found
    split at found
    · split at found
      · rename_i loaded
        cases found
        exact SettingsFile.timeout_of_load loaded
      · cases found
    · split at found
      · rename_i made
        cases found
        exact Settings.timeout_of_ofEnvironment made
      · cases found

/-- An invocation uses the settings that it finds, with its own timeout, exactly when they are
valid. -/
theorem checkedSettings_eq_ok_iff {used : Settings} :
    checkedSettings arguments v tree = .ok used ↔
      ∃ given, settings arguments v tree = .ok given ∧ used = effective arguments given ∧
        used.Valid := by
  unfold checkedSettings
  rw [Settings.bind_eq_ok_iff]
  refine exists_congr fun given => and_congr_right fun found => ?_
  have accepted : (effective arguments given).check = .ok () ↔ (effective arguments given).Valid := by
    apply Settings.check_eq_ok_iff_valid
    obtain ⟨ms, counted⟩ := timeout_of_settings found
    rw [counted, Duration.wholeMillis_ofMillis]
    exact ms.toNat_lt
  constructor
  · intro passed
    dsimp only at passed
    split at passed
    · rename_i checked
      cases passed
      exact ⟨rfl, accepted.1 checked⟩
    · cases passed
  · rintro ⟨rfl, valid⟩
    dsimp only
    rw [accepted.2 valid]
    rfl

theorem mem_variableNames_iff (named : arguments.config = some path) {name : String} :
    name ∈ variableNames arguments tree ↔ SettingsFile.Mentions path tree name := by
  unfold variableNames
  rw [named]
  dsimp only
  cases read : tree.read path with
  | error e => simp [SettingsFile.Mentions, read]
  | ok content =>
    dsimp only
    cases decoded : Json.ofUtf8? content with
    | none => simp [SettingsFile.Mentions, read, decoded]
    | some text => exact (SettingsFile.mentions_iff read decoded name).symm

theorem checkedSettings_congr (agree : ∀ name ∈ variableNames arguments tree, v name = w name) :
    checkedSettings arguments v tree = checkedSettings arguments w tree := by
  unfold checkedSettings
  rw [settings_congr agree]

/-- An invocation looks up no variable but those that its settings may depend on. -/
theorem run_congr (accepted : Arguments.ofWords words = .ok arguments)
    (agree : ∀ name ∈ variableNames arguments tree, v name = w name) (input : Json.Bytes)
    (today : Date) (fetch : TableService.Fetch) :
    run words ⟨v, input, today⟩ fetch tree = run words ⟨w, input, today⟩ fetch tree := by
  have same : prepare words ⟨v, input, today⟩ tree = prepare words ⟨w, input, today⟩ tree := by
    rw [prepare_accepted accepted, prepare_accepted accepted]
    unfold basis
    rw [checkedSettings_congr agree]
    rfl
  unfold run
  rw [same]

/-- A settings file that the command line names shields an invocation from the environment: whatever
the variables are, as long as those that the file mentions are the same, the file is loaded alike,
the settings it comes to are the same, valid or not, and so is everything after. -/
theorem settings_file_shields (tree : FileTree)
    (accepted : Arguments.ofWords words = .ok arguments) (named : arguments.config = some path)
    (agree : ∀ name, SettingsFile.Mentions path tree name → v name = w name) :
    SettingsFile.load v path tree = SettingsFile.load w path tree ∧
      (settings arguments v tree).map (effective arguments) =
        (settings arguments w tree).map (effective arguments) ∧
      checkedSettings arguments v tree = checkedSettings arguments w tree ∧
      ∀ input today fetch,
        run words ⟨v, input, today⟩ fetch tree = run words ⟨w, input, today⟩ fetch tree := by
  have same : ∀ name ∈ variableNames arguments tree, v name = w name := by
    intro name possible
    exact agree name ((mem_variableNames_iff named).1 possible)
  refine ⟨?_, ?_, checkedSettings_congr same, run_congr accepted same⟩
  · apply SettingsFile.load_congr
    intro content text read decoded name inside
    exact agree name ((SettingsFile.mentions_iff read decoded name).2 inside)
  · rw [settings_congr same]

/-- The origin is what the variable of the file says, in an environment without any other variable
and in one with all the others. -/
theorem origin_taken_through_file :
    let words := ["--config", "app.toml", "--timeout-ms", "250", "cancel", "--id", "1"]
    let arguments : Arguments :=
      { config := some ⟨"app.toml"⟩, dataDirectory := ⟨"./data"⟩, timeoutMs := some 250,
        verbose := false, jsonLogs := false, command := .cancel ⟨1⟩ }
    let tree : FileTree := ⟨[(⟨false, ["app.toml"]⟩, .file (Json.utf8 SettingsFile.sample))]⟩
    let among (others : Option String) : Variables := fun name =>
      if name = "ORIGIN" then some "*" else others
    Arguments.ofWords words = .ok arguments ∧ arguments.config = some ⟨"app.toml"⟩ ∧
      (∀ name, SettingsFile.Mentions ⟨"app.toml"⟩ tree name →
        among none name = among (some "elsewhere") name) ∧
      (∀ name ∈ Settings.variableNames, among none name ≠ among (some "elsewhere") name) ∧
      (checkedSettings arguments (among none) tree).toOption =
        some { corsOrigin := "*", callTimeout := .ofMillis 250 } ∧
      SettingsFile.load (among none) ⟨"app.toml"⟩ tree =
        SettingsFile.load (among (some "elsewhere")) ⟨"app.toml"⟩ tree ∧
      checkedSettings arguments (among none) tree =
        checkedSettings arguments (among (some "elsewhere")) tree := by
  intro words arguments tree among
  have accepted : Arguments.ofWords words = .ok arguments := rfl
  have read : tree.read ⟨"app.toml"⟩ = .ok (Json.utf8 SettingsFile.sample) := rfl
  have agree : ∀ name, SettingsFile.Mentions ⟨"app.toml"⟩ tree name →
      among none name = among (some "elsewhere") name := by
    intro name mentioned
    rw [SettingsFile.mentions_iff read (Json.ofUtf8?_utf8 _)] at mentioned
    have only : names SettingsFile.sample.toList = ["ORIGIN"] := by decide
    rw [only, List.mem_singleton] at mentioned
    subst mentioned
    rfl
  obtain ⟨loaded, -, checked, -⟩ := settings_file_shields tree accepted rfl agree
  exact ⟨accepted, rfl, agree, by decide, by decide +kernel, loaded, checked⟩

end Program

end TableBooking
