/-
# Settings with and without a file

The command settles its settings from a settings file and from its options. To write the options
into a settings file first and then to go without them leads to the same settings as to go with them
at once: the two ways treat an empty option differently, but it counts as unset in both.
-/

import CatalogClient.Command.Run
import CatalogClient.Proofs.Session
import CatalogClient.Proofs.Settings.Saved

namespace CatalogClient

namespace Settings

/-- What settings come to: an empty text and whatever else does not count as set is left out, and
so is the token. -/
def effective (settings : Settings) : Settings where
  url := settings.url.filter Toml.isSet
  directory := settings.directory.filter Toml.isSet
  packages := settings.packages
  gitUrl := settings.gitUrl.filter Toml.isSet
  gitUsername := settings.gitUsername.filter Toml.isSet
  commitMessage := settings.commitMessage

/-- An option comes to the same in the place of nothing as when it is written down. -/
theorem filter_overridden_none (option : Option String) :
    (overridden option none).filter Toml.isSet = (option.map Toml.string).filter Toml.isSet := by
  cases option with
  | none => rfl
  | some text =>
      show Option.filter _ (if text = "" then none else some (Toml.string text)) = _
      by_cases htext : text = ""
      · rw [if_pos htext, htext]
        rfl
      · rw [if_neg htext]
        rfl

/-- No settings file is found where there is none, neither in the directory to search nor in the
working directory. -/
theorem load_eq_none {files : FileSystem} {path : String} {searched : Option String}
    (habsent : files.exists? path = false)
    (hsearched : ∀ directory ∈ searched,
      files.exists? (PathText.join directory settingsFileName) = false) :
    load files path searched = .ok none := by
  have hpath : filePath files path searched = path := by
    unfold filePath
    cases searched with
    | none => rfl
    | some directory =>
        simp only [hsearched directory rfl, Bool.and_false, Bool.false_eq_true, if_false]
  unfold load
  simp only [hpath, habsent, Bool.false_eq_true, if_false]

end Settings

namespace Command

variable {surroundings : Surroundings} {start : Session} {settings : Settings}
  {overrides : Overrides} {options : Options} {arguments creating : List String}

theorem settle_of_none
    (h : Settings.load start.files settingsFileName overrides.directory = .ok none) :
    settle overrides start = (start, .ok
      (({ directory := some (.string defaultDirectory) } : Settings).overrideWith overrides)) := by
  unfold settle
  rw [Run.files_bind, h]
  rfl

theorem settle_of_some
    (h : Settings.load start.files settingsFileName overrides.directory = .ok (some settings)) :
    ∃ next, settle overrides start = (next, .ok (settings.overrideWith overrides)) := by
  unfold settle
  rw [Run.files_bind, h]
  exact ⟨_, rfl⟩

/-- Whether a command with these arguments generates under these settings. -/
def SettlesOn (arguments : List String) (start : Session) (settings : Settings) : Prop :=
  ∃ options next, Options.read arguments = .ok options ∧ options.initConfig = false ∧
    settle options.overrides start = (next, .ok settings)

theorem SettlesOn.unique {other : Settings} (h : SettlesOn arguments start settings)
    (hother : SettlesOn arguments start other) : other = settings := by
  obtain ⟨options, next, hread, -, hsettled⟩ := h
  obtain ⟨options', next', hread', -, hsettled'⟩ := hother
  obtain rfl := Except.ok.inj (hread.symm.trans hread')
  exact Except.ok.inj (Prod.mk.inj (hsettled'.symm.trans hsettled)).2

/-- The settings that are written down come to what the options come to in the place of the
defaults. -/
theorem effective_settingsOf (overrides : Overrides) :
    (settingsOf overrides).effective =
      (({ directory := some (.string defaultDirectory) } : Settings).overrideWith
        overrides).effective := by
  have hpackages : (if overrides.packages = [] then Toml.list []
      else .list (overrides.packages.map .string)) = .list (overrides.packages.map .string) := by
    split
    · next hnone => rw [hnone]; rfl
    · rfl
  simp only [Settings.effective, settingsOf, Settings.overrideWith,
    Settings.filter_overridden_none, hpackages]

/-- Where there is no settings file, one is written for the options. -/
theorem writeSettings_succeeds (hlasts : (settingsOf overrides).Lasts)
    (hworking : start.files.node? start.files.working = some .directory)
    (habsent : start.files.exists? settingsFileName = false) :
    ∃ next, writeSettings overrides start = (next, .ok ()) ∧
      (settingsOf overrides).save start.files settingsFileName = (next.files, .ok ()) := by
  obtain ⟨text, hprint, -⟩ := hlasts
  obtain ⟨saved, hsaved⟩ := Settings.save_succeeds hprint hworking habsent
  refine ⟨({ start with files := saved }).print
    ("✅ Создан конфиг файл " ++ settingsFileName), ?_, hsaved⟩
  refine (Staged.bind_of_ok
    (show _ = (({ start with files := saved } : Session), Except.ok ()) from ?_) _).trans rfl
  simp only [hsaved]
  rfl

/-- To write down the options and then to go without any comes to the same as to go with them at
once, wherever there is no settings file to begin with, neither in the working directory nor in the
given output directory. -/
theorem settles_alike_from_file (harguments : Options.read arguments = .ok options)
    (hgenerates : options.initConfig = false)
    (hcreating : Options.read creating = .ok { options with initConfig := true })
    (hworking : start.files.node? start.files.working = some .directory)
    (habsent : start.files.exists? settingsFileName = false)
    (hsearched : ∀ directory ∈ options.overrides.directory,
      start.files.exists? (PathText.join directory settingsFileName) = false)
    (hlasts : (settingsOf options.overrides).Lasts) :
    ∃ saved direct again, execute surroundings creating start = (saved, .exit 0) ∧
      SettlesOn arguments start direct ∧
      (∀ later : Session, later.files = saved.files → SettlesOn [] later again) ∧
      again.effective = direct.effective := by
  obtain ⟨saved, hwritten, hsaved⟩ := writeSettings_succeeds hlasts hworking habsent
  have hdirect := settle_of_none (Settings.load_eq_none habsent hsearched)
  obtain ⟨directory, hdirectory⟩ : ∃ directory,
      (settingsOf options.overrides).directory = some directory := by
    simp only [settingsOf, overridden]
    split
    · split
      · exact ⟨_, rfl⟩
      · exact ⟨_, rfl⟩
    · exact ⟨_, rfl⟩
  have hloaded := Settings.load_of_save hdirectory rfl rfl hlasts hsaved
  refine ⟨saved, _, settingsOf options.overrides, ?_,
    ⟨options, start, harguments, hgenerates, hdirect⟩, fun later hlater => ?_,
    effective_settingsOf options.overrides⟩
  · simp only [execute, hcreating, if_true, hwritten]
    rfl
  · obtain ⟨next, hagain⟩ : ∃ next, settle {} later =
        (next, .ok ((settingsOf options.overrides).overrideWith {})) := by
      apply settle_of_some
      rw [hlater]
      exact hloaded
    exact ⟨{}, next, rfl, rfl, hagain⟩

end Command

namespace Sample

/-- Options with an empty address, a package that is given twice and texts that need escapes. -/
def plainArguments : List String :=
  ["--url=", "--dirname", "o", "--package", "app", "--package=app", "--git-url", "it's",
    "--git-username", "Я\\b"]

/-- The same with the switch between them. -/
def creatingArguments : List String :=
  ["--url=", "--dirname", "o", "--package", "app", "--init-config", "--package=app",
    "--git-url", "it's", "--git-username", "Я\\b"]

def plainOverrides : Overrides where
  url := some ""
  directory := some "o"
  packages := ["app", "app"]
  gitUrl := some "it's"
  gitUsername := some "Я\\b"

/-- The settings for these options. -/
def plainSettings : Settings where
  directory := some (.string "o")
  packages := .list [.string "app", .string "app"]
  gitUrl := some (.string "it's")
  gitUsername := some (.string "Я\\b")

end Sample

namespace Command

theorem settles_alike_from_file_sample : ∃ saved again,
    execute ⟨fun _ => .failed "", {}⟩ Sample.creatingArguments {} = (saved, .exit 0) ∧
      SettlesOn Sample.plainArguments {} Sample.plainSettings ∧ SettlesOn [] saved again ∧
      again.effective = Sample.plainSettings := by
  have harguments : Options.read Sample.plainArguments =
      .ok { overrides := Sample.plainOverrides } := by
    rfl
  have hcreating : Options.read Sample.creatingArguments =
      .ok { overrides := Sample.plainOverrides, initConfig := true } := by
    rfl
  have hlasts : (settingsOf Sample.plainOverrides).Lasts := by
    decide +kernel
  have hworking : ({} : Session).files.node? ({} : Session).files.working = some .directory := by
    decide
  have hsearched : ∀ directory ∈ Sample.plainOverrides.directory,
      ({} : Session).files.exists? (PathText.join directory settingsFileName) = false := by
    rintro directory ⟨⟩
    decide
  obtain ⟨saved, direct, again, hsaved, hdirect, hagain, hsame⟩ :=
    settles_alike_from_file harguments rfl hcreating hworking (by decide) hsearched hlasts
  have hknown : SettlesOn Sample.plainArguments {} Sample.plainSettings :=
    ⟨_, _, harguments, rfl, rfl⟩
  rw [hknown.unique hdirect] at hsame
  exact ⟨saved, again, hsaved, hknown, hagain saved rfl, hsame⟩

end Command

end CatalogClient
