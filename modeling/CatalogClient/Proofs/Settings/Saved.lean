/-
# Saved settings

A settings file can be written wherever there is none yet. Settings that are saved are read again as
they were, but for the token, which is never written, as far as the text of their table stands for
the table.
-/

import CatalogClient.Proofs.Settings.Token

namespace CatalogClient

namespace FileSystem

variable {files : FileSystem} (hworking : files.node? files.working = some .directory)
include hworking

/-- The place of the settings file is in the working directory. -/
theorem target?_settingsFileName :
    files.target? settingsFileName = some (files.working ++ [settingsFileName]) := by
  have hnames : PathText.names settingsFileName = [settingsFileName] := by decide
  rw [target?_eq_some_iff]
  refine ⟨files.working, settingsFileName, rfl, ?_, by decide, by decide⟩
  rw [place_eq_ok_iff, hnames]
  exact ⟨by decide, rfl, hworking, rfl, by decide, by decide⟩

theorem exists?_settingsFileName
    (hnode : files.node? (files.working ++ [settingsFileName]) = some .directory) :
    files.exists? settingsFileName = true := by
  have hnames : PathText.names settingsFileName = [settingsFileName] := by decide
  have haccepted : refusal? settingsFileName = none := by decide
  have henter : files.enter files.working settingsFileName =
      .ok (files.working ++ [settingsFileName]) := by
    rw [enter_eq_ok_iff, hnode]
    exact ⟨hworking, Or.inr (Or.inr ⟨by decide, by decide, by decide, rfl, rfl⟩)⟩
  have hwalk : files.walk (files.origin settingsFileName) (PathText.names settingsFileName) =
      .ok (files.working ++ [settingsFileName]) := by
    rw [hnames]
    show files.walk files.working [settingsFileName] = _
    rw [walk, henter]
    rfl
  simp only [exists?, find, haccepted, hwalk, hnode]

end FileSystem

namespace Settings

variable {settings : Settings} {files saved : FileSystem} {path : String}

/-- Wherever a file can be made, settings that can be put into text are saved. -/
theorem save_of_write {made : FileSystem} {text : String} (hprint : settings.print = .ok text)
    (hmade : files.write path ByteArray.empty = .ok made) :
    ∃ saved, settings.save files path = (saved, .ok ()) := by
  obtain ⟨target, hwrites⟩ := FileSystem.writes_of_write hmade
  have hwritten : made.write path text.toUTF8 = .ok _ :=
    FileSystem.write_eq_ok_iff.mpr
      ⟨target, hwrites.leads, by rw [hwrites.written]; exact nofun, rfl⟩
  unfold save
  rw [hmade, hprint]
  simp only [hwritten]
  exact ⟨_, rfl⟩

/-- Where there is no settings file, settings that can be put into text are saved. -/
theorem save_succeeds {text : String} (hprint : settings.print = .ok text)
    (hworking : files.node? files.working = some .directory)
    (habsent : files.exists? settingsFileName = false) :
    ∃ saved, settings.save files settingsFileName = (saved, .ok ()) := by
  have hnode : files.node? (files.working ++ [settingsFileName]) ≠ some .directory := by
    intro hnode
    rw [FileSystem.exists?_settingsFileName hworking hnode] at habsent
    cases habsent
  have hmade : files.write settingsFileName ByteArray.empty = .ok _ :=
    FileSystem.write_eq_ok_iff.mpr
      ⟨_, FileSystem.target?_settingsFileName hworking, hnode, rfl⟩
  exact save_of_write hprint hmade

/-- Whether the text of a settings file stands for the table that it was written from. -/
def Lasts (settings : Settings) : Prop :=
  ∃ text, settings.print = .ok text ∧ tableOf? text.toUTF8 = some settings.toTable

theorem lasts_iff : settings.Lasts ↔
    (settings.print.toOption.bind fun text => tableOf? text.toUTF8) = some settings.toTable := by
  unfold Lasts
  cases settings.print with
  | error fault => simp [Except.toOption]
  | ok text => simp [Except.toOption]

instance (settings : Settings) : Decidable settings.Lasts :=
  decidable_of_iff _ lasts_iff.symm

/-- Settings as they come out of a settings file again: without the token, and with the usual
directory where there is none. -/
def reloaded (settings : Settings) : Settings :=
  { settings with
    directory := some (settings.directory.getD (.string defaultDirectory))
    gitToken := none }

/-- The table of settings stands for the settings, but for the token and a missing directory. -/
theorem ofTable_toTable {message : Toml} {packages : List Toml}
    (hpackages : settings.packages = .list packages)
    (hmessage : settings.commitMessage = some message) :
    ofTable settings.toTable = .ok settings.reloaded := by
  obtain ⟨url, directory, _, gitUrl, gitUsername, token, _⟩ := settings
  cases hpackages
  cases hmessage
  cases url with
  | none => cases directory <;> cases gitUrl <;> cases gitUsername <;> rfl
  | some url => cases directory <;> cases gitUrl <;> cases gitUsername <;> rfl

/-- What is saved without a place to search is loaded again. -/
theorem load_reloaded_of_save {message : Toml} {packages : List Toml}
    (hpackages : settings.packages = .list packages)
    (hmessage : settings.commitMessage = some message) (hlasts : settings.Lasts)
    (h : settings.save files path = (saved, .ok ())) :
    load saved path none = .ok (some settings.reloaded) := by
  obtain ⟨text, hprint, hread⟩ := read_of_save h
  obtain ⟨text', hprint', htable⟩ := hlasts
  obtain rfl := Except.ok.inj (hprint.symm.trans hprint')
  have hexists : saved.exists? (filePath saved path none) = true :=
    FileSystem.exists?_of_read hread
  have hfound : readFile saved (filePath saved path none) = .ok settings.reloaded :=
    (readFile_of_table hread htable).trans (ofTable_toTable hpackages hmessage)
  unfold load
  simp only [hexists, hfound, if_true]
  rfl

/-- Settings with a directory lose nothing but the token. -/
theorem load_of_save {directory message : Toml} {packages : List Toml}
    (hdirectory : settings.directory = some directory)
    (hpackages : settings.packages = .list packages)
    (hmessage : settings.commitMessage = some message) (hlasts : settings.Lasts)
    (h : settings.save files path = (saved, .ok ())) :
    load saved path none = .ok (some { settings with gitToken := none }) := by
  rw [load_reloaded_of_save hpackages hmessage hlasts h, reloaded, hdirectory]
  rfl

end Settings

end CatalogClient
