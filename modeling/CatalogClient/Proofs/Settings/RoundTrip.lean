/-
# Settings that are saved and loaded

Settings that come from code have texts for values and a list of texts for packages. Saving and
loading them changes two things, whatever is missing, empty or set: the token is gone, and a missing
directory is the usual one. After that nothing changes any more. How the text of a table is read is
not looked into here; the text only has to stand for the table that it was written from.
-/

import CatalogClient.Proofs.Settings.Saved

namespace CatalogClient

/-- Settings whose values are texts. -/
structure TextSettings where
  url : Option String := none
  directory : Option String := none
  packages : List String := []
  gitUrl : Option String := none
  gitUsername : Option String := none
  gitToken : Option String := none
  commitMessage : String := defaultCommitMessage
  deriving DecidableEq, Repr

namespace TextSettings

/-- The same with the values that a settings file may have. -/
def settings (texts : TextSettings) : Settings where
  url := texts.url.map .string
  directory := texts.directory.map .string
  packages := .list (texts.packages.map .string)
  gitUrl := texts.gitUrl.map .string
  gitUsername := texts.gitUsername.map .string
  gitToken := texts.gitToken.map .string
  commitMessage := some (.string texts.commitMessage)

/-- The settings without the token, and with the usual directory where there is none. -/
def reloaded (texts : TextSettings) : TextSettings :=
  { texts with directory := some (texts.directory.getD defaultDirectory), gitToken := none }

variable {texts : TextSettings} {files : FileSystem}

theorem settings_reloaded (texts : TextSettings) :
    texts.reloaded.settings = texts.settings.reloaded := by
  cases hdirectory : texts.directory with
  | none => simp [reloaded, settings, Settings.reloaded, hdirectory]
  | some directory => simp [reloaded, settings, Settings.reloaded, hdirectory]

/-- Wherever a file can be made, settings are saved, and they are loaded from there. -/
theorem save_and_load (hlasts : texts.settings.Lasts) {path : String} {made : FileSystem}
    (hmade : files.write path ByteArray.empty = .ok made) :
    ∃ saved, texts.settings.save files path = (saved, .ok ()) ∧
      Settings.load saved path none = .ok (some texts.reloaded.settings) := by
  obtain ⟨text, hprint, -⟩ := id hlasts
  obtain ⟨saved, hsaved⟩ := Settings.save_of_write hprint hmade
  refine ⟨saved, hsaved, ?_⟩
  rw [settings_reloaded]
  exact Settings.load_reloaded_of_save rfl rfl hlasts hsaved

/-- Settings that are saved wherever a file can be made are loaded from there as they were, but for
the token, which is gone, and a missing directory, which is the usual one. What is loaded can be
saved again, wherever another file can be made, and is loaded from there as it is. -/
theorem load_undoes_save (hlasts : texts.settings.Lasts) (hagain : texts.reloaded.settings.Lasts)
    {path : String} {made : FileSystem} (hmade : files.write path ByteArray.empty = .ok made) :
    ∃ saved, texts.settings.save files path = (saved, .ok ()) ∧
      Settings.load saved path none = .ok (some texts.reloaded.settings) ∧
      ∀ other next, saved.write other ByteArray.empty = .ok next →
        ∃ resaved, texts.reloaded.settings.save saved other = (resaved, .ok ()) ∧
          Settings.load resaved other none = .ok (some texts.reloaded.settings) := by
  obtain ⟨saved, hsaved, hloaded⟩ := save_and_load hlasts hmade
  refine ⟨saved, hsaved, hloaded, fun other next hnext => ?_⟩
  obtain ⟨resaved, hresaved, hreloaded⟩ := save_and_load hagain hnext
  exact ⟨resaved, hresaved, hreloaded⟩

end TextSettings

/-- Empty texts, an empty package, a text that needs escapes, and neither a directory nor an address
of a repository. -/
def Sample.sparse : TextSettings where
  url := some ""
  packages := ["com.acme", ""]
  gitUsername := some "Я\\b"
  gitToken := some "secret"
  commitMessage := ""

theorem TextSettings.load_undoes_save_sample :
    Sample.sparse.settings.Lasts ∧ Sample.sparse.reloaded.settings.Lasts ∧
      ∃ saved resaved, Sample.sparse.settings.save {} "a.toml" = (saved, .ok ()) ∧
        Settings.load saved "a.toml" none = .ok (some Sample.sparse.reloaded.settings) ∧
        Sample.sparse.reloaded.settings.save saved "b.toml" = (resaved, .ok ()) ∧
        Settings.load resaved "b.toml" none = .ok (some Sample.sparse.reloaded.settings) := by
  have hlasts : Sample.sparse.settings.Lasts := by decide +kernel
  have hagain : Sample.sparse.reloaded.settings.Lasts := by decide +kernel
  have hmade : ({} : FileSystem).write "a.toml" ByteArray.empty = .ok _ := rfl
  obtain ⟨saved, hsaved, hloaded, hmore⟩ := load_undoes_save hlasts hagain hmade
  have hfree : ((Sample.sparse.settings.save {} "a.toml").1.write "b.toml"
      ByteArray.empty).isOk = true := by
    decide +kernel
  rw [hsaved] at hfree
  obtain ⟨next, hnext⟩ : ∃ next, saved.write "b.toml" ByteArray.empty = .ok next := by
    cases hwrite : saved.write "b.toml" ByteArray.empty with
    | error fault =>
        rw [hwrite] at hfree
        cases hfree
    | ok next => exact ⟨next, rfl⟩
  obtain ⟨resaved, hresaved, hreloaded⟩ := hmore "b.toml" next hnext
  exact ⟨hlasts, hagain, saved, resaved, hsaved, hloaded, hresaved, hreloaded⟩

end CatalogClient
