/-
# Ordinary settings

Settings of ordinary texts last: the text of their table stands for the table. So they are loaded
from where they were saved without any assumption on how tables are written and read. Other settings
may get lost: a comma at the start of a package is taken for the end of an item of the list.
-/

import CatalogClient.Proofs.Settings.RoundTrip
import CatalogClient.Proofs.Toml.Reading

namespace CatalogClient

/-- A text without carriage returns is read from its own bytes. -/
theorem Text.ofBytes?_toUTF8 {text : String} (h : '\x0d' ∉ text.toList) :
    Text.ofBytes? text.toUTF8 = some text.toList := by
  have hvalid : String.fromUTF8? text.toUTF8 = some text := dif_pos text.isValidUTF8
  unfold Text.ofBytes?
  rw [hvalid, Option.map_some, Text.unifyLineEnds_eq_self h]

namespace Settings

variable {settings : Settings}

/-- A key for everything but the token, each at most once. -/
theorem keys_toTable_sublist (settings : Settings) :
    settings.toTable.keys.Sublist
      ["url", "dirname", "packages", "git_url", "git_username", "commit_message"] := by
  have hentry (key : String) (value : Option Toml) :
      (((value.map fun value => (key, value)).toList).map Prod.fst).Sublist [key] := by
    cases value <;> simp
  unfold toTable Keyed.keys
  simp only [List.map_append]
  exact (((((hentry "url" _).append (hentry "dirname" _)).append (.refl ["packages"])).append
    (hentry "git_url" _)).append (hentry "git_username" _)).append (hentry "commit_message" _)

/-- Settings last if each of their values is written without escapes. -/
theorem lasts_of_written (h : ∀ entry ∈ settings.toTable, ∃ text, Toml.WrittenAs entry.2 text) :
    settings.Lasts := by
  have hplain : ∀ key ∈ ["url", "dirname", "packages", "git_url", "git_username",
      "commit_message"], Toml.IsPlainKey key := by
    decide
  have hkeys := keys_toTable_sublist settings
  obtain ⟨text, hprint, hread, hreturn⟩ := Toml.readFile_printFile
    (fun entry hmem => ⟨hplain _ (hkeys.subset (List.mem_map_of_mem hmem)), h entry hmem⟩)
    (hkeys.nodup (by decide))
  refine ⟨String.ofList text, by rw [print, hprint]; rfl, ?_⟩
  unfold tableOf?
  rw [Text.ofBytes?_toUTF8 (by simpa using hreturn)]
  simp [hread, Except.toOption]

end Settings

namespace TextSettings

/-- Settings whose values need no escapes, and whose packages have no commas. -/
structure AreOrdinary (texts : TextSettings) : Prop where
  url : ∀ text ∈ texts.url, Toml.IsOrdinaryText text
  directory : ∀ text ∈ texts.directory, Toml.IsOrdinaryText text
  packages : ∀ text ∈ texts.packages, Toml.IsOrdinaryItem text
  gitUrl : ∀ text ∈ texts.gitUrl, Toml.IsOrdinaryText text
  gitUsername : ∀ text ∈ texts.gitUsername, Toml.IsOrdinaryText text
  commitMessage : Toml.IsOrdinaryText texts.commitMessage

variable {texts : TextSettings} {files : FileSystem}

theorem AreOrdinary.lasts (h : texts.AreOrdinary) : texts.settings.Lasts := by
  have hentry (key : String) {value : Option String}
      (hvalue : ∀ text ∈ value, Toml.IsOrdinaryText text) :
      ∀ entry ∈ ((value.map Toml.string).map fun value => (key, value)).toList,
        ∃ text, Toml.WrittenAs entry.2 text := by
    cases value with
    | none => simp
    | some text => simpa using ⟨_, Toml.WrittenAs.text (hvalue text rfl)⟩
  have hmessage : ∀ text ∈ some texts.commitMessage, Toml.IsOrdinaryText text := by
    rintro text ⟨⟩
    exact h.commitMessage
  apply Settings.lasts_of_written
  unfold Settings.toTable
  simp only [List.forall_mem_append, List.forall_mem_singleton]
  exact ⟨⟨⟨⟨⟨hentry "url" h.url, hentry "dirname" h.directory⟩, _, .list h.packages⟩,
    hentry "git_url" h.gitUrl⟩, hentry "git_username" h.gitUsername⟩,
    hentry "commit_message" hmessage⟩

-- A package that is a comma is read as two empty ones.
example : ¬({ packages := [","] } : TextSettings).settings.Lasts := by decide +kernel

/-- Wherever a file can be made, ordinary settings are saved, and they are loaded from there. -/
theorem AreOrdinary.save_and_load (h : texts.AreOrdinary) {path : String} {made : FileSystem}
    (hmade : files.write path ByteArray.empty = .ok made) :
    ∃ saved, texts.settings.save files path = (saved, .ok ()) ∧
      Settings.load saved path none = .ok (some texts.reloaded.settings) :=
  TextSettings.save_and_load h.lasts hmade

end TextSettings

end CatalogClient
