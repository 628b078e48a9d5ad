/-
# Settings that differ in the token

The token comes from an option or from a settings file. Settings that differ in the token alone are
read from files that differ in it alone and stay so under options that do; all that is checked of
settings or written of them is the same, since the token is neither checked nor written. Two tokens
that differ both have to count as set: a token that does not is as good as none.
-/

import CatalogClient.Proofs.Catalog.Indifference
import CatalogClient.Settings.File

namespace CatalogClient

/-- Two tokens that are the same, or that both count as set. -/
def TokensAgree (token other : Option Toml) : Prop :=
  other = token ∨ isGiven token = true ∧ isGiven other = true

/-- Two tokens of options that are the same, or that are both given and not empty. -/
def GivenTokensAgree (token other : Option String) : Prop :=
  other = token ∨ ∃ text text', token = some text ∧ other = some text' ∧ text ≠ "" ∧ text' ≠ ""

/-- Options in the place of settings that differ in the token alone. -/
def Overrides.Agree (overrides others : Overrides) : Prop :=
  ∃ token, GivenTokensAgree overrides.gitToken token ∧
    others = { overrides with gitToken := token }

/-- A token that is given goes first, and otherwise the setting stays. -/
theorem tokensAgree_overridden {given given' : Option String} {token other : Option Toml}
    (hgiven : GivenTokensAgree given given') (h : TokensAgree token other) :
    TokensAgree (overridden given token) (overridden given' other) := by
  rcases hgiven with rfl | ⟨text, text', rfl, rfl, htext, htext'⟩
  · cases given' with
    | none => exact h
    | some text =>
        unfold overridden
        simp only
        split
        · exact h
        · exact Or.inl rfl
  · right
    simp [overridden, isGiven, Toml.isSet, htext, htext']

/-- The table that a content of a settings file stands for, if it is one. -/
def tableOf? (content : ByteArray) : Option (Keyed Toml) :=
  (Text.ofBytes? content).bind fun text => (Toml.readFile text).toOption

/-- Two tables with the same under every key but that of the token, where both have what counts as
set. -/
structure TablesAgree (entries others : Keyed Toml) : Prop where
  given : isGiven (entries.get? "git_token") = true
  given' : isGiven (others.get? "git_token") = true
  same : ∀ key, key ≠ "git_token" → others.get? key = entries.get? key

/-- Two contents of a settings file that differ in the token alone: they stand for tables that do,
and they are written in the same way up to the equals sign before the token, which is no way to
start a document that the machine reads. -/
structure DifferInToken (machine : Machine) (first second : ByteArray) : Prop where
  table : ∃ entries others, tableOf? first = some entries ∧ tableOf? second = some others ∧
    TablesAgree entries others
  text : ∃ text text', Text.ofBytes? first = some text ∧ Text.ofBytes? second = some text' ∧
    Json.PartAtSign machine.nesting text text'
  raw : ∃ raw raw', Text.decodeUtf8 (first.data.toList.map UInt8.toNat) = .ok raw ∧
    Text.decodeUtf8 (second.data.toList.map UInt8.toNat) = .ok raw' ∧
      Json.PartAtSign machine.nesting raw raw'

/-- Two contents of a settings file that are the same or differ in the token alone. -/
def SameButToken (machine : Machine) (first second : ByteArray) : Prop :=
  second = first ∨ DifferInToken machine first second

variable {machine : Machine}

theorem SameButToken.refl (content : ByteArray) : SameButToken machine content content :=
  Or.inl rfl

/-- Wherever such a content is read as a document, the token makes no difference. -/
theorem SameButToken.document {first second : ByteArray} (h : SameButToken machine first second) :
    SameDocument machine first second := by
  rcases h with rfl | h
  · exact .refl second
  · obtain ⟨_, _, htext, htext', hparts⟩ := h.text
    obtain ⟨_, _, hraw, hraw', hrawParts⟩ := h.raw
    exact .of_partAtSign htext htext' hparts hraw hraw' hrawParts

namespace Settings

/-- Settings that differ in the token alone. -/
def Agree (settings other : Settings) : Prop :=
  ∃ token, TokensAgree settings.gitToken token ∧ other = { settings with gitToken := token }

theorem Agree.refl (settings : Settings) : settings.Agree settings :=
  ⟨settings.gitToken, Or.inl rfl, rfl⟩

theorem Agree.overrideWith {settings other : Settings} {overrides others : Overrides}
    (h : settings.Agree other) (hoverrides : overrides.Agree others) :
    (settings.overrideWith overrides).Agree (other.overrideWith others) := by
  obtain ⟨token, htoken, rfl⟩ := h
  obtain ⟨given, hgiven, rfl⟩ := hoverrides
  exact ⟨_, tokensAgree_overridden hgiven htoken, rfl⟩

/-- Tables that differ in the token alone stand for such settings. -/
theorem ofTable_agree {entries others : Keyed Toml} (h : TablesAgree entries others) :
    OutcomesAgree Eq Agree (ofTable entries) (ofTable others) := by
  unfold ofTable
  rw [h.same "packages" (by decide), h.same "url" (by decide), h.same "dirname" (by decide),
    h.same "git_url" (by decide), h.same "git_username" (by decide),
    h.same "commit_message" (by decide)]
  cases packagesOf (entries.get? "packages") with
  | error fault => exact .error rfl
  | ok packages => exact .ok ⟨_, Or.inr ⟨h.given, h.given'⟩, rfl⟩

/-- A content that is a table is read as the settings that the table stands for. -/
theorem readFile_of_table {files : FileSystem} {path : String} {content : ByteArray}
    {entries : Keyed Toml} (hcontent : files.read path = .ok content)
    (htable : tableOf? content = some entries) : readFile files path = ofTable entries := by
  obtain ⟨text, htext, hentries⟩ := Option.bind_eq_some_iff.mp htable
  unfold readFile
  simp only [hcontent, htext]
  cases hread : Toml.readFile text with
  | error fault =>
      rw [hread] at hentries
      cases hentries
  | ok found =>
      rw [hread] at hentries
      obtain rfl := Option.some.inj hentries
      rfl

variable {place : List String} {first second : ByteArray} {files others : FileSystem}

section Files

variable (h : FileSystem.DifferAt place first second files others)
include h

theorem readFile_agree (hcontents : SameButToken machine first second) (path : String) :
    OutcomesAgree Eq Agree (readFile files path) (readFile others path) := by
  rcases h.read_agree path |>.error_or_ok with ⟨_, _, hfiles, hothers, rfl⟩ |
    ⟨content, other, hfiles, hothers, hagree⟩
  · unfold readFile
    rw [hfiles, hothers]
    exact .error rfl
  · have hsame : other = content →
        OutcomesAgree Eq Agree (readFile files path) (readFile others path) := by
      rintro rfl
      unfold readFile
      rw [hfiles, hothers]
      exact .refl (fun _ => rfl) Agree.refl _
    rcases hagree with hagree | ⟨rfl, rfl⟩
    · exact hsame hagree
    · rcases hcontents with hequal | ⟨⟨_, _, htable, htable', htables⟩, _, _⟩
      · exact hsame hequal
      · rw [readFile_of_table hfiles htable, readFile_of_table hothers htable']
        exact ofTable_agree htables

theorem filePath_eq (path : String) (searched : Option String) :
    filePath others path searched = filePath files path searched := by
  cases searched with
  | none => rfl
  | some directory => simp only [filePath, h.isDirectory_eq, h.exists?_eq]

/-- Settings that differ in the token alone are loaded, or none, or with the same fault. -/
theorem load_agree (hcontents : SameButToken machine first second) (path : String)
    (searched : Option String) :
    OutcomesAgree Eq (Option.Rel Agree) (load files path searched)
      (load others path searched) := by
  unfold load
  simp only [filePath_eq h, h.exists?_eq]
  split
  · exact (readFile_agree h hcontents _).map fun _ _ => .some
  · exact .ok .none

theorem save_agree (settings : Settings) (path : String) :
    FileSystem.LeaveAgree place first second (settings.save files path)
      (settings.save others path) := by
  unfold save
  rcases h.write_agree path ByteArray.empty |>.error_or_ok with ⟨_, _, hfiles, hothers, rfl⟩ |
    ⟨made, made', hfiles, hothers, hmade⟩
  · rw [hfiles, hothers]
    exact ⟨h, rfl⟩
  · rw [hfiles, hothers]
    cases settings.print with
    | error fault => exact ⟨hmade, rfl⟩
    | ok text =>
        rcases hmade.write_agree path text.toUTF8 |>.error_or_ok with ⟨_, _, hleft, hright, rfl⟩ |
          ⟨_, _, hleft, hright, hwritten⟩
        · simp only [hleft, hright]
          exact ⟨hmade, rfl⟩
        · simp only [hleft, hright]
          exact ⟨hwritten, rfl⟩

end Files

/-- What is saved is read again. -/
theorem read_of_save {settings : Settings} {path : String} {saved : FileSystem}
    (h : settings.save files path = (saved, .ok ())) :
    ∃ text, settings.print = .ok text ∧ saved.read path = .ok text.toUTF8 := by
  unfold save at h
  split at h
  · cases h
  · split at h
    · cases h
    · next made _ text hprint =>
        split at h
        · cases h
        · next written hwritten =>
            obtain ⟨rfl, -⟩ := Prod.mk.inj h
            obtain ⟨target, hwrites⟩ := FileSystem.writes_of_write hwritten
            exact ⟨text, hprint, FileSystem.read_of_target? hwrites.leads hwrites.written⟩

end Settings

end CatalogClient
