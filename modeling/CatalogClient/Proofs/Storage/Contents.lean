/-
# File systems that differ in one file

Two file systems are the same but for the content of one file. Whatever follows path texts, makes
directories or writes files takes no notice of contents, so it does the same in both and fails in
the same way; and where it writes the one file, the difference is gone. Only the reading of that
file tells them apart.
-/

import CatalogClient.Proofs.SideBySide
import CatalogClient.Proofs.Storage.FileSystem

namespace CatalogClient

/-- Two contents that are the same, or that are the two contents of one file. -/
def ContentsAgree (first second content other : ByteArray) : Prop :=
  other = content ∨ content = first ∧ other = second

/-- Two directories, or two files whose contents agree. -/
inductive NodesAgree (first second : ByteArray) : FileNode → FileNode → Prop
  | directory : NodesAgree first second .directory .directory
  | file {content other : ByteArray} (h : ContentsAgree first second content other) :
      NodesAgree first second (.file content) (.file other)

theorem NodesAgree.refl (first second : ByteArray) (node : FileNode) :
    NodesAgree first second node node := by
  cases node with
  | directory => exact .directory
  | file content => exact .file (Or.inl rfl)

namespace FileSystem

/-- Two file systems in which the same stands at every path, but for one file that has one content
here and another one there. -/
structure DifferAt (place : List String) (first second : ByteArray) (files others : FileSystem) :
    Prop where
  working : others.working = files.working
  nodes : ∀ path, others.node? path = files.node? path ∨
    path = place ∧ files.node? path = some (.file first) ∧ others.node? path = some (.file second)

variable {place : List String} {first second : ByteArray} {files others : FileSystem}

namespace DifferAt

theorem refl (files : FileSystem) : DifferAt place first second files files :=
  ⟨rfl, fun _ => Or.inl rfl⟩

theorem node?_cases (h : DifferAt place first second files others) (path : List String) :
    files.node? path = none ∧ others.node? path = none ∨
      ∃ node other, files.node? path = some node ∧ others.node? path = some other ∧
        NodesAgree first second node other := by
  rcases h.nodes path with hsame | ⟨-, hfile, hother⟩
  · cases hnode : files.node? path with
    | none => exact Or.inl ⟨rfl, hsame.trans hnode⟩
    | some node => exact Or.inr ⟨node, node, rfl, hsame.trans hnode, .refl first second node⟩
  · exact Or.inr ⟨_, _, hfile, hother, .file (Or.inr ⟨rfl, rfl⟩)⟩

theorem isSome_node? (h : DifferAt place first second files others) (path : List String) :
    (others.node? path).isSome = (files.node? path).isSome := by
  rcases h.node?_cases path with ⟨hnone, hnone'⟩ | ⟨_, _, hnode, hother, -⟩
  · rw [hnone, hnone']
  · rw [hnode, hother]
    rfl

theorem enter_eq (h : DifferAt place first second files others) (path : List String)
    (name : String) : others.enter path name = files.enter path name := by
  unfold enter
  rw [h.isSome_node?]
  rcases h.node?_cases path with ⟨hnone, hnone'⟩ | ⟨_, _, hnode, hother, hagree⟩
  · rw [hnone, hnone']
  · rw [hnode, hother]
    cases hagree with
    | directory => rfl
    | file _ => rfl

theorem walk_eq (h : DifferAt place first second files others) (path names : List String) :
    others.walk path names = files.walk path names := by
  induction names generalizing path with
  | nil => rfl
  | cons name rest ih =>
      rw [walk, walk, h.enter_eq]
      cases files.enter path name with
      | error error => rfl
      | ok next => exact ih next

theorem origin_eq (h : DifferAt place first second files others) (text : String) :
    others.origin text = files.origin text := by
  rw [origin, origin, h.working]

/-- Path texts lead to the same places. -/
theorem find_agree (h : DifferAt place first second files others) (text : String) :
    OutcomesAgree Eq
      (fun found other => other.1 = found.1 ∧ NodesAgree first second found.2 other.2)
      (files.find text) (others.find text) := by
  unfold find
  rw [h.origin_eq, h.walk_eq]
  cases refusal? text with
  | some error => exact .error rfl
  | none =>
      cases files.walk (files.origin text) (PathText.names text) with
      | error error => exact .error rfl
      | ok path =>
          rcases h.node?_cases path with ⟨hnone, hnone'⟩ | ⟨_, _, hnode, hother, hagree⟩
          · simp only [hnone, hnone']
            exact .error rfl
          · simp only [hnode, hother]
            cases hagree with
            | directory => exact .ok ⟨rfl, .directory⟩
            | file hcontents =>
                simp only
                split
                · exact .error rfl
                · exact .ok ⟨rfl, .file hcontents⟩

theorem exists?_eq (h : DifferAt place first second files others) (text : String) :
    others.exists? text = files.exists? text := by
  unfold exists?
  rcases h.find_agree text |>.error_or_ok with ⟨_, _, hfiles, hothers, -⟩ |
    ⟨_, _, hfiles, hothers, -⟩
  · rw [hfiles, hothers]
  · rw [hfiles, hothers]

theorem isDirectory_eq (h : DifferAt place first second files others) (text : String) :
    others.isDirectory text = files.isDirectory text := by
  unfold isDirectory
  rcases h.find_agree text |>.error_or_ok with ⟨_, _, hfiles, hothers, -⟩ |
    ⟨⟨path, node⟩, ⟨path', node'⟩, hfiles, hothers, -, hagree⟩
  · rw [hfiles, hothers]
  · rw [hfiles, hothers]
    cases hagree with
    | directory => rfl
    | file _ => rfl

theorem read_agree (h : DifferAt place first second files others) (text : String) :
    OutcomesAgree Eq (ContentsAgree first second) (files.read text) (others.read text) := by
  unfold read
  rcases h.find_agree text |>.error_or_ok with ⟨_, _, hfiles, hothers, rfl⟩ |
    ⟨⟨path, node⟩, ⟨path', node'⟩, hfiles, hothers, -, hagree⟩
  · rw [hfiles, hothers]
    exact .error rfl
  · rw [hfiles, hothers]
    cases hagree with
    | directory => exact .error rfl
    | file hcontents => exact .ok hcontents

theorem place_eq (h : DifferAt place first second files others) (text : String) :
    others.place text = files.place text := by
  unfold FileSystem.place
  rw [h.origin_eq]
  simp only [h.walk_eq]
  cases refusal? text with
  | some error => rfl
  | none =>
      cases files.walk (files.origin text) (PathText.names text).dropLast with
      | error error => rfl
      | ok path =>
          rcases h.node?_cases path with ⟨hnone, hnone'⟩ | ⟨_, _, hnode, hother, hagree⟩
          · simp only [hnone, hnone']
          · simp only [hnode, hother]
            cases hagree with
            | directory => rfl
            | file _ => rfl

/-- The same put at the same path leaves no new difference. -/
theorem put (h : DifferAt place first second files others) {path : List String}
    (hpath : path ≠ []) (node : FileNode) :
    DifferAt place first second (files.put path node) (others.put path node) where
  working := by rw [working_put, working_put, h.working]
  nodes other := by
    rw [node?_put files hpath, node?_put others hpath]
    by_cases hother : other = path
    · rw [if_pos hother, if_pos hother]
      exact Or.inl rfl
    · rw [if_neg hother, if_neg hother]
      exact h.nodes other

theorem makeDirectory_agree (h : DifferAt place first second files others) (text : String) :
    OutcomesAgree Eq (DifferAt place first second) (files.makeDirectory text)
      (others.makeDirectory text) := by
  unfold makeDirectory
  rw [h.place_eq]
  cases files.place text with
  | error error => exact .error rfl
  | ok found =>
      obtain ⟨path, name?⟩ := found
      cases name? with
      | none => exact .error rfl
      | some name =>
          simp only [h.isSome_node?]
          split
          · exact .error rfl
          · split
            · exact .error rfl
            · exact .ok (h.put (List.append_ne_nil_of_right_ne_nil _ (List.cons_ne_nil _ _)) _)

theorem write_agree (h : DifferAt place first second files others) (text : String)
    (content : ByteArray) :
    OutcomesAgree Eq (DifferAt place first second) (files.write text content)
      (others.write text content) := by
  unfold write
  rw [h.place_eq]
  cases files.place text with
  | error error => exact .error rfl
  | ok found =>
      obtain ⟨path, name?⟩ := found
      cases name? with
      | none => exact .error rfl
      | some name =>
          have hput := h.put (List.append_ne_nil_of_right_ne_nil path (List.cons_ne_nil name []))
            (.file content)
          simp only
          split
          · exact .error rfl
          · split
            · exact .error rfl
            · rcases h.node?_cases (path ++ [name]) with ⟨hnone, hnone'⟩ |
                ⟨_, _, hnode, hother, hagree⟩
              · simp only [hnone, hnone']
                exact .ok hput
              · simp only [hnode, hother]
                cases hagree with
                | directory => exact .error rfl
                | file _ => exact .ok hput

end DifferAt

/-- What two operations leave and answer: file systems that differ in the one file, and the same
outcome. -/
def LeaveAgree {ε α : Type} (place : List String) (first second : ByteArray)
    (left right : FileSystem × Except ε α) : Prop :=
  DifferAt place first second left.1 right.1 ∧ left.2 = right.2

/-- Either both fail in the same way, or both go well. -/
theorem LeaveAgree.error_or_ok {ε α : Type} {left right : FileSystem × Except ε α}
    (h : LeaveAgree place first second left right) :
    (∃ made made' fault, left = (made, .error fault) ∧ right = (made', .error fault) ∧
        DifferAt place first second made made') ∨
      ∃ made made' value, left = (made, .ok value) ∧ right = (made', .ok value) ∧
        DifferAt place first second made made' := by
  obtain ⟨made, outcome⟩ := left
  obtain ⟨made', outcome'⟩ := right
  obtain ⟨hdiffer, hsame⟩ := h
  simp only at hsame
  subst hsame
  cases outcome with
  | error fault => exact Or.inl ⟨made, made', fault, rfl, rfl, hdiffer⟩
  | ok value => exact Or.inr ⟨made, made', value, rfl, rfl, hdiffer⟩

namespace DifferAt

theorem makeLast_agree (h : DifferAt place first second files others) (text : String) :
    LeaveAgree place first second (files.makeLast text) (others.makeLast text) := by
  unfold makeLast
  rw [h.isDirectory_eq]
  rcases h.makeDirectory_agree text |>.error_or_ok with ⟨_, _, hfiles, hothers, rfl⟩ |
    ⟨_, _, hfiles, hothers, hmade⟩
  · rw [hfiles, hothers]
    simp only
    split
    · exact ⟨h, rfl⟩
    · exact ⟨h, rfl⟩
  · rw [hfiles, hothers]
    exact ⟨hmade, rfl⟩

theorem makeBelow_agree (tail text : String) {left right : FileSystem × Except FileFault Unit}
    (h : LeaveAgree place first second left right) :
    LeaveAgree place first second (makeBelow tail text left) (makeBelow tail text right) := by
  unfold makeBelow
  rcases h.error_or_ok with ⟨_, _, fault, rfl, rfl, hdiffer⟩ | ⟨_, _, done, rfl, rfl, hdiffer⟩
  · simp only
    split
    · exact ⟨hdiffer, rfl⟩
    · split
      · exact ⟨hdiffer, rfl⟩
      · exact hdiffer.makeLast_agree text
  · simp only
    split
    · exact ⟨hdiffer, rfl⟩
    · exact hdiffer.makeLast_agree text

theorem makeDirectories_agree (h : DifferAt place first second files others) (text : String) :
    LeaveAgree place first second (files.makeDirectories text) (others.makeDirectories text) := by
  fun_induction makeDirectories files text with
  | case1 text head tail hdeeper ih =>
      rw [makeDirectories.eq_def others]
      rw [dif_pos ⟨hdeeper.1, hdeeper.2.1, (h.exists?_eq head).trans hdeeper.2.2⟩]
      exact makeBelow_agree tail text ih
  | case2 text head tail hlast =>
      rw [makeDirectories.eq_def others]
      rw [dif_neg fun hdeeper => hlast ⟨hdeeper.1, hdeeper.2.1,
        (h.exists?_eq head).symm.trans hdeeper.2.2⟩]
      exact h.makeLast_agree text

theorem writeWithin_agree (h : DifferAt place first second files others) (path : String)
    (content : ByteArray) :
    LeaveAgree place first second (files.writeWithin path content)
      (others.writeWithin path content) := by
  unfold writeWithin
  simp only
  generalize (if PathText.directory path = "" then "." else PathText.directory path) = target
  rcases h.makeDirectories_agree target |>.error_or_ok with
    ⟨_, _, fault, hfiles, hothers, hmade⟩ | ⟨made, made', done, hfiles, hothers, hmade⟩
  · simp only [hfiles, hothers]
    exact ⟨hmade, rfl⟩
  · simp only [hfiles, hothers]
    rcases hmade.write_agree path content |>.error_or_ok with ⟨_, _, hleft, hright, rfl⟩ |
      ⟨_, _, hleft, hright, hwritten⟩
    · simp only [hleft, hright]
      exact ⟨hmade, rfl⟩
    · simp only [hleft, hright]
      exact ⟨hwritten, rfl⟩

theorem writeAll_agree (h : DifferAt place first second files others)
    (entries : List (String × String)) :
    LeaveAgree place first second (files.writeAll entries) (others.writeAll entries) := by
  induction entries generalizing files others with
  | nil => exact ⟨h, rfl⟩
  | cons entry rest ih =>
      obtain ⟨path, text⟩ := entry
      unfold writeAll
      rcases h.writeWithin_agree path text.toUTF8 |>.error_or_ok with
        ⟨_, _, fault, hfiles, hothers, hmade⟩ | ⟨_, _, done, hfiles, hothers, hmade⟩
      · rw [hfiles, hothers]
        exact ⟨hmade, rfl⟩
      · rw [hfiles, hothers]
        exact ih hmade

end DifferAt

end FileSystem

/-- A project is saved in the same way in both. -/
theorem Project.save_agree {place : List String} {first second : ByteArray}
    {files others : FileSystem} (h : FileSystem.DifferAt place first second files others)
    (project : Project) (target : String) :
    FileSystem.LeaveAgree place first second (project.save target files)
      (project.save target others) :=
  h.writeAll_agree _

end CatalogClient
