/-
# Where path texts lead

Nothing in a file system leads elsewhere than its names say, so a path text has one location,
whatever stands there. A writing changes nothing but the locations of its path texts and the places
on the way to them.
-/

import CatalogClient.Proofs.Storage.FileSystem
import CatalogClient.Proofs.Storage.PathText
import CatalogClient.Storage.Save

namespace CatalogClient

namespace FileSystem

variable {files next ended : FileSystem} {place : List String} {text : String}

/-- The place that a path text leads to, whatever stands there and on the way. -/
def locate (files : FileSystem) (text : String) : List String :=
  PathText.follow (files.origin text) (PathText.names text)

/-- Whether a path text leads over a place. -/
def OnTheWay (files : FileSystem) (text : String) (place : List String) : Prop :=
  ∃ names, names <+: PathText.names text ∧ place = PathText.follow (files.origin text) names

/-- Names that lead somewhere lead to their location. -/
theorem follow_of_walk {start names : List String} (h : files.walk start names = .ok place) :
    place = PathText.follow start names := by
  induction names generalizing start with
  | nil => exact (Except.ok.inj h).symm
  | cons name rest ih =>
      unfold walk at h
      cases henter : files.enter start name with
      | error error =>
          rw [henter] at h
          cases h
      | ok inner =>
          rw [henter] at h
          have hstep : inner = PathText.step start name := by
            unfold PathText.step
            obtain ⟨-, hlast⟩ := enter_eq_ok_iff.mp henter
            rcases hlast with ⟨hdot, hlast⟩ | ⟨hdot, hup, hlast⟩ | ⟨hdot, hup, -, -, hlast⟩
            · rw [if_pos hdot, hlast]
            · rw [if_neg hdot, if_pos hup, hlast]
            · rw [if_neg hdot, if_neg hup, hlast]
          rw [ih h, hstep]
          rfl

/-- A new entry stands at the location of its path text. -/
theorem locate_of_place {path : List String} {name : String}
    (h : files.place text = .ok (path, some name)) : path ++ [name] = files.locate text := by
  obtain ⟨-, hwalk, -, hlast, hdot, hup⟩ := place_eq_ok_iff.mp h
  obtain ⟨before, hnames⟩ := List.getLast?_eq_some_iff.mp hlast
  rw [hnames, List.dropLast_concat] at hwalk
  rw [locate, hnames, PathText.follow_append, ← follow_of_walk hwalk]
  exact (show PathText.step path name = path ++ [name] by
    rw [PathText.step, if_neg hdot, if_neg hup]).symm

theorem locate_of_target? {target : List String} (h : files.target? text = some target) :
    target = files.locate text := by
  obtain ⟨path, name, rfl, hplace, -⟩ := target?_eq_some_iff.mp h
  exact locate_of_place hplace

theorem origin_of_working (h : next.working = files.working) (text : String) :
    next.origin text = files.origin text := by
  rw [origin, origin, h]

theorem locate_of_working (h : next.working = files.working) (text : String) :
    next.locate text = files.locate text := by
  rw [locate, locate, origin_of_working h]

theorem OnTheWay.of_working (h : next.working = files.working)
    (hway : next.OnTheWay text place) : files.OnTheWay text place := by
  rw [OnTheWay, origin_of_working h] at hway
  exact hway

theorem onTheWay_locate (files : FileSystem) (text : String) :
    files.OnTheWay text (files.locate text) :=
  ⟨PathText.names text, List.prefix_refl _, rfl⟩

/-- A path text leads over all places that another one leads over, if it starts there and goes on.
-/
theorem OnTheWay.of_names {shorter : String} (h : files.OnTheWay shorter place)
    (hnames : PathText.names shorter <+: PathText.names text)
    (hstart : PathText.isAbsolute shorter = PathText.isAbsolute text) :
    files.OnTheWay text place := by
  obtain ⟨names, hbefore, rfl⟩ := h
  refine ⟨names, hbefore.trans hnames, ?_⟩
  rw [origin, origin, hstart]

section Joined

variable {directory name : String}

theorem origin_join (files : FileSystem) (h : PathText.isAbsolute name = false) :
    files.origin (PathText.join directory name) = files.origin directory := by
  rw [origin, origin, (PathText.names_join directory h).2]

/-- A name that starts at the root leads there, and any other one goes on from its directory. -/
theorem locate_join (files : FileSystem) (directory name : String) :
    files.locate (PathText.join directory name) =
      PathText.follow (if PathText.isAbsolute name then [] else files.locate directory)
        (PathText.names name) := by
  cases habsolute : PathText.isAbsolute name with
  | true =>
      rw [PathText.join_of_isAbsolute directory habsolute, locate, origin, habsolute]
      rfl
  | false =>
      rw [locate, origin_join files habsolute, (PathText.names_join directory habsolute).1,
        PathText.follow_append]
      rfl

/-- A name without slashes that is none of the two dot names is an entry of its directory. -/
theorem locate_join_of_not_mem (files : FileSystem) (directory : String) (hname : name ≠ "")
    (hslash : '/' ∉ name.toList) (hdot : name ≠ ".") (hup : name ≠ "..") :
    files.locate (PathText.join directory name) = files.locate directory ++ [name] := by
  rw [locate_join, PathText.isAbsolute_of_not_mem hslash, PathText.names_of_not_mem hname hslash]
  show PathText.step (files.locate directory) name = files.locate directory ++ [name]
  rw [PathText.step, if_neg hdot, if_neg hup]

/-- A name that neither starts at the root nor steps up stays inside its directory. -/
theorem prefix_locate_join (files : FileSystem) (directory : String)
    (hrelative : PathText.isAbsolute name = false) (hup : ".." ∉ PathText.names name) :
    files.locate directory <+: files.locate (PathText.join directory name) := by
  rw [locate_join, hrelative]
  exact PathText.prefix_follow hup

/-- The way to a place inside a directory leads to the directory first. -/
theorem OnTheWay.of_join (h : files.OnTheWay (PathText.join directory name) place)
    (hrelative : PathText.isAbsolute name = false) (hup : ".." ∉ PathText.names name) :
    files.OnTheWay directory place ∨ files.locate directory <+: place := by
  obtain ⟨way, hway, rfl⟩ := h
  rw [origin_join files hrelative]
  rw [(PathText.names_join directory hrelative).1] at hway
  rcases List.prefix_or_prefix_of_prefix hway (List.prefix_append _ _) with hbefore | hbeyond
  · exact Or.inl ⟨way, hbefore, rfl⟩
  · obtain ⟨rest, rfl⟩ := hbeyond
    rw [List.prefix_append_right_inj] at hway
    rw [PathText.follow_append]
    exact Or.inr (PathText.prefix_follow fun hmem => hup (hway.subset hmem))

end Joined

/-- The path text of the directory that is made before a file is written. -/
def enclosing (text : String) : String :=
  if PathText.directory text = "" then "." else PathText.directory text

theorem writeWithin_eq (files : FileSystem) (path : String) (content : ByteArray) :
    files.writeWithin path content =
      match files.makeDirectories (enclosing path) with
      | (made, .error fault) => (made, .error fault)
      | (made, .ok ()) =>
          match made.write path content with
          | .error fault => (made, .error fault)
          | .ok written => (written, .ok ()) :=
  rfl

/-- The way to the directory of a file is part of the way to the file. -/
theorem OnTheWay.of_enclosing (h : files.OnTheWay (enclosing text) place) :
    files.OnTheWay text place := by
  unfold enclosing at h
  split at h
  · next hempty =>
      have hstart := PathText.isAbsolute_of_directory_eq hempty
      obtain ⟨names, hnames, rfl⟩ := h
      refine ⟨[], List.nil_prefix, ?_⟩
      rw [origin, origin, hstart]
      exact PathText.follow_of_prefix_dot hnames
  · next hnonempty =>
      obtain ⟨hnames, hstart⟩ := PathText.names_directory text
      exact h.of_names hnames (hstart hnonempty)

section Changes

/-- What may have become of a place: it is as it was, a directory was made there on the way to one
of some path texts, or the content of one of them was written to its location. -/
inductive Became (files : FileSystem) (entries : List (String × ByteArray)) (place : List String) :
    Option FileNode → Prop
  | kept : Became files entries place (files.node? place)
  | made {entry : String × ByteArray} : entry ∈ entries → files.OnTheWay entry.1 place →
      files.node? place = none → Became files entries place (some .directory)
  | written {entry : String × ByteArray} : entry ∈ entries → place = files.locate entry.1 →
      Became files entries place (some (.file entry.2))

/-- What becomes of a place in two steps is what may become of it at once. -/
theorem Became.trans {middle : FileSystem} {entries others all : List (String × ByteArray)}
    {node : Option FileNode} (hworking : middle.working = files.working)
    (hfirst : files.Became entries place (middle.node? place))
    (hnext : middle.Became others place node)
    (hentries : entries ⊆ all) (hothers : others ⊆ all) : files.Became all place node := by
  cases hnext with
  | kept =>
      generalize middle.node? place = node at hfirst
      cases hfirst with
      | kept => exact .kept
      | made hentry hway hnone => exact .made (hentries hentry) hway hnone
      | written hentry hplace => exact .written (hentries hentry) hplace
  | made hentry hway hnone =>
      rw [hnone] at hfirst
      generalize hnode : (none : Option FileNode) = node at hfirst
      cases hfirst with
      | kept => exact .made (hothers hentry) (hway.of_working hworking) hnode.symm
      | made => cases hnode
      | written => cases hnode
  | written hentry hplace =>
      rw [locate_of_working hworking] at hplace
      exact .written (hothers hentry) hplace

/-- Whatever is new stands on the way to a path text, and is a directory. -/
def NewOnTheWay (files made : FileSystem) (text : String) : Prop :=
  ∀ place node, made.node? place = some node →
    files.node? place = some node ∨ node = .directory ∧ files.OnTheWay text place

theorem newOnTheWay_makeDirectory {made : FileSystem} (h : files.makeDirectory text = .ok made) :
    NewOnTheWay files made text := by
  unfold makeDirectory at h
  split at h
  · cases h
  · cases h
  · next path name hplace =>
      split at h
      · cases h
      · split at h
        · cases h
        · obtain rfl := Except.ok.inj h
          have hpath : path ++ [name] ≠ [] :=
            List.append_ne_nil_of_right_ne_nil _ (List.cons_ne_nil name [])
          intro place node hnode
          rw [node?_put files hpath] at hnode
          split at hnode
          · next hplaced =>
              rw [hplaced, locate_of_place hplace]
              exact Or.inr ⟨(Option.some.inj hnode).symm, onTheWay_locate files text⟩
          · exact Or.inl hnode

theorem newOnTheWay_makeLast (files : FileSystem) (text : String) :
    NewOnTheWay files (files.makeLast text).1 text := by
  unfold makeLast
  split
  · next made hmade => exact newOnTheWay_makeDirectory hmade
  · split
    · exact fun _ _ hnode => Or.inl hnode
    · exact fun _ _ hnode => Or.inl hnode

theorem newOnTheWay_makeBelow {above : FileSystem × Except FileFault Unit} (tail : String)
    (hworking : above.1.working = files.working) (h : NewOnTheWay files above.1 text) :
    NewOnTheWay files (makeBelow tail text above).1 text := by
  have hlast : NewOnTheWay files (above.1.makeLast text).1 text := by
    intro place node hnode
    rcases newOnTheWay_makeLast above.1 text place node hnode with hkept | ⟨hnode, hway⟩
    · exact h place node hkept
    · exact Or.inr ⟨hnode, hway.of_working hworking⟩
  unfold makeBelow
  split
  · split
    · exact h
    · split
      · exact h
      · exact hlast
  · split
    · exact h
    · exact hlast

/-- To make directories adds none elsewhere than on the way. -/
theorem newOnTheWay_makeDirectories (files : FileSystem) (text : String) :
    NewOnTheWay files (files.makeDirectories text).1 text := by
  fun_induction makeDirectories files text with
  | case1 text head tail hdeeper ih =>
      obtain ⟨-, hhead, -⟩ := hdeeper
      obtain ⟨hnames, hstart⟩ := PathText.names_parts text
      apply newOnTheWay_makeBelow tail (adds_makeDirectories files head).working
      exact fun place node hnode =>
        (ih place node hnode).imp_right (And.imp_right fun hway =>
          hway.of_names hnames (hstart hhead))
  | case2 text head tail hlast => exact newOnTheWay_makeLast files text

theorem became_of_makeDirectories (files : FileSystem) (entry : String × ByteArray)
    (place : List String) :
    files.Became [entry] place ((files.makeDirectories (enclosing entry.1)).1.node? place) := by
  have hadds := adds_makeDirectories files (enclosing entry.1)
  have hnew := newOnTheWay_makeDirectories files (enclosing entry.1)
  generalize (files.makeDirectories (enclosing entry.1)).1 = made at hadds hnew
  cases hbefore : files.node? place with
  | some node =>
      rw [hadds.kept place node hbefore, ← hbefore]
      exact .kept
  | none =>
      cases hafter : made.node? place with
      | none =>
          rw [← hbefore]
          exact .kept
      | some node =>
          rcases hnew place node hafter with hkept | ⟨rfl, hway⟩
          · rw [hbefore] at hkept
            cases hkept
          · exact .made List.mem_cons_self hway.of_enclosing hbefore

theorem became_of_write {path : String} {content : ByteArray}
    (h : files.write path content = .ok next) (place : List String) :
    files.Became [(path, content)] place (next.node? place) := by
  obtain ⟨target, htarget, -, rfl⟩ := write_eq_ok_iff.mp h
  have hlocated := locate_of_target? htarget
  obtain ⟨parent, name, rfl, -⟩ := target?_eq_some_iff.mp htarget
  rw [node?_put files (List.append_ne_nil_of_right_ne_nil _ (List.cons_ne_nil name []))]
  split
  · next hplace => exact .written List.mem_cons_self (hplace.trans hlocated)
  · exact .kept

/-- Every place becomes what it may, and the working directory stays. -/
structure Confined (files ended : FileSystem) (entries : List (String × ByteArray)) : Prop where
  working : ended.working = files.working
  became : ∀ place, files.Became entries place (ended.node? place)

theorem Confined.trans {middle : FileSystem} {entries others all : List (String × ByteArray)}
    (hfirst : Confined files middle entries) (hnext : Confined middle ended others)
    (hentries : entries ⊆ all) (hothers : others ⊆ all) : Confined files ended all where
  working := hnext.working.trans hfirst.working
  became place :=
    (hfirst.became place).trans hfirst.working (hnext.became place) hentries hothers

/-- To write a file changes nothing but its location and the way there, also where it fails. -/
theorem confined_writeWithin (files : FileSystem) (path : String) (content : ByteArray) :
    Confined files (files.writeWithin path content).1 [(path, content)] := by
  have hmade : Confined files (files.makeDirectories (enclosing path)).1 [(path, content)] :=
    ⟨(adds_makeDirectories files (enclosing path)).working,
      became_of_makeDirectories files (path, content)⟩
  rw [writeWithin_eq]
  rcases houtcome : files.makeDirectories (enclosing path) with ⟨made, fault | done⟩
  · rw [houtcome] at hmade
    exact hmade
  · rw [houtcome] at hmade
    cases hwrite : made.write path content with
    | error fault =>
        simp only [hwrite]
        exact hmade
    | ok written =>
        simp only [hwrite]
        obtain ⟨target, -, -, hput⟩ := write_eq_ok_iff.mp hwrite
        have hwritten : Confined made written [(path, content)] :=
          ⟨by rw [hput, working_put], became_of_write hwrite⟩
        exact hmade.trans hwritten (List.Subset.refl _) (List.Subset.refl _)

/-- To write texts changes nothing but their locations and the ways there, also where it ends early.
-/
theorem confined_writeAll (files : FileSystem) (entries : List (String × String)) :
    Confined files (files.writeAll entries).1
      (entries.map fun entry => (entry.1, entry.2.toUTF8)) := by
  induction entries generalizing files with
  | nil => exact ⟨rfl, fun _ => .kept⟩
  | cons entry rest ih =>
      obtain ⟨path, text⟩ := entry
      have hfirst := confined_writeWithin files path text.toUTF8
      rw [List.map_cons]
      unfold writeAll
      rcases houtcome : files.writeWithin path text.toUTF8 with ⟨written, fault | done⟩
      · rw [houtcome] at hfirst
        exact hfirst.trans ⟨rfl, fun _ => .kept⟩ (List.cons_subset_cons _ (List.nil_subset _))
          (List.nil_subset _)
      · rw [houtcome] at hfirst
        exact hfirst.trans (ih written) (List.cons_subset_cons _ (List.nil_subset _))
          (List.subset_cons_self _ _)

end Changes

end FileSystem

end CatalogClient
