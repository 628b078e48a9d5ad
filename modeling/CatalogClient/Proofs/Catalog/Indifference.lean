/-
# Loading beside a file that makes no difference

A catalog is read from a file, and its references may name files. So the content of one file may
have a part in what is loaded. But where two contents are no documents, and are refused in the same
words, it makes no difference which of them the file holds: the same catalog is loaded, or the
loading fails in the same words. The documents that are gathered are the same, and so every
reference is located in the same way, by induction on the references that are not being resolved
yet.
-/

import CatalogClient.Proofs.Catalog.Loading
import CatalogClient.Proofs.Json.Inlining
import CatalogClient.Proofs.Json.Signs
import CatalogClient.Proofs.Storage.Contents

namespace CatalogClient

/-- The document that a content of a file is for a catalog at a path. -/
def CatalogSource.readContent (machine : Machine) (path : String) (content : ByteArray) :
    Except LoadFault Json :=
  match Text.ofBytes? content with
  | none => .error .undecodable
  | some text => (Json.read machine.nesting text).mapError (.ofRead (.unreadable path) text)

/-- Two problems in the same words. -/
def NameProblem.Agree (problem other : NameProblem) : Prop :=
  problem.message = other.message

theorem NameProblem.Agree.refl (problem : NameProblem) : problem.Agree problem :=
  rfl

/-- Two faults that are the same, or that say that the same reference is broken in the same words.
-/
inductive ReferenceFault.Agree : ReferenceFault → ReferenceFault → Prop
  | same (fault : ReferenceFault) : Agree fault fault
  | broken (reference : String) {problem other : NameProblem} (h : problem.Agree other) :
      Agree (.broken reference (.document problem)) (.broken reference (.document other))

/-- Two contents of a file that are the same document, or that are no documents for reasons in the
same words, both where the file is loaded and where a reference names it. -/
structure SameDocument (machine : Machine) (first second : ByteArray) : Prop where
  loaded : ∀ path, OutcomesAgree (SameWords LoadFault.message?) Eq
    (CatalogSource.readContent machine path first) (CatalogSource.readContent machine path second)
  named : OutcomesAgree NameProblem.Agree Eq
    (Json.ofUtf8 machine (first.data.toList.map UInt8.toNat))
    (Json.ofUtf8 machine (second.data.toList.map UInt8.toNat))

variable {machine : Machine}

theorem SameDocument.refl (content : ByteArray) : SameDocument machine content content where
  loaded _ := .refl (SameWords.refl _) (fun _ => rfl) _
  named := .refl NameProblem.Agree.refl (fun _ => rfl) _

/-- Two contents that are the same up to an equals sign are no documents for reasons in the same
words, unless a document starts in this way. -/
theorem SameDocument.of_partAtSign {first second : ByteArray} {text text' raw raw' : List Char}
    (htext : Text.ofBytes? first = some text) (htext' : Text.ofBytes? second = some text')
    (hparts : Json.PartAtSign machine.nesting text text')
    (hraw : Text.decodeUtf8 (first.data.toList.map UInt8.toNat) = .ok raw)
    (hraw' : Text.decodeUtf8 (second.data.toList.map UInt8.toNat) = .ok raw')
    (hrawParts : Json.PartAtSign machine.nesting raw raw') :
    SameDocument machine first second where
  loaded path := by
    obtain ⟨fault, more, more', hread, hread', hwords⟩ := hparts.refused
    unfold CatalogSource.readContent
    simp only [htext, htext', hread, hread']
    apply OutcomesAgree.error
    cases fault with
    | malformed problem left =>
        have hsame : ReadFault.message text' (.malformed problem (left + more')) =
            ReadFault.message text (.malformed problem (left + more)) := hwords
        unfold LoadFault.ofRead ReadFault.shift
        simp only [hsame]
        exact SameWords.refl _ _
    | longInteger digits => exact SameWords.refl _ _
    | deepList => exact SameWords.refl _ _
    | deepObject => exact SameWords.refl _ _
  named := by
    obtain ⟨fault, more, more', hread, hread', hwords⟩ := hrawParts.refused
    unfold Json.ofUtf8
    simp only [hraw, hraw', hread, hread']
    apply OutcomesAgree.error
    unfold NameProblem.Agree NameProblem.message NameProblem.readMessage
    simp only [hwords]
    cases fault <;> rfl

theorem log_bind_ofExcept {ε α β : Type} (first : Logged ε α) (next : α → Except ε β) :
    (first >>= fun value => Logged.ofExcept (next value)).log = first.log := by
  cases h : first.outcome with
  | error error => rw [Logged.bind_of_error h]
  | ok value =>
      rw [Logged.bind_of_ok h]
      exact List.append_nil first.log

theorem findSome?_agree {α β : Type} {R : β → β → Prop} {f g : α → Option β}
    (h : ∀ entry, Option.Rel R (f entry) (g entry)) (entries : List α) :
    Option.Rel R (entries.findSome? f) (entries.findSome? g) := by
  induction entries with
  | nil => exact .none
  | cons entry rest ih =>
      rw [List.findSome?_cons, List.findSome?_cons]
      have hentry := h entry
      generalize f entry = found at hentry
      generalize g entry = other at hentry
      cases hentry with
      | none => exact ih
      | some hfound => exact .some hfound

variable {place : List String} {first second : ByteArray} {files others : FileSystem}

namespace Json

theorem namesAgree_refl (outcome : Except NameProblem Json) :
    OutcomesAgree NameProblem.Agree Eq outcome outcome :=
  .refl NameProblem.Agree.refl (fun _ => rfl) outcome

section Naming

variable (hdocument : SameDocument machine first second)
  (h : FileSystem.DifferAt place first second files others)
include hdocument h

theorem ofFile_agree (name : List Char) :
    OutcomesAgree NameProblem.Agree Eq (ofFile ⟨files, machine⟩ name)
      (ofFile ⟨others, machine⟩ name) := by
  unfold ofFile
  simp only
  split
  · exact .error rfl
  · rcases h.find_agree (String.ofList (Text.percentDecode (splitHost name).2)) |>.error_or_ok with
      ⟨_, _, hfiles, hothers, rfl⟩ | ⟨⟨_, node⟩, ⟨_, node'⟩, hfiles, hothers, -, hagree⟩
    · rw [hfiles, hothers]
      exact .error rfl
    · rw [hfiles, hothers]
      cases hostProblem? (Text.percentDecode (splitHost name).1) with
      | some problem => exact .error rfl
      | none =>
          cases hagree with
          | directory => exact .error rfl
          | file hcontents =>
              rcases hcontents with rfl | ⟨rfl, rfl⟩
              · exact namesAgree_refl (ofUtf8 machine _)
              · exact hdocument.named

theorem ofName_agree (name : List Char) :
    OutcomesAgree NameProblem.Agree Eq (ofName ⟨files, machine⟩ name)
      (ofName ⟨others, machine⟩ name) := by
  unfold ofName
  simp only
  split
  · exact namesAgree_refl _
  · split
    · exact namesAgree_refl _
    · split
      · exact ofFile_agree hdocument h _
      · exact namesAgree_refl _

theorem nestedFault?_agree (base text : String) :
    Option.Rel ReferenceFault.Agree (nestedFault? ⟨files, machine⟩ base text)
      (nestedFault? ⟨others, machine⟩ base text) := by
  unfold nestedFault?
  cases Reference.within? base.toList text.toList with
  | none => exact .some (.same _)
  | some reference =>
      rcases ofName_agree hdocument h reference.document |>.error_or_ok with
        ⟨_, _, hfiles, hothers, hproblem⟩ | ⟨_, _, hfiles, hothers, -⟩
      · simp only [hfiles, hothers]
        exact .some (.broken text hproblem)
      · simp only [hfiles, hothers]
        exact .none

theorem earlyFault?_agree (base : String) (document : Json) :
    Option.Rel ReferenceFault.Agree (earlyFault? ⟨files, machine⟩ base document)
      (earlyFault? ⟨others, machine⟩ base document) := by
  unfold earlyFault?
  split
  · exact .some (.same _)
  · exact findSome?_agree (nestedFault?_agree hdocument h base) _

/-- The same documents are gathered. -/
theorem gather_eq (room : Nat) (base : String) (known : Keyed Json) (texts : List String) :
    gather ⟨others, machine⟩ room base known texts =
      gather ⟨files, machine⟩ room base known texts := by
  induction room generalizing base known texts with
  | zero => rfl
  | succ room ih =>
      unfold gather
      congr 1
      funext known text
      cases Reference.within? base.toList text.toList with
      | none => rfl
      | some reference =>
          simp only
          cases reference.key? with
          | none => rfl
          | some key =>
              rcases ofName_agree hdocument h reference.document |>.error_or_ok with
                ⟨_, _, hfiles, hothers, -⟩ | ⟨_, _, hfiles, hothers, rfl⟩
              · simp only [hfiles, hothers]
              · simp only [hfiles, hothers, ih]

theorem library_eq (document : Json) :
    document.library ⟨others, machine⟩ = document.library ⟨files, machine⟩ := by
  unfold library
  rw [gather_eq hdocument h]

theorem topOf_agree (root : Json) (base text : String) (reference : Reference) :
    OutcomesAgree ReferenceFault.Agree Eq (topOf ⟨files, machine⟩ root base text reference)
      (topOf ⟨others, machine⟩ root base text reference) := by
  unfold topOf
  cases reference.key? with
  | none => exact .error (.same _)
  | some key =>
      simp only
      cases root.get? key with
      | none =>
          rcases ofName_agree hdocument h reference.document |>.error_or_ok with
            ⟨_, _, hfiles, hothers, hproblem⟩ | ⟨_, _, hfiles, hothers, -⟩
          · simp only [hfiles, hothers]
            exact .error (.broken text hproblem)
          · simp only [hfiles, hothers]
            exact .error (.same _)
      | some document =>
          simp only
          split
          · exact .ok rfl
          · have hearly := earlyFault?_agree hdocument h key document
            generalize earlyFault? ⟨files, machine⟩ key document = fault? at hearly
            generalize earlyFault? ⟨others, machine⟩ key document = other? at hearly
            cases hearly with
            | none => exact .ok rfl
            | some hfault => exact .error hfault

end Naming

section Locating

variable {root : Json} {links : List (Path × Place)} {above : List Path} {here : Path}
  (hlocate : ∀ path, OutcomesAgree ReferenceFault.Agree Eq
    (locate ⟨files, machine⟩ root links (here :: above) path)
    (locate ⟨others, machine⟩ root links (here :: above) path))
include hlocate

theorem settle_agree (start : Place) :
    OutcomesAgree ReferenceFault.Agree Eq (settle ⟨files, machine⟩ root links above here start)
      (settle ⟨others, machine⟩ root links above here start) := by
  cases start with
  | letter c => exact .ok rfl
  | node path =>
      unfold settle
      simp only
      split
      · exact .ok rfl
      · exact hlocate path

theorem advance_agree (text : String) (reference : Reference) (start : Place)
    (part : List Char) :
    OutcomesAgree ReferenceFault.Agree Eq
      (advance ⟨files, machine⟩ root links above here text reference start part)
      (advance ⟨others, machine⟩ root links above here text reference start part) := by
  unfold advance
  apply (settle_agree hlocate start).bind
  rintro settled _ rfl
  exact .refl .same (fun _ => rfl) _

theorem pursue_agree (hdocument : SameDocument machine first second)
    (h : FileSystem.DifferAt place first second files others) (text : String) :
    OutcomesAgree ReferenceFault.Agree Eq (pursue ⟨files, machine⟩ root links above here text)
      (pursue ⟨others, machine⟩ root links above here text) := by
  unfold pursue
  cases Reference.within? (nameOfPath here).toList text.toList with
  | none => exact .error (.same _)
  | some reference =>
      simp only
      apply (topOf_agree hdocument h root _ text reference).bind
      rintro top _ rfl
      have hwalk : OutcomesAgree ReferenceFault.Agree Eq
          ((Reference.parts reference.pointer).foldlM
            (advance ⟨files, machine⟩ root links above here text reference) (.node top))
          ((Reference.parts reference.pointer).foldlM
            (advance ⟨others, machine⟩ root links above here text reference) (.node top)) := by
        apply OutcomesAgree.foldlM _ _ rfl
        rintro start _ part rfl
        exact advance_agree hlocate text reference start part
      apply hwalk.bind
      rintro reached _ rfl
      split
      · exact .error (.same _)
      · exact settle_agree hlocate reached

end Locating

section Resolving

variable (hdocument : SameDocument machine first second)
  (h : FileSystem.DifferAt place first second files others)
include hdocument h

/-- Every path means the same place, or has the same fault. -/
theorem locate_agree (root : Json) (links : List (Path × Place)) (above : List Path)
    (here : Path) :
    OutcomesAgree ReferenceFault.Agree Eq (locate ⟨files, machine⟩ root links above here)
      (locate ⟨others, machine⟩ root links above here) := by
  induction hroom : remaining root.paths above using Nat.strongRecOn
    generalizing above here with
  | ind room ih =>
      cases hlink : links.lookup here with
      | some found =>
          rw [locate_of_link hlink, locate_of_link hlink]
          exact .ok rfl
      | none =>
          cases hfound : root.referenceAt? here with
          | none =>
              rw [locate_of_plain hlink hfound, locate_of_plain hlink hfound]
              exact .ok rfl
          | some text =>
              by_cases hmet : here ∈ above
              · rw [locate_of_met hlink hfound hmet, locate_of_met hlink hfound hmet]
                exact .error (.same _)
              by_cases hchain : machine.chain < above.length
              · rw [locate_of_chain hlink hfound hchain, locate_of_chain hlink hfound hchain]
                exact .error (.same _)
              rw [locate_of_reference hlink hfound hmet hchain,
                locate_of_reference hlink hfound hmet hchain]
              have hless : remaining root.paths (here :: above) < room := by
                obtain ⟨value, hreached, -⟩ := Option.bind_eq_some_iff.mp hfound
                rw [← hroom]
                exact remaining_lt_of_mem (List.subset_cons_self here above)
                  (mem_paths_of_at? hreached) hmet List.mem_cons_self
              exact pursue_agree (fun path => ih _ hless _ path rfl) hdocument h text

omit hdocument h in
/-- A path that is there and was not seen before is located, and its parts come next. -/
theorem linksFrom_visit {root value : Json} {level : Nat} {path : Path} {rest : List (Nat × Path)}
    {seen : List Path} {links : List (Path × Place)} (hlevel : ¬machine.descent < level)
    (hfresh : path ∉ seen) (hvalue : root.at? path = some value) :
    linksFrom ⟨files, machine⟩ root ((level, path) :: rest) seen links =
      locate ⟨files, machine⟩ root links [] path >>= fun place =>
        linksFrom ⟨files, machine⟩ root ((root.partPaths place).map (level + 1, ·) ++ rest)
          (path :: seen) (if value.reference?.isSome then links ++ [(path, place)] else links) := by
  rw [linksFrom, if_neg hlevel, dif_neg hfresh]
  split
  · next hnone => cases hvalue.symm.trans hnone
  · next found hfound =>
      obtain rfl := Option.some.inj (hvalue.symm.trans hfound)
      cases locate ⟨files, machine⟩ root links [] path <;> rfl

theorem linksFrom_agree (root : Json) (pending : List (Nat × Path)) (seen : List Path)
    (links : List (Path × Place)) :
    OutcomesAgree ReferenceFault.Agree Eq (linksFrom ⟨files, machine⟩ root pending seen links)
      (linksFrom ⟨others, machine⟩ root pending seen links) := by
  fun_induction linksFrom ⟨files, machine⟩ root pending seen links with
  | case1 seen links =>
      rw [linksFrom]
      exact .ok rfl
  | case2 seen links level path rest hlevel =>
      rw [linksFrom, if_pos hlevel]
      exact .error (.same _)
  | case3 seen links level path rest hlevel hmet ih =>
      rw [linksFrom, if_neg hlevel, dif_pos hmet]
      exact ih
  | case4 seen links level path rest hlevel hmet hnone ih =>
      rw [linksFrom, if_neg hlevel, dif_neg hmet]
      split
      · exact ih
      · next value hvalue => cases hvalue.symm.trans hnone
  | case5 seen links level path rest hlevel hmet value hvalue fault hlocate =>
      rw [linksFrom_visit hlevel hmet hvalue]
      have hagree := locate_agree hdocument h root links [] path
      rw [hlocate] at hagree
      generalize locate ⟨others, machine⟩ root links [] path = located at hagree
      cases hagree with
      | error hfault => exact .error hfault
  | case6 seen links level path rest hlevel hmet value hvalue place hlocate ih =>
      rw [linksFrom_visit hlevel hmet hvalue]
      have hagree := locate_agree hdocument h root links [] path
      rw [hlocate] at hagree
      generalize locate ⟨others, machine⟩ root links [] path = located at hagree
      cases hagree with
      | ok hplace =>
          subst hplace
          exact ih

end Resolving

end Json

section Loading

variable (hdocument : SameDocument machine first second)
  (h : FileSystem.DifferAt place first second files others)
include hdocument h

theorem Document.resolve_agree (value : Json) :
    OutcomesAgree ReferenceFault.Agree Eq (Document.resolve value ⟨files, machine⟩)
      (Document.resolve value ⟨others, machine⟩) := by
  rw [resolve_eq, resolve_eq, Json.library_eq hdocument h]
  have hearly := Json.earlyFault?_agree hdocument h "" value
  generalize value.earlyFault? ⟨files, machine⟩ "" = fault? at hearly
  generalize value.earlyFault? ⟨others, machine⟩ "" = other? at hearly
  cases hearly with
  | some hfault => exact .error hfault
  | none =>
      simp only
      split
      · exact .refl .same (fun _ => rfl) _
      · apply (Json.linksFrom_agree hdocument h _ _ _ _).map
        rintro links _ rfl
        rfl

/-- The same catalog, or the same words. -/
theorem Catalog.ofJson_agree (value : Json) (source : String) :
    OutcomesAgree (SameWords (CatalogFault.message? source)) Eq
      (Catalog.ofJson value ⟨files, machine⟩) (Catalog.ofJson value ⟨others, machine⟩) := by
  unfold Catalog.ofJson
  rcases Document.resolve_agree hdocument h value |>.error_or_ok with
    ⟨_, _, hfiles, hothers, hfault⟩ | ⟨document, _, hfiles, hothers, rfl⟩
  · simp only [hfiles, hothers]
    apply OutcomesAgree.error
    cases hfault with
    | same fault => exact SameWords.refl _ _
    | @broken reference problem other hproblem =>
        have hmessage : problem.message = other.message := hproblem
        have hwords : ∀ problem : NameProblem,
            CatalogFault.message? source (.unresolved (.broken reference (.document problem))) =
              some (catalogMessage "Unresolved reference in" source
                ("Error while resolving \x60" ++ reference ++ "\x60: " ++ problem.message)) :=
          fun _ => rfl
        constructor
        · rw [hwords, hwords, hmessage]
        · intro hnone
          cases (hwords problem).symm.trans hnone
  · rw [hfiles, hothers]
    exact .refl (SameWords.refl _) (fun _ => rfl) _

namespace CatalogSource

theorem readFile_agree (path : String) :
    OutcomesAgree (SameWords LoadFault.message?) Eq (readFile files path machine)
      (readFile others path machine) := by
  unfold readFile
  rcases h.read_agree path |>.error_or_ok with ⟨_, _, hfiles, hothers, rfl⟩ |
    ⟨content, other, hfiles, hothers, hcontents⟩
  · rw [hfiles, hothers]
    exact .error (SameWords.refl _ _)
  · rw [hfiles, hothers]
    rcases hcontents with rfl | ⟨rfl, rfl⟩
    · exact .refl (SameWords.refl _) (fun _ => rfl) _
    · exact hdocument.loaded path

theorem document_agree (web : Web) (source : CatalogSource) :
    (source.document web others machine).log = (source.document web files machine).log ∧
      OutcomesAgree (SameWords LoadFault.message?) Eq (source.document web files machine).outcome
        (source.document web others machine).outcome := by
  cases source with
  | web url => exact ⟨rfl, .refl (SameWords.refl _) (fun _ => rfl) _⟩
  | file path =>
      unfold document
      simp only [h.exists?_eq]
      split
      · have hread := readFile_agree hdocument h path
        exact ⟨rfl, hread⟩
      · exact ⟨rfl, .error (SameWords.refl _ _)⟩

end CatalogSource

/-- The same catalog is loaded with the same records, or the loading fails in the same words. -/
theorem Catalog.load_agree (web : Web) (text : String) :
    (Catalog.load web others text machine).log = (Catalog.load web files text machine).log ∧
      OutcomesAgree (SameWords LoadFault.message?) Eq (Catalog.load web files text machine).outcome
        (Catalog.load web others text machine).outcome := by
  obtain ⟨hlog, houtcome⟩ :=
    CatalogSource.document_agree hdocument h web (CatalogSource.ofText text)
  constructor
  · exact (log_bind_ofExcept _ _).trans (hlog.trans (log_bind_ofExcept _ _).symm)
  · rw [load_outcome, load_outcome]
    apply houtcome.bind
    rintro value _ rfl
    apply (Catalog.ofJson_agree hdocument h value text).mapError
    intro fault other hwords
    exact ⟨hwords.1, fun hnone => congrArg (LoadFault.rejected text) (hwords.2 hnone)⟩

end Loading

end CatalogClient
