/-
# A walk adds the files of the types that it visits

A walk that succeeds registers the types that the search visits, in the order of their visits, and
adds the file of each. The file of an interface is added before its fields are followed and is
finished after them; the files added in between belong to other names, so the one that is finished
is its own. Nothing that was there before is touched.
-/

import CatalogClient.Proofs.Emission.Rendering
import CatalogClient.Proofs.Emission.Rules
import CatalogClient.Proofs.Emission.Search

namespace CatalogClient

namespace TypeRef

/-- What a type is registered as: its simple name, with its qualified name as the origin. -/
def entry (type : TypeRef) : String × String :=
  (type.simpleName, type.qualifiedName)

theorem simpleName_of_qualifiedName_eq_empty {type : TypeRef} (h : type.qualifiedName = "") :
    type.simpleName = "" := by
  unfold qualifiedName at h
  split at h
  · exact h
  · next hpackage =>
      cases hcase : type.package with
      | none => simp [hcase] at hpackage
      | some outer =>
          have houter : outer ≠ "" := by simpa [hcase] using hpackage
          simp [hcase, qualify, houter] at h

end TypeRef

namespace Emission

variable {env : Environment}

theorem opened?_eq_none_iff {emission : Emission} {type : TypeRef} :
    emission.opened? type = none ↔ type.simpleName ∈ emission.registry.taken := by
  rw [opened?, Option.map_eq_none_iff, Registry.register?_eq_none_iff]

/-- Opening the file of a type registers its entry and adds an empty file of its name. -/
theorem opened?_eq_some {emission next : Emission} {type : TypeRef}
    (h : emission.opened? type = some next) :
    type.simpleName ∉ emission.registry.taken ∧
      next.registry.entries = emission.registry.entries ++ [type.entry] ∧
      next.registry.nameless = emission.registry.nameless ∧
      next.project.files =
        emission.project.files ++ [{ name := fileName type.simpleName }] := by
  obtain ⟨registry, hregister, rfl⟩ := Option.map_eq_some_iff.mp h
  unfold Registry.register? at hregister
  split at hregister
  · cases hregister
  · next hfresh =>
      cases hregister
      refine ⟨hfresh, ?_, rfl, rfl⟩
      by_cases hempty : type.qualifiedName = ""
      · simp [TypeRef.entry, hempty, TypeRef.simpleName_of_qualifiedName_eq_empty hempty]
      · simp [TypeRef.entry, hempty]

/-- The file of an interface once it is finished: imported names that do not repeat give one line
each. -/
theorem finishedFile (name : String) (definition : Interface) {imports : List String}
    (h : imports.Nodup) :
    (imports.foldl (fun file name => SourceFile.addImport file (importLine name))
        ({ name := fileName name } : SourceFile)).addDefinition (.interface definition) =
      { name := fileName name, imports := imports.map importLine,
        definitions := [.interface definition] } := by
  have hlines : (imports.map importLine).Nodup := nodup_importLines h
  rw [SourceFile.foldl_addImport, foldl_addOnce_of_nodup (by simpa using hlines)]
  rfl

/-- A state extends another one by the types that were visited in between: their entries and their
files come after those that were there. -/
structure Extends (env : Environment) (start next : Emission) (visited : List TypeRef) : Prop where
  entries : next.registry.entries = start.registry.entries ++ visited.map TypeRef.entry
  nameless : next.registry.nameless = start.registry.nameless
  files : ∃ files, next.project.files = start.project.files ++ files ∧
    visited.map (TypeRef.sourceFile env) = files.map .ok

namespace Extends

/-- Records leave registry and project alone. -/
theorem of_eq {start next : Emission} (hregistry : next.registry = start.registry)
    (hproject : next.project = start.project) : Extends env start next [] where
  entries := by simp [hregistry]
  nameless := by rw [hregistry]
  files := ⟨[], by simp [hproject], rfl⟩

theorem of_notes (start : Emission) (log : Log) : Extends env start (start.notes log) [] :=
  .of_eq rfl rfl

theorem trans {start next last : Emission} {visited others : List TypeRef}
    (h : Extends env start next visited) (h' : Extends env next last others) :
    Extends env start last (visited ++ others) where
  entries := by rw [h'.entries, h.entries]; simp
  nameless := h'.nameless.trans h.nameless
  files := by
    obtain ⟨files, hfiles, hrender⟩ := h.files
    obtain ⟨files', hfiles', hrender'⟩ := h'.files
    refine ⟨files ++ files', by rw [hfiles', hfiles, List.append_assoc], ?_⟩
    rw [List.map_append, List.map_append, hrender, hrender']

theorem taken {start next : Emission} {visited : List TypeRef}
    (h : Extends env start next visited) :
    next.registry.taken = start.registry.taken ++ simpleNames visited := by
  unfold Registry.taken Keyed.keys
  rw [h.entries, List.map_append, List.map_map]
  rfl

/-- The file of a type is opened, whatever is below it is added after it, and then it is finished:
the files below it have other names, so the finished file is the one that was opened. -/
theorem finish {start opened last finished : Emission} {type : TypeRef}
    {visited : List TypeRef} {change : SourceFile → SourceFile}
    (hopened : start.opened? type = some opened) (hbelow : Extends env opened last visited)
    (hfresh : ∀ other ∈ visited, other.simpleName ∉ opened.registry.taken)
    (hregistry : finished.registry = last.registry)
    (hproject : finished.project = last.project.changeLastFile (fileName type.simpleName) change)
    (hrender : type.sourceFile env = .ok (change { name := fileName type.simpleName })) :
    Extends env start finished (type :: visited) := by
  obtain ⟨-, hentries, hnameless, hfiles⟩ := opened?_eq_some hopened
  obtain ⟨below, hbelowFiles, hbelowRender⟩ := hbelow.files
  have hself : type.simpleName ∈ opened.registry.taken := by
    rw [(taken_of_opened? hopened).2]
    exact List.mem_append_right _ List.mem_cons_self
  refine ⟨?_, ?_, change { name := fileName type.simpleName } :: below, ?_, ?_⟩
  · rw [hregistry, hbelow.entries, hentries]
    simp
  · rw [hregistry, hbelow.nameless, hnameless]
  · rw [hfiles, List.append_assoc] at hbelowFiles
    rw [hproject]
    refine Project.changeLastFile_of_append hbelowFiles (fun other hother => ?_) change
    obtain ⟨owner, howner, hfile⟩ := TypeRef.exists_of_rendered hbelowRender hother
    rw [(TypeRef.names_of_sourceFile hfile).1]
    intro hsame
    apply hfresh owner howner
    rw [fileName_inj.mp hsame]
    exact hself
  · rw [List.map_cons, List.map_cons, hrender, hbelowRender]

end Extends

mutual

/-- A list of types that is emitted without a failure extends the state by what the search visits
for it. -/
theorem EmitsAll.extends {start next : Emission} {types : List TypeRef}
    {outcome : Except Rejection Unit} (h : EmitsAll env start types next outcome)
    (hok : outcome = .ok ()) :
    Extends env start next (env.visits start.registry.taken types) := by
  match h with
  | .stop first => cases hok
  | .nil =>
      rw [Environment.visits_nil]
      exact .of_eq rfl rfl
  | .cons first others =>
      have hfirst := first.extends rfl
      have hothers := others.extends hok
      rw [hfirst.taken] at hothers
      rw [← List.singleton_append, Environment.visits_append]
      exact hfirst.trans hothers

theorem Emits.extends {start next : Emission} {type : TypeRef}
    {outcome : Except Rejection (Option String)} (h : Emits env start type next outcome)
    {file : Option String} (hok : outcome = .ok file) :
    Extends env start next (env.visits start.registry.taken [type]) := by
  match h with
  | .unfinished .. => cases hok
  | .passed plain =>
      rw [Environment.visits_cons_of_passed [] (by simp [plain]), Environment.visits_nil]
      exact .of_eq rfl rfl
  | .taken declared closed =>
      have hseen := opened?_eq_none_iff.mp closed
      rw [Environment.visits_cons_of_passed [] (by simp [hseen]), Environment.visits_nil]
      exact .of_eq (registry_noteCollision start type) (project_noteCollision start type)
  | .enumeration kind hopened =>
      have hfresh := (opened?_eq_some hopened).1
      have hplain : type.kind ≠ .composite := by rw [kind]; decide
      rw [Environment.visits_cons_of_fresh [] (by simp [TypeRef.isDeclared, kind]) hfresh,
        Environment.successors_of_kind_ne hplain, Environment.visits_nil, Environment.visits_nil]
      refine .finish hopened (.of_eq rfl rfl) (by simp) rfl rfl ?_
      rw [TypeRef.sourceFile, if_pos kind]
      rfl
  | .undeclared kind hopened absent =>
      have hfresh := (opened?_eq_some hopened).1
      rw [Environment.visits_cons_of_fresh [] (by simp [TypeRef.isDeclared, kind]) hfresh,
        Environment.successors_of_absent absent, Environment.visits_nil, Environment.visits_nil]
      refine .finish hopened (.of_eq (registry_noteUndeclared _ type none)
        (project_noteUndeclared _ type none)) (by simp) rfl rfl ?_
      rw [TypeRef.sourceFile, if_neg (by rw [kind]; decide),
        TypeRef.interfaceFile_of_find?_eq_none absent]
      rfl
  | .interface kind hopened found members =>
      have hfresh := (opened?_eq_some hopened).1
      obtain ⟨hbelow, targets, htargets, hmembers, himports⟩ := members.extends rfl
      rw [Environment.visits_cons_of_fresh [] (by simp [TypeRef.isDeclared, kind]) hfresh,
        Environment.successors_of_find? kind found, Environment.visits_nil, List.append_nil,
        ← (taken_of_opened? hopened).2]
      refine .finish hopened hbelow Environment.simpleName_not_mem_of_mem_visits rfl rfl ?_
      rw [TypeRef.sourceFile, if_neg (by rw [kind]; decide),
        TypeRef.interfaceFile_of_find?_eq_some found htargets, hmembers, himports,
        ← eraseDups_eq_foldl_addOnce]
      exact congrArg _ (finishedFile _ _ (nodup_importedNames _ _)).symm

theorem Follows.extends {start next : Emission} {owner : String} {fields : List Field}
    {members members' : List Argument} {imports imports' : List String}
    {outcome : Except Rejection (List Argument × List String)}
    (h : Follows env start owner fields members imports next outcome)
    (hok : outcome = .ok (members', imports')) :
    Extends env start next
        (env.visits start.registry.taken (fields.flatMap (Field.discovered env))) ∧
      ∃ targets, resolveFields env fields = .ok targets ∧
        members' = members ++ List.zipWith Field.member fields targets ∧
        imports' = (targets.flatMap (Target.foreignNames owner)).foldl addOnce imports := by
  match h with
  | .unresolved resolved => cases hok
  | .blocked resolved below => cases hok
  | .done =>
      cases hok
      rw [List.flatMap_nil, Environment.visits_nil]
      exact ⟨.of_eq rfl rfl, [], rfl, by simp, by simp⟩
  | .field resolved below others =>
      have hbelow := below.extends rfl
      obtain ⟨hothers, targets, htargets, hmembers, himports⟩ := others.extends hok
      rw [hbelow.taken] at hothers
      rw [List.flatMap_cons, Environment.visits_append, discovered_of_resolve resolved]
      refine ⟨(Extends.of_notes start _).trans (hbelow.trans hothers), _ :: targets,
        resolveFields_cons resolved htargets, ?_, ?_⟩
      · rw [hmembers, List.append_assoc]
        rfl
      · rw [himports, importNames_eq, eraseDups_eq_foldl_addOnce, foldl_addOnce_foldl,
          List.flatMap_cons, List.foldl_append]
        rfl

end

end Emission

end CatalogClient
