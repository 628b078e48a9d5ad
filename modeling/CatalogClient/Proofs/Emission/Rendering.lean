/-
# The file of a declared type

What the file of a declared type holds depends on the type, the scanned packages and the
declarations alone. The file is stated here without any state: it fails where a field does not
resolve, and nothing about earlier or later types enters into it.
-/

import CatalogClient.Emission.Walk
import CatalogClient.Proofs.Resolution
import CatalogClient.Proofs.TypeScript.SourceFile

namespace CatalogClient

/-- The names of the declared types in the expression of a target, without the owner of the file. -/
def Target.foreignNames (owner : String) (target : Target) : List String :=
  ((target.contributing.filter TypeRef.isDeclared).filterMap TypeRef.name).filter fun name =>
    decide (name ≠ owner)

/-- The names that the fields of an interface import, each where it occurs first. -/
def importedNames (owner : String) (targets : List Target) : List String :=
  (targets.flatMap (Target.foreignNames owner)).eraseDups

/-- The member of an interface for a field. -/
def Field.member (field : Field) (target : Target) : Argument :=
  { name := field.name, type := some target.expression }

/-- The client types of some fields, in order. -/
def resolveFields (env : Environment) (fields : List Field) : Except Rejection (List Target) :=
  fields.mapM fun field => (field.type.resolve env).outcome

namespace TypeRef

/-- The file of a composite type: one interface with the type parameters of the declaration and one
member for every field that is not ignored, and the imports of these fields. Without a declaration
the interface is empty. -/
def interfaceFile (env : Environment) (type : TypeRef) : Except Rejection SourceFile := do
  let declaration := env.declarations.find? type
  let fields := (declaration.map Declaration.visibleFields).getD []
  let targets ← resolveFields env fields
  return {
    name := Emission.fileName type.simpleName
    imports := (importedNames type.simpleName targets).map Emission.importLine
    definitions := [.interface {
      name := type.simpleName
      typeParameters := (declaration.map Declaration.typeParameters).getD []
      members := List.zipWith Field.member fields targets }] }

/-- The file of an enumeration: its constants as they are declared, and none without a
declaration. -/
def enumerationFile (env : Environment) (type : TypeRef) : SourceFile where
  name := Emission.fileName type.simpleName
  definitions := [.enumeration {
    name := type.simpleName
    constants := ((env.declarations.find? type).map Declaration.constants).getD [] }]

/-- The file of a declared type. -/
def sourceFile (env : Environment) (type : TypeRef) : Except Rejection SourceFile :=
  if type.kind = .enumeration then .ok (type.enumerationFile env) else type.interfaceFile env

end TypeRef

theorem TypeRef.interfaceFile_of_find?_eq_none {env : Environment} {type : TypeRef}
    (habsent : env.declarations.find? type = none) :
    type.interfaceFile env = .ok {
      name := Emission.fileName type.simpleName
      definitions := [.interface { name := type.simpleName }] } := by
  simp only [interfaceFile, habsent]
  rfl

theorem TypeRef.interfaceFile_of_find?_eq_some {env : Environment} {type : TypeRef}
    {declaration : Declaration} (hfound : env.declarations.find? type = some declaration)
    {targets : List Target}
    (htargets : resolveFields env declaration.visibleFields = .ok targets) :
    type.interfaceFile env = .ok {
      name := Emission.fileName type.simpleName
      imports := (importedNames type.simpleName targets).map Emission.importLine
      definitions := [.interface {
        name := type.simpleName
        typeParameters := declaration.typeParameters
        members := List.zipWith Field.member declaration.visibleFields targets }] } := by
  simp only [interfaceFile, hfound, Option.map_some, Option.getD_some, htargets]
  rfl

theorem TypeRef.interfaceFile_of_resolveFields_eq_error {env : Environment} {type : TypeRef}
    {declaration : Declaration} (hfound : env.declarations.find? type = some declaration)
    {rejection : Rejection}
    (htargets : resolveFields env declaration.visibleFields = .error rejection) :
    type.interfaceFile env = .error rejection := by
  simp only [interfaceFile, hfound, Option.map_some, Option.getD_some, htargets]
  rfl

/-- The file of a type has its name, and holds one definition of that name and no code. -/
theorem TypeRef.eq_of_sourceFile {env : Environment} {type : TypeRef} {file : SourceFile}
    (h : type.sourceFile env = .ok file) :
    ∃ (imports : List String) (definition : TypeDefinition),
      definition.name = type.simpleName ∧
        file =
          { name := Emission.fileName type.simpleName, imports, definitions := [definition] } := by
  unfold sourceFile at h
  split at h
  · obtain rfl := Except.ok.inj h
    exact ⟨_, _, rfl, rfl⟩
  · unfold interfaceFile at h
    cases htargets : resolveFields env
        (((env.declarations.find? type).map Declaration.visibleFields).getD []) with
    | error rejection =>
        simp only [htargets] at h
        cases h
    | ok targets =>
        simp only [htargets] at h
        obtain rfl := Except.ok.inj h
        exact ⟨_, _, rfl, rfl⟩

/-- The file of a type has its name, and so has the one definition in it. -/
theorem TypeRef.names_of_sourceFile {env : Environment} {type : TypeRef} {file : SourceFile}
    (h : type.sourceFile env = .ok file) :
    file.name = Emission.fileName type.simpleName ∧
      file.definitions.map TypeDefinition.name = [type.simpleName] := by
  obtain ⟨imports, definition, hname, rfl⟩ := eq_of_sourceFile h
  exact ⟨rfl, by rw [List.map_singleton, hname]⟩

theorem fileName_inj {name other : String} :
    Emission.fileName name = Emission.fileName other ↔ name = other := by
  constructor
  · intro h
    have hlist := congrArg String.toList h
    rw [Emission.fileName, Emission.fileName, String.toList_append, String.toList_append] at hlist
    exact String.toList_injective (List.append_cancel_right hlist)
  · rintro rfl
    rfl

/-- A text that has a name in two places tells the name. -/
theorem twice_inj {before between after name other : String}
    (h : before ++ name ++ between ++ name ++ after =
      before ++ other ++ between ++ other ++ after) :
    name = other := by
  have hlist := congrArg String.toList h
  simp only [String.toList_append, List.append_assoc] at hlist
  have htail := List.append_cancel_left hlist
  have hlength : name.toList.length = other.toList.length := by
    have hlengths := congrArg List.length htail
    simp only [List.length_append] at hlengths
    omega
  exact String.toList_injective (List.append_inj_left htail hlength)

theorem importLine_inj {name other : String} :
    Emission.importLine name = Emission.importLine other ↔ name = other := by
  constructor
  · intro h
    exact twice_inj h
  · rintro rfl
    rfl

theorem nodup_fileNames {names : List String} (h : names.Nodup) :
    (names.map Emission.fileName).Nodup :=
  List.Pairwise.map Emission.fileName (fun _ _ hne hsame => hne (fileName_inj.mp hsame)) h

theorem nodup_importLines {names : List String} (h : names.Nodup) :
    (names.map Emission.importLine).Nodup :=
  List.Pairwise.map Emission.importLine (fun _ _ hne hsame => hne (importLine_inj.mp hsame)) h

/-- Every file that is rendered for some types is rendered for one of them. -/
theorem TypeRef.exists_of_rendered {env : Environment} {types : List TypeRef}
    {files : List SourceFile} (hrender : types.map (TypeRef.sourceFile env) = files.map .ok)
    {file : SourceFile} (hfile : file ∈ files) :
    ∃ type ∈ types, type.sourceFile env = .ok file := by
  apply List.mem_map.mp
  rw [hrender]
  exact List.mem_map_of_mem hfile

theorem TypeRef.exists_rendered {env : Environment} {types : List TypeRef}
    {files : List SourceFile} (hrender : types.map (TypeRef.sourceFile env) = files.map .ok)
    {type : TypeRef} (htype : type ∈ types) :
    ∃ file ∈ files, type.sourceFile env = .ok file := by
  have hmem : type.sourceFile env ∈ files.map Except.ok := by
    rw [← hrender]
    exact List.mem_map_of_mem htype
  obtain ⟨file, hfile, hsource⟩ := List.mem_map.mp hmem
  exact ⟨file, hfile, hsource.symm⟩

/-- Some file is rendered for every name among some types, and it declares that name alone. -/
theorem TypeRef.exists_file_of_rendered {env : Environment} {types : List TypeRef}
    {files : List SourceFile} (hrender : types.map (TypeRef.sourceFile env) = files.map .ok)
    {name : String} (hname : name ∈ simpleNames types) :
    ∃ file ∈ files, file.name = Emission.fileName name ∧
      file.definitions.map TypeDefinition.name = [name] := by
  obtain ⟨type, htype, rfl⟩ := List.mem_map.mp hname
  obtain ⟨file, hfile, hsource⟩ := TypeRef.exists_rendered hrender htype
  exact ⟨file, hfile, TypeRef.names_of_sourceFile hsource⟩

/-- The files that are rendered for some types are named for them, in order. -/
theorem TypeRef.fileNames_of_rendered {env : Environment} {types : List TypeRef}
    {files : List SourceFile} (hrender : types.map (TypeRef.sourceFile env) = files.map .ok) :
    files.map SourceFile.name = (simpleNames types).map Emission.fileName := by
  induction types generalizing files with
  | nil =>
      cases files with
      | nil => rfl
      | cons file files => cases hrender
  | cons type rest ih =>
      cases files with
      | nil => cases hrender
      | cons file files =>
          obtain ⟨hfile, hfiles⟩ := List.cons.inj hrender
          rw [List.map_cons, ih hfiles, (TypeRef.names_of_sourceFile hfile).1]
          rfl

/-- If all visited types are rendered, then the file of a name is the rendering of the type that was
the first to take it. -/
theorem TypeRef.find?_of_rendered {env : Environment} {visited : List TypeRef}
    {files : List SourceFile} (hrender : visited.map (TypeRef.sourceFile env) = files.map .ok)
    {name : String} {type : TypeRef}
    (hfound : visited.find? (fun type => decide (type.simpleName = name)) = some type) :
    ∃ file, files.find? (fun file => decide (file.name = Emission.fileName name)) = some file ∧
      type.sourceFile env = .ok file := by
  induction visited generalizing files with
  | nil => cases hfound
  | cons first rest ih =>
      cases files with
      | nil => cases hrender
      | cons file files =>
          obtain ⟨hfile, hfiles⟩ := List.cons.inj hrender
          have hname := (TypeRef.names_of_sourceFile hfile).1
          by_cases hsame : first.simpleName = name
          · rw [List.find?_cons_of_pos (by simpa using hsame)] at hfound
            cases hfound
            refine ⟨file, ?_, hfile⟩
            rw [List.find?_cons_of_pos (by simp [hname, hsame])]
          · rw [List.find?_cons_of_neg (by simpa using hsame)] at hfound
            rw [List.find?_cons_of_neg (by simpa [hname, fileName_inj] using hsame)]
            exact ih hfiles hfound

theorem nodup_importedNames (owner : String) (targets : List Target) :
    (importedNames owner targets).Nodup :=
  nodup_eraseDups _

/-- What is imported is the name of a declared type in the expression of some field, and never the
name of the owner. -/
theorem mem_importedNames {owner name : String} {targets : List Target} :
    name ∈ importedNames owner targets ↔
      name ≠ owner ∧ ∃ target ∈ targets, ∃ type ∈ target.contributing,
        type.isDeclared = true ∧ type.name = some name := by
  simp only [importedNames, List.mem_eraseDups, List.mem_flatMap, Target.foreignNames,
    List.mem_filter, List.mem_filterMap, decide_eq_true_eq]
  constructor
  · rintro ⟨target, htarget, ⟨type, ⟨htype, hdeclared⟩, hname⟩, hforeign⟩
    exact ⟨hforeign, target, htarget, type, htype, hdeclared, hname⟩
  · rintro ⟨hforeign, target, htarget, type, htype, hdeclared, hname⟩
    exact ⟨target, htarget, ⟨type, ⟨htype, hdeclared⟩, hname⟩, hforeign⟩

theorem importNames_eq (owner : String) (target : Target) :
    target.importNames (some owner) = (target.foreignNames owner).eraseDups := by
  simp [Target.importNames, Target.foreignNames]

/-- A traversal yields what its entries yield, in order. -/
theorem mapM_eq_ok_iff {ε α β : Type} {f : α → Except ε β} {entries : List α} {values : List β} :
    entries.mapM f = .ok values ↔ entries.map f = values.map .ok := by
  induction entries generalizing values with
  | nil => cases values <;> simp [pure, Except.pure]
  | cons entry rest ih =>
      rw [List.mapM_cons]
      cases values with
      | nil =>
          cases f entry with
          | error error => simp [bind, Except.bind]
          | ok value => cases rest.mapM f <;> simp [bind, Except.bind, pure, Except.pure]
      | cons value others =>
          rw [List.map_cons, List.map_cons, List.cons.injEq, ← ih]
          cases f entry with
          | error error => simp [bind, Except.bind]
          | ok first => cases rest.mapM f <;> simp [bind, Except.bind, pure, Except.pure]

theorem resolveFields_cons {env : Environment} {field : Field} {rest : List Field}
    {target : Target} {targets : List Target}
    (hfield : (field.type.resolve env).outcome = .ok target)
    (hrest : resolveFields env rest = .ok targets) :
    resolveFields env (field :: rest) = .ok (target :: targets) := by
  unfold resolveFields at *
  rw [List.mapM_cons, hfield, hrest]
  rfl

/-- Every target of some fields is that of one of them. -/
theorem exists_field_of_resolveFields {env : Environment} {fields : List Field}
    {targets : List Target} (h : resolveFields env fields = .ok targets) {target : Target}
    (hmem : target ∈ targets) :
    ∃ field ∈ fields, (field.type.resolve env).outcome = .ok target := by
  apply List.mem_map.mp
  rw [mapM_eq_ok_iff.mp h]
  exact List.mem_map_of_mem hmem

/-- Where the file of a composite type is rendered, the types of its fields resolve. -/
theorem TypeRef.resolves_of_sourceFile {env : Environment} {type : TypeRef}
    {declaration : Declaration} {file : SourceFile} (hkind : type.kind = .composite)
    (hfound : env.declarations.find? type = some declaration)
    (h : type.sourceFile env = .ok file) :
    ∀ field ∈ declaration.visibleFields, (field.type.resolve env).outcome.isOk = true := by
  intro field hfield
  rw [sourceFile, if_neg (by simp [hkind])] at h
  cases htargets : resolveFields env declaration.visibleFields with
  | error rejection =>
      rw [interfaceFile_of_resolveFields_eq_error hfound htargets] at h
      cases h
  | ok targets =>
      have hmem : (field.type.resolve env).outcome ∈ targets.map Except.ok := by
        rw [← mapM_eq_ok_iff.mp htargets]
        exact List.mem_map_of_mem hfield
      obtain ⟨target, -, htarget⟩ := List.mem_map.mp hmem
      rw [← htarget]
      rfl

end CatalogClient
