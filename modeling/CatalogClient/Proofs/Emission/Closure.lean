/-
# The closure of declared types

Two types of one kind, name and package lead to the same types, so a search that goes by names
misses nothing as long as reached types with one name agree in kind and package. Whether they agree
or not, a file only imports what the fields of its type lead to.
-/

import CatalogClient.Proofs.Emission.Rendering
import CatalogClient.Proofs.Emission.Rules
import CatalogClient.Proofs.Emission.Search

namespace CatalogClient

variable {env : Environment}

/-- Two references to the same declared type: they agree in kind, name and package. -/
structure TypeRef.Alike (type other : TypeRef) : Prop where
  kind : type.kind = other.kind
  name : type.name = other.name
  package : type.package = other.package

theorem TypeRef.Alike.simpleName {type other : TypeRef} (h : type.Alike other) :
    type.simpleName = other.simpleName := by
  unfold TypeRef.simpleName
  rw [h.name]

theorem TypeRef.Alike.qualifiedName {type other : TypeRef} (h : type.Alike other) :
    type.qualifiedName = other.qualifiedName := by
  unfold TypeRef.qualifiedName
  rw [h.simpleName, h.name, h.package]

/-- References to the same type have the same declaration. -/
theorem DeclarationTable.find?_congr {table : DeclarationTable} {type other : TypeRef}
    (h : type.Alike other) : table.find? type = table.find? other := by
  unfold DeclarationTable.find?
  rw [h.qualifiedName, h.name, h.package]

/-- References to the same type have the same file. -/
theorem TypeRef.Alike.sourceFile {type other : TypeRef} (h : type.Alike other) :
    type.sourceFile env = other.sourceFile env := by
  unfold TypeRef.sourceFile TypeRef.enumerationFile TypeRef.interfaceFile
  rw [h.kind, h.simpleName, DeclarationTable.find?_congr h]

/-- What has to be generated for a type is declared, of a scanned package if it is composite, and
named if the type is well-formed. -/
theorem TypeRef.leads_of_mem_discovered {type found : TypeRef} (h : found ∈ type.discovered env) :
    found.isDeclared = true ∧ (found.kind = .composite → env.scope.admits found.package = true) ∧
      (type.WellFormed → found.hasName = true) := by
  unfold TypeRef.discovered at h
  split at h
  · next target hresolve =>
      obtain ⟨hground, hnames⟩ := TypeRef.leadsTo_of_resolve type target hresolve
      exact ⟨hground.declared found h, hground.admitted found h, fun hwell => hnames hwell found h⟩
  · cases h

namespace Environment

theorem successors_congr {type other : TypeRef} (h : type.Alike other) :
    env.successors type = env.successors other := by
  unfold successors
  rw [h.kind, DeclarationTable.find?_congr h]

theorem mem_successors {owner found : TypeRef} (h : found ∈ env.successors owner) :
    ∃ entry ∈ env.declarations, ∃ field ∈ entry.2.fields, found ∈ field.type.discovered env := by
  unfold successors at h
  split at h
  · split at h
    · next declaration hfound =>
        obtain ⟨key, hmem⟩ := DeclarationTable.mem_of_find? hfound
        obtain ⟨field, hfield, hdiscovered⟩ := List.mem_flatMap.mp h
        exact ⟨_, hmem, field, (List.mem_filter.mp hfield).1, hdiscovered⟩
    · cases h
  · cases h

/-- No two of the reached types share a simple name and differ in kind or package. -/
def Unambiguous (env : Environment) (roots : List TypeRef) : Prop :=
  ∀ type other, env.Reaches roots type → env.Reaches roots other →
    type.simpleName = other.simpleName → type.kind = other.kind ∧ type.package = other.package

/-- Unless reached types share names, references to them are told apart by the simple names. -/
theorem Unambiguous.alike {roots : List TypeRef} (hunique : env.Unambiguous roots)
    {type other : TypeRef} (htype : env.Reaches roots type) (hother : env.Reaches roots other)
    (hnamed : type.hasName = true ∧ other.hasName = true)
    (hsame : type.simpleName = other.simpleName) : type.Alike other := by
  obtain ⟨hkind, hpackage⟩ := hunique type other htype hother hsame
  refine ⟨hkind, ?_, hpackage⟩
  rw [TypeRef.name_of_hasName hnamed.1, TypeRef.name_of_hasName hnamed.2, hsame]

/-- Unless reached types share names, the search visits every one of them under its name: where it
was cut at a taken name, the type that has taken the name leads to the same types. -/
theorem exists_visited_of_reaches {roots : List TypeRef}
    (hdeclared : ∀ type, env.Reaches roots type → type.isDeclared = true ∧ type.hasName = true)
    (hunique : env.Unambiguous roots) {type : TypeRef} (h : env.Reaches roots type) :
    ∃ visited ∈ env.visits [] roots, visited.Alike type := by
  have hvisits : ∀ type, env.Reaches roots type →
      type.simpleName ∈ [] ++ simpleNames (env.visits [] roots) →
        ∃ visited ∈ env.visits [] roots, visited.Alike type := by
    intro type hreached hname
    rw [List.nil_append] at hname
    obtain ⟨visited, hvisited, hsame⟩ := List.mem_map.mp hname
    have hreached' := reaches_of_mem_visits visited hvisited
    exact ⟨visited, hvisited, hunique.alike hreached' hreached
      ⟨(hdeclared visited hreached').2, (hdeclared type hreached).2⟩ hsame⟩
  induction h with
  | root member =>
      exact hvisits _ (.root member) (mem_names_of_visits _ member (hdeclared _ (.root member)).1)
  | @field owner found reached member ih =>
      obtain ⟨visited, hvisited, halike⟩ := ih
      refine hvisits found (.field reached member) ?_
      rw [← successors_congr halike] at member
      exact mem_names_of_successors visited hvisited found member
        (hdeclared found (.field reached (successors_congr halike ▸ member))).1

/-- So no name of a reached type is missing. -/
theorem mem_names_of_reaches {roots : List TypeRef}
    (hdeclared : ∀ type, env.Reaches roots type → type.isDeclared = true ∧ type.hasName = true)
    (hunique : env.Unambiguous roots) {type : TypeRef} (h : env.Reaches roots type) :
    type.simpleName ∈ simpleNames (env.visits [] roots) := by
  obtain ⟨visited, hvisited, halike⟩ := exists_visited_of_reaches hdeclared hunique h
  rw [← halike.simpleName]
  exact simpleName_mem_simpleNames hvisited

/-- If the files of all reached types can be rendered, then no field below the roots fails. -/
theorem sound_of_rendered {roots : List TypeRef}
    (h : ∀ type, env.Reaches roots type → ∃ file, type.sourceFile env = .ok file) :
    env.Sound (env.Reaches roots) := by
  intro owner declaration hreached hkind hfound field hfield
  obtain ⟨file, hfile⟩ := h owner hreached
  refine ⟨TypeRef.resolves_of_sourceFile hkind hfound hfile field hfield, fun found hmem => ?_⟩
  refine .field hreached ?_
  rw [successors_of_find? hkind hfound]
  exact List.mem_flatMap.mpr ⟨field, hfield, hmem⟩

end Environment

namespace TypeRef

/-- What the file of a composite type imports is the name of another type that the fields of the
type lead to. -/
theorem exists_successor_of_imported {type : TypeRef} {declaration : Declaration}
    {targets : List Target} {name : String} (hkind : type.kind = .composite)
    (hfound : env.declarations.find? type = some declaration)
    (htargets : resolveFields env declaration.visibleFields = .ok targets)
    (hname : name ∈ importedNames type.simpleName targets) :
    ∃ found ∈ env.successors type, found.isDeclared = true ∧
      found.simpleName ≠ type.simpleName ∧ found.simpleName = name := by
  obtain ⟨hforeign, target, htarget, found, hcontributing, hdeclared, hsome⟩ :=
    mem_importedNames.mp hname
  have hsimple : found.simpleName = name := by
    rw [simpleName, hsome]
    rfl
  obtain ⟨field, hfield, hresolve⟩ := exists_field_of_resolveFields htargets htarget
  obtain ⟨hground, -⟩ := leadsTo_of_resolve field.type target hresolve
  refine ⟨found, ?_, hdeclared, by rwa [hsimple], hsimple⟩
  rw [Environment.successors_of_find? hkind hfound]
  refine List.mem_flatMap.mpr ⟨field, hfield, ?_⟩
  rw [Field.discovered, discovered_of_resolve hresolve]
  exact hground.covers found hcontributing hdeclared

/-- The import lines in the file of a declared type do not repeat, and each of them names another
type that the fields of the type lead to. -/
theorem imports_of_sourceFile {type : TypeRef} {file : SourceFile}
    (hdeclared : type.isDeclared = true) (h : type.sourceFile env = .ok file) :
    file.imports.Nodup ∧ ∀ line ∈ file.imports, ∃ found ∈ env.successors type,
      found.isDeclared = true ∧ found.simpleName ≠ type.simpleName ∧
        line = Emission.importLine found.simpleName := by
  by_cases hkind : type.kind = .enumeration
  · rw [sourceFile, if_pos hkind] at h
    obtain rfl := Except.ok.inj h
    exact ⟨List.nodup_nil, List.forall_mem_nil _⟩
  · rw [sourceFile, if_neg hkind] at h
    have hcomposite : type.kind = .composite := by
      simpa [isDeclared, hkind] using hdeclared
    cases hfound : env.declarations.find? type with
    | none =>
        rw [interfaceFile_of_find?_eq_none hfound] at h
        obtain rfl := Except.ok.inj h
        exact ⟨List.nodup_nil, List.forall_mem_nil _⟩
    | some declaration =>
        cases htargets : resolveFields env declaration.visibleFields with
        | error rejection =>
            rw [interfaceFile_of_resolveFields_eq_error hfound htargets] at h
            cases h
        | ok targets =>
            rw [interfaceFile_of_find?_eq_some hfound htargets] at h
            obtain rfl := Except.ok.inj h
            refine ⟨nodup_importLines (nodup_importedNames _ targets), fun line hline => ?_⟩
            obtain ⟨name, hname, rfl⟩ := List.mem_map.mp hline
            obtain ⟨found, hmem, hfoundDeclared, hforeign, rfl⟩ :=
              exists_successor_of_imported hcomposite hfound htargets hname
            exact ⟨found, hmem, hfoundDeclared, hforeign, rfl⟩

end TypeRef

end CatalogClient
