/-
# A type is used as it is declared

The client writes a composite type in two places. Where the type is used, an expression is made of
its name and its parameters; where it is declared, an interface writes its own signature. Both ask
the declarations by themselves, and an expression has an escape that a signature has not: a wrapper
around nothing gives way to the type of all values. So the two texts are the same unless there is
nothing between the brackets, and only one list of parameters leaves nothing there.
-/

import CatalogClient.Proofs.Emission.Stops
import CatalogClient.Proofs.Resolution.Text

namespace CatalogClient

theorem Interface.signature_eq (interface : Interface) :
    interface.signature =
      if interface.typeParameters = [] then interface.name
      else angled interface.name interface.typeParameters := by
  simp only [signature, List.isEmpty_iff, angled]

/-- A declared type reads as the signature of its interface, unless its only parameter has no name.
-/
theorem headText_eq_signature_iff (interface : Interface) :
    headText interface.name interface.typeParameters = interface.signature ↔
      interface.typeParameters ≠ [""] := by
  rw [headText, Interface.signature_eq]
  by_cases hnone : interface.typeParameters = []
  · simp [hnone]
  · rw [if_neg hnone, if_neg hnone]
    by_cases hblank : interface.typeParameters = [""]
    · rw [if_pos hblank]
      exact iff_of_false (angled_ne_anyType _ _).symm (not_not_intro hblank)
    · rw [if_neg hblank]
      exact iff_of_true rfl hblank

variable {env : Environment}

namespace TypeRef

variable {type : TypeRef}

/-- The resolution of a composite type of a scanned package never fails. -/
theorem resolve_of_composite (hkind : type.kind = .composite)
    (hadmits : env.scope.admits type.package = true) :
    ∃ target, (type.resolve env).outcome = .ok target ∧ target.expression = type.head env := by
  rcases type with ⟨kind, name, package, component, rawKind, raw, arguments, bounds⟩
  obtain rfl : kind = .composite := hkind
  rw [resolve, resolveComposite, if_pos hadmits]
  exact ⟨_, rfl, rfl⟩

/-- Only a declaration can leave a type with a single parameter without a name. -/
theorem parameters_ne_blank_iff :
    type.parameters env ≠ [""] ↔
      ∀ declaration, env.declarations.find? type = some declaration →
        declaration.typeParameters ≠ [""] := by
  unfold parameters
  cases env.declarations.find? type with
  | none => simp
  | some declaration => simp

/-- The file of a composite type declares one interface with the name and the parameters of the
type. -/
theorem interface_of_sourceFile (hkind : type.kind = .composite) {file : SourceFile}
    (h : type.sourceFile env = .ok file) :
    ∃ definition : Interface, file.definitions = [.interface definition] ∧
      definition.name = type.simpleName ∧ definition.typeParameters = type.parameters env := by
  rw [sourceFile, if_neg (by rw [hkind]; decide), interfaceFile] at h
  cases htargets : resolveFields env
      (((env.declarations.find? type).map Declaration.visibleFields).getD []) with
  | error rejection =>
      simp only [htargets] at h
      cases h
  | ok targets =>
      simp only [htargets] at h
      obtain rfl := Except.ok.inj h
      exact ⟨_, rfl, rfl, rfl⟩

end TypeRef

namespace Emission

theorem emitInterface?_of_isSome {type : TypeRef} (hname : type.name.isSome = true)
    (start : Emission) :
    emitInterface? env type start =
      ((start.emitInterface env type).emission, (start.emitInterface env type).outcome) :=
  congrFun (if_pos hname) start

section Fresh

variable {start next : Emission} {type : TypeRef} {file : Option String}

/-- A composite type whose name is free gets a file of its own if its emission succeeds. -/
theorem Emits.fileName_of_fresh (h : Emits env start type next (.ok file))
    (hkind : type.kind = .composite) (hfresh : type.simpleName ∉ start.registry.taken) :
    file = some (fileName type.simpleName) := by
  cases h with
  | passed plain => simp [TypeRef.isDeclared, hkind] at plain
  | taken _ closed => exact absurd (opened?_eq_none_iff.mp closed) hfresh
  | enumeration | undeclared | interface => rfl

/-- The new file is the first one after those that were there. -/
theorem Emits.file_of_fresh (h : Emits env start type next (.ok file))
    (hkind : type.kind = .composite) (hfresh : type.simpleName ∉ start.registry.taken) :
    ∃ source below, next.project.files = start.project.files ++ source :: below ∧
      type.sourceFile env = .ok source := by
  have hdeclared : type.isDeclared = true := by simp [TypeRef.isDeclared, hkind]
  obtain ⟨files, hfiles, hrender⟩ := (h.extends rfl).files
  rw [Environment.visits_cons_of_fresh [] hdeclared hfresh, List.cons_append] at hrender
  obtain ⟨source, below, rfl, hsource, -⟩ := List.map_eq_cons_iff.mp hrender.symm
  exact ⟨source, below, hfiles, hsource.symm⟩

end Fresh

/-- Uses agree with declarations. A composite type of a scanned package always resolves. If its name
is free, then its emission either adds a file with one interface, or stops at a field that does not
resolve. The type reads, character for character, as the signature of that interface, with one
exception: a declaration whose only type parameter has no name. -/
theorem use_reads_as_signature {type : TypeRef} {start : Emission} (hkind : type.kind = .composite)
    (hname : type.name.isSome = true) (hadmits : env.scope.admits type.package = true)
    (hfresh : type.simpleName ∉ start.registry.taken) :
    ∃ target next outcome, (type.resolve env).outcome = .ok target ∧
      emitInterface? env type start = (next, outcome) ∧
      ((∃ rejection, outcome = .error rejection ∧
          ∃ owner ∈ env.visits start.registry.taken [type], env.StopsAt rejection owner) ∨
        ∃ source below definition, outcome = .ok (some source.name) ∧
          next.project.files = start.project.files ++ source :: below ∧
          source.definitions = [.interface definition] ∧
          (target.expression.render = definition.signature ↔
            ∀ declaration, env.declarations.find? type = some declaration →
              declaration.typeParameters ≠ [""])) := by
  obtain ⟨target, htarget, hexpression⟩ := TypeRef.resolve_of_composite hkind hadmits
  have hemits : Emits env start type (start.emitInterface env type).emission
      (start.emitInterface env type).outcome := walk_emits.2.1 start type hkind
  refine ⟨target, _, _, htarget, emitInterface?_of_isSome hname start, ?_⟩
  cases houtcome : (start.emitInterface env type).outcome with
  | error rejection => exact Or.inl ⟨rejection, rfl, hemits.stops houtcome⟩
  | ok file =>
      rw [houtcome] at hemits
      obtain ⟨source, below, hfiles, hsource⟩ := hemits.file_of_fresh hkind hfresh
      obtain ⟨definition, hdefinition, hown, hparameters⟩ :=
        TypeRef.interface_of_sourceFile hkind hsource
      refine Or.inr ⟨source, below, definition, ?_, hfiles, hdefinition, ?_⟩
      · rw [(TypeRef.names_of_sourceFile hsource).1, hemits.fileName_of_fresh hkind hfresh]
      · rw [hexpression, TypeRef.render_head, ← hown, ← hparameters, headText_eq_signature_iff,
          hparameters]
        exact TypeRef.parameters_ne_blank_iff

/-- A page is used as it is declared, with its parameter. -/
theorem use_reads_as_signature_sample :
    (Sample.composite "Page").name.isSome = true ∧
      Sample.pages.scope.admits (Sample.composite "Page").package = true ∧
      (Sample.composite "Page").simpleName ∉ ({} : Emission).registry.taken ∧
      ∃ target next source below definition,
        ((Sample.composite "Page").resolve Sample.pages).outcome = .ok target ∧
          emitInterface? Sample.pages (Sample.composite "Page") {} =
            (next, .ok (some source.name)) ∧
          next.project.files = source :: below ∧
          source.definitions = [.interface definition] ∧
          definition.signature = "Page<T>" ∧ target.expression.render = definition.signature := by
  have hadmits : Sample.pages.scope.admits (Sample.composite "Page").package = true := by decide
  have hfound : Sample.pages.declarations.find? (Sample.composite "Page") =
      some { name := "Page", package := some "app", typeParameters := ["T"] } := by decide
  have hfresh : (Sample.composite "Page").simpleName ∉ ({} : Emission).registry.taken := by decide
  obtain ⟨target, next, outcome, htarget, hemit, hcases⟩ :=
    use_reads_as_signature rfl rfl hadmits hfresh
  refine ⟨rfl, hadmits, hfresh, ?_⟩
  rcases hcases with ⟨rejection, -, owner, howner, -, declaration, hdeclared, field, hfield, -⟩ |
    ⟨source, below, definition, rfl, hfiles, hdefinition, hsame⟩
  · have hleaf : Sample.pages.successors (Sample.composite "Page") = [] := by decide
    rw [Environment.visits_cons_of_fresh [] (by decide) (by decide), hleaf] at howner
    obtain rfl : owner = Sample.composite "Page" := by simpa using howner
    cases hfound.symm.trans hdeclared
    cases hfield
  · obtain ⟨target', htarget', hhead⟩ := TypeRef.resolve_of_composite rfl hadmits
    obtain rfl := Except.ok.inj (htarget.symm.trans htarget')
    have hread := hsame.mpr (by rw [hfound]; rintro _ ⟨⟩; decide)
    refine ⟨target, next, source, below, definition, htarget, hemit, hfiles, hdefinition, ?_,
      hread⟩
    rw [← hread, hhead, TypeRef.render_head]
    decide

end Emission

end CatalogClient
