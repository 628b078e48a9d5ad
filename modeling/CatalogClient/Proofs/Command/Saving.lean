/-
# What a run leaves of its client

A run that returns a project has generated it from a catalog and saved all its files. Every declared
type has a file name of its own, but the name of the file of the functions is fixed, and a name may
lead to the place of another one. So a file of the project is found under its name unless a later
one is written to the same place.
-/

import CatalogClient.Command.Run
import CatalogClient.Proofs.Client.Binding
import CatalogClient.Proofs.Client.Functions
import CatalogClient.Proofs.Session
import CatalogClient.Proofs.Storage.Save

namespace CatalogClient

namespace Catalog

/-- The files of a client are called for the registered names, and the last one for itself. -/
theorem fileNames_of_generate {catalog : Catalog} {scope : Scope} {extra : List String}
    {generated : Generated} (h : (catalog.generateWithin scope extra).outcome = .ok generated) :
    generated.project.declarationFiles.map SourceFile.name =
        generated.registry.taken.map Emission.fileName ∧
      generated.project.fileNames =
        generated.project.declarationFiles.map SourceFile.name ++ [functionsFileName] := by
  obtain ⟨hentries, hrender⟩ := emitted_of_generate h
  obtain ⟨functions, -, hfiles⟩ := files_of_generate h
  constructor
  · rw [TypeRef.fileNames_of_rendered hrender, taken_of_entries hentries]
  · rw [Project.fileNames, hfiles, List.map_append, functionsFile_eq]
    rfl

/-- Unless a declared type is called like the file of the functions, all files have names of their
own. -/
theorem nodup_fileNames_of_generate {catalog : Catalog} {scope : Scope} {extra : List String}
    {generated : Generated} (h : (catalog.generateWithin scope extra).outcome = .ok generated)
    (hforeign : ∀ file ∈ generated.project.declarationFiles, file.name ≠ functionsFileName) :
    generated.project.fileNames.Nodup := by
  obtain ⟨hdeclared, hfiles⟩ := fileNames_of_generate h
  obtain ⟨hnodup, -⟩ := nodup_of_generate h
  rw [hfiles]
  apply List.nodup_append.mpr
  refine ⟨by rw [hdeclared]; exact nodup_fileNames hnodup, List.nodup_singleton _, ?_⟩
  intro name hname other hother
  obtain ⟨file, hfile, rfl⟩ := List.mem_map.mp hname
  rw [List.mem_singleton.mp hother]
  exact hforeign file hfile

/-- No file of a client is without a name. -/
theorem name_ne_empty_of_generate {catalog : Catalog} {scope : Scope} {extra : List String}
    {generated : Generated} (h : (catalog.generateWithin scope extra).outcome = .ok generated) :
    ∀ file ∈ generated.project.declarationFiles, file.name ≠ "" := by
  obtain ⟨hdeclared, -⟩ := fileNames_of_generate h
  intro file hfile hempty
  have hname : file.name ∈ generated.registry.taken.map Emission.fileName := by
    rw [← hdeclared]
    exact List.mem_map_of_mem hfile
  obtain ⟨name, -, hsame⟩ := List.mem_map.mp hname
  have hlength := congrArg String.length (hsame.trans hempty)
  simp [Emission.fileName] at hlength

end Catalog

namespace Command

variable {surroundings : Surroundings} {settings : Settings} {start next ended : Session}
  {project : Project}

/-- The generation of a run only reports what it does. -/
theorem keeps_generate {R : Session → Session → Prop} (hR : Session.IgnoresReports R) (web : Web)
    (settings : Settings) : Staged.Effects R (generate web settings) := by
  unfold generate
  apply Run.keeps_bind hR (Run.keeps_print hR _)
  intro _
  apply Run.keeps_bind hR (Run.keeps_print hR _)
  intro _
  apply Run.keeps_bind hR (Run.keeps_ofExcept hR _)
  intro url
  apply Run.keeps_bind hR (Run.keeps_files hR)
  intro files
  apply Run.keeps_bind hR (Run.keeps_machine hR)
  intro machine
  apply Run.keeps_bind hR (Run.keeps_ofLogged hR _)
  intro catalog
  apply Run.keeps_bind hR (Run.keeps_print hR _)
  intro _
  have hrest : ∀ packages, Staged.Effects R
      (do return (← Run.ofLogged (generateFor catalog packages)).project) := by
    intro packages
    exact Run.keeps_bind hR (Run.keeps_ofLogged hR _) fun _ => Run.keeps_pure hR _
  cases settings.packages.parts? with
  | none => exact Run.keeps_bind hR (Run.keeps_throw hR _) hrest
  | some packages => exact Run.keeps_bind hR (Run.keeps_pure hR _) hrest

theorem generated_of_generateFor {catalog : Catalog} {packages : List Toml}
    {generated : Generated} (h : (generateFor catalog packages).outcome = .ok generated) :
    ∃ scope, (catalog.generateWithin scope []).outcome = .ok generated := by
  unfold generateFor at h
  simp only at h
  split at h
  · exact ⟨_, Except.mapError_eq_ok_iff.mp h⟩
  · split at h
    · exact ⟨_, Except.mapError_eq_ok_iff.mp h⟩
    · cases h

/-- The project of a run is that of a catalog. -/
theorem generated_of_generate {web : Web}
    (h : generate web settings start = (next, .ok project)) :
    ∃ (catalog : Catalog) (scope : Scope) (generated : Generated),
      (catalog.generateWithin scope []).outcome = .ok generated ∧ generated.project = project := by
  unfold generate at h
  rw [Run.print_bind, Run.print_bind] at h
  obtain ⟨_, url, -, h⟩ := Staged.bind_eq_ok_iff.mp h
  rw [Run.files_bind, Run.machine_bind] at h
  obtain ⟨_, catalog, -, h⟩ := Staged.bind_eq_ok_iff.mp h
  rw [Run.print_bind] at h
  cases hpackages : settings.packages.parts? with
  | none =>
      rw [hpackages] at h
      cases h
  | some packages =>
      simp only [hpackages, Staged.pure_bind] at h
      obtain ⟨_, generated, hgenerated, hproject⟩ := Staged.bind_eq_ok_iff.mp h
      obtain ⟨scope, hscope⟩ := generated_of_generateFor (Prod.mk.inj hgenerated).2
      exact ⟨catalog, scope, generated, hscope, Except.ok.inj (Prod.mk.inj hproject).2⟩

/-- Saving in a directory notes one record and changes the files as the project does. -/
theorem saveIn_eq (directory : String) (project : Project) (start : Session) :
    saveIn directory project start =
      ({ start.notes [project.saveRecord directory] with
          files := (project.save directory start.files).1 },
        (project.save directory start.files).2.mapError .saving) :=
  rfl

theorem saved_of_saveIn {directory : String}
    (h : saveIn directory project start = (next, .ok ())) :
    project.save directory start.files = (next.files, .ok ()) := by
  rw [saveIn_eq] at h
  obtain ⟨rfl, houtcome⟩ := Prod.mk.inj h
  exact Prod.ext rfl (Except.mapError_eq_ok_iff.mp houtcome)

/-- The saving of a run writes the project and nothing else. -/
theorem saved_of_save (h : save settings project start = (next, .ok ())) :
    ∃ directory, settings.directoryText = .ok directory ∧
      project.save directory start.files = (next.files, .ok ()) := by
  unfold save at h
  rw [Run.print_bind] at h
  cases hdirectory : settings.directoryText with
  | error fault =>
      rw [hdirectory] at h
      cases h
  | ok directory =>
      simp only [hdirectory, Staged.pure_bind] at h
      refine ⟨directory, rfl, ?_⟩
      obtain ⟨saved, _, hsaved, h⟩ := Staged.bind_eq_ok_iff.mp h
      rw [Run.files_bind, Run.print_bind] at h
      obtain rfl := (Prod.mk.inj h).1
      have hwritten := saved_of_saveIn hsaved
      exact hwritten

/-- A run without a repository produces the client once the settings are found valid. -/
theorem run_without_repository {noGit : Bool} (h : noGit = true ∨ settings.usesGit = false) :
    run surroundings settings noGit start =
      (Staged.ofExcept ((settings.validate start.files).mapError .settings) >>=
        fun _ => produce surroundings.web settings) start := by
  have hoff : (!noGit && settings.usesGit) = false := by
    rcases h with rfl | hunused
    · rfl
    · rw [hunused, Bool.and_false]
  unfold run
  rw [Run.files_bind, hoff]
  rfl

/-- A run without a repository that returns a project has generated it and saved all its files. -/
theorem saved_of_run {noGit : Bool} (hgit : noGit = true ∨ settings.usesGit = false)
    (h : run surroundings settings noGit start = (ended, .ok project)) :
    (∃ directory, settings.directoryText = .ok directory ∧
      project.save directory start.files = (ended.files, .ok ())) ∧
    ∃ (catalog : Catalog) (scope : Scope) (generated : Generated),
      (catalog.generateWithin scope []).outcome = .ok generated ∧ generated.project = project := by
  rw [run_without_repository hgit] at h
  obtain ⟨_, _, hvalid, h⟩ := Staged.bind_eq_ok_iff.mp h
  obtain rfl := (Prod.mk.inj hvalid).1
  obtain ⟨generated, _, hgenerate, h⟩ := Staged.bind_eq_ok_iff.mp h
  obtain ⟨saved, _, hsave, h⟩ := Staged.bind_eq_ok_iff.mp h
  obtain ⟨rfl, hproject⟩ := Prod.mk.inj h
  obtain rfl := Except.ok.inj hproject
  obtain ⟨directory, hdirectory, hsaved⟩ := saved_of_save hsave
  have hkept := keeps_generate Session.sameFiles_ignoresReports surroundings.web settings start
  rw [hgenerate] at hkept
  rw [hkept] at hsaved
  exact ⟨⟨directory, hdirectory, hsaved⟩, generated_of_generate hgenerate⟩

theorem generate_succeeds {web : Web} {url : String} {catalog : Catalog} {packages : List Toml}
    {generated : Generated} (hurl : settings.urlText = .ok url)
    (hload : (Catalog.load web start.files url start.machine).outcome = .ok catalog)
    (hpackages : settings.packages.parts? = some packages)
    (hgenerated : (generateFor catalog packages).outcome = .ok generated) :
    ∃ next, generate web settings start = (next, .ok generated.project) := by
  unfold generate
  simp only [Staged.bind_eq_ok_iff, hpackages]
  refine ⟨_, _, _, rfl, _, _, rfl, _, url, Prod.ext rfl ?_, _, _, rfl, _, _, rfl, _, catalog,
    Prod.ext rfl ?_, _, _, rfl, _, packages, rfl, _, generated, Prod.ext rfl ?_, rfl⟩
  · exact Except.mapError_eq_ok_iff.mpr hurl
  · exact Except.mapError_eq_ok_iff.mpr hload
  · exact hgenerated

theorem saveIn_succeeds {directory : String} {files : FileSystem}
    (hsaved : project.save directory start.files = (files, .ok ())) :
    ∃ next, saveIn directory project start = (next, .ok ()) := by
  rw [saveIn_eq, hsaved]
  exact ⟨_, rfl⟩

theorem save_succeeds {directory : String} {files : FileSystem}
    (hdirectory : settings.directoryText = .ok directory)
    (hsaved : project.save directory start.files = (files, .ok ())) :
    ∃ next, save settings project start = (next, .ok ()) := by
  obtain ⟨saved, hsavedIn⟩ : ∃ saved, saveIn directory project
      (start.print ("💾 Сохранение " ++ toString project.files.length ++ " файлов...")) =
        (saved, .ok ()) :=
    saveIn_succeeds hsaved
  unfold save
  rw [hdirectory]
  simp only [Staged.bind_eq_ok_iff]
  exact ⟨_, _, _, rfl, _, directory, rfl, saved, (), hsavedIn, _, _, rfl, _, _, rfl, rfl⟩

/-- A client is produced if all the parts of its production go well. -/
theorem produce_succeeds {web : Web} {url directory : String} {catalog : Catalog}
    {packages : List Toml} {generated : Generated} {files : FileSystem}
    (hurl : settings.urlText = .ok url)
    (hload : (Catalog.load web start.files url start.machine).outcome = .ok catalog)
    (hpackages : settings.packages.parts? = some packages)
    (hgenerated : (generateFor catalog packages).outcome = .ok generated)
    (hdirectory : settings.directoryText = .ok directory)
    (hsaved : generated.project.save directory start.files = (files, .ok ())) :
    ∃ ended, produce web settings start = (ended, .ok generated.project) := by
  obtain ⟨next, hnext⟩ := generate_succeeds hurl hload hpackages hgenerated
  have hkept := keeps_generate Session.sameFiles_ignoresReports web settings start
  rw [hnext] at hkept
  rw [← hkept] at hsaved
  obtain ⟨last, hlast⟩ := save_succeeds hdirectory hsaved
  refine ⟨last, ?_⟩
  unfold produce
  rw [Staged.bind_of_ok hnext, Staged.bind_of_ok hlast]
  rfl

/-- A run without a repository that finds its settings valid is the production of the client. -/
theorem run_of_valid {noGit : Bool} (hgit : noGit = true ∨ settings.usesGit = false)
    (hvalid : settings.validate start.files = .ok ()) :
    run surroundings settings noGit start = produce surroundings.web settings start := by
  rw [run_without_repository hgit, hvalid]
  rfl

end Command

namespace Sample

/-- The document of a catalog whose only operation answers with an enumeration called api. -/
def sharedText : String :=
  "\x7b\"operations\": \x7b\"api\": \x7b\"url\": \"/api\", \"function_name\": \"getApi\", "
    ++ "\"return_type\": \x7b\"kind\": \"enum\", \"name\": \"api\"\x7d\x7d\x7d\x7d"

def sharedEnumeration : TypeRef :=
  .named .enumeration (some "api")

def sharedCatalog : Catalog where
  operations := [("api", {
    url := "/api", functionName := "getApi", returnType := sharedEnumeration })]
  declarations := .ofList []

def surroundings : Surroundings := ⟨fun _ => .failed "", {}⟩

def settings : Settings where
  url := some (.string "catalog.json")
  directory := some (.string "ts")

/-- A session in a directory with the document. -/
def session : Session where
  files := { nodes := [(["catalog.json"], .file sharedText.toUTF8)] }

theorem load_shared :
    (Catalog.load surroundings.web session.files "catalog.json").outcome = .ok sharedCatalog := by
  have hloaded : (Catalog.load surroundings.web session.files "catalog.json").outcome.toOption =
      some sharedCatalog := by
    decide +kernel
  cases houtcome : (Catalog.load surroundings.web session.files "catalog.json").outcome with
  | error fault =>
      rw [houtcome] at hloaded
      cases hloaded
  | ok catalog =>
      rw [houtcome] at hloaded
      rw [Option.some.inj hloaded]

/-- The file of the enumeration. -/
def sharedDeclaration : SourceFile where
  name := "api.ts"
  definitions := [.enumeration { name := "api" }]

/-- The file of the functions. -/
def sharedFunctions : SourceFile where
  name := "api.ts"
  imports := [functionsHeader, functionsImportLine "api"]
  functions := [{
    name := "getApi", method := "GET", url := { path := "/api" }, response := .ofWord "api" }]
  codeBlocks := defaultFunctions

/-- One text starts with an export and the other one with an import. -/
theorem render_ne : sharedDeclaration.render ≠ sharedFunctions.render := by
  intro hsame
  have hdeclaration : sharedDeclaration.render.toList.head? = some 'e' := by decide +kernel
  have hfunctions : sharedFunctions.render.toList.head? = some 'i' :=
    SourceFile.head?_render rfl (by decide) (by decide)
  rw [hsame, hfunctions] at hdeclaration
  cases hdeclaration

/-- A catalog whose only operation answers with an enumeration. -/
def enumerationCatalog (name : String) : Catalog where
  operations := [("api", {
    url := "/api", functionName := "getApi", returnType := .named .enumeration (some name) })]
  declarations := .ofList []

def enumerationFile (name : String) : SourceFile where
  name := Emission.fileName name
  definitions := [.enumeration { name }]

def enumerationFunctions (name : String) : SourceFile where
  name := functionsFileName
  imports := [functionsHeader, functionsImportLine name]
  functions := [{
    name := "getApi", method := "GET", url := { path := "/api" }, response := .ofWord name }]
  codeBlocks := defaultFunctions

theorem functionsResolved_enumeration (name : String) :
    Catalog.functionsResolved ((enumerationCatalog name).environment (.ofPackages []))
      (enumerationCatalog name).operations = .ok (enumerationFunctions name).functions := by
  have hplaceholders : ({ path := "/api" } : Url).placeholders.eraseDups = [] := by decide
  simp only [Catalog.functionsResolved, enumerationCatalog, List.mapM_cons, List.mapM_nil,
    Operation.requestResolved, Operation.request, hplaceholders]
  rfl

/-- The client of such a catalog has the file of the enumeration and that of the functions, whatever
the enumeration is called. -/
theorem generate_enumeration (name : String) :
    ∃ generated, ((enumerationCatalog name).generate []).outcome = .ok generated ∧
      generated.project.files = [enumerationFile name, enumerationFunctions name] := by
  have hbuilt := functionsResolved_enumeration name
  obtain ⟨generated, h⟩ :
      ∃ generated, ((enumerationCatalog name).generate []).outcome = .ok generated := by
    apply Catalog.generateWithin_returns_of_resolvable []
    · exact fun _ hentry => absurd hentry List.not_mem_nil
    · intro entry hentry type htype
      obtain rfl := List.mem_singleton.mp hentry
      obtain rfl := List.mem_singleton.mp htype
      rfl
    · rw [hbuilt]
      rfl
  refine ⟨generated, h, ?_⟩
  obtain ⟨found, functions, -, hextends, hfunctions, -, hfiles⟩ := Catalog.generateWithin_eq_ok h
  have hvisits : ((enumerationCatalog name).environment (.ofPackages [])).visits []
      ((enumerationCatalog name).roots ((enumerationCatalog name).environment (.ofPackages []))) =
        [.named .enumeration (some name)] := by
    have hroots : (enumerationCatalog name).roots
        ((enumerationCatalog name).environment (.ofPackages [])) =
          [.named .enumeration (some name)] :=
      rfl
    have hsuccessors : ((enumerationCatalog name).environment (.ofPackages [])).successors
        (.named .enumeration (some name)) = [] :=
      rfl
    rw [hroots, Environment.visits_cons_of_fresh _ rfl List.not_mem_nil, hsuccessors,
      Environment.visits_nil, Environment.visits_nil]
    rfl
  rw [hvisits] at hextends
  obtain ⟨files, hproject, hrender⟩ := hextends.files
  have hregistry : found.registry = { entries := [(name, name)] } := by
    rcases hparts : found.registry with ⟨entries, nameless⟩
    have hentries := hextends.entries
    have hnameless := hextends.nameless
    rw [hparts] at hentries hnameless
    rw [show entries = [(name, name)] from hentries, show nameless = none from hnameless]
  obtain rfl : files = [enumerationFile name] := by
    obtain ⟨file, rest, rfl, hfile, hrest⟩ := List.map_eq_cons_iff.mp hrender.symm
    obtain rfl := List.map_eq_nil_iff.mp hrest
    obtain rfl := Except.ok.inj hfile
    rfl
  obtain rfl := Except.ok.inj (hfunctions.symm.trans hbuilt)
  have hnames : ({ entries := [(name, name)] } : Registry).names = [name] :=
    List.mergeSort_singleton _
  rw [hfiles, hproject, hregistry, Catalog.functionsFile_eq, hnames]
  rfl

theorem generate_shared : ∃ generated, (sharedCatalog.generate []).outcome = .ok generated ∧
    generated.project.files = [sharedDeclaration, sharedFunctions] :=
  generate_enumeration "api"

/-- A file below a directory at the root of the session is written once the directory is made. -/
theorem writeWithin_shared (files : FileSystem) (content : ByteArray) :
    files.writeWithin "ts/api.ts" content =
      match files.makeLast "ts" with
      | (made, .error fault) => (made, .error fault)
      | (made, .ok ()) =>
          match made.write "ts/api.ts" content with
          | .error fault => (made, .error fault)
          | .ok written => (written, .ok ()) := by
  have hplace : (if PathText.directory "ts/api.ts" = "" then "."
      else PathText.directory "ts/api.ts") = "ts" := by
    decide
  have hmade : files.makeDirectories "ts" = files.makeLast "ts" := by
    rw [FileSystem.makeDirectories, dif_neg]
    rintro ⟨-, hhead, -⟩
    exact hhead rfl
  rw [← hmade, ← hplace]
  rfl

/-- Both files are written to the same place. -/
theorem save_shared (document : ByteArray) {first second : SourceFile}
    (hfirst : first.name = "api.ts") (hsecond : second.name = "api.ts") :
    ∃ files, (⟨[first, second]⟩ : Project).save "ts"
      { nodes := [(["catalog.json"], .file document)] } = (files, .ok ()) := by
  have hpaths : Project.pathIn "ts" first = "ts/api.ts" ∧
      Project.pathIn "ts" second = "ts/api.ts" := by
    rw [Project.pathIn, Project.pathIn, hfirst, hsecond]
    exact ⟨rfl, rfl⟩
  unfold Project.save
  simp only [List.map_cons, List.map_nil, hpaths.1, hpaths.2, FileSystem.writeAll,
    writeWithin_shared]
  generalize first.render.toUTF8 = content
  generalize second.render.toUTF8 = other
  exact ⟨_, rfl⟩

/-- Wherever the document lies alone, the client of its catalog is produced. -/
theorem produce_shared (git : Option Toml) {start : Session}
    (hstart : start.FindsAround ⟨session.files, {}⟩) :
    ∃ ended, Command.produce surroundings.web { settings with gitUrl := git } start =
      (ended, .ok ⟨[sharedDeclaration, sharedFunctions]⟩) := by
  obtain ⟨generated, hgenerated, hproject⟩ := generate_shared
  have hsame : generated.project = ⟨[sharedDeclaration, sharedFunctions]⟩ :=
    congrArg Project.mk hproject
  obtain ⟨files, hsaved⟩ : ∃ files,
      generated.project.save "ts" session.files = (files, .ok ()) := by
    rw [hsame]
    exact save_shared _ rfl rfl
  obtain ⟨hfiles, hmachine⟩ := hstart
  have hload : (Catalog.load surroundings.web start.files "catalog.json" start.machine).outcome =
      .ok sharedCatalog := by
    rw [hfiles, hmachine]
    exact load_shared
  rw [← show start.files = session.files from hfiles] at hsaved
  rw [← hsame]
  exact Command.produce_succeeds rfl hload rfl (Except.mapError_eq_ok_iff.mpr hgenerated) rfl hsaved

end Sample

namespace Command

variable {surroundings : Surroundings} {settings : Settings} {start ended : Session}
  {project : Project}

/-- What a run without a repository leaves of the project that it returns: under the name of a file
stands the text of the last file of the same place, and an earlier text is lost. So every file
survives exactly if the files that share a place have the same text. No place is shared if no name
has a slash and no declared type is called like the file of the functions. -/
theorem run_keeps_last_of_place {noGit : Bool} (hgit : noGit = true ∨ settings.usesGit = false)
    (h : run surroundings settings noGit start = (ended, .ok project)) :
    ∃ directory, settings.directoryText = .ok directory ∧
      (∀ file ∈ project.files, ∃ before last after, project.files = before ++ last :: after ∧
        Project.place? directory ended.files last = Project.place? directory ended.files file ∧
        (∀ other ∈ after,
          Project.place? directory ended.files other ≠
            Project.place? directory ended.files file) ∧
        ended.files.read (Project.pathIn directory file) = .ok last.render.toUTF8) ∧
      ((∀ file ∈ project.files, Project.Survives directory ended.files file) ↔
        ∀ file ∈ project.files, ∀ other ∈ project.files,
          Project.place? directory ended.files file = Project.place? directory ended.files other →
            file.render = other.render) ∧
      ((∀ file ∈ project.declarationFiles,
          '/' ∉ file.name.toList ∧ file.name ≠ functionsFileName) →
        ∀ file ∈ project.files, Project.Survives directory ended.files file) := by
  obtain ⟨⟨directory, hdirectory, hsaved⟩, catalog, scope, generated, hgenerated, rfl⟩ :=
    saved_of_run hgit h
  refine ⟨directory, hdirectory, fun file => Project.read_of_save hsaved,
    Project.survive_iff hsaved, fun hplain => ?_⟩
  apply Project.survive_of_fileNames hsaved
  · exact Catalog.nodup_fileNames_of_generate hgenerated fun file hfile => (hplain file hfile).2
  · obtain ⟨functions, -, hfiles⟩ := Catalog.files_of_generate hgenerated
    intro file hfile
    rw [hfiles] at hfile
    rcases List.mem_append.mp hfile with hfile | hfile
    · exact ⟨Catalog.name_ne_empty_of_generate hgenerated file hfile, (hplain file hfile).1⟩
    · rw [List.mem_singleton.mp hfile, Catalog.functionsFile_eq]
      show functionsFileName ≠ "" ∧ '/' ∉ functionsFileName.toList
      decide

theorem run_keeps_last_of_place_sample :
    ∃ ended project, run Sample.surroundings Sample.settings true Sample.session =
        (ended, .ok project) ∧
      project.fileNames = ["api.ts", "api.ts"] ∧
      ¬∀ file ∈ project.files, Project.Survives "ts" ended.files file := by
  obtain ⟨ended, hproduced⟩ : ∃ ended,
      produce Sample.surroundings.web Sample.settings Sample.session = (ended, .ok _) :=
    Sample.produce_shared none ⟨rfl, rfl⟩
  have h : run Sample.surroundings Sample.settings true Sample.session = (ended, .ok _) :=
    (run_of_valid (Or.inl rfl) rfl).trans hproduced
  obtain ⟨directory, hdirectory, -, hsurvive, -⟩ := run_keeps_last_of_place (Or.inl rfl) h
  obtain rfl : "ts" = directory := Except.ok.inj hdirectory
  refine ⟨ended, _, h, rfl, ?_⟩
  rw [hsurvive]
  intro hsame
  have htexts : Sample.sharedDeclaration.render = Sample.sharedFunctions.render :=
    hsame _ List.mem_cons_self _ (List.mem_cons_of_mem _ List.mem_cons_self) rfl
  exact Sample.render_ne htexts

end Command

end CatalogClient
