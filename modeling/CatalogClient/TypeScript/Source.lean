/-
# Source files

The parts of a TypeScript source file and the text of each: interfaces, enumerations, request
functions and blocks of plain code. A project is a list of files in the order in which they were
added.
-/

import CatalogClient.Text.Casing
import CatalogClient.TypeScript.Expression
import CatalogClient.TypeScript.Url

namespace CatalogClient

/-- A function that sends one request. -/
structure RequestFunction where
  name : String
  method : String := "GET"
  url : Url
  arguments : List Argument := []
  body : Option String := none
  response : Expression := .word anyType
  deriving DecidableEq

/-- The text of a request function. -/
def RequestFunction.render (function : RequestFunction) : String :=
  "export const " ++ function.name ++ " = ("
    ++ ", ".intercalate (function.arguments.map Argument.render)
    ++ "): Promise<" ++ function.response.render ++ "> => "
    ++ "axios." ++ Text.lowerCase function.method ++ "(`" ++ function.url.interpolated ++ "`"
    ++ (if function.body.getD "" = "" then "" else ", " ++ function.body.getD "")
    ++ ").then(response => response.data).catch(error => \x7b throw error \x7d);"

/-- An interface with its type parameters and its members. -/
structure Interface where
  name : String
  typeParameters : List String := []
  members : List Argument := []
  deriving DecidableEq

/-- The name of an interface, with its type parameters if it has any. -/
def Interface.signature (interface : Interface) : String :=
  if interface.typeParameters.isEmpty then interface.name
  else interface.name ++ "<" ++ ", ".intercalate interface.typeParameters ++ ">"

/-- The text of an interface: one member a line. -/
def Interface.render (interface : Interface) : String :=
  "export interface " ++ interface.signature ++ " \x7b\n"
    ++ String.join (interface.members.map fun member => "\t" ++ member.render ++ ";\n") ++ "\x7d"

/-- An enumeration with its constants. -/
structure Enumeration where
  name : String
  constants : List String := []
  deriving DecidableEq

/-- The text of an enumeration: one constant a line, each with its own name as its value. -/
def Enumeration.render (enumeration : Enumeration) : String :=
  "export enum " ++ enumeration.name ++ " \x7b\n"
    ++ String.join (enumeration.constants.map fun constant =>
      "\t" ++ constant ++ " = \"" ++ constant ++ "\",\n") ++ "\x7d"

/-- A type that a source file declares. -/
inductive TypeDefinition
  | interface (definition : Interface)
  | enumeration (definition : Enumeration)
  deriving DecidableEq

/-- The name of a declared type. -/
def TypeDefinition.name : TypeDefinition → String
  | .interface definition => definition.name
  | .enumeration definition => definition.name

/-- The text of a declared type. -/
def TypeDefinition.render : TypeDefinition → String
  | .interface definition => definition.render
  | .enumeration definition => definition.render

/-- A list with an entry at its end, unless the list holds it already. -/
def addOnce {α : Type} [DecidableEq α] (entries : List α) (entry : α) : List α :=
  if entry ∈ entries then entries else entries ++ [entry]

/-- A text with every tab written as four spaces. -/
def expandTabs (text : String) : String :=
  String.ofList (text.toList.flatMap fun c => if c = '\t' then [' ', ' ', ' ', ' '] else [c])

/-- A source file. -/
structure SourceFile where
  name : String
  imports : List String := []
  definitions : List TypeDefinition := []
  functions : List RequestFunction := []
  codeBlocks : List String := []
  deriving DecidableEq

namespace SourceFile

/-- The file with an import line, unless it has the line already. -/
def addImport (file : SourceFile) (line : String) : SourceFile :=
  { file with imports := addOnce file.imports line }

/-- The file with one more declared type. -/
def addDefinition (file : SourceFile) (definition : TypeDefinition) : SourceFile :=
  { file with definitions := file.definitions ++ [definition] }

/-- The file with one more request function. -/
def addFunction (file : SourceFile) (function : RequestFunction) : SourceFile :=
  { file with functions := file.functions ++ [function] }

/-- The file with one more block of code. -/
def addCodeBlock (file : SourceFile) (code : String) : SourceFile :=
  { file with codeBlocks := file.codeBlocks ++ [code] }

/-- The parts of a file in the order of its text. -/
def sections (file : SourceFile) : List String :=
  ["\n".intercalate file.imports,
    "\n\n".intercalate (file.definitions.map TypeDefinition.render),
    "\n".intercalate (file.functions.map RequestFunction.render),
    "\n".intercalate (file.codeBlocks.map expandTabs)]

/-- The text of a file: its parts that are not empty, with an empty line between them, and without
tabs. -/
def render (file : SourceFile) : String :=
  expandTabs ("\n\n".intercalate (file.sections.filter fun part => decide (part ≠ ""))) ++ "\n"

end SourceFile

/-- The source files of a client. -/
structure Project where
  files : List SourceFile := []
  deriving DecidableEq

namespace Project

/-- The project with one more file. -/
def addFile (project : Project) (file : SourceFile) : Project :=
  ⟨project.files ++ [file]⟩

/-- The first file of a name. -/
def file? (project : Project) (name : String) : Option SourceFile :=
  project.files.find? fun file => decide (file.name = name)

/-- The names of all files. -/
def fileNames (project : Project) : List String :=
  project.files.map SourceFile.name

/-- The project with the first file of a name changed. -/
def changeFile (project : Project) (name : String) (change : SourceFile → SourceFile) : Project :=
  let before := project.files.takeWhile fun file => decide (file.name ≠ name)
  match project.files.dropWhile fun file => decide (file.name ≠ name) with
  | [] => project
  | file :: after => ⟨before ++ change file :: after⟩

/-- The project with the last file of a name changed. -/
def changeLastFile (project : Project) (name : String) (change : SourceFile → SourceFile) :
    Project :=
  let after := (project.files.reverse.takeWhile fun file => decide (file.name ≠ name)).reverse
  match project.files.reverse.dropWhile fun file => decide (file.name ≠ name) with
  | [] => project
  | file :: before => ⟨before.reverse ++ change file :: after⟩

/-- The project with a file moved to the end. -/
def moveLast (project : Project) (file : SourceFile) : Project :=
  ⟨project.files.erase file ++ [file]⟩

/-- The name and the text of every file. -/
def texts (project : Project) : List (String × String) :=
  project.files.map fun file => (file.name, file.render)

end Project

end CatalogClient
