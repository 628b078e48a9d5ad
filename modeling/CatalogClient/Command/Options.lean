/-
# Options of the command

The command takes options only. A name may be cut short as long as it fits one option. An option
with a value takes it after an equals sign or as the next argument, which must not look like an
option. The option for help ends the reading as soon as it is met, whether or not the arguments
before it were all of use; a name that fits several options is found out before.
-/

import CatalogClient.Settings.Basic
import CatalogClient.Text.Integer

namespace CatalogClient

/-- The options of the command. -/
inductive OptionName
  | help
  | url
  | directory
  | package
  | gitUrl
  | gitUsername
  | gitToken
  | noGit
  | initConfig
  | verbose
  deriving DecidableEq, Repr

namespace OptionName

/-- All options. -/
def all : List OptionName :=
  [.help, .url, .directory, .package, .gitUrl, .gitUsername, .gitToken, .noGit, .initConfig,
    .verbose]

/-- How an option is written. -/
def label : OptionName → String
  | .help => "--help"
  | .url => "--url"
  | .directory => "--dirname"
  | .package => "--package"
  | .gitUrl => "--git-url"
  | .gitUsername => "--git-username"
  | .gitToken => "--git-token"
  | .noGit => "--no-git"
  | .initConfig => "--init-config"
  | .verbose => "--verbose"

/-- The option that is written in full. -/
def ofLabel? (text : List Char) : Option OptionName :=
  all.find? fun option => decide (option.label.toList = text)

/-- The options whose names start with a text of two dashes. -/
def abbreviated (text : List Char) : List OptionName :=
  if ['-', '-'].isPrefixOf text then all.filter fun option => text.isPrefixOf option.label.toList
  else []

end OptionName

/-- What a list of arguments asks for. -/
structure Options where
  overrides : Overrides := {}
  noGit : Bool := false
  initConfig : Bool := false
  verbose : Bool := false
  deriving DecidableEq, Repr

/-- Why arguments are not read as options. -/
inductive Refusal
  | help
  | misfit
  deriving DecidableEq, Repr

/-- An argument as it looks by itself. After a divider no argument is an option. -/
inductive ArgumentLook
  | option (name : OptionName) (value : Option String)
  | plain
  | unknown
  | ambiguous
  | divider
  deriving DecidableEq, Repr

/-- The text before the first equals sign and the text after it. -/
def splitAtEquals? (text : List Char) : Option (List Char × String) :=
  match text.dropWhile (· ≠ '=') with
  | [] => none
  | _ :: value => some (text.takeWhile (· ≠ '='), String.ofList value)

/-- Whether a text is a number with a minus sign; a line end after it is let pass. -/
def isNegativeNumber (text : List Char) : Bool :=
  match if text.getLast? = some '\n' then text.dropLast else text with
  | '-' :: rest =>
      let isDigit := fun c => (Text.digitValue? c).isSome
      let afterWhole := rest.dropWhile isDigit
      match afterWhole with
      | [] => !rest.isEmpty
      | '.' :: fraction => !fraction.isEmpty && fraction.all isDigit
      | _ => false
  | _ => false

/-- The look of an argument that starts with a dash but is no option: negative numbers and texts
with spaces are plain. -/
def lookOfDashed (text : List Char) : ArgumentLook :=
  if isNegativeNumber text || text.contains ' ' then .plain else .unknown

/-- The look of the short name of the option for help, after its first letter. The letter may be
given several times; what follows is not held against it unless it looks like a value or an option.
-/
def lookOfShortHelp (text : List Char) : ArgumentLook :=
  match text.dropWhile (· = 'h') with
  | '=' :: value => .option .help (some (String.ofList value))
  | '-' :: rest => .option .help (some (String.ofList ('-' :: rest)))
  | _ => .option .help none

/-- How an argument looks. -/
def lookOf (argument : String) : ArgumentLook :=
  let text := argument.toList
  if text.head? ≠ some '-' || text = ['-'] then .plain
  else if text = ['-', '-'] then .divider
  else if ['-', 'h'].isPrefixOf text then lookOfShortHelp (text.drop 2)
  else
    match OptionName.ofLabel? text with
    | some name => .option name none
    | none =>
        let (start, value) :=
          match splitAtEquals? text with
          | some (start, value) => (start, some value)
          | none => (text, none)
        match OptionName.ofLabel? start, OptionName.abbreviated start with
        | some name, _ => .option name value
        | none, [name] => .option name value
        | none, [] => lookOfDashed text
        | none, _ => .ambiguous

namespace Options

/-- The settings that options take the place of, with a value put in, for an option that has one. -/
def valued? (overrides : Overrides) (value : String) : OptionName → Option Overrides
  | .help => none
  | .url => some { overrides with url := some value }
  | .directory => some { overrides with directory := some value }
  | .package => some { overrides with packages := overrides.packages ++ [value] }
  | .gitUrl => some { overrides with gitUrl := some value }
  | .gitUsername => some { overrides with gitUsername := some value }
  | .gitToken => some { overrides with gitToken := some value }
  | .noGit => none
  | .initConfig => none
  | .verbose => none

/-- The options with a value put in, for an option that takes one. -/
def withValue? (options : Options) (value : String) (name : OptionName) : Option Options :=
  (valued? options.overrides value name).map fun overrides => { options with overrides }

/-- The options with a switch turned on, for an option that is one. -/
def switchedOn? (options : Options) : OptionName → Option Options
  | .noGit => some { options with noGit := true }
  | .initConfig => some { options with initConfig := true }
  | .verbose => some { options with verbose := true }
  | _ => none

/-- Go on with the arguments after the options read so far. An argument of no use is passed over,
but then the arguments do not fit. -/
def readAfter (options : Options) (fits : Bool) : List String → Except Refusal Options
  | [] => if fits then .ok options else .error .misfit
  | argument :: rest =>
      match lookOf argument with
      | .plain => readAfter options false rest
      | .unknown => readAfter options false rest
      | .ambiguous => .error .misfit
      | .divider => .error .misfit
      | .option name (some value) =>
          match options.withValue? value name with
          | some next => readAfter next fits rest
          | none => .error .misfit
      | .option name none =>
          match options.switchedOn? name with
          | some switched => readAfter switched fits rest
          | none =>
              if name = .help then .error .help
              else
                match rest with
                | [] => .error .misfit
                | value :: more =>
                    if lookOf value = .plain then
                      match options.withValue? value name with
                      | some next => readAfter next fits more
                      | none => .error .misfit
                    else .error .misfit

/-- Whether a name before the divider fits several options. -/
def hasAmbiguous : List String → Bool
  | [] => false
  | argument :: rest =>
      match lookOf argument with
      | .ambiguous => true
      | .divider => false
      | _ => hasAmbiguous rest

/-- The options that arguments stand for, unless they ask for help or do not fit together. -/
def read (arguments : List String) : Except Refusal Options :=
  if hasAmbiguous arguments then .error .misfit else readAfter {} true arguments

end Options

end CatalogClient
