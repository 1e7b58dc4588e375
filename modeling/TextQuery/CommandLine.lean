import TextQuery.Candidate
import TextQuery.FileTree
import TextQuery.Report
import TextQuery.Text.Alphanumeric

set_option autoImplicit false

namespace TextQuery.CommandLine

inductive Action where
  | compile
  | tokenize
  | foreignKeys
  | check
deriving DecidableEq, Repr

namespace Action

def values : List Action := [.compile, .tokenize, .foreignKeys, .check]

def name : Action → String
  | .compile => "compile"
  | .tokenize => "tokenize"
  | .foreignKeys => "foreign-keys"
  | .check => "fk-check"

def ofName? (name : String) : Option Action := values.find? fun action => action.name == name

end Action

inductive UsageFault where
  | needsValue (option : String)
  | takesNoValue (option : String)
  | noSuchOption (name : String)
  | notAChoice (option value : String) (choices : List String)
  | isADirectory (option path : String)
  | missingArgument (name : String)
  | extraArguments (arguments : List String)
  | missingCommand
  | noSuchCommand (name : String)
deriving DecidableEq, Repr

namespace UsageFault

open Text

def message : UsageFault → String
  | .needsValue option => "Option " ++ quoted option ++ " requires an argument."
  | .takesNoValue option => "Option " ++ quoted option ++ " does not take a value."
  | .noSuchOption name => "No such option " ++ quoted name ++ "."
  | .notAChoice option value choices =>
    "Invalid value for " ++ quoted option ++ ": " ++ quoted value ++ " is not one of "
      ++ String.intercalate ", " (choices.map quoted) ++ "."
  | .isADirectory option path =>
    "Invalid value for " ++ quoted option ++ ": File " ++ quoted path ++ " is a directory."
  | .missingArgument name => "Missing argument " ++ quoted name ++ "."
  | .extraArguments arguments =>
    "Got unexpected extra " ++ (if arguments.length = 1 then "argument" else "arguments") ++ " ("
      ++ String.intercalate " " arguments ++ ")"
  | .missingCommand => "Missing command."
  | .noSuchCommand name => "No such command " ++ quoted name ++ "."

end UsageFault

abbrev Place := Option Action

/-- What a place takes: options with a value, and an argument at most. Options and arguments mix behind
a command; before it the first argument ends the options. -/
structure Shape where
  options : List String
  argument : Option String
  mixed : Bool
deriving Repr

def helpOption : String := "--help"
def configOption : String := "--config"
def modeOption : String := "--mode"
def formatOption : String := "--format"
def tableOption : String := "--table"
def schemaOption : String := "--schema"

def shape : Place → Shape
  | none => ⟨[configOption], none, false⟩
  | some .compile => ⟨[modeOption, formatOption], some "TEXT", true⟩
  | some .tokenize => ⟨[formatOption], some "TEXT", true⟩
  | some .foreignKeys => ⟨[schemaOption, formatOption], some "TABLE", true⟩
  | some .check => ⟨[tableOption, schemaOption, formatOption], none, true⟩

def path : Place → String
  | none => "safematch"
  | some action => "safematch " ++ action.name

def usage (place : Place) : String :=
  let arguments := match place, (shape place).argument with
    | none, _ => " COMMAND [ARGS]..."
    | some _, some name => " " ++ name
    | some _, none => ""
  "Usage: " ++ path place ++ " [OPTIONS]" ++ arguments

def report (place : Place) (fault : UsageFault) : String :=
  let usage := match fault with
    | .needsValue _ | .takesNoValue _ => ""
    | _ => usage place ++ "\nTry '" ++ path place ++ " --help' for help.\n\n"
  usage ++ "Error: " ++ fault.message ++ "\n"

structure Given where
  options : List (String × String) := []
  arguments : List String := []
deriving DecidableEq, Repr

def Given.addOption (given : Given) (name value : String) : Given :=
  { given with options := (name, value) :: given.options }

def Given.addArgument (given : Given) (argument : String) : Given :=
  { given with arguments := argument :: given.arguments }

def isOption (argument : String) : Bool :=
  Text.startsWith argument "-" && argument.length > 1

def splitValue (argument : String) : String × Option String :=
  let characters := argument.toList
  let name := characters.takeWhile (· != '=')
  match characters.drop name.length with
  | _ :: value => (String.ofList name, some (String.ofList value))
  | [] => (argument, none)

def unknownName (argument name : String) : String :=
  if Text.startsWith argument "--" then name else String.ofList (argument.toList.take 2)

def read (shape : Shape) : List String → Except UsageFault Given
  | [] => .ok {}
  | argument :: rest =>
    if argument == "--" then .ok { arguments := rest }
    else if !isOption argument then
      if shape.mixed then (read shape rest).map (·.addArgument argument)
      else .ok { arguments := argument :: rest }
    else
      let (name, attached) := splitValue argument
      if shape.options.contains name then
        match attached, rest with
        | some value, rest => (read shape rest).map (·.addOption name value)
        | none, value :: rest => (read shape rest).map (·.addOption name value)
        | none, [] => .error (.needsValue name)
      else if name == helpOption && attached.isSome then .error (.takesNoValue name)
      else .error (.noSuchOption (unknownName argument name))

def Given.value? (given : Given) (name : String) : Option String := given.options.reverse.lookup name

def Given.names (given : Given) : List String := (given.options.map Prod.fst).eraseDups

def modeNames : List String := Mode.values.map Mode.name
def formatNames : List String := Format.values.map Format.name

def choices : List (String × List String) := [(modeOption, modeNames), (formatOption, formatNames)]

def checkChoice (given : Given) (name : String) : Except UsageFault Unit :=
  match choices.lookup name, given.value? name with
  | some choices, some value =>
    if choices.contains value then .ok () else .error (.notAChoice name value choices)
  | _, _ => .ok ()

inductive Command where
  | compile (text : String) (mode : Mode)
  | tokenize (text : String)
  | foreignKeys (table : String) (schema : Option String)
  | check (table schema : Option String)
deriving DecidableEq, Repr

def argument (place : Place) (given : Given) : Except UsageFault String :=
  match (shape place).argument, given.arguments with
  | some name, [] => .error (.missingArgument name)
  | some _, argument :: _ => .ok argument
  | none, _ => .ok ""

def checkExtra (place : Place) (given : Given) : Except UsageFault Unit :=
  let taken := if (shape place).argument.isSome then 1 else 0
  match given.arguments.drop taken with
  | [] => .ok ()
  | extra => .error (.extraArguments extra)

/-- The command that arguments behind its name make up, and the format of its report. The options are
looked at first, in the order in which they were given. -/
def readCommand (action : Action) (arguments : List String) :
    Except UsageFault (Command × Format) := do
  let place := some action
  let given ← read (shape place) arguments
  -- An argument that is missing is noticed only after the options have been found good.
  given.names.forM (checkChoice given)
  let argument ← argument place given
  checkExtra place given
  let mode := ((given.value? modeOption).bind Mode.ofName?).getD .any
  let format :=
    ((given.value? formatOption).bind fun name => (Format.ofName name).toOption).getD .text
  let schema := given.value? schemaOption
  let command := match action with
    | .compile => .compile argument mode
    | .tokenize => .tokenize argument
    | .foreignKeys => .foreignKeys argument schema
    | .check => .check (given.value? tableOption) schema
  return (command, format)

inductive Refusal where
  | usage (fault : UsageFault)
  | file (fault : FileFault)
deriving DecidableEq, Repr

def readOptions (tree : FileTree) (default : String) (arguments : List String) :
    Except Refusal (Path × List String) := do
  let given ← (read (shape none) arguments).mapError .usage
  let written := (given.value? configOption).getD default
  let path := Path.ofText written
  path.checkNul.mapError .file
  if !written.isEmpty && tree.isDirectory path then
    throw (.usage (.isADirectory configOption written))
  return (path, given.arguments)

def startsWithSign (name : String) : Bool :=
  name.toList.head?.any fun first => !Text.alphanumeric.contains first

/-- The command of a name. An unknown name that starts with a sign is read among the options of the program
first. -/
def readAction (tree : FileTree) (default : String) : List String →
    Except Refusal (Action × List String)
  | [] => .error (.usage .missingCommand)
  | name :: rest =>
    match Action.ofName? name with
    | some action => .ok (action, rest)
    | none => do
      -- A command starts with a letter, so an option may be what was meant.
      if startsWithSign name then
        let _ ← readOptions tree default (name :: rest)
      throw (.usage (.noSuchCommand name))

end TextQuery.CommandLine
