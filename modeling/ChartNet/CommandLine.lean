import ChartNet.Decimal.Literal
import ChartNet.Delivery
import ChartNet.Models

/-!
# The command line

There are two commands. `convert` compiles models and writes the result into a directory; `validate`
only compiles them. Arguments are read from left to right. An option's value is taken up only when
the next argument, or the end, shows that it is complete, so an unknown option is noticed before a
bad value in front of it.

* `Command.parse`: the command that arguments spell.
* `Command.prepare`: what a command writes and says.
* `Command.run`: a command among the files of a file system.
-/

namespace ChartNet

/-- Why no command is run. -/
inductive Usage where
  /-- the help was asked for -/
  | help
  /-- no arguments at all -/
  | helpOnMissing
  /-- the version was asked for -/
  | version
  /-- an argument or option that there is none of -/
  | unknownArgument
  /-- a command that there is none of -/
  | invalidCommand
  /-- something that the command needs is not there -/
  | missingArgument
  /-- an option or argument without its value -/
  | missingValue
  /-- a value that is no number -/
  | invalidNumber
  /-- a value for an option that takes none -/
  | unneededValue
  /-- an option given twice -/
  | repeatedOption
deriving DecidableEq, Repr

/-- The wording of a wrong call. -/
def Usage.message : Usage → String
  | help | helpOnMissing | version => ""
  | unknownArgument => "unexpected argument found"
  | invalidCommand => "unrecognized subcommand"
  | missingArgument => "a required argument was not provided"
  | missingValue => "a value is required but none was supplied"
  | invalidNumber => "invalid value for the maximum time"
  | unneededValue => "unexpected value for an option"
  | repeatedOption => "an option cannot be used multiple times"

/-- What the program is asked to do. -/
inductive Command where
  /-- writes the compiled charts of the models into a directory -/
  | convert (models : List String) (output : String) (maxTime? : Option UInt64)
  /-- compiles the models and writes nothing -/
  | validate (models : List String)
deriving DecidableEq, Repr

/-- The options of the commands. -/
inductive Setting where
  /-- the directory to write into -/
  | output
  /-- the longest running time -/
  | maxTime
deriving DecidableEq, Repr

/-- What was read last, and is not taken up yet. -/
inductive Pending where
  /-- everything is taken up -/
  | nothing
  /-- paths of models, which come in a row -/
  | models (paths : List String)
  /-- an option, perhaps still without its value -/
  | setting (s : Setting) (value? : Option String)
deriving DecidableEq, Repr

/-- What has been read of a command's arguments. -/
structure Arguments where
  /-- the paths of the models -/
  models : List String
  /-- the directory to write into -/
  output? : Option String
  /-- the longest running time -/
  maxTime? : Option UInt64
  /-- what was read last -/
  pending : Pending

namespace Arguments

/-- Nothing read yet. -/
def start : Arguments := ⟨[], none, none, .nothing⟩

/-- The number that a text spells: decimal digits, with a plus sign perhaps, within 64 bits. -/
def number? (text : String) : Option UInt64 :=
  let digits := match text.toList with
    | '+' :: cs => cs
    | cs => cs
  if digits.isEmpty || !digits.all Char.isDigit then none
  else
    let n := Decimal.natOf digits
    if n < Nat.pow 2 64 then some n.toUInt64 else none

/-- Gives an option its value. -/
def set (a : Arguments) (s : Setting) (value : String) : Except Usage Arguments :=
  match s with
  | .output =>
    if a.output?.isSome then .error .repeatedOption
    else if value.isEmpty then .error .missingValue
    else .ok { a with output? := some value }
  | .maxTime =>
    if a.maxTime?.isSome then .error .repeatedOption
    else match number? value with
      | some n => .ok { a with maxTime? := some n }
      | none => .error .invalidNumber

/-- Takes up what is pending. -/
def settle (a : Arguments) : Except Usage Arguments :=
  let rest := { a with pending := .nothing }
  match a.pending with
  | .nothing => .ok rest
  | .models paths =>
    if paths.any String.isEmpty then .error .missingValue
    else .ok { rest with models := a.models ++ paths }
  | .setting _ none => .error .missingValue
  | .setting s (some value) => rest.set s value

/-- A path of a model. -/
def addModel (a : Arguments) (path : String) : Except Usage Arguments :=
  match a.pending with
  | .models paths => .ok { a with pending := .models (paths ++ [path]) }
  | _ => do
    let a ← a.settle
    return { a with pending := .models [path] }

/-- An option, with its value if that is attached to it. -/
def option (a : Arguments) (s : Setting) (value? : Option String) : Except Usage Arguments := do
  let a ← a.settle
  match value? with
  | some value => a.set s value
  | none => return { a with pending := .setting s none }

/-- A request for help. -/
def help (a : Arguments) : Except Usage Arguments := do
  let _ ← a.settle
  .error .help

/-- An argument that is no option: the value of the option before it, or a path. -/
def plain (a : Arguments) (text : String) : Except Usage Arguments :=
  match a.pending with
  | .setting s none => .ok { a with pending := .setting s (some text) }
  | _ => a.addModel text

/-- A long option: its name and, after an equals sign, its value. -/
def longOption (cs : List Char) : String × Option String :=
  let name := String.ofList (cs.takeWhile (· != '='))
  match cs.dropWhile (· != '=') with
  | _ :: value => (name, some (String.ofList value))
  | [] => (name, none)

/-- The value attached to a short option, if any; an equals sign before it is no part of it. -/
def attached? : List Char → Option String
  | [] => none
  | '=' :: cs => some (String.ofList cs)
  | cs => some (String.ofList cs)

/-- One argument before the mark that ends the options. `settings` tells whether the command has
options of its own. -/
def step (settings : Bool) (a : Arguments) (argument : String) : Except Usage Arguments :=
  match argument.toList with
  | '-' :: '-' :: cs =>
    match longOption cs with
    | ("help", none) => a.help
    | ("help", some _) => .error .unneededValue
    | ("output", value?) => if settings then a.option .output value? else .error .unknownArgument
    | ("max-time", value?) =>
      if settings then a.option .maxTime value? else .error .unknownArgument
    | _ => .error .unknownArgument
  | '-' :: c :: cs =>
    if c = 'h' then a.help
    else if c = 'o' && settings then a.option .output (attached? cs)
    else .error .unknownArgument
  | _ => a.plain argument

/-- All arguments of a command. After two dashes there are only paths. -/
def read (settings : Bool) : Arguments → List String → Except Usage Arguments
  | a, [] => a.settle
  | a, argument :: rest =>
    if argument = "--" then do
      let a ← rest.foldlM addModel a
      a.settle
    else do
      let a ← a.step settings argument
      a.read settings rest

end Arguments

namespace Command

/-- The command `convert`: paths and a directory are required. -/
def parseConvert (arguments : List String) : Except Usage Command := do
  let a ← Arguments.start.read true arguments
  match a.models, a.output? with
  | _ :: _, some output => return convert a.models output a.maxTime?
  | _, _ => .error .missingArgument

/-- The command `validate`: paths are required. -/
def parseValidate (arguments : List String) : Except Usage Command := do
  let a ← Arguments.start.read false arguments
  if a.models.isEmpty then .error .missingArgument else return validate a.models

/-- The name of a command. -/
def isCommandName (name : String) : Bool := ["convert", "validate", "help"].contains name

/-- Help on the command that is named after it, if any. -/
def parseHelp : List String → Usage
  | [] => .help
  | [name] => if isCommandName name then .help else .invalidCommand
  | _ => .invalidCommand

/-- An option before any command. -/
def parseOption (cs : List Char) : Usage :=
  match cs with
  | '-' :: cs =>
    match Arguments.longOption cs with
    | ("help", none) => .help
    | ("version", none) => .version
    | ("help", some _) | ("version", some _) => .unneededValue
    | _ => .unknownArgument
  | 'h' :: _ => .help
  | 'V' :: _ => .version
  | _ => .unknownArgument

/-- After two dashes no command is recognised. -/
def parseTrailing : List String → Usage
  | [] => .helpOnMissing
  | name :: _ => if isCommandName name then .unknownArgument else .invalidCommand

/-- The command that arguments spell. -/
def parse : List String → Except Usage Command
  | [] => .error .helpOnMissing
  | first :: rest =>
    match first with
    | "convert" => parseConvert rest
    | "validate" => parseValidate rest
    | "help" => .error (parseHelp rest)
    | "--" => .error (parseTrailing rest)
    | first =>
      match first.toList with
      | '-' :: c :: cs => .error (parseOption (c :: cs))
      | _ => .error .invalidCommand

/-- What a command writes, if anything, and what it says when that is done. -/
def prepare (look : String → Option FileTree) :
    Command → Except Failure (Option Delivery × String)
  | convert models output maxTime? => do
    let out ← Models.compile look models
    return (some (out.delivery output maxTime?),
      "Written " ++ out.charts.length.repr ++ " plain statecharts and "
        ++ out.timers.length.repr ++ " timers to '" ++ output ++ "'")
  | validate models => do
    let out ← Models.compile look models
    return (none, "Models are valid: " ++ out.charts.length.repr ++ " plain statecharts, "
      ++ out.timers.length.repr ++ " timers")

/-- Runs a command among files: what it says, and the file system after it. -/
def run (c : Command) (fs : FileSystem) : Except Failure String × FileSystem :=
  match c.prepare fs.find? with
  | .error f => (.error f, fs)
  | .ok (none, line) => (.ok line, fs)
  | .ok (some d, line) =>
    match d.perform fs with
    | (.ok (), fs) => (.ok line, fs)
    | (.error f, fs) => (.error f, fs)

end Command

end ChartNet
