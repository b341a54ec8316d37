import AccessPolicy.Document.Load

/-!
# The command line

`eval` decides on the call that its options describe, and `check` tells whether a document can be
loaded. Arguments that make no command are refused before any file is read.
-/

namespace AccessPolicy

/-- What the arguments ask for. -/
inductive Command where
  /-- Decides on a call by the document of a file; may explain the decision. -/
  | eval (file : String) (call : Call) (explain : Bool)
  /-- Tells whether the document of a file can be loaded. -/
  | check (file : String)
deriving DecidableEq, Repr

/-! ## Arguments -/

/-- The arguments behind the name of a command, as far as they were read. -/
structure Arguments where
  file : Option String := none
  method : Option String := none
  principal : Option String := none
  headers : List (String × String) := []
  source : Option String := none
  destination : Option String := none
  explain : Bool := false
deriving DecidableEq

namespace Arguments

/-- A header: a name that is not empty, an equals sign, and a value, in which equals signs may occur
again. -/
def header? (text : String) : Option (String × String) :=
  let name := text.toList.takeWhile (· ≠ '=')
  match text.toList.dropWhile (· ≠ '=') with
  | _ :: value => if name.isEmpty then none else some (String.ofList name, String.ofList value)
  | [] => none

/-- Takes in the value of an option. Only headers may be given more than once. -/
def withOption (arguments : Arguments) (name value : String) : Option Arguments :=
  match name with
  | "method" =>
    if arguments.method.isSome then none else some { arguments with method := some value }
  | "principal" =>
    if arguments.principal.isSome then none else some { arguments with principal := some value }
  | "source" =>
    if arguments.source.isSome then none else some { arguments with source := some value }
  | "destination" =>
    if arguments.destination.isSome then none
    else some { arguments with destination := some value }
  | "header" => (header? value).map fun header =>
    { arguments with headers := arguments.headers ++ [header] }
  | _ => none

/-- Takes in the switch that asks for an explanation, which may be given once. -/
def withExplain (arguments : Arguments) : Option Arguments :=
  if arguments.explain then none else some { arguments with explain := true }

/-- Takes in the name of the file, which may be given once. -/
def withFile (arguments : Arguments) (file : String) : Option Arguments :=
  if arguments.file.isSome || file.isEmpty then none else some { arguments with file := some file }

/-- Whether an argument has the form of an option. A lone hyphen is a name like others. -/
def isOption (argument : String) : Bool :=
  argument.toList.head? = some '-' && argument ≠ "-"

/-- Reads arguments with options. The value of an option is attached to it by an equals sign, or is
the next argument, which must not have the form of an option itself. Two hyphens end the options. -/
def read (arguments : Arguments) : List String → Option Arguments
  | [] => some arguments
  | "--" :: rest => rest.foldlM withFile arguments
  | argument :: rest =>
    if isOption argument then
      match argument.toList with
      | '-' :: '-' :: text =>
        let name := String.ofList (text.takeWhile (· ≠ '='))
        match text.dropWhile (· ≠ '='), rest with
        | _ :: value, rest => do (← arguments.withOption name (String.ofList value)).read rest
        | [], rest =>
          if name = "trace" then do (← arguments.withExplain).read rest
          else match rest with
            | value :: rest =>
              if isOption value then none
              else do (← arguments.withOption name value).read rest
            | [] => none
      | _ => none
    else do (← arguments.withFile argument).read rest

/-- The call that the options describe. -/
def call (arguments : Arguments) : Call :=
  let call : Call := {
    method := arguments.method.getD ""
    principal := arguments.principal
    source := arguments.source.getD ""
    destination := arguments.destination.getD "" }
  call.withHeaders arguments.headers

end Arguments

namespace Command

/-- The command that arguments spell. -/
def ofArguments? : List String → Option Command
  | "eval" :: rest => do
    let arguments ← Arguments.read {} rest
    return .eval (← arguments.file) arguments.call arguments.explain
  | "check" :: rest => do
    let arguments ← Arguments.read {} rest
    let file ← arguments.file
    if arguments = { file := some file } then some (.check file) else none
  | _ => none

/-- The file that a command reads. -/
def file : Command → String
  | .eval file .. => file
  | .check file => file

/-! ## Outcomes -/

/-- What a command shows, and how it ends. -/
structure Outcome where
  exitCode : UInt8
  output : String
  errors : String
deriving DecidableEq, Repr

/-- Why a command fails. -/
inductive Failure where
  /-- The file cannot be read. -/
  | noText
  | load (error : LoadError)

/-- The text of a failure, given the name of the file. -/
def Failure.message (file : String) : Failure → String
  | .noText => "failed to read \"" ++ file ++ "\""
  | .load (.unreadable _) => "failed to parse \"" ++ file ++ "\""
  | .load (.refused e) => "config invalid: " ++ e.message

/-- The last part of a path, if it names something. -/
def lastPart? (path : String) : Option String :=
  ((path.splitOn "/").filter fun part => part ≠ "" && part ≠ ".").getLast?.filter (· ≠ "..")

/-- The format of the document in a file: JSON if the name of the file ends so, in any case, behind
something else, and YAML otherwise. -/
def formatOf (file : String) : Format :=
  match ((lastPart? file).getD "").splitOn "." |>.reverse with
  | extension :: stem :: stems =>
    if Text.lowerAscii extension = "json" && (stem :: stems) ≠ [""] then .json else .yaml
  | _ => .yaml

/-- Loads the engine of a file, given its text if it can be read. -/
def loadFile (file : String) (text : Option String) : Except Failure Engine :=
  match text with
  | none => .error .noText
  | some text => (Engine.load (formatOf file) text).mapError .load

/-- What a loaded engine has to say to a command. -/
def answer (engine : Engine) : Command → String
  | .eval _ call true => (engine.explain call.request).text
  | .eval _ call false => (engine.evaluate call.request).text ++ "\n"
  | .check _ =>
    let n := engine.policies.length
    "Config valid: " ++ toString n ++ (if n = 1 then " policy" else " policies")
      ++ " (" ++ engine.action.description ++ ")\n"

/-- Runs a command, given the text of its file if it can be read. -/
def run (command : Command) (text : Option String) : Outcome :=
  match loadFile command.file text with
  | .ok engine => ⟨0, command.answer engine, ""⟩
  | .error failure => ⟨1, "", "error: " ++ failure.message command.file ++ "\n"⟩

/-- The outcome of arguments that make no command. -/
def usage : Outcome :=
  ⟨2, "", "Usage: rbac <eval|check> <CONFIG> [OPTIONS]\n"⟩

end Command

end AccessPolicy
