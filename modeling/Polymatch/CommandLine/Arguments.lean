import Polymatch.Text.Numeral

/-! # Arguments of the command line

Options may stand anywhere in front of a double dash. The positional arguments
name a command and its operands.
-/

namespace Polymatch.CommandLine

structure Settings where
  ignoreCase : Bool
  /-- Patterns are read in the conventional syntax. -/
  conventional : Bool
  maxDepth? : Option Nat
  /-- The input that merged patterns are searched in. -/
  input? : Option String
  /-- No two merged patterns may accept the same text. -/
  disjoint : Bool
  deriving DecidableEq, Repr

namespace Settings

def initial : Settings := ⟨false, false, none, none, false⟩

instance : Inhabited Settings := ⟨initial⟩

end Settings

inductive Command
  | dot (pattern : String)
  | matchWhole (pattern : String) (inputs : List String)
  | find (pattern : String) (inputs : List String)
  | replace (pattern template : String) (inputs : List String)
  | merge (patterns : List String) (input : String)
  deriving DecidableEq, Repr

inductive ArgumentError
  /-- Help is asked for. -/
  | help
  | noCommand
  | unknownOption (name : String)
  | unknownCommand (name : String)
  | depthMissing
  | depthInvalid
  | depthZero
  | inputMissing
  | dotOperands
  | searchOperands (command : String)
  | replaceOperands
  | mergeOperands
  | mergeInput
  deriving DecidableEq, Repr

namespace ArgumentError

def message? : ArgumentError → Option String
  | help => none
  | noCommand => none
  | unknownOption name => some ("unknown option: " ++ name)
  | unknownCommand name => some ("unknown command: " ++ name)
  | depthMissing => some "--max-depth requires a value"
  | depthInvalid => some "--max-depth must be a positive integer"
  | depthZero => some "--max-depth must be > 0"
  | inputMissing => some "--input requires a value"
  | dotOperands => some "'dot' command takes exactly one pattern argument"
  | searchOperands command =>
    some ("'" ++ command ++ "' command requires a pattern and at least one input")
  | replaceOperands =>
    some "'replace' command requires a pattern, a template and at least one input"
  | mergeOperands => some "'merge' command requires at least one pattern"
  | mergeInput => some "'merge' command requires --input <input>"

/-- Whether the error is answered with the text on usage. -/
def showsUsage : ArgumentError → Bool
  | help => true
  | noCommand => true
  | unknownOption _ => true
  | unknownCommand _ => true
  | _ => false

end ArgumentError

/-- Greatest bound on the depth that can be given. -/
def depthLimit : Nat := UInt64.size - 1

/-- The bound on the depth that an argument gives; it may have a plus sign. -/
def parseDepth (value : String) : Except ArgumentError Nat :=
  let digits := match value.toList with
    | '+' :: rest => rest
    | cs => cs
  if digits.isEmpty || !digits.all Char.isDigit || depthLimit < Text.decimalValue digits then
    .error .depthInvalid
  else if Text.decimalValue digits = 0 then .error .depthZero
  else .ok (Text.decimalValue digits)

def isOption (argument : String) : Bool :=
  match argument.toList with
  | '-' :: _ :: _ => true
  | _ => false

/-- Sort arguments into settings and positional arguments. -/
def readSettings (s : Settings) : List String → Except ArgumentError (Settings × List String)
  | [] => .ok (s, [])
  | "-h" :: _ => .error .help
  | "--help" :: _ => .error .help
  | "-i" :: rest => readSettings { s with ignoreCase := true } rest
  | "--ignore-case" :: rest => readSettings { s with ignoreCase := true } rest
  | "--std" :: rest => readSettings { s with conventional := true } rest
  | "--disjoint" :: rest => readSettings { s with disjoint := true } rest
  | ["--max-depth"] => .error .depthMissing
  | "--max-depth" :: value :: rest => do
    let depth ← parseDepth value
    readSettings { s with maxDepth? := some depth } rest
  | ["--input"] => .error .inputMissing
  | "--input" :: value :: rest => readSettings { s with input? := some value } rest
  | "--" :: rest => .ok (s, rest)
  | argument :: rest =>
    if isOption argument then .error (.unknownOption argument)
    else (fun (s, positional) => (s, argument :: positional)) <$> readSettings s rest

/-- The command that positional arguments name. -/
def Command.read (s : Settings) : List String → Except ArgumentError Command
  | [] => .error .noCommand
  | ["dot", pattern] => .ok (dot pattern)
  | "dot" :: _ => .error .dotOperands
  | "match" :: pattern :: input :: inputs => .ok (matchWhole pattern (input :: inputs))
  | "match" :: _ => .error (.searchOperands "match")
  | "find" :: pattern :: input :: inputs => .ok (find pattern (input :: inputs))
  | "find" :: _ => .error (.searchOperands "find")
  | "replace" :: pattern :: template :: input :: inputs =>
    .ok (replace pattern template (input :: inputs))
  | "replace" :: _ => .error .replaceOperands
  | ["merge"] => .error .mergeOperands
  | "merge" :: patterns =>
    match s.input? with
    | some input => .ok (merge patterns input)
    | none => .error .mergeInput
  | name :: _ => .error (.unknownCommand name)

def readArguments (arguments : List String) : Except ArgumentError (Settings × Command) := do
  let (settings, positional) ← readSettings .initial arguments
  let command ← Command.read settings positional
  return (settings, command)

end Polymatch.CommandLine
