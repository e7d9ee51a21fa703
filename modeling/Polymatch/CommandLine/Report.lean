import Polymatch.CommandLine.Arguments
import Polymatch.Automaton.Drawing
import Polymatch.Conventional.Meaning
import Polymatch.Pattern.Parser
import Polymatch.Regex

/-! # Reports of the command line

What a command prints: results go to the output, summaries and complaints to the
error output. The exit code tells whether everything matched.
-/

namespace Polymatch.CommandLine

structure Report where
  code : Nat
  output : String
  errors : String
  deriving DecidableEq, Repr, Inhabited

def lines (l : List String) : String := String.join (l.map (· ++ "\n"))

def usage : List String :=
  ["Usage: regm [OPTIONS] <COMMAND>",
   "",
   "Commands:",
   "  dot     <pattern>                      Output DOT (Graphviz) representation of the automaton",
   "  match   <pattern> <input>...           Match pattern against whole inputs and print captures",
   "  find    <pattern> <input>...           Print leftmost-longest matches inside inputs",
   "  replace <pattern> <template> <input>...  Replace matches; [n] in the template inserts group n",
   "  merge   <pattern>... --input <input>   Merge patterns and report which ones match inside input",
   "",
   "Options:",
   "  -i, --ignore-case  Case-insensitive letters",
   "  --std              Read patterns in the syntax of the `regex` crate",
   "  --max-depth <N>    Bound on the pattern merge product depth",
   "  --disjoint         Make 'merge' fail if two patterns accept the same text",
   "  --input <text>     Input searched by 'merge'",
   "  -h, --help         Print this help message"]

namespace Report

def fail (message : String) : Report := ⟨1, "", lines ["error: " ++ message]⟩

def ofArgumentError (e : ArgumentError) : Report :=
  let complaint := e.message?.toList.map ("error: " ++ ·)
  ⟨if e = .help then 0 else 1, "", lines (complaint ++ if e.showsUsage then usage else [])⟩

end Report

/-- Label in front of an input that matches. -/
def matchLabel : String := "  \x1b[32mMATCH\x1b[0m  "

def noMatchLabel : String := "  \x1b[31mNO MATCH\x1b[0m  "

def spanText (s : Span) : String := toString s.start ++ ".." ++ toString s.stop

/-- The text of the input between the ends of a span. -/
def spanContents (input : String) (s : Span) : String :=
  Text.ofUnits (((Text.units input).drop s.start).take (s.stop - s.start))

def parsePattern (s : Settings) (text : String) : Except Report Pattern :=
  let options : Pattern.ParseOptions := ⟨s.ignoreCase⟩
  let parsed :=
    if s.conventional then Conventional.parse text options
    else (Pattern.parse text options).mapError .parse
  parsed.mapError fun e => .fail ("failed to parse pattern: " ++ e.message)

def sizeLines (a : Automaton) : List String :=
  ["states: " ++ toString a.stateCount, "memory_size: " ++ toString a.memorySize ++ " bytes", ""]

/-- The compiled pattern with the lines that describe it. -/
def compile (s : Settings) (text : String) : Except Report (Regex × List String) := do
  let pattern ← parsePattern s text
  let regex ← (Regex.ofPattern text pattern).mapError fun e =>
    .fail ("failed to compile pattern: " ++ e.message)
  return (regex, ("pattern: " ++ text) :: sizeLines regex.automaton)

def runDot (s : Settings) (text : String) : Except Report Report := do
  let pattern ← parsePattern s text
  let automaton ← (pattern.compile .units).mapError fun e =>
    .fail ("failed to compile pattern: " ++ e.message)
  return ⟨0, automaton.toDot .units, ""⟩

/-- The result lines of one input, or none of them if it does not match. -/
abbrev InputLines := String → Option (List String)

/-- Report on each of some inputs; every one has to match. -/
def reportInputs (summary : List String) (results : InputLines) (inputs : List String) : Report :=
  let describe := fun input =>
    match results input with
    | some l => (matchLabel ++ Text.quoted input) :: l
    | none => [noMatchLabel ++ Text.quoted input]
  ⟨if inputs.all fun input => (results input).isSome then 0 else 1,
    lines (inputs.flatMap describe), lines summary⟩

def groupLine (captured : Captured) (position : Nat) : String :=
  "    [" ++ toString position ++ "] " ++ Matcher.listText ((captured.group position).map spanText)

def runMatch (s : Settings) (text : String) (inputs : List String) : Except Report Report := do
  let (regex, summary) ← compile s text
  let results := fun input => (regex.captures? input).map fun captured =>
    (List.range' 1 captured.size).map (groupLine captured)
  return reportInputs summary results inputs

def foundLine (input : String) (span : Span) : String :=
  "    " ++ spanText span ++ " " ++ Text.quoted (spanContents input span)

def runFind (s : Settings) (text : String) (inputs : List String) : Except Report Report := do
  let (regex, summary) ← compile s text
  let results := fun input =>
    match regex.findAll input with
    | [] => none
    | found => some (found.map fun captured => foundLine input captured.span)
  return reportInputs summary results inputs

def runReplace (s : Settings) (text template : String) (inputs : List String) :
    Except Report Report := do
  let template ← (Template.parse template).mapError fun e =>
    .fail ("failed to parse template: " ++ e.message)
  let (regex, summary) ← compile s text
  return ⟨0, lines (inputs.map (regex.replaceAll · template)), lines summary⟩

/-- Add a pattern whose matches are labelled with its text. -/
def addPattern (s : Settings) (b : MatcherBuilder String) (text : String) :
    Except Report (MatcherBuilder String) := do
  let pattern ← parsePattern s text
  (b.pattern .units pattern fun _ _ => text).mapError fun e =>
    .fail ("failed to compile `" ++ text ++ "`: " ++ e.message)

def mergedLine (input : String) (found : Found String) : String :=
  matchLabel ++ spanText found.span ++ " " ++ Text.quoted found.value ++ " " ++
    Text.quoted (spanContents input found.span)

def runMerge (s : Settings) (texts : List String) (input : String) : Except Report Report := do
  let new : MatcherBuilder String :=
    ⟨[], s.maxDepth?.getD MergeOptions.defaultMaxDepth, !s.disjoint⟩
  let builder ← texts.foldlM (addPattern s) new
  let matcher ← builder.build.mapError fun e => .fail ("failed to merge patterns: " ++ e.message)
  let found := matcher.scan (Text.units input) (fun found m => (m :: found, .continueAll)) []
  let summary := lines (sizeLines matcher.automaton)
  match found.reverse with
  | [] => return ⟨1, lines [noMatchLabel ++ Text.quoted input], summary⟩
  | found => return ⟨0, lines (found.map (mergedLine input)), summary⟩

def runCommand (s : Settings) : Command → Except Report Report
  | .dot text => runDot s text
  | .matchWhole text inputs => runMatch s text inputs
  | .find text inputs => runFind s text inputs
  | .replace text template inputs => runReplace s text template inputs
  | .merge texts input => runMerge s texts input

/-- The report on a list of arguments. -/
def run (arguments : List String) : Report :=
  match readArguments arguments with
  | .error e => .ofArgumentError e
  | .ok (settings, command) =>
    match runCommand settings command with
    | .ok report => report
    | .error report => report

end Polymatch.CommandLine
