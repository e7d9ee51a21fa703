import Polymatch.Matcher.Build
import Polymatch.Matcher.Scan
import Polymatch.Pattern.Parser
import Polymatch.Template

/-! # Single text patterns

One pattern with captures over text. Offsets in results count 16-bit code units.
-/

namespace Polymatch

structure Regex where
  /-- The text of the pattern, for display. -/
  pattern : String
  matcher : Matcher Captured

namespace Regex

def ofPattern (text : String) (p : Pattern) : Except BuildError Regex := do
  let builder ← MatcherBuilder.new.pattern .units p fun _ captured => captured
  let matcher ← builder.build
  return ⟨text, matcher⟩

/-- The regex of a text in the library's own pattern syntax. -/
def ofText (text : String) (options : Pattern.ParseOptions) : Except BuildError Regex := do
  let p ← (Pattern.parse text options).mapError .parse
  ofPattern text p

def automaton (r : Regex) : Automaton := r.matcher.automaton

/-- Whether the whole text matches. -/
def isMatch (r : Regex) (text : String) : Bool := r.matcher.isMatch (Text.units text)

/-- The groups of a match of the whole text. -/
def captures? (r : Regex) (text : String) : Option Captured :=
  (r.matcher.firstExact? (Text.units text)).map (·.value)

/-- The leftmost, shortest match. -/
def find? (r : Regex) (text : String) : Option Span :=
  (r.matcher.findFirst? (Text.units text)).map (·.span)

/-- The leftmost-longest matches, which do not overlap. -/
def findAll (r : Regex) (text : String) : List Captured :=
  (r.matcher.findLongest (Text.units text)).map (·.value)

/-- Replace the spans of matches by the expansions of a template, from offset `copied` on. -/
def replaceFrom (template : Template) (input : List Nat) : Nat → List (Found Captured) → String
  | copied, [] => Text.ofUnits (input.drop copied)
  | copied, found :: rest =>
    Text.ofUnits ((input.drop copied).take (found.span.start - copied)) ++
      template.expand input found.value ++ replaceFrom template input found.span.stop rest

/-- Replace every leftmost-longest match. -/
def replaceAll (r : Regex) (text : String) (template : Template) : String :=
  let input := Text.units text
  replaceFrom template input 0 (r.matcher.findLongest input)

end Regex

end Polymatch
