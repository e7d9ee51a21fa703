import Polymatch.Alphabet
import Polymatch.Arena.Basic
import Polymatch.Arena.Compile
import Polymatch.Arena.Resolve
import Polymatch.Automaton.Basic
import Polymatch.Automaton.Cycle
import Polymatch.Automaton.Drawing
import Polymatch.Automaton.Merge
import Polymatch.CommandLine.Arguments
import Polymatch.CommandLine.Report
import Polymatch.Conventional.Class
import Polymatch.Conventional.Escape
import Polymatch.Conventional.Expr
import Polymatch.Conventional.Fault
import Polymatch.Conventional.Meaning
import Polymatch.Conventional.Parser
import Polymatch.Conventional.Pattern
import Polymatch.Conventional.Property
import Polymatch.Conventional.ScalarSet
import Polymatch.Conventional.Tree
import Polymatch.Edge
import Polymatch.EdgeMap
import Polymatch.Error
import Polymatch.Group.Captured
import Polymatch.Group.Layout
import Polymatch.Group.Recording
import Polymatch.IdSet
import Polymatch.Interning
import Polymatch.Interval
import Polymatch.Main
import Polymatch.Marks
import Polymatch.Matcher.Basic
import Polymatch.Matcher.Build
import Polymatch.Matcher.Scan
import Polymatch.Node
import Polymatch.ParseError
import Polymatch.Pattern.Basic
import Polymatch.Pattern.CaseFold
import Polymatch.Pattern.Counts
import Polymatch.Pattern.Parser
import Polymatch.Pattern.Token
import Polymatch.Proofs.Arena.Attach
import Polymatch.Proofs.Arena.Behaviour
import Polymatch.Proofs.Arena.Checked
import Polymatch.Proofs.Arena.Contents
import Polymatch.Proofs.Arena.Freeze
import Polymatch.Proofs.Arena.Growth
import Polymatch.Proofs.Arena.Languages
import Polymatch.Proofs.Arena.Loops
import Polymatch.Proofs.Arena.Members
import Polymatch.Proofs.Arena.Operations
import Polymatch.Proofs.Arena.Paths
import Polymatch.Proofs.Arena.Realize
import Polymatch.Proofs.Arena.Resolution
import Polymatch.Proofs.Arena.Resolve
import Polymatch.Proofs.Arena.Steps
import Polymatch.Proofs.Arena.Subtraction
import Polymatch.Proofs.Arena.Termination
import Polymatch.Proofs.Arena.WellFormed
import Polymatch.Proofs.Arena.Writes
import Polymatch.Proofs.Automaton.Components
import Polymatch.Proofs.Automaton.Cycles
import Polymatch.Proofs.Automaton.Embedding
import Polymatch.Proofs.Automaton.Layers
import Polymatch.Proofs.Automaton.Runs
import Polymatch.Proofs.Automaton.Tight
import Polymatch.Proofs.Automaton.Tokens
import Polymatch.Proofs.Conventional.Language
import Polymatch.Proofs.Conventional.Numbering
import Polymatch.Proofs.Conventional.Translation
import Polymatch.Proofs.Edges.Canonical
import Polymatch.Proofs.Edges.Lookup
import Polymatch.Proofs.Edges.Split
import Polymatch.Proofs.Group.Beats
import Polymatch.Proofs.Group.Recording
import Polymatch.Proofs.Group.Spans
import Polymatch.Proofs.Interval.Canonical
import Polymatch.Proofs.Interval.Gaps
import Polymatch.Proofs.Interval.Normalize
import Polymatch.Proofs.Matcher.Accepted
import Polymatch.Proofs.Matcher.Alternatives
import Polymatch.Proofs.Matcher.Arrangement
import Polymatch.Proofs.Matcher.Entries
import Polymatch.Proofs.Matcher.Exactness
import Polymatch.Proofs.Matcher.Longest
import Polymatch.Proofs.Matcher.Overlap
import Polymatch.Proofs.Matcher.Replays
import Polymatch.Proofs.Matcher.Reports
import Polymatch.Proofs.Matcher.Separation
import Polymatch.Proofs.Matcher.Slices
import Polymatch.Proofs.Matcher.Steering
import Polymatch.Proofs.Matcher.Stops
import Polymatch.Proofs.Merge.Alternation
import Polymatch.Proofs.Merge.Depth
import Polymatch.Proofs.Merge.Groups
import Polymatch.Proofs.Merge.Numbering
import Polymatch.Proofs.Merge.Overlap
import Polymatch.Proofs.Merge.Pair
import Polymatch.Proofs.Merge.Paths
import Polymatch.Proofs.Merge.Patterns
import Polymatch.Proofs.Merge.Sides
import Polymatch.Proofs.Merge.Survivors
import Polymatch.Proofs.Pattern.Admission
import Polymatch.Proofs.Pattern.Assembly
import Polymatch.Proofs.Pattern.Atoms
import Polymatch.Proofs.Pattern.Behaviour
import Polymatch.Proofs.Pattern.Clipping
import Polymatch.Proofs.Pattern.Compile
import Polymatch.Proofs.Pattern.Grammar
import Polymatch.Proofs.Pattern.Language
import Polymatch.Proofs.Pattern.Layouts
import Polymatch.Proofs.Pattern.Nesting
import Polymatch.Proofs.Pattern.Orderly
import Polymatch.Proofs.Pattern.Parsing
import Polymatch.Proofs.Pattern.Reading
import Polymatch.Proofs.Pattern.Recognition
import Polymatch.Proofs.Pattern.Retelling
import Polymatch.Proofs.Pattern.Spelling
import Polymatch.Proofs.Pattern.Termination
import Polymatch.Proofs.Pattern.Unambiguous
import Polymatch.Proofs.Pattern.Visits
import Polymatch.Proofs.Pattern.Walks
import Polymatch.Proofs.Replay.Branches
import Polymatch.Proofs.Replay.Courses
import Polymatch.Proofs.Replay.Emit
import Polymatch.Proofs.Replay.Priority
import Polymatch.Proofs.Replay.Runs
import Polymatch.Proofs.Replay.Shift
import Polymatch.Proofs.Replay.Spread
import Polymatch.Proofs.Replay.Tracks
import Polymatch.Proofs.Replay.Trails
import Polymatch.Regex
import Polymatch.Replay
import Polymatch.SortedSet
import Polymatch.Template
import Polymatch.Text.Numeral
import Polymatch.Text.Quoted
import Polymatch.Text.Units
import Polymatch.Unicode.Age
import Polymatch.Unicode.Break.Grapheme
import Polymatch.Unicode.Break.Sentence
import Polymatch.Unicode.Break.Word
import Polymatch.Unicode.Case
import Polymatch.Unicode.Category
import Polymatch.Unicode.Partition
import Polymatch.Unicode.Property
import Polymatch.Unicode.Recent
import Polymatch.Unicode.Runs
import Polymatch.Unicode.Script
import Polymatch.Unicode.ScriptExtensions
import Polymatch.Proofs.Edges.Sweep
import Polymatch.Proofs.Edges.Pieces
import Polymatch.Proofs.Merge.Checked
import Polymatch.Group.Buffer
import Polymatch.Proofs.Group.Buffer
import Polymatch.Proofs.Matcher.Plans
import Polymatch.Matcher.Shared
import Polymatch.Proofs.Matcher.Shared
import Polymatch.Proofs.Matcher.Replacement
import Polymatch.Proofs.Arena.Unions
import Polymatch.Proofs.Arena.Sessions
import Polymatch.Proofs.Interval.Unique
import Polymatch.Proofs.Template.Expansion
import Polymatch.Proofs.Unicode.Case
import Polymatch.Proofs.Pattern.CaseFold
import Polymatch.Text.Slice
import Polymatch.Pattern.InPlace
import Polymatch.Template.InPlace
import Polymatch.Proofs.Text.Slice
import Polymatch.Proofs.Text.Boundaries
import Polymatch.Proofs.Arena.Leaves
import Polymatch.Proofs.Arena.Acceptance
import Polymatch.Proofs.Pattern.Nullable
import Polymatch.Interned
import Polymatch.Proofs.Pattern.Copies
import Polymatch.Proofs.Pattern.Repeats
import Polymatch.Proofs.Conventional.Repeats
import Polymatch.Proofs.Interned.Merges
import Polymatch.Proofs.Interned.Handles
import Polymatch.Proofs.Interned.Ledgers
import Polymatch.Group.SlotTable
import Polymatch.Proofs.Group.SlotTable
