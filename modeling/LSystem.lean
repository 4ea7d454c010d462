import LSystem.Action.Basic
import LSystem.Action.Parse
import LSystem.CommandLine.Arguments
import LSystem.CommandLine.Request
import LSystem.CommandLine.Run
import LSystem.Decimal.Binary
import LSystem.Decimal.Fixed
import LSystem.Decimal.Layout
import LSystem.Decimal.Numeral
import LSystem.Decimal.Rounding
import LSystem.Decimal.Shortest
import LSystem.Dictionary
import LSystem.Direction
import LSystem.Expansion.Growth
import LSystem.Expansion.Rewrite
import LSystem.Expansion.Table
import LSystem.FileTree
import LSystem.Garden
import LSystem.Grammar.Basic
import LSystem.Grammar.Draft
import LSystem.Main
import LSystem.Outcome
import LSystem.Path
import LSystem.Plant.Basic
import LSystem.Plant.Options
import LSystem.Proofs.Dictionary
import LSystem.Proofs.Expansion.Gather
import LSystem.Proofs.Expansion.Generations
import LSystem.Proofs.Expansion.Productions
import LSystem.Proofs.Expansion.Substitution
import LSystem.Proofs.Garden.Calls
import LSystem.Proofs.Garden.Events
import LSystem.Proofs.Garden.Idle
import LSystem.Proofs.Garden.Invariant
import LSystem.Proofs.Garden.Settled
import LSystem.Proofs.Grammar.Edits
import LSystem.Proofs.Grammar.Spelling
import LSystem.Proofs.Plant.History
import LSystem.Proofs.Plant.Rebuild
import LSystem.Proofs.Rule.Reading
import LSystem.Proofs.Token.Consistency
import LSystem.Proofs.Token.Declared
import LSystem.Proofs.Turtle.Buffers
import LSystem.Proofs.Turtle.Interpretation
import LSystem.Rule
import LSystem.Settings.Basic
import LSystem.Settings.Session
import LSystem.Settings.Surroundings
import LSystem.Text.Blank
import LSystem.Text.Cased
import LSystem.Text.Digit
import LSystem.Text.Lines
import LSystem.Text.Lowercase
import LSystem.Text.Printable
import LSystem.Text.Quoted
import LSystem.Text.Stretches
import LSystem.Token.Table
import LSystem.Trace.Basic
import LSystem.Trace.Compact
import LSystem.Trace.Sentinel
import LSystem.Turtle.Code
import LSystem.Turtle.Interpret
import LSystem.Turtle.Orientation
import LSystem.Turtle.Pen
import LSystem.Turtle.Plotter
import LSystem.Turtle.Walk
import LSystem.Value.Basic
import LSystem.Value.Key
import LSystem.Value.Notation
import LSystem.Value.Number
import LSystem.Value.Table
import LSystem.Wavefront
import LSystem.Wavefront.Export
import LSystem.Proofs.Garden.Requests
import LSystem.Proofs.Garden.Isolation
import LSystem.Proofs.Grammar.Provenance
import LSystem.Proofs.Token.Runs
import LSystem.Proofs.Token.Lifetime
import LSystem.Proofs.Plant.Snapshot
import LSystem.Proofs.Trace.Acceptance
import LSystem.Proofs.Expansion.Limit
import LSystem.Proofs.Garden.Everywhere
import LSystem.Proofs.Garden.Bounded
import LSystem.Proofs.Settings.Runs
import LSystem.Proofs.Wavefront.Writable
import LSystem.Proofs.Settings.Layers
import LSystem.Proofs.Settings.Loaded
import LSystem.Proofs.Turtle.Nesting
import LSystem.Proofs.Turtle.Resumption
import LSystem.Proofs.Turtle.Branches
import LSystem.Proofs.Turtle.Outline
import LSystem.Proofs.Expansion.Balance
import LSystem.Proofs.Trace.Sentinel
import LSystem.Proofs.Wavefront.Chains
import LSystem.Proofs.Text.Blank
import LSystem.Proofs.Text.Lines
import LSystem.Proofs.Wavefront.Export
import LSystem.Proofs.Grammar.RuleLists
import LSystem.Proofs.Rule.Written
import LSystem.Proofs.Grammar.RuleLines
import LSystem.Proofs.Grammar.Refusals
import LSystem.Proofs.Token.Renaming
import LSystem.Proofs.Grammar.Renaming
import LSystem.Proofs.Garden.Rest
import LSystem.Proofs.Turtle.Rotations
import LSystem.Proofs.Action.Written
import LSystem.Proofs.Turtle.Accesses
import LSystem.Proofs.Turtle.Bounds
import LSystem.Proofs.Text.Lowercase
import LSystem.Proofs.Expansion.Pieces
import LSystem.Proofs.Plant.Words
