import Gamebook.Scenario
import Gamebook.Diagnostic
import Gamebook.Text.Lines
import Gamebook.Text.LineRanges
import Gamebook.Text.Fragments
import Gamebook.Text.Decimal
import Gamebook.Text.Blank
import Gamebook.Text.Columns
import Gamebook.Scenario.Parser
import Gamebook.Scenario.Printer
import Gamebook.Recent
import Gamebook.Engine
import Gamebook.Engine.History
import Gamebook.Boundary
import Gamebook.Playthrough
import Gamebook.Playthrough.Script
import Gamebook.Playthrough.Walk
import Gamebook.Json
import Gamebook.Json.Quoted
import Gamebook.Json.Writer
import Gamebook.Json.Reader
import Gamebook.Json.Magnitude
import Gamebook.Json.Fields
import Gamebook.Wire
import Gamebook.TestCase
import Gamebook.FilePath
import Gamebook.FileTree
import Gamebook.Catalog
import Gamebook.TestCase.Run
import Gamebook.Console.Answers
import Gamebook.Console
import Gamebook.Boundary.Lines
import Gamebook.Agent
import Gamebook.CommandLine
import Gamebook.Player.Viewport
import Gamebook.Player.Typewriter
import Gamebook.Player
import Gamebook.Player.Keys
import Gamebook.Player.Layout
import Gamebook.Player.Frame
import Gamebook.FileTree.Bundle
import Gamebook.Main
import Gamebook.Playthrough.Recorded
import Gamebook.Player.History
import Gamebook.Player.InPlace
import Gamebook.Proofs.Engine.Invariant
import Gamebook.Proofs.Playthrough.Walk
import Gamebook.Proofs.Playthrough.Route
import Gamebook.Proofs.Scenario.Choices
import Gamebook.Proofs.Scenario.Written
import Gamebook.Proofs.Scenario.NormalForm
import Gamebook.Proofs.Scenario.LineByLine
import Gamebook.Proofs.Json.Quoted
import Gamebook.Proofs.Json.Visible
import Gamebook.Proofs.Json.Number
import Gamebook.Proofs.Json.Written
import Gamebook.Proofs.Wire.Fields
import Gamebook.Proofs.Wire.Forms
import Gamebook.Proofs.TestCase.Forms
import Gamebook.Proofs.Wire.RoundTrip
import Gamebook.Proofs.Boundary.Advance
import Gamebook.Proofs.Player.InStep
import Gamebook.Proofs.Player.Viewport
import Gamebook.Proofs.Player.Listing
import Gamebook.Proofs.Player.Highlight
import Gamebook.Proofs.Player.Scrolling
import Gamebook.Proofs.Player.Frame
import Gamebook.Proofs.Player.Fit
import Gamebook.Proofs.Player.Newest
import Gamebook.Proofs.Player.Failing
import Gamebook.Proofs.TestCase.Run
import Gamebook.Proofs.TestCase.Check
import Gamebook.Proofs.Agent.Replay
import Gamebook.Proofs.Engine.NormalForm
import Gamebook.Proofs.Engine.Trail
import Gamebook.Proofs.Console.Dialogue
import Gamebook.Proofs.Console.Story
import Gamebook.Proofs.Console.Input
import Gamebook.Proofs.Console.Layout
import Gamebook.Proofs.Boundary.Legible
import Gamebook.Proofs.Boundary.Resting
import Gamebook.Proofs.Scenario.Fragments
import Gamebook.Proofs.Scenario.Separators
import Gamebook.Proofs.FileTree.Paths
import Gamebook.Proofs.Playthrough.Faults
import Gamebook.Proofs.FileTree.Places
import Gamebook.Proofs.FileTree.Follow
import Gamebook.Proofs.FileTree.Directory
import Gamebook.Proofs.FileTree.Changes
import Gamebook.Proofs.Catalog.Loading
import Gamebook.Proofs.Catalog.Directory
import Gamebook.Proofs.Catalog.Undisturbed
import Gamebook.Proofs.Agent.Warnings
import Gamebook.Proofs.Text.LineRanges
import Gamebook.Proofs.Text.Rows
import Gamebook.Proofs.Player.Telling
import Gamebook.Proofs.Player.Ticking
