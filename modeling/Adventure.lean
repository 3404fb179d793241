import Adventure.Chain.Backward
import Adventure.Chain.Basic
import Adventure.Chain.Finding
import Adventure.Chain.Forward
import Adventure.Chain.Options
import Adventure.Chain.Search
import Adventure.CommandLine.Arguments
import Adventure.CommandLine.Finish
import Adventure.CommandLine.Player
import Adventure.CommandLine.Rules
import Adventure.Console.Failure
import Adventure.Console.Request
import Adventure.Console.Transcript
import Adventure.Console.Turn
import Adventure.Decimal.Shortest
import Adventure.Document
import Adventure.Error
import Adventure.Files.Basic
import Adventure.Files.Disk
import Adventure.Game.Basic
import Adventure.Game.Text
import Adventure.Generation.Game
import Adventure.Generation.Map
import Adventure.Generation.Quests
import Adventure.Identity.Digest
import Adventure.Identity.Uuid
import Adventure.Json.Basic
import Adventure.Json.Number
import Adventure.Json.Reader
import Adventure.Json.Writer
import Adventure.Json.Written
import Adventure.Knowledge.Basic
import Adventure.Knowledge.Compiled
import Adventure.Knowledge.Core
import Adventure.Logic.Action
import Adventure.Logic.Binding
import Adventure.Logic.FreshNames
import Adventure.Logic.Label
import Adventure.Logic.Rule
import Adventure.Logic.Template
import Adventure.Logic.Term
import Adventure.Logic.Walk
import Adventure.Logic.TypeHierarchy
import Adventure.Main
import Adventure.Naming
import Adventure.Play.Policy
import Adventure.Play.Progression
import Adventure.Play.Tracker
import Adventure.Play.Watch
import Adventure.Proofs.Core.Aspects
import Adventure.Proofs.Core.Constraints
import Adventure.Proofs.Matching.Enumeration
import Adventure.Proofs.Matching.Extension
import Adventure.Proofs.Matching.Join
import Adventure.Proofs.Matching.Unification
import Adventure.Proofs.Play.Explored
import Adventure.Proofs.Play.Following
import Adventure.Proofs.Play.Shortest
import Adventure.Proofs.Play.Winning
import Adventure.Proofs.Sorted
import Adventure.Proofs.State.Built
import Adventure.Proofs.State.Indices
import Adventure.Quest.Basic
import Adventure.Random.Concern
import Adventure.Random.Draw
import Adventure.Random.Stream
import Adventure.Record.Game
import Adventure.Record.GameNotation
import Adventure.Record.Knowledge
import Adventure.Record.KnowledgeNotation
import Adventure.Record.Problem
import Adventure.Record.TermNotation
import Adventure.Ron.Basic
import Adventure.Ron.Number
import Adventure.Ron.Part
import Adventure.Ron.Reader
import Adventure.Ron.Token
import Adventure.Ron.Writer
import Adventure.Save.Age
import Adventure.Save.Basic
import Adventure.Save.Slots
import Adventure.Script.Diagnosis
import Adventure.Script.Grammar
import Adventure.Script.Reader
import Adventure.Script.Statement
import Adventure.Script.Text
import Adventure.Search.Priority
import Adventure.Session.Basic
import Adventure.Session.Scene
import Adventure.Session.Step
import Adventure.Settings.Basic
import Adventure.Settings.Debug
import Adventure.Settings.Notation
import Adventure.Sorted
import Adventure.State.Basic
import Adventure.State.Matching
import Adventure.Story
import Adventure.Text.Blank
import Adventure.Text.CodeRange
import Adventure.Text.Identifier
import Adventure.Text.LetterCase
import Adventure.Text.Lowercase
import Adventure.Text.Printable
import Adventure.Text.Slug
import Adventure.Toml.Basic
import Adventure.Toml.Reader
import Adventure.Toml.Scalar
import Adventure.Toml.Table
import Adventure.World.Basic
import Adventure.World.Building
import Adventure.World.Direction
import Adventure.World.Invariant
import Adventure.World.Layout
import Adventure.World.Population
import Adventure.World.Visibility
import Adventure.Proofs.Play.Moves
import Adventure.Proofs.Play.Verdicts
import Adventure.Proofs.Play.Restoring
import Adventure.Proofs.Play.Hopeless
import Adventure.Proofs.Chain.Exploration
import Adventure.Proofs.Chain.Admissible
import Adventure.Proofs.Random.Shuffle
import Adventure.Proofs.Chain.Subgoals
import Adventure.Proofs.Chain.Retracing
import Adventure.Proofs.Generation.Walkthrough
import Adventure.Proofs.Chain.Regression
import Adventure.Proofs.Core.Typing
import Adventure.Proofs.Core.Undoing
import Adventure.Proofs.World.View
import Adventure.Proofs.Core.Tidy
import Adventure.Proofs.World.Preservation
import Adventure.Proofs.Knowledge.Accepted
import Adventure.Proofs.State.Calls
import Adventure.Proofs.Logic.Counting
import Adventure.Proofs.Logic.Minting
import Adventure.Proofs.Random.Choice
import Adventure.Proofs.World.Introduction
import Adventure.Proofs.World.Population
import Adventure.Proofs.Generation.Draft
import Adventure.Proofs.World.Placing
import Adventure.Proofs.Generation.Chart
import Adventure.Proofs.Generation.Map
import Adventure.Proofs.World.Joining
import Adventure.Proofs.World.Completion
import Adventure.Proofs.World.Coherence
import Adventure.Proofs.Game.Recording
import Adventure.Proofs.Generation.Games
import Adventure.Proofs.Script.Layout
import Adventure.Proofs.Script.Tokens
import Adventure.Proofs.Script.Phrases
import Adventure.Proofs.Script.Completeness
import Adventure.Proofs.State.Renaming
import Adventure.Proofs.Chain.Playable
import Adventure.Proofs.Record.Notation
import Adventure.Proofs.Record.Keeping
import Adventure.Proofs.Ron.Spelling
import Adventure.Proofs.Ron.Reading
import Adventure.Proofs.Knowledge.Compiled
import Adventure.Proofs.Knowledge.Hierarchy
import Adventure.Proofs.Matching.Exactness
import Adventure.Proofs.Generation.Replay
import Adventure.Proofs.Text.Words
import Adventure.Proofs.Naming
import Adventure.Proofs.Generation.Titles
import Adventure.Proofs.Logic.Phrases
import Adventure.Proofs.Matching.Determination
import Adventure.Proofs.Core.Commands
import Adventure.Proofs.Play.Commands
import Adventure.Proofs.State.Atomicity
import Adventure.Proofs.Chain.Weakest
import Adventure.Proofs.Chain.Parts
import Adventure.Proofs.Matching.Names
import Adventure.Proofs.Matching.Recovery
import Adventure.Proofs.Script.Yields
import Adventure.Proofs.Knowledge.Templates
import Adventure.Proofs.World.Sight
import Adventure.Proofs.Text.Casing
import Adventure.Proofs.Play.Stepping
import Adventure.Proofs.Chain.Newcomers
import Adventure.Proofs.Knowledge.Inverses
import Adventure.Proofs.Logic.Walks
import Adventure.Proofs.Logic.Climbing
import Adventure.Proofs.Logic.Linking
import Adventure.Proofs.Logic.Kinship
import Adventure.Proofs.Save.Slots
