import DeckScript.Attempt
import DeckScript.Binary64.Basic
import DeckScript.Binary64.Decimal
import DeckScript.Command.Line
import DeckScript.Command.Name
import DeckScript.Command.Result
import DeckScript.Command.Session
import DeckScript.Deck.Action
import DeckScript.Deck.History
import DeckScript.Deck.Slide
import DeckScript.Deck.Store
import DeckScript.Log
import DeckScript.Number.Basic
import DeckScript.Number.Numeral
import DeckScript.Proofs.Attempt
import DeckScript.Proofs.Binary64.Rounding
import DeckScript.Proofs.Command.Codes
import DeckScript.Proofs.Command.DeckInvariant
import DeckScript.Proofs.Command.Effect
import DeckScript.Proofs.Command.Failure
import DeckScript.Proofs.Command.FreshId
import DeckScript.Proofs.Command.IndexCodes
import DeckScript.Proofs.Command.LeastId
import DeckScript.Proofs.Command.Plan
import DeckScript.Proofs.Command.Position
import DeckScript.Proofs.Command.Requests
import DeckScript.Proofs.Command.Resynchronisation
import DeckScript.Proofs.Command.Run
import DeckScript.Proofs.Command.StoredText
import DeckScript.Proofs.Command.UndoInverse
import DeckScript.Proofs.Command.UndoZipper
import DeckScript.Proofs.Command.Written
import DeckScript.Proofs.Deck.Action
import DeckScript.Proofs.Deck.Cursor
import DeckScript.Proofs.Deck.History
import DeckScript.Proofs.Deck.Position
import DeckScript.Proofs.Deck.Store
import DeckScript.Proofs.Deck.Subscription
import DeckScript.Proofs.Number.Limit
import DeckScript.Proofs.Number.Pattern
import DeckScript.Proofs.Script.Concatenation
import DeckScript.Proofs.Script.Directive
import DeckScript.Proofs.Script.Effects
import DeckScript.Proofs.Script.Execution
import DeckScript.Proofs.Script.Failure
import DeckScript.Proofs.Script.HeaderSpacing
import DeckScript.Proofs.Script.Headers
import DeckScript.Proofs.Script.IdleLines
import DeckScript.Proofs.Script.Levels
import DeckScript.Proofs.Script.Nesting
import DeckScript.Proofs.Script.PrintedDeck
import DeckScript.Proofs.Script.Program
import DeckScript.Proofs.Script.Recognition
import DeckScript.Proofs.Script.Spacing
import DeckScript.Proofs.Script.Steps
import DeckScript.Proofs.Script.Stop
import DeckScript.Proofs.Script.Termination
import DeckScript.Proofs.Script.TimeBudget
import DeckScript.Proofs.Script.TreeWalk
import DeckScript.Proofs.Settings.Comments
import DeckScript.Proofs.Settings.Legible
import DeckScript.Proofs.Settings.Reading
import DeckScript.Proofs.Settings.RefusedChange
import DeckScript.Proofs.Settings.Reload
import DeckScript.Proofs.Settings.Rereading
import DeckScript.Proofs.Settings.RoundTrip
import DeckScript.Proofs.Settings.Storable
import DeckScript.Proofs.Table
import DeckScript.Proofs.Text.Lowercase
import DeckScript.Proofs.Text.Pieces
import DeckScript.Proofs.Text.Squeeze
import DeckScript.Proofs.Value.Json
import DeckScript.Proofs.Value.Moderate
import DeckScript.Script.Block
import DeckScript.Script.Expression
import DeckScript.Script.Handler
import DeckScript.Script.Keyword
import DeckScript.Script.Run
import DeckScript.Script.Statement
import DeckScript.Settings.Basic
import DeckScript.Settings.Document
import DeckScript.Settings.Error
import DeckScript.Settings.Reader
import DeckScript.Settings.Reference
import DeckScript.Table
import DeckScript.Text.Blank
import DeckScript.Text.Case
import DeckScript.Text.Case.Table
import DeckScript.Text.Digit
import DeckScript.Text.Printable
import DeckScript.Text.Quoted
import DeckScript.Text.Word
import DeckScript.Value.Basic
import DeckScript.Value.Inspect
import DeckScript.Value.Json
