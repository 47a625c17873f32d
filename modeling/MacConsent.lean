import MacConsent.Network.Profile
import MacConsent.Text.Unprintable
import MacConsent.Text.GraphemeExtend
import MacConsent.Text.Wide
import MacConsent.Text.Emoji
import MacConsent.Text.Blank
import MacConsent.Text.Lines
import MacConsent.Text.LineCount
import MacConsent.Text.Quoted
import MacConsent.Text.Cluster
import MacConsent.Text.Width
import MacConsent.Wording
import MacConsent.Notice
import MacConsent.Markup.Event
import MacConsent.Markup.Row
import MacConsent.Document.Reader
import MacConsent.Document.Writer
import MacConsent.Files.Tree
import MacConsent.Diagnostic
import MacConsent.Store.Roster
import MacConsent.Store.Durable
import MacConsent.Store.Memory
import MacConsent.Dialog.Key
import MacConsent.Queue.Gated
import MacConsent.Router
import MacConsent.Remedy.Confirmation
import MacConsent.Session.Steps
import MacConsent.Console
import MacConsent.Screen.Popup
import MacConsent.CommandLine.Program
import MacConsent.Main
import MacConsent.Proofs.Decimal
import MacConsent.Proofs.Markup.Cuts
import MacConsent.Proofs.Document.Pieces
import MacConsent.Proofs.Trim
import MacConsent.Proofs.Document.Rows
import MacConsent.Proofs.Document.RoundTrip
import MacConsent.Proofs.Files.Tree
import MacConsent.Proofs.Store.Roster
import MacConsent.Proofs.Store.Commit
import MacConsent.Proofs.Store.Durability
import MacConsent.Proofs.Remedy.Requests
import MacConsent.Proofs.Session.Frame
import MacConsent.Proofs.Session.Moments
import MacConsent.Proofs.Session.Watch
import MacConsent.Proofs.Session.Guard
import MacConsent.Proofs.Session.Change
import MacConsent.Proofs.Session.Overwrite
import MacConsent.Proofs.Session.Protocol
import MacConsent.Proofs.Store.Reload
import MacConsent.Proofs.Files.Name
import MacConsent.Proofs.Files.Sound
import MacConsent.Proofs.Store.Atomic
import MacConsent.Proofs.Document.Outline
import MacConsent.Proofs.Document.Elements
import MacConsent.Proofs.Document.Spelled
import MacConsent.Proofs.Queue.Turns
import MacConsent.Proofs.Queue.Account
import MacConsent.Proofs.Queue.Fifo
import MacConsent.Proofs.Queue.Barrier
import MacConsent.Proofs.Session.Mishaps
import MacConsent.Proofs.Session.Shift
import MacConsent.Proofs.Session.InTurn
import MacConsent.Proofs.Session.Settling
import MacConsent.Proofs.Remedy.Effects
import MacConsent.Proofs.Store.Backed
import MacConsent.Proofs.Session.Kept
import MacConsent.Proofs.Session.Applied
import MacConsent.Proofs.Session.Moves
import MacConsent.Proofs.Session.Unsuccessful
import MacConsent.Proofs.Session.Course
import MacConsent.Proofs.Session.Calls
import MacConsent.Proofs.Session.Progress
import MacConsent.Proofs.Router.Registration
import MacConsent.Proofs.Network.Identity
import MacConsent.Proofs.Session.Taps
import MacConsent.Proofs.Session.Line
import MacConsent.Proofs.Session.Stop
import MacConsent.Proofs.CommandLine.Offer
import MacConsent.Proofs.CommandLine.Confirmation
import MacConsent.Proofs.Session.Flush
import MacConsent.Proofs.Session.Channel
import MacConsent.Proofs.Session.Shutdown
import MacConsent.Proofs.Remedy.Consent
import MacConsent.Proofs.Session.Granted
import MacConsent.Proofs.Session.Repetition
import MacConsent.Proofs.Session.Double
import MacConsent.Proofs.Session.Twins
import MacConsent.Proofs.Store.Series
import MacConsent.Proofs.Store.Numbering
import MacConsent.Proofs.Store.Nameless
import MacConsent.Proofs.Store.Keyed
import MacConsent.Proofs.Files.Alike
import MacConsent.Proofs.Store.Bare
import MacConsent.Proofs.Remedy.Bare
import MacConsent.Proofs.Session.Bare
import MacConsent.Proofs.Session.Secrets
import MacConsent.Proofs.Words
import MacConsent.Proofs.Filling
import MacConsent.Proofs.Markup.Extension
import MacConsent.Proofs.Document.Truncation
import MacConsent.Proofs.Printable
import MacConsent.Proofs.Screen.Rows
import MacConsent.Proofs.Screen.Plain
import MacConsent.Proofs.Screen.Cells
import MacConsent.Proofs.Screen.Held
import MacConsent.Proofs.Screen.Drawn
import MacConsent.Proofs.Screen.Message
import MacConsent.Proofs.Screen.Aligned
import MacConsent.Proofs.Screen.Buttons
import MacConsent.Proofs.Screen.Selection
import MacConsent.Proofs.Screen.Places
import MacConsent.Proofs.Screen.Reach
import MacConsent.Proofs.Screen.Whole
import MacConsent.Proofs.Dialog.Keys
import MacConsent.Proofs.Template
import MacConsent.Proofs.Document.Nesting
import MacConsent.Proofs.Session.Board
