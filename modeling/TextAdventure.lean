import TextAdventure.Console.Basic
import TextAdventure.Console.CommandLine
import TextAdventure.Console.Program
import TextAdventure.Disk.Basic
import TextAdventure.Disk.Path
import TextAdventure.Game.Basic
import TextAdventure.Game.Slots
import TextAdventure.Host
import TextAdventure.Language.Bundled
import TextAdventure.Language.Pack
import TextAdventure.Language.Phrase
import TextAdventure.Language.Vocabulary
import TextAdventure.Log.Event
import TextAdventure.Main
import TextAdventure.Number.Binary64
import TextAdventure.Player.Basic
import TextAdventure.Player.Inventory
import TextAdventure.Room.Basic
import TextAdventure.Room.Choice
import TextAdventure.Room.Record
import TextAdventure.Schema
import TextAdventure.Session.Basic
import TextAdventure.Session.Opening
import TextAdventure.Store.Error
import TextAdventure.Store.Memory
import TextAdventure.Store.Query
import TextAdventure.Store.SaveFile
import TextAdventure.Text.Base64
import TextAdventure.Text.Blank
import TextAdventure.Text.Bytes
import TextAdventure.Text.CaseFold
import TextAdventure.Text.Codes
import TextAdventure.Text.Digit
import TextAdventure.Text.LowerCase
import TextAdventure.Text.Printable
import TextAdventure.Text.Quoted
import TextAdventure.Text.Subject
import TextAdventure.Text.Template
import TextAdventure.Text.Words
import TextAdventure.Turn.Basic
import TextAdventure.Turn.Effect
import TextAdventure.Turn.Play
import TextAdventure.Turn.Reaction
import TextAdventure.Turn.Records
import TextAdventure.Turn.Script
import TextAdventure.Value.Access
import TextAdventure.Value.Basic
import TextAdventure.Value.Copy
import TextAdventure.Value.Display
import TextAdventure.Value.Equality
import TextAdventure.Value.Fields
import TextAdventure.Value.SetOrder
import TextAdventure.Value.Stamp
import TextAdventure.World.Basic
import TextAdventure.World.Bundled
import TextAdventure.World.Integrity
import TextAdventure.Yaml.Construct
import TextAdventure.Yaml.Cursor
import TextAdventure.Yaml.Document
import TextAdventure.Yaml.Merge
import TextAdventure.Yaml.Node
import TextAdventure.Yaml.Outline
import TextAdventure.Yaml.Scalar
import TextAdventure.Yaml.Token
import TextAdventure.Yaml.Writer
import TextAdventure.Proofs.Script.History
import TextAdventure.Proofs.Turn.Acting
import TextAdventure.Proofs.Turn.Queries
import TextAdventure.Proofs.Game.Alone
import TextAdventure.Proofs.Turn.Course
import TextAdventure.Proofs.Turn.Protocol
import TextAdventure.Proofs.Game.Completion
import TextAdventure.Proofs.Game.Saving
import TextAdventure.Proofs.Game.Interleaving
import TextAdventure.Proofs.Game.Progress
import TextAdventure.Proofs.Game.Serial
import TextAdventure.Proofs.Disk.Writing
import TextAdventure.Proofs.Session.Restart
import TextAdventure.Proofs.Turn.Finished
import TextAdventure.Proofs.Turn.Phase
import TextAdventure.Proofs.Store.Collection
import TextAdventure.Proofs.Store.Unreliable
import TextAdventure.Proofs.Turn.Tending
import TextAdventure.Proofs.Game.Collection
import TextAdventure.Proofs.Game.Finished
import TextAdventure.Proofs.Turn.Place
import TextAdventure.Proofs.Store.FailedSave
import TextAdventure.Proofs.Store.SavedIdentity
import TextAdventure.Proofs.Turn.Lifetime
import TextAdventure.Proofs.Game.Outage
import TextAdventure.Proofs.Room.Record
import TextAdventure.Proofs.World.Seeding
import TextAdventure.Proofs.World.Integrity
import TextAdventure.Proofs.Script.Contract
import TextAdventure.Proofs.Game.Contract
import TextAdventure.Proofs.Turn.Contract
import TextAdventure.Proofs.Turn.Integrity
import TextAdventure.Proofs.Turn.Safety
import TextAdventure.Proofs.Session.Integrity
import TextAdventure.Proofs.Turn.Roaming
import TextAdventure.Proofs.Game.Reset
import TextAdventure.Proofs.Store.Fickle
import TextAdventure.Proofs.Turn.Heedless
import TextAdventure.Proofs.Turn.Guards
import TextAdventure.Proofs.Game.Guards
import TextAdventure.Proofs.Game.Roll
import TextAdventure.Proofs.Game.Registry
import TextAdventure.Proofs.Game.Occupancy
import TextAdventure.Proofs.World.Reading
import TextAdventure.Proofs.Session.Refusal
import TextAdventure.Proofs.Turn.Announcement
import TextAdventure.Proofs.Language.Presentation
import TextAdventure.Proofs.Language.Typable
import TextAdventure.Proofs.Turn.Answer
import TextAdventure.Proofs.Room.Choice
import TextAdventure.Proofs.World.Shadowing
import TextAdventure.Proofs.Language.Reach
import TextAdventure.Proofs.Turn.Typing
import TextAdventure.Proofs.Session.Pack
import TextAdventure.Proofs.Player.Inventory
import TextAdventure.Proofs.Turn.Causes
import TextAdventure.Proofs.Turn.Piecewise
import TextAdventure.Proofs.Turn.Replies
