import TokenClient.Attribute.Basic
import TokenClient.Attribute.Codec
import TokenClient.Attribute.Display
import TokenClient.Attribute.Equality
import TokenClient.Attribute.Flagged
import TokenClient.Attribute.KeyTypes
import TokenClient.Attribute.Type
import TokenClient.Attribute.Typing
import TokenClient.BigNat
import TokenClient.Client
import TokenClient.Code
import TokenClient.Code.Flag
import TokenClient.Code.KeyType
import TokenClient.Code.Literal
import TokenClient.Code.MechanismType
import TokenClient.Code.Name
import TokenClient.Code.ObjectClass
import TokenClient.Code.Rv
import TokenClient.Date
import TokenClient.Error
import TokenClient.Mechanism.Capability
import TokenClient.Mechanism.Display
import TokenClient.Mechanism.Message
import TokenClient.Mechanism.Params
import TokenClient.Module.Argument
import TokenClient.Module.Call
import TokenClient.Module.Info
import TokenClient.Module.Name
import TokenClient.Module.Program
import TokenClient.Module.Step
import TokenClient.Module.Yield
import TokenClient.Operation
import TokenClient.Proofs.Attribute.Calendar
import TokenClient.Proofs.Attribute.Collection
import TokenClient.Proofs.Attribute.Consistency
import TokenClient.Proofs.Attribute.Editing
import TokenClient.Proofs.Attribute.Equality
import TokenClient.Proofs.Attribute.Failure
import TokenClient.Proofs.Attribute.Flagged
import TokenClient.Proofs.Attribute.Grammar
import TokenClient.Proofs.Attribute.KeyTypes
import TokenClient.Proofs.Attribute.Lawful
import TokenClient.Proofs.Attribute.Payload
import TokenClient.Proofs.Attribute.Reencoding
import TokenClient.Proofs.Attribute.Renumbered
import TokenClient.Proofs.Attribute.RoundTrip
import TokenClient.Proofs.Attribute.Sameness
import TokenClient.Proofs.Attribute.Table
import TokenClient.Proofs.Attribute.Throughout
import TokenClient.Proofs.Attribute.Words
import TokenClient.Proofs.Attribute.Writing
import TokenClient.Proofs.Code.Literal
import TokenClient.Proofs.Code.Naming
import TokenClient.Proofs.Mechanism.Capability
import TokenClient.Proofs.Mechanism.Message
import TokenClient.Proofs.Module.Exchange
import TokenClient.Proofs.Session.Assembly
import TokenClient.Proofs.Session.BulkRead
import TokenClient.Proofs.Session.Cancel
import TokenClient.Proofs.Session.Catalog
import TokenClient.Proofs.Session.Closed
import TokenClient.Proofs.Session.Dialogue
import TokenClient.Proofs.Session.Explanation
import TokenClient.Proofs.Session.FindAll
import TokenClient.Proofs.Session.Flagged
import TokenClient.Proofs.Session.Handout
import TokenClient.Proofs.Session.History
import TokenClient.Proofs.Session.InHand
import TokenClient.Proofs.Session.Invariant
import TokenClient.Proofs.Session.Lifetime
import TokenClient.Proofs.Session.Obtained
import TokenClient.Proofs.Session.Origin
import TokenClient.Proofs.Session.Refusal
import TokenClient.Proofs.Session.Relay
import TokenClient.Proofs.Session.Run
import TokenClient.Proofs.Session.Search
import TokenClient.Proofs.Session.Translation
import TokenClient.Proofs.Session.Verdict
import TokenClient.Proofs.Session.WireTemplate
import TokenClient.Proofs.SoftToken.Agreement
import TokenClient.Proofs.SoftToken.Chunks
import TokenClient.Proofs.SoftToken.Contexts
import TokenClient.Proofs.SoftToken.Dual
import TokenClient.Proofs.SoftToken.Find
import TokenClient.Proofs.SoftToken.Isolation
import TokenClient.Proofs.SoftToken.MessageParts
import TokenClient.Proofs.SoftToken.Objects
import TokenClient.Proofs.SoftToken.Reach
import TokenClient.Proofs.SoftToken.Shown
import TokenClient.Proofs.SoftToken.Signatures
import TokenClient.Proofs.SoftToken.Simulation
import TokenClient.Proofs.SoftToken.Store
import TokenClient.Proofs.SoftToken.View
import TokenClient.Proofs.Text.Blank
import TokenClient.Proofs.Text.Encoding
import TokenClient.Proofs.Text.Hex
import TokenClient.Proofs.Text.Lossy
import TokenClient.Proofs.Text.LowerCase
import TokenClient.Proofs.Text.Sequences
import TokenClient.Proofs.Text.WellFormed
import TokenClient.Proofs.Vendor.Acceptance
import TokenClient.Proofs.Vendor.CodePairs
import TokenClient.Proofs.Vendor.Entries
import TokenClient.Proofs.Vendor.Record
import TokenClient.Proofs.Vendor.Selection
import TokenClient.Proofs.Vendor.Selector
import TokenClient.Proofs.Vendor.Version
import TokenClient.Room
import TokenClient.Session.Basic
import TokenClient.Session.FindCursor
import TokenClient.Session.Flagged
import TokenClient.Session.Objects
import TokenClient.Session.Operations
import TokenClient.Session.Reading
import TokenClient.Session.Request
import TokenClient.Session.Search
import TokenClient.Session.Tracker
import TokenClient.SoftToken.Answer
import TokenClient.SoftToken.Catalog
import TokenClient.SoftToken.Cipher
import TokenClient.SoftToken.OpenSession
import TokenClient.SoftToken.Registry
import TokenClient.SoftToken.State
import TokenClient.SoftToken.StoredObject
import TokenClient.Template
import TokenClient.Template.Edit
import TokenClient.Text.Blank
import TokenClient.Text.Cut
import TokenClient.Text.Encoding
import TokenClient.Text.Hex
import TokenClient.Text.LowerCase
import TokenClient.Text.LowerCase.Table
import TokenClient.Text.Utf8
import TokenClient.Toml.Document
import TokenClient.Toml.Moment
import TokenClient.Toml.Node
import TokenClient.Toml.Number
import TokenClient.Toml.Quoted
import TokenClient.Toml.Scan
import TokenClient.Vendor.CodeMap
import TokenClient.Vendor.Config
import TokenClient.Vendor.Document
import TokenClient.Vendor.Record
import TokenClient.Version
import TokenClient.Wire
import TokenClient.Word
