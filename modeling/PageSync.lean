import PageSync.Decimal.Reading
import PageSync.Decimal.Shortest
import PageSync.Decimal.Style
import PageSync.Environment
import PageSync.Error
import PageSync.Json.Basic
import PageSync.Json.Document
import PageSync.Json.Fault
import PageSync.Json.Reader
import PageSync.Json.Scalar
import PageSync.Json.Value
import PageSync.Log.Directive
import PageSync.Log.Event
import PageSync.Log.Filter
import PageSync.Log.Level
import PageSync.Log.Regex
import PageSync.Log.Recorder
import PageSync.Log.Process
import PageSync.Log.Specificity
import PageSync.Page.Edit
import PageSync.Page.Element
import PageSync.Page.Forest
import PageSync.Page.Scene
import PageSync.Page.Browser
import PageSync.Page.Selector
import PageSync.Pass
import PageSync.Query
import PageSync.Session.Action
import PageSync.Session.Basic
import PageSync.Settings.Basic
import PageSync.Settings.Decode
import PageSync.Sidebar
import PageSync.TabGroup
import PageSync.Text.Alphanumeric
import PageSync.Text.Pieces
import PageSync.Text.Combining
import PageSync.Text.Composition
import PageSync.Text.Hex
import PageSync.Text.Percent
import PageSync.Text.Printable
import PageSync.Text.Utf8
import PageSync.Url.Address
import PageSync.Url.Authority
import PageSync.Url.Basic
import PageSync.Url.Domain
import PageSync.Url.Name.Direction
import PageSync.Url.Name.Joining
import PageSync.Url.Name.Mapping
import PageSync.Url.Name.Punycode
import PageSync.Url.Resolve
import PageSync.Url.Segments
import PageSync.Proofs.Except
import PageSync.Proofs.Text.Pieces
import PageSync.Proofs.Text.Percent
import PageSync.Proofs.Text.Utf8
import PageSync.Proofs.Query.Escaping
import PageSync.Proofs.Query.Spelling
import PageSync.Proofs.Url.Tail
import PageSync.Proofs.Url.Queries
import PageSync.Proofs.Url.Segments
import PageSync.Proofs.Url.Settled
import PageSync.Proofs.Url.Roots
import PageSync.Proofs.Json.Numbers
import PageSync.Proofs.Json.Strings
import PageSync.Proofs.Json.Values
import PageSync.Proofs.Settings.Members
import PageSync.Proofs.Settings.Entries
import PageSync.Proofs.Settings.Documents
import PageSync.Proofs.Settings.Decoding
import PageSync.Proofs.Settings.Positional
import PageSync.Proofs.Page.Classes
import PageSync.Proofs.Page.Places
import PageSync.Proofs.Page.Updates
import PageSync.Proofs.Page.Moves
import PageSync.Proofs.Page.Likeness
import PageSync.Proofs.Page.Related
import PageSync.Proofs.Page.Renaming
import PageSync.Proofs.Page.Wiring
import PageSync.Proofs.Page.Removal
import PageSync.Proofs.Pass.Turns
import PageSync.Proofs.Pass.Foresight
import PageSync.Proofs.Pass.Planned
import PageSync.Proofs.Pass.AtOnce
import PageSync.Proofs.Pass.OneMark
import PageSync.Proofs.Pass.Renaming
import PageSync.Proofs.Pass.Repeat
import PageSync.Proofs.Pass.Sidebar
import PageSync.Proofs.Pass.FirstLink
import PageSync.Proofs.Pass.Numeric
import PageSync.Proofs.Pass.Unseen
import PageSync.Proofs.Pass.Spoiled
import PageSync.Proofs.Pass.Spared
import PageSync.Proofs.Pass.Orders
import PageSync.Proofs.Sidebar.Respelling
import PageSync.Proofs.TabGroup.Links
import PageSync.Proofs.TabGroup.Fallback
import PageSync.Proofs.Pass.MissingLinks
import PageSync.Proofs.Session.Containment
import PageSync.Proofs.Session.Frame
import PageSync.Proofs.Session.Wiring
import PageSync.Proofs.Session.Loading
import PageSync.Proofs.Session.Fallback
import PageSync.Proofs.Session.Logging
import PageSync.Proofs.Log.Specificity
import PageSync.Proofs.Log.Grammar
import PageSync.Proofs.Log.Tables
import PageSync.Proofs.Log.Reading
import PageSync.Proofs.Log.Reprinting
import PageSync.Proofs.Log.Spans
import PageSync.Proofs.Log.Limits
import PageSync.Proofs.Log.Installation
import PageSync.Proofs.Log.Order
import PageSync.Proofs.Log.Prefixes
import PageSync.Proofs.Log.Formatting
