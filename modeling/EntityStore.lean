import EntityStore.Binary64
import EntityStore.Binary64.Text
import EntityStore.Calendar
import EntityStore.Cancel
import EntityStore.Codec
import EntityStore.CommandLine
import EntityStore.Cursor
import EntityStore.Engine.Affinity
import EntityStore.Engine.Catalog
import EntityStore.Engine.Change
import EntityStore.Engine.Command
import EntityStore.Engine.Connection
import EntityStore.Engine.Definition
import EntityStore.Engine.Error
import EntityStore.Engine.Image
import EntityStore.Engine.Image.Definition
import EntityStore.Engine.Image.Naming
import EntityStore.Engine.Image.Record
import EntityStore.Engine.Image.Token
import EntityStore.Engine.Image.Tree
import EntityStore.Engine.Relation
import EntityStore.Engine.Scan
import EntityStore.Engine.Store
import EntityStore.Engine.Table
import EntityStore.Engine.Transaction
import EntityStore.Error
import EntityStore.Event
import EntityStore.Extended
import EntityStore.FieldMask
import EntityStore.FileTree
import EntityStore.IntRange
import EntityStore.Json
import EntityStore.Json.Scout
import EntityStore.Json.Shape
import EntityStore.Json.Text
import EntityStore.Logging.Journal
import EntityStore.Logging.Settings
import EntityStore.Logging.Sink
import EntityStore.Main
import EntityStore.Migration
import EntityStore.Opening
import EntityStore.Procedure
import EntityStore.Readiness
import EntityStore.Repository
import EntityStore.Schema
import EntityStore.Scout
import EntityStore.Script
import EntityStore.Session
import EntityStore.Statement
import EntityStore.Text.Blank
import EntityStore.Text.Decimal
import EntityStore.Text.Literal
import EntityStore.Text.Mask
import EntityStore.Text.Numeral
import EntityStore.Text.Printable
import EntityStore.Text.Quoted
import EntityStore.Text.Search
import EntityStore.Text.Utf8
import EntityStore.Uuid
import EntityStore.Value
import EntityStore.Proofs.Atomicity
import EntityStore.Proofs.Conduct
import EntityStore.Proofs.Conducted
import EntityStore.Proofs.Exchange
import EntityStore.Proofs.Observation
import EntityStore.Proofs.Plan
import EntityStore.Proofs.Protocol
import EntityStore.Proofs.Roundtrip
import EntityStore.Proofs.Transacted
import EntityStore.Proofs.Engine.Changing
import EntityStore.Proofs.Engine.Keys
import EntityStore.Proofs.Engine.Laying
import EntityStore.Proofs.Engine.Live
import EntityStore.Proofs.Engine.Placing
import EntityStore.Proofs.Engine.Running
import EntityStore.Proofs.Engine.Storing
import EntityStore.Proofs.Engine.Within
import EntityStore.Proofs.Engine.Wording
import EntityStore.Proofs.Engine.Wrapping
import EntityStore.Proofs.Scouts.Answers
import EntityStore.Proofs.Scouts.Canonical
import EntityStore.Proofs.Scouts.Fresh
import EntityStore.Proofs.Scouts.Holding
import EntityStore.Proofs.Scouts.Invariant
import EntityStore.Proofs.Scouts.Kinds
import EntityStore.Proofs.Scouts.Placement
import EntityStore.Proofs.Scouts.Portrayal
import EntityStore.Proofs.Scouts.Reading
import EntityStore.Proofs.Scouts.Refinement
import EntityStore.Proofs.Scouts.Roster
import EntityStore.Proofs.Scouts.Soundness
import EntityStore.Proofs.Scouts.Steps
import EntityStore.Proofs.Scouts.Tables
import EntityStore.Proofs.Scouts.Transactions
import EntityStore.Proofs.Scouts.Writing
import EntityStore.Proofs.Failures
import EntityStore.Proofs.Cancellation
import EntityStore.Proofs.Scouts.Sequences
import EntityStore.Proofs.Scouts.Patching
import EntityStore.Proofs.Scouts.Replacing
import EntityStore.Proofs.Timestamps
import EntityStore.Proofs.Reader
import EntityStore.Proofs.Meaning
import EntityStore.Proofs.Agreement
import EntityStore.Proofs.Engine.Ordering
import EntityStore.Proofs.Engine.Lapsing
import EntityStore.Proofs.Scouts.Decoding
import EntityStore.Proofs.Scouts.Belonging
import EntityStore.Proofs.Scouts.Lockstep
import EntityStore.Proofs.Scouts.Isolation
import EntityStore.Proofs.Scouts.Stored
import EntityStore.Proofs.Scouts.Rewriting
import EntityStore.Proofs.Numerals
import EntityStore.Proofs.Scalars
import EntityStore.Proofs.Engine.Applying
import EntityStore.Proofs.Engine.Attempts
import EntityStore.Proofs.Migrating
import EntityStore.Proofs.Reopening
import EntityStore.Proofs.Scouts.Lengths
import EntityStore.Proofs.Shapes
import EntityStore.Proofs.Scouts.Shaped
import EntityStore.Proofs.Discretion
import EntityStore.Proofs.Directories
import EntityStore.Proofs.Settings
import EntityStore.Proofs.Starting
import EntityStore.Proofs.Agenda
import EntityStore.Proofs.Serving
import EntityStore.Proofs.Scouts.Masking
import EntityStore.Proofs.Scouts.Deleting
import EntityStore.Proofs.Dates
import EntityStore.Proofs.Microseconds
import EntityStore.Proofs.Scouts.Returning
import EntityStore.Proofs.Refusal
import EntityStore.Proofs.Unsigned
import EntityStore.Proofs.Requirements
import EntityStore.Proofs.Scouts.Refusing
import EntityStore.Proofs.Causes
import EntityStore.Proofs.Families
import EntityStore.Proofs.Cursors
import EntityStore.Proofs.Masks
import EntityStore.Proofs.Quoting
import EntityStore.Proofs.Octets
import EntityStore.Proofs.Sources
