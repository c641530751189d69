import WorldAccess.Audit.Arguments
import WorldAccess.Audit.Report
import WorldAccess.Decimal.Numeral
import WorldAccess.Decimal.Shortest
import WorldAccess.Engine.Basic
import WorldAccess.Engine.Chain
import WorldAccess.Engine.Checker
import WorldAccess.Engine.Config
import WorldAccess.Engine.Grants
import WorldAccess.Engine.Locality
import WorldAccess.Engine.Operation
import WorldAccess.Engine.Refusal
import WorldAccess.Engine.Session
import WorldAccess.Engine.Standing
import WorldAccess.Entity.Basic
import WorldAccess.Entity.Draft
import WorldAccess.Entity.Id
import WorldAccess.Entity.Kind
import WorldAccess.Entity.Permissions
import WorldAccess.Entity.Property
import WorldAccess.Entity.Rights
import WorldAccess.Event.Basic
import WorldAccess.Event.Bus
import WorldAccess.Failure
import WorldAccess.Json.Basic
import WorldAccess.Json.Reader
import WorldAccess.Json.Writer
import WorldAccess.Main
import WorldAccess.Store.Basic
import WorldAccess.Store.Lookup
import WorldAccess.Store.Snapshot
import WorldAccess.Text.Blank
import WorldAccess.Text.Case
import WorldAccess.Text.CaseTable
import WorldAccess.Text.Composition
import WorldAccess.Text.CompositionTable
import WorldAccess.Text.Numeral
import WorldAccess.Time.Timestamp
import WorldAccess.Wire.Basic
import WorldAccess.Wire.Entity
import WorldAccess.Wire.Text
import WorldAccess.Wire.World
import WorldAccess.World.Basic
import WorldAccess.World.Command
import WorldAccess.Proofs.Audit.Agreement
import WorldAccess.Proofs.Audit.Verdicts
import WorldAccess.Proofs.Engine.ActionUse
import WorldAccess.Proofs.Engine.Additions
import WorldAccess.Proofs.Engine.AdminOverride
import WorldAccess.Proofs.Engine.Amendments
import WorldAccess.Proofs.Engine.Attachment
import WorldAccess.Proofs.Engine.Backing
import WorldAccess.Proofs.Engine.Capabilities
import WorldAccess.Proofs.Engine.Concealment
import WorldAccess.Proofs.Engine.Copies
import WorldAccess.Proofs.Engine.DefaultChains
import WorldAccess.Proofs.Engine.Deputies
import WorldAccess.Proofs.Engine.Enclosure
import WorldAccess.Proofs.Engine.Grants
import WorldAccess.Proofs.Engine.Holders
import WorldAccess.Proofs.Engine.Paths
import WorldAccess.Proofs.Engine.Placement
import WorldAccess.Proofs.Engine.Privilege
import WorldAccess.Proofs.Engine.Recollection
import WorldAccess.Proofs.Engine.RightsAsked
import WorldAccess.Proofs.Engine.SameGroups
import WorldAccess.Proofs.Engine.Sessions
import WorldAccess.Proofs.Engine.Standing
import WorldAccess.Proofs.Engine.Transfers
import WorldAccess.Proofs.Engine.Upkeep
import WorldAccess.Proofs.Engine.Votes
import WorldAccess.Proofs.Entity.Ids
import WorldAccess.Proofs.Entity.Membership
import WorldAccess.Proofs.Entity.Refusals
import WorldAccess.Proofs.Entity.Rights
import WorldAccess.Proofs.Entity.Tracking
import WorldAccess.Proofs.Event.Delivery
import WorldAccess.Proofs.Event.Ledger
import WorldAccess.Proofs.Event.Queue
import WorldAccess.Proofs.Json.RoundTrip
import WorldAccess.Proofs.Json.Spread
import WorldAccess.Proofs.Json.Tokens
import WorldAccess.Proofs.Store.Contents
import WorldAccess.Proofs.Store.Fate
import WorldAccess.Proofs.Store.Issuing
import WorldAccess.Proofs.Store.Loading
import WorldAccess.Proofs.Store.Numbering
import WorldAccess.Proofs.Store.Reload
import WorldAccess.Proofs.Text.Canonical
import WorldAccess.Proofs.Text.Composition
import WorldAccess.Proofs.Text.Decomposition
import WorldAccess.Proofs.Text.Folding
import WorldAccess.Proofs.Text.Lowering
import WorldAccess.Proofs.Text.Numerals
import WorldAccess.Proofs.Text.Sets
import WorldAccess.Proofs.Text.Tables
import WorldAccess.Proofs.Time.Timestamp
import WorldAccess.Proofs.Wire.Records
import WorldAccess.Proofs.Wire.Values
import WorldAccess.Proofs.World.Completeness
import WorldAccess.Proofs.World.Consistency
import WorldAccess.Proofs.World.Editing
import WorldAccess.Proofs.World.Forgetting
import WorldAccess.Proofs.World.Freshness
import WorldAccess.Proofs.World.Hearing
import WorldAccess.Proofs.World.Isolation
import WorldAccess.Proofs.World.Lapses
import WorldAccess.Proofs.World.Lists
import WorldAccess.Proofs.World.Mirror
import WorldAccess.Proofs.World.Naming
import WorldAccess.Proofs.World.RoundTrip
import WorldAccess.Proofs.World.Soundness
import WorldAccess.Proofs.World.Steps
import WorldAccess.Proofs.World.Transparency
import WorldAccess.Proofs.World.Watching
