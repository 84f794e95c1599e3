import GeometryIndex.Database
import GeometryIndex.Geometry.Tree.Events
import GeometryIndex.Json.Declared
import GeometryIndex.Proofs.Reading.Passage
import GeometryIndex.Proofs.Reading.Header
import GeometryIndex.Proofs.Reading.Telling
import GeometryIndex.Proofs.Reading.Parts
import GeometryIndex.Proofs.Reading.Scripts
import GeometryIndex.Proofs.Reading.Budgets
import GeometryIndex.Proofs.Reading.Grammar
import GeometryIndex.Proofs.Reading.Shells
import GeometryIndex.Proofs.Reading.Values
import GeometryIndex.Proofs.Reading.Agreement
import GeometryIndex.Proofs.Reading.Itemwise
import GeometryIndex.Proofs.Reading.Routing
import GeometryIndex.Proofs.Reading.Streaming
import GeometryIndex.Proofs.Reading.Metadata
import GeometryIndex.Proofs.Reading.Extents
import GeometryIndex.Proofs.Number.Canonical
import GeometryIndex.Proofs.Number.Widening
import GeometryIndex.Proofs.Envelopes.Spans
import GeometryIndex.Proofs.Envelopes.Bounds
import GeometryIndex.Proofs.Envelopes.Joins
import GeometryIndex.Proofs.Envelopes.Collections
import GeometryIndex.Proofs.Envelopes.Compact
import GeometryIndex.Proofs.Keys.Order
import GeometryIndex.Proofs.Keys.Sorting
import GeometryIndex.Proofs.Keys.Widening
import GeometryIndex.Proofs.Storage.Entries
import GeometryIndex.Proofs.Storage.Contents
import GeometryIndex.Proofs.Storage.Drift
import GeometryIndex.Proofs.Storage.Effects
import GeometryIndex.Proofs.Storage.Reachable
import GeometryIndex.Proofs.Storage.Names
import GeometryIndex.Proofs.Storage.Handles
import GeometryIndex.Proofs.Storage.Mirrors
import GeometryIndex.Proofs.Index.Effects
import GeometryIndex.Proofs.Index.Reports
import GeometryIndex.Proofs.Index.Histories
import GeometryIndex.Proofs.Index.Searches
import GeometryIndex.Proofs.Index.Rebuilds
import GeometryIndex.Proofs.Index.Readding
import GeometryIndex.Proofs.Index.Forms
import GeometryIndex.Proofs.Index.SelfSearches
import GeometryIndex.Proofs.Index.Reopening
import GeometryIndex.Proofs.Index.Workspaces
import GeometryIndex.Proofs.Index.Closings
import GeometryIndex.Proofs.Index.Incarnations
import GeometryIndex.Proofs.Index.Removals
import GeometryIndex.Proofs.Index.Cursors
import GeometryIndex.Proofs.Index.Ties
import GeometryIndex.Proofs.Index.Parallels
import GeometryIndex.Proofs.Index.Isolation
import GeometryIndex.Proofs.Index.Noninterference
import GeometryIndex.Proofs.Index.Outcomes
import GeometryIndex.Proofs.Index.Steps
import GeometryIndex.Proofs.Index.Lifetimes
import GeometryIndex.Proofs.Index.Logs
