import OptionalContainers.Absent
import OptionalContainers.AnyContainer
import OptionalContainers.Atom.Basic
import OptionalContainers.Atom.Written
import OptionalContainers.Binary64
import OptionalContainers.Capability
import OptionalContainers.Container.Hashed
import OptionalContainers.Container.Limited
import OptionalContainers.Container.Sequence
import OptionalContainers.Container.Sorted
import OptionalContainers.Decimal.Layout
import OptionalContainers.Decimal.Shortest
import OptionalContainers.Distinct.Draft
import OptionalContainers.Distinct.FirstOccurrences
import OptionalContainers.Distinct.Index
import OptionalContainers.Distinct.Stage
import OptionalContainers.Enumeration.AnyEnumeration
import OptionalContainers.Enumeration.Cursor
import OptionalContainers.Enumeration.Drain
import OptionalContainers.Enumeration.Lookahead
import OptionalContainers.Fault
import OptionalContainers.Identity
import OptionalContainers.Imprint
import OptionalContainers.Inspected
import OptionalContainers.Journal
import OptionalContainers.Merge
import OptionalContainers.Property.Store
import OptionalContainers.Property.Value
import OptionalContainers.Search
import OptionalContainers.Target
import OptionalContainers.Text.Extender
import OptionalContainers.Text.Ignorable
import OptionalContainers.Text.Quoted
import OptionalContainers.Text.Ranges
import OptionalContainers.Text.Unprinted
import OptionalContainers.Typing
import OptionalContainers.View.Mapping
import OptionalContainers.View.Sequence
import OptionalContainers.View.Set
import OptionalContainers.View.Shaped
import OptionalContainers.View.Stored
import OptionalContainers.View.Traversal
import OptionalContainers.Proofs.Distinct.Acceptance
import OptionalContainers.Proofs.Distinct.Answers
import OptionalContainers.Proofs.View.SetMembership
import OptionalContainers.Proofs.Distinct.Covering
import OptionalContainers.Proofs.View.SetEquality
import OptionalContainers.Proofs.View.SetExtension
import OptionalContainers.Proofs.Property.Names
import OptionalContainers.Proofs.Property.Merging
import OptionalContainers.Proofs.Property.Flattening
import OptionalContainers.Proofs.Target.Attempts
import OptionalContainers.Proofs.Target.ReadOnly
import OptionalContainers.Proofs.Container.HashedEquality
import OptionalContainers.Proofs.View.Sharing
import OptionalContainers.Proofs.View.Equality
import OptionalContainers.Proofs.Target.SequenceUpdates
import OptionalContainers.Proofs.View.SetEvents
import OptionalContainers.Proofs.View.Emptiness
import OptionalContainers.Proofs.Container.Membership
import OptionalContainers.Proofs.Search.FirstMatch
import OptionalContainers.Proofs.Search.Sought
import OptionalContainers.Proofs.Target.Pouring
import OptionalContainers.Proofs.Property.PutOrder
import OptionalContainers.Proofs.Typing.Contents
import OptionalContainers.Proofs.Typing.LoneValue
import OptionalContainers.Proofs.Typing.CommonType
import OptionalContainers.Proofs.Identity.Instances
import OptionalContainers.Proofs.Enumeration.Draining
import OptionalContainers.Proofs.Enumeration.ListCursor
import OptionalContainers.Proofs.Property.Updates
import OptionalContainers.Proofs.Text.ByteOrder
import OptionalContainers.Proofs.Property.NameEnumeration
import OptionalContainers.Proofs.Target.RelatedPuts
import OptionalContainers.Proofs.Property.StoreEquality
import OptionalContainers.Proofs.Distinct.Missing
import OptionalContainers.Proofs.Container.Deduplicating
import OptionalContainers.Proofs.Target.SetMerging
import OptionalContainers.Proofs.Search.Intersection
import OptionalContainers.Proofs.Distinct.Buckets
import OptionalContainers.Proofs.Enumeration.LookingAhead
import OptionalContainers.Proofs.View.Wrapping
