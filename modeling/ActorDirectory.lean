import ActorDirectory.Dispatch.Jobs
import ActorDirectory.Hash.Xxh3
import ActorDirectory.Locator.Selector
import ActorDirectory.Partition.Entries
import ActorDirectory.Proofs.Cluster.Authority
import ActorDirectory.Proofs.Cluster.Conservation
import ActorDirectory.Proofs.Cluster.Duplicates
import ActorDirectory.Proofs.Cluster.Transparency
import ActorDirectory.Proofs.Locator.Forgetting
import ActorDirectory.Proofs.Locator.Readback
import ActorDirectory.Proofs.Locator.Staleness
import ActorDirectory.Proofs.Membership.Ownership
import ActorDirectory.Proofs.Partition.Tags
import ActorDirectory.Proofs.Store.Contract
import ActorDirectory.Proofs.Store.Framing
import ActorDirectory.Store.Scripted
import ActorDirectory.Proofs.Cluster.Confinement
import ActorDirectory.Proofs.Store.Interference
import ActorDirectory.Proofs.Store.Batches
import ActorDirectory.Proofs.Store.Convergence
import ActorDirectory.Proofs.Store.Isolation
import ActorDirectory.Proofs.Dispatch.Punctuality
import ActorDirectory.Proofs.Store.Renumbering
import ActorDirectory.Proofs.Store.Preparation
import ActorDirectory.Proofs.Cluster.Acceptance
import ActorDirectory.Proofs.Cluster.Reassignment
import ActorDirectory.Proofs.Membership.Clockwise
import ActorDirectory.Proofs.Cache.Inclusion
import ActorDirectory.Proofs.Cluster.Batching
import ActorDirectory.Proofs.Membership.Movement
import ActorDirectory.Proofs.Membership.Differences
import ActorDirectory.Proofs.Partition.Integrity
import ActorDirectory.Proofs.Partition.Purging
import ActorDirectory.Proofs.Locator.Separation
import ActorDirectory.Proofs.Text.Encodings
import ActorDirectory.Proofs.Net.Literals
import ActorDirectory.Proofs.Store.Addressing
import ActorDirectory.Proofs.Store.Attempts
import ActorDirectory.Proofs.Store.Exactness
import ActorDirectory.Proofs.Json.Decoding
