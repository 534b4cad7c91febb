import Startrail.Library.Reentrancy
import Startrail.Library.SentinelRing
import Startrail.Library.CommitReveal
import Startrail.Library.TokenLedger
import Startrail.Library.Composition
import Startrail.Library.Citations
import Startrail.Library.Hex
import Startrail.Library.Records
import Startrail.Library.Abi
import Startrail.Shared
import Startrail.LicensedUser.Core
import Startrail.LicensedUser.Owners
import Startrail.LicensedUser.Signatures
import Startrail.LicensedUser.Authority
import Startrail.LicensedUser.Representation
import Startrail.LicensedUser.OwnerLists
import Startrail.MetaTx.Core
import Startrail.MetaTx.Authority
import Startrail.MetaTx.Replay
import Startrail.MetaTx.Forwarding
import Startrail.Client.TypedData
import Startrail.Client.Signing
import Startrail.Client.Digests
import Startrail.Client.Calldata
import Startrail.Bulk.Core
import Startrail.Bulk.LeafEncoding
import Startrail.Bulk.Batches
import Startrail.Bulk.Completion
import Startrail.Registry.Core
import Startrail.Registry.Frame
import Startrail.Registry.Ownership
import Startrail.Registry.Accounting
import Startrail.Registry.MetaTransactions
import Startrail.Registry.SelfCalls
import Startrail.Collection.Core
import Startrail.Collection.Frame
import Startrail.Collection.Tokens
import Startrail.Collection.Accounting
import Startrail.Collection.Ownership
import Startrail.Collection.Factory
import Startrail.MetaTx.Recipients
import Startrail.Commitments
import Startrail.Locks
import Startrail.Registry.Records
import Startrail.Registry.Creation
import Startrail.Approvals
import Startrail.Collection.Creation
import Startrail.CustomHistories
import Startrail.Subgraph.Handlers
import Startrail.Subgraph.Views
import Startrail.Subgraph.Indexing
import Startrail.Subgraph.Sources
import Startrail.Subgraph.Calls
import Startrail.Subgraph.Commitments
import Startrail.Subgraph.Wallets
import Startrail.Royalties
import Startrail.Duplicates
import Startrail.Collection.SafeTransfers
import Startrail.Collection.BulkPaths
import Startrail.Library.Catalogues
import Startrail.Registry.Catalogues
import Startrail.Library.Projections
import Startrail.Subgraph.Amendments
import Startrail.Subgraph.Records
import Startrail.Library.Registers
import Startrail.Library.Timelines
import Startrail.Subgraph.Provenance
import Startrail.Subgraph.Handovers
import Startrail.Subgraph.Annals
import Startrail.Subgraph.Histories
import Startrail.Library.Sweeps
import Startrail.RoyaltyReceivers
import Startrail.HistoryEvents
import Startrail.Library.Tables
import Startrail.Registry.MetadataURIs
import Startrail.Registry.DigestURIs
import Startrail.Library.Memory
import Startrail.MultiSend
import Startrail.MetaTx.RequestTypes
import Startrail.Client.TypeHashes
import Startrail.Client.EventQueries
import Startrail.Client.TokenIds
import Startrail.Library.Halves
import Startrail.Client.Nonces
import Startrail.Subgraph.Revisions
import Startrail.Subgraph.BulkRecords
import Startrail.Library.Merkle
import Startrail.Bulk.Trees
import Startrail.Bulk.Integrity
import Startrail.Library.Linking
import Startrail.Platform.Core
import Startrail.Platform.Wiring
import Startrail.Platform.Rules
import Startrail.Platform.Consent
import Startrail.Platform.Issuance
import Startrail.Platform.Parts
import Startrail.Proxies.Core
import Startrail.Proxies.Slots
import Startrail.Proxies.Administration
import Startrail.Proxies.Transparency
import Startrail.Library.Since
import Startrail.Registry.Spenders
import Startrail.Collection.Spenders
import Startrail.Subgraph.Forwarder
import Startrail.Subgraph.Links
