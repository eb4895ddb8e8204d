import VaultKern.Lib.OrderedMap
import VaultKern.Lib.ThreeWay
import VaultKern.Lib.ParentForest
import VaultKern.Lib.SiblingList
import VaultKern.Lib.LastWins
import VaultKern.Lib.Fallible
import VaultKern.Model.Types
import VaultKern.Model.CustomData
import VaultKern.Model.Credentials
import VaultKern.Model.History
import VaultKern.Patch.Flat
import VaultKern.Patch.Units
import VaultKern.Patch.CustomDataMerge
import VaultKern.Patch.Slots
import VaultKern.Patch.MergeEntry
import VaultKern.Patch.MergeGroup
import VaultKern.Patch.MergeMeta
import VaultKern.Patch.Siblings
import VaultKern.Patch.Merge
import VaultKern.Patch.ThreeWay
import VaultKern.Tree.Order
import VaultKern.Tree.Rows
import VaultKern.Tree.WellFormed
import VaultKern.Tree.Subtrees
import VaultKern.Tree.Rebuild
import VaultKern.Outcome.SharedEntry
import VaultKern.Outcome.Choice
import VaultKern.Outcome.Closure
import VaultKern.Outcome.Run
import VaultKern.Guarantees.NoOrphans
import VaultKern.Outcome.Conflicts
import VaultKern.Outcome.CustomDataUnits
import VaultKern.Outcome.EntryUnits
import VaultKern.Outcome.Blocks
import VaultKern.Outcome.Replay
import VaultKern.Guarantees.Recoverable
import VaultKern.Guarantees.Deletion
import VaultKern.Lib.Attempt
import VaultKern.Model.Text
import VaultKern.Core.Lookup
import VaultKern.Core.Checks
import VaultKern.Core.KeyedNodes
import VaultKern.Core.Views
import VaultKern.Core.EntryMutators
import VaultKern.Core.VaultMutators
import VaultKern.Core.Detach
import VaultKern.Core.Placement
import VaultKern.Core.Calls
import VaultKern.Guarantees.Atomic
import VaultKern.Guarantees.Placement
import VaultKern.Runtime.HistoryLimits
import VaultKern.Runtime.Session
import VaultKern.Runtime.EntryEdits
import VaultKern.Runtime.EditedEntry
import VaultKern.Guarantees.RuntimeEdits
import VaultKern.Lib.Base64
import VaultKern.Lib.XmlTree
import VaultKern.Lib.NamedNodes
import VaultKern.Kdbx.Text
import VaultKern.Kdbx.Nodes
import VaultKern.Kdbx.Stream
import VaultKern.Kdbx.Write
import VaultKern.Kdbx.Validate
import VaultKern.Kdbx.Shape
import VaultKern.Kdbx.Read
import VaultKern.Kdbx.Container
import VaultKern.Kdbx.Bytes
import VaultKern.Kdbx.Kdf
import VaultKern.Kdbx.Fields
import VaultKern.Kdbx.Dictionaries
import VaultKern.Kdbx.KdfGeneration
import VaultKern.Kdbx.Scope
import VaultKern.Kdbx.Walk
import VaultKern.Kdbx.Mirror
import VaultKern.Kdbx.Returns
import VaultKern.Guarantees.StreamAlignment
import VaultKern.Runtime.SaveVault
import VaultKern.Runtime.Trimming
import VaultKern.Guarantees.HistoryLimits
import VaultKern.Lib.MapRelation
import VaultKern.Passkey.Origins
import VaultKern.Passkey.Ceremony
import VaultKern.Passkey.Signing
import VaultKern.Passkey.Registration
import VaultKern.Passkey.Commands
import VaultKern.Guarantees.CeremonyLedger
import VaultKern.Guarantees.CeremonyRuns
import VaultKern.Guarantees.CeremonyRequesters
import VaultKern.Guarantees.UserVerification
import VaultKern.Guarantees.PasskeyListing
import VaultKern.Passkey.Platform
import VaultKern.Guarantees.PlatformLeases
import VaultKern.Guarantees.PlatformRuns
import VaultKern.Autofill.Plan
import VaultKern.Autofill.Ledger
import VaultKern.Autofill.Persist
import VaultKern.Guarantees.AutofillLedger
import VaultKern.Guarantees.AutofillTarget
import VaultKern.Guarantees.AutofillOnce
import VaultKern.Guarantees.AutofillUpdate
import VaultKern.Guarantees.AutofillCreate
import VaultKern.Lib.Framing
import VaultKern.Lib.Reading
import VaultKern.Lib.Utf8
import VaultKern.Model.CanonicalSerialization
import VaultKern.Runtime.OtpauthUri
import VaultKern.Guarantees.CredentialForms
import VaultKern.Guarantees.CanonicalContent
import VaultKern.Autofill.Pending
import VaultKern.Autofill.FillCandidates
import VaultKern.Guarantees.PlanDigest
import VaultKern.Guarantees.AutofillPending
import VaultKern.Guarantees.TotpDisplay
import VaultKern.Guarantees.MergedLocations
import VaultKern.Core.Places
import VaultKern.Guarantees.LocationClocks
import VaultKern.Guarantees.RecycleBin
import VaultKern.Guarantees.CustomDataBlocks
import VaultKern.Guarantees.AttachmentPool
import VaultKern.Guarantees.KdfGeneration
import VaultKern.Lib.Hex
import VaultKern.Crypto.KeyFile
import VaultKern.Guarantees.KeyFiles
import VaultKern.Runtime.UnlockBlob
import VaultKern.Guarantees.UnlockBlobs
import VaultKern.Lib.OneClaim
import VaultKern.Runtime.ResidentIpc
import VaultKern.Guarantees.ResidentIpc
import VaultKern.Guarantees.SiblingOrders
import VaultKern.Guarantees.PasskeySites
import VaultKern.Guarantees.RecordedOrder
import VaultKern.Guarantees.PlanIdentity
import VaultKern.Guarantees.LedgerMerge
import VaultKern.Guarantees.BlockStreams
import VaultKern.Guarantees.HeaderCodecs
import VaultKern.Guarantees.ProfileVersions
import VaultKern.Lib.LockedFile
import VaultKern.Runtime.VaultReferenceStore
import VaultKern.Guarantees.VaultReferences
import VaultKern.Kdbx.KdfGate
import VaultKern.Guarantees.KdfGate
import VaultKern.Guarantees.QuickUnlock
import VaultKern.Lib.Json
import VaultKern.Lib.OneAtATime
import VaultKern.Extension.NativeBridge
import VaultKern.Guarantees.NativeBridge
import VaultKern.Guarantees.ReceivedMessages
import VaultKern.Guarantees.ChunkedResponses
import VaultKern.Guarantees.ReceivedChunks
import VaultKern.Extension.WebAuthnPageRequests
import VaultKern.Guarantees.PageRequests
import VaultKern.Lib.Anchors
import VaultKern.Guarantees.KeyedSlots
import VaultKern.Extension.FillIntent
import VaultKern.Extension.FillPlan
import VaultKern.Guarantees.FillPlans
import VaultKern.Extension.ApplyFillPlan
import VaultKern.Guarantees.FillTransactions
import VaultKern.Lib.JsValue
import VaultKern.Lib.WriteLog
import VaultKern.Extension.PendingSubmission
import VaultKern.Extension.PendingSubmissionStore
import VaultKern.Guarantees.PendingRecords
import VaultKern.Guarantees.PendingLog
