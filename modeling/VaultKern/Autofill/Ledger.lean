import VaultKern.Autofill.Plan

/-! # Receipts

A receipt says that an operation was applied. The receipts of a vault are in one item of its
custom data; only so many are kept, and old ones go.
-/

namespace VaultKern

structure AutofillReceipt where
  operationId : String
  transactionId : String
  sourceIdentitySha256 : String
  planSha256 : String
  mode : ReceiptMode
  entryId : String
  committedAtEpochMs : UInt64
  deriving DecidableEq

structure ReceiptLedger where
  version : UInt32
  receipts : List AutofillReceipt
  deriving DecidableEq

structure AutofillServices extends AutofillLibrary where
  parseLedger : String → Option ReceiptLedger
  printLedger : ReceiptLedger → Option String

def autofillReceiptKey : String := "io.vaultkern.autofill.persist.receipts.v1"
def receiptVersion : UInt32 := 1
def maxReceipts : Nat := 64
def receiptRetentionMs : UInt64 := 30 * 24 * 60 * 60 * 1000
def maxLedgerBytes : Nat := 256 * 1024

abbrev Receipts := BTreeMap String AutofillReceipt

/-! ## Reading -/

def requireLedger (condition : Bool) (message : String) : AutofillResult Unit :=
  if condition then .ok () else .error (.invalidLedger message)

/-- A check of a receipt, its failure reported with another message. -/
def receiptCheck (check : AutofillResult Unit) (message : String) : AutofillResult Unit :=
  match check with
  | .ok _ => .ok ()
  | .error _ => .error (.invalidLedger message)

def validateReceipt (receipt : AutofillReceipt) : AutofillResult Unit := do
  receiptCheck (validateToken "receipt.operation_id" receipt.operationId maxRequestIdBytes) "invalid receipt"
  receiptCheck (validateToken "receipt.transaction_id" receipt.transactionId maxRequestIdBytes) "invalid receipt"
  requireLedger (isSha256Text receipt.sourceIdentitySha256) "invalid receipt.source_identity_sha256"
  requireLedger (isSha256Text receipt.planSha256) "invalid receipt.plan_sha256"
  receiptCheck (validateCanonicalUuid "receipt.entry_id" receipt.entryId) "invalid receipt entry ID"

def readLedger (services : AutofillServices) (vault : Vault) : AutofillResult ReceiptLedger :=
  match vault.metaCustomData[autofillReceiptKey]? with
  | none => .ok { version := receiptVersion, receipts := [] }
  | some value => do
      requireLedger (value.utf8ByteSize ≤ maxLedgerBytes) "receipt ledger is too large"
      match services.parseLedger value with
      | none => .error (.invalidLedger "malformed receipt ledger")
      | some ledger =>
          requireLedger (ledger.version = receiptVersion && ledger.receipts.length ≤ maxReceipts)
            "unsupported or oversized receipt ledger"
          ledger.receipts.forM validateReceipt
          return ledger

/-! ## Collecting -/

/-- The operation, transaction, source, plan and entry are the same; only the time may differ. -/
def sameReceiptBinding (left right : AutofillReceipt) : Bool :=
  left.operationId = right.operationId && left.transactionId = right.transactionId
    && left.sourceIdentitySha256 = right.sourceIdentitySha256 && left.planSha256 = right.planSha256
    && left.mode = right.mode && left.entryId = right.entryId

def insertReceipt (receipts : Receipts) (receipt : AutofillReceipt) : AutofillResult Receipts :=
  match receipts[receipt.operationId]? with
  | none => .ok (receipts.insert receipt.operationId receipt)
  | some existing =>
      if !sameReceiptBinding existing receipt then .error (.conflict .operationBindingMismatch)
      else if receipt.committedAtEpochMs > existing.committedAtEpochMs then
        .ok (receipts.insert receipt.operationId receipt)
      else .ok receipts

def dedupeReceipts (receipts : List AutofillReceipt) : AutofillResult Receipts := receipts.foldlM insertReceipt ∅

def mergeReceiptMaps (base current : Receipts) : AutofillResult Receipts :=
  (current.toList.map Prod.snd).foldlM insertReceipt base

/-- The receipts of a vault. -/
def readReceipts (services : AutofillServices) (vault : Vault) : AutofillResult Receipts := do
  let ledger ← readLedger services vault
  dedupeReceipts ledger.receipts

/-! ## Writing -/

/-- `Vec::swap_remove`. -/
def swapRemove {A : Type} (items : List A) (index : Nat) : List A :=
  match items.getLast? with
  | none => items
  | some last => (items.set index last).dropLast

def laterReceipt (left right : AutofillReceipt) : Bool :=
  left.committedAtEpochMs > right.committedAtEpochMs
    || (left.committedAtEpochMs = right.committedAtEpochMs && right.operationId ≤ left.operationId)

def earlierReceipt (left right : AutofillReceipt) : Bool :=
  left.committedAtEpochMs < right.committedAtEpochMs
    || (left.committedAtEpochMs = right.committedAtEpochMs && left.operationId ≤ right.operationId)

/-- `saturating_sub` of the retention time. -/
def retentionCutoff (nowEpochMs : UInt64) : UInt64 :=
  if nowEpochMs < receiptRetentionMs then 0 else nowEpochMs - receiptRetentionMs

/-- The receipts that stay, with the current one in any case, by time. -/
def prunedReceipts (receipts : List AutofillReceipt) (current : AutofillReceipt) (nowEpochMs : UInt64) :
    List AutofillReceipt :=
  let recent := receipts.filter fun receipt => receipt.committedAtEpochMs ≥ retentionCutoff nowEpochMs
  let kept := (recent.mergeSort laterReceipt).take (maxReceipts - 1)
  (kept ++ [current]).mergeSort earlierReceipt

/-- A call of the core, its error passed on. -/
def autofillMutation {A : Type} (m : Mutator A) (vault : Vault) : AutofillResult Vault :=
  match m vault with
  | (.ok _, vault) => .ok vault
  | (.error e, _) => .error (.mutation (.core e))

def writeLedger (services : AutofillServices) (receipts : List AutofillReceipt) (candidate : Vault) :
    AutofillResult Vault :=
  match services.printLedger { version := receiptVersion, receipts } with
  | none => .error (.invalidLedger "cannot encode ledger")
  | some json => do
      requireLedger (json.utf8ByteSize ≤ maxLedgerBytes) "encoded receipt ledger is too large"
      autofillMutation (upsertVaultCustomData { key := autofillReceiptKey, value := json }) candidate

def writePrunedLedger (services : AutofillServices) (candidate : Vault) (receipts : List AutofillReceipt)
    (currentOperationId : String) (nowEpochMs : UInt64) : AutofillResult Vault :=
  match receipts.findIdx? fun receipt => receipt.operationId = currentOperationId with
  | none => .error (.invalidLedger "current receipt is missing")
  | some index =>
      match receipts[index]? with
      | none => .error (.invalidLedger "current receipt is missing")
      | some current =>
          writeLedger services (prunedReceipts (swapRemove receipts index) current nowEpochMs) candidate

end VaultKern
