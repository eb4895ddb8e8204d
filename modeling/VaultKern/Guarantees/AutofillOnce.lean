import VaultKern.Guarantees.AutofillTarget

/-! # An operation is applied once

What a successful preparation went through, and what it comes to when the current source holds
the receipt of the operation: the plan is left alone, and the receipt stays.
-/

namespace VaultKern

/-! ## Requests -/

section Requests

variable {services : AutofillServices} {input later : AutofillPersistEngineInput} {plan : ValidatedPlan}

/-- The same operation of the same transaction, with the same plan for the same vault. -/
structure SameRequest (input later : AutofillPersistEngineInput) : Prop where
  transactionId : later.transactionId = input.transactionId
  operationId : later.operationId = input.operationId
  vaultId : later.vaultId = input.vaultId
  sourceIdentitySha256 : later.sourceIdentitySha256 = input.sourceIdentitySha256
  plan : later.plan = input.plan

theorem SameRequest.validated (same : SameRequest input later) :
    validatedAutofillPlan services later = validatedAutofillPlan services input := by
  unfold validatedAutofillPlan
  rw [same.transactionId, same.operationId, same.vaultId, same.sourceIdentitySha256, same.plan]

theorem SameRequest.binding (same : SameRequest input later) :
    (intendedReceipt services later plan).binding = (intendedReceipt services input plan).binding := by
  simp only [AutofillReceipt.binding, intendedReceipt, same.transactionId, same.operationId, same.vaultId,
    same.sourceIdentitySha256]

theorem requirePlan_ok {condition : Bool} {message : String} : requirePlan condition message = .ok () ↔ condition = true := by
  unfold requirePlan
  cases condition <;> simp

theorem hexLower_sha256 {nibble : Nat} (small : nibble < 16) :
    ((hexLower nibble).isDigit || ('a' ≤ hexLower nibble && hexLower nibble ≤ 'f')) = true ∧
      (hexLower nibble).utf8Size = 1 := by
  have all : ∀ n : Fin 16, ((hexLower n).isDigit || ('a' ≤ hexLower n && hexLower n ≤ 'f')) = true ∧
      (hexLower n).utf8Size = 1 := by decide
  exact all ⟨nibble, small⟩

theorem mem_hexDigits_lower {width n : Nat} {c : Char} (member : c ∈ hexDigits width n) : ∃ nibble < 16, c = hexLower nibble := by
  induction width generalizing n with
  | zero => cases member
  | succ width ih =>
      rcases List.mem_append.mp member with high | low
      · exact ih high
      · exact ⟨n % 16, Nat.mod_lt n (by omega), List.mem_singleton.mp low⟩

theorem hexDigits_length (width n : Nat) : (hexDigits width n).length = width := by
  induction width generalizing n with
  | zero => rfl
  | succ width ih => simp [hexDigits, ih]

theorem ascii_utf8ByteSize {chars : List Char} (ascii : ∀ c ∈ chars, c.utf8Size = 1) :
    (String.ofList chars).utf8ByteSize = chars.length := by
  induction chars with
  | nil => rfl
  | cons c rest ih =>
      have peel : String.ofList (c :: rest) = String.singleton c ++ String.ofList rest := by
        rw [← String.toList_inj]
        simp
      rw [peel, String.utf8ByteSize_append, ih fun d member => ascii d (List.mem_cons_of_mem c member),
        String.utf8ByteSize_singleton, ascii c List.mem_cons_self, List.length_cons, Nat.add_comm]

/-- 32 bytes in hexadecimal are the text of a digest. -/
theorem hexText_sha256 {bytes : List UInt8} (length : bytes.length = 32) : isSha256Text (hexText bytes) = true := by
  have lower {c : Char} (member : c ∈ bytes.flatMap fun byte => hexDigits 2 byte.toNat) : ∃ nibble < 16, c = hexLower nibble := by
    obtain ⟨byte, _, inside⟩ := List.mem_flatMap.mp member
    exact mem_hexDigits_lower inside
  have ascii : ∀ c ∈ bytes.flatMap fun byte => hexDigits 2 byte.toNat, c.utf8Size = 1 := by
    intro c member
    obtain ⟨nibble, small, rfl⟩ := lower member
    exact (hexLower_sha256 small).2
  unfold isSha256Text hexText
  rw [Bool.and_eq_true, decide_eq_true_eq, ascii_utf8ByteSize ascii, List.length_flatMap]
  constructor
  · simp [hexDigits_length, length]
  · rw [String.toList_ofList, List.all_eq_true]
    intro c member
    obtain ⟨nibble, small, rfl⟩ := lower member
    exact (hexLower_sha256 small).1

/-- What is printed is parsed, and digests have their length. -/
structure AutofillLaw (services : AutofillServices) : Prop extends LedgerLaw services where
  digest : ∀ bytes, (services.sha256 bytes).length = 32

theorem validateToken_receipt {name name' value message : String} {limit : Nat}
    (valid : validateToken name value limit = .ok ()) : receiptCheck (validateToken name' value limit) message = .ok () := by
  have again : validateToken name' value limit = .ok () := requirePlan_ok.mpr (requirePlan_ok.mp valid)
  rw [again]
  rfl

theorem validateCanonicalUuid_receipt {name name' value message : String} (valid : validateCanonicalUuid name value = .ok ()) :
    receiptCheck (validateCanonicalUuid name' value) message = .ok () := by
  have again : validateCanonicalUuid name' value = .ok () := requirePlan_ok.mpr (requirePlan_ok.mp valid)
  rw [again]
  rfl

theorem fromDto_entryId {library : AutofillLibrary} {dto : AutofillPersistPlanDto}
    (valid : ValidatedPlan.fromDto library dto = .ok plan) : ∃ name, validateCanonicalUuid name plan.entryId = .ok () := by
  cases dto with
  | update entryId expected desired =>
      simp only [ValidatedPlan.fromDto, Fallible.bind_ok] at valid
      obtain ⟨_, named, _, _, _, _, _, _, _, _, _, _, same⟩ := valid
      cases same
      exact ⟨_, named⟩
  | create parent planned expected desired =>
      simp only [ValidatedPlan.fromDto, Fallible.bind_ok] at valid
      obtain ⟨_, _, _, named, _, _, _, _, _, _, _, _, _, _, same⟩ := valid
      cases same
      exact ⟨_, named⟩

theorem validated_dto (valid : validatedAutofillPlan services input = .ok plan) :
    ValidatedPlan.fromDto services.toAutofillLibrary input.plan = .ok plan := by
  unfold validatedAutofillPlan at valid
  obtain ⟨_, _, valid⟩ := Fallible.bind_ok.mp valid
  obtain ⟨_, _, valid⟩ := Fallible.bind_ok.mp valid
  obtain ⟨_, _, valid⟩ := Fallible.bind_ok.mp valid
  obtain ⟨_, _, valid⟩ := Fallible.bind_ok.mp valid
  exact valid

theorem validated_canonical (valid : validatedAutofillPlan services input = .ok plan) :
    ∃ id, uuidParseStr plan.entryId = some id ∧ uuidToString id = plan.entryId := by
  obtain ⟨_, canonical⟩ := fromDto_entryId (validated_dto valid)
  obtain ⟨id, parsed, _, named⟩ := validateCanonicalUuid_ok canonical
  exact ⟨id, parsed, named⟩

/-- The receipt of a valid request is valid. -/
theorem validateReceipt_intended (law : AutofillLaw services) (valid : validatedAutofillPlan services input = .ok plan) :
    validateReceipt (intendedReceipt services input plan) = .ok () := by
  unfold validatedAutofillPlan at valid
  obtain ⟨_, transaction, valid⟩ := Fallible.bind_ok.mp valid
  obtain ⟨_, operation, valid⟩ := Fallible.bind_ok.mp valid
  obtain ⟨_, _, valid⟩ := Fallible.bind_ok.mp valid
  obtain ⟨_, source, valid⟩ := Fallible.bind_ok.mp valid
  obtain ⟨_, entryId⟩ := fromDto_entryId valid
  have digest : isSha256Text (intendedReceipt services input plan).planSha256 = true := hexText_sha256 (law.digest _)
  have source' : isSha256Text (intendedReceipt services input plan).sourceIdentitySha256 = true := requirePlan_ok.mp source
  have operation' : receiptCheck (validateToken "receipt.operation_id" (intendedReceipt services input plan).operationId
    maxRequestIdBytes) "invalid receipt" = .ok () := validateToken_receipt operation
  have transaction' : receiptCheck (validateToken "receipt.transaction_id" (intendedReceipt services input plan).transactionId
    maxRequestIdBytes) "invalid receipt" = .ok () := validateToken_receipt transaction
  have entryId' : receiptCheck (validateCanonicalUuid "receipt.entry_id" (intendedReceipt services input plan).entryId)
    "invalid receipt entry ID" = .ok () := validateCanonicalUuid_receipt entryId
  unfold validateReceipt
  simp only [operation', transaction', entryId', source', digest, requireLedger, if_true, Fallible.ok_bind]

end Requests

/-! ## Preparing -/

section Preparing

variable {services : AutofillServices} {input : AutofillPersistEngineInput} {plan : ValidatedPlan}
  {prepared : PreparedAutofillPersist}

/-- The intermediate results of a successful preparation. -/
structure PreparedRun (services : AutofillServices) (input : AutofillPersistEngineInput) (plan : ValidatedPlan)
    (prepared : PreparedAutofillPersist) where
  baseReceipts : Receipts
  readBase : readReceipts services input.baseLoaded = .ok baseReceipts
  currentReceipts : Receipts
  readCurrent : readReceipts services input.currentSource = .ok currentReceipts
  boundBase : checkReceiptBinding (intendedReceipt services input plan) baseReceipts[input.operationId]? = .ok ()
  boundCurrent : checkReceiptBinding (intendedReceipt services input plan) currentReceipts[input.operationId]? = .ok ()
  mergedReceipts : Receipts
  mergedMaps : mergeReceiptMaps baseReceipts currentReceipts = .ok mergedReceipts
  merged : Vault
  candidate : autofillCandidate input plan
    (baseReceipts.contains input.operationId || currentReceipts.contains input.operationId) = .ok merged
  receipts : Receipts
  written : finishAutofillCandidate services input plan receipts merged = .ok prepared.candidate
  settled : if currentReceipts.contains input.operationId then
      receipts = mergedReceipts ∧ prepared.outcome =
        if prepared.candidate = input.currentSource then .replayed plan.entryId else .replayedNeedsPublish plan.entryId
    else insertReceipt mergedReceipts (intendedReceipt services input plan) = .ok receipts ∧
      prepared.outcome = .needsPublish plan.entryId
  digest : prepared.planSha256 = (intendedReceipt services input plan).planSha256

theorem prepareValidatedPlan_ok :
    prepareValidatedPlan services input plan = .ok prepared ↔ Nonempty (PreparedRun services input plan prepared) := by
  unfold prepareValidatedPlan
  simp only [Fallible.bind_ok]
  constructor
  · rintro ⟨baseReceipts, readBase, currentReceipts, readCurrent, _, boundBase, _, boundCurrent, mergedReceipts, mergedMaps,
      merged, candidate, rest⟩
    split at rest
    · rename_i known
      obtain ⟨final, written, same⟩ := Fallible.bind_ok.mp rest
      cases same
      exact ⟨{ baseReceipts, readBase, currentReceipts, readCurrent, boundBase, boundCurrent, mergedReceipts, mergedMaps
               merged, candidate, receipts := mergedReceipts, written
               settled := by rw [if_pos known]; exact ⟨rfl, rfl⟩
               digest := rfl }⟩
    · rename_i fresh
      obtain ⟨receipts, inserted, rest⟩ := Fallible.bind_ok.mp rest
      obtain ⟨final, written, same⟩ := Fallible.bind_ok.mp rest
      cases same
      exact ⟨{ baseReceipts, readBase, currentReceipts, readCurrent, boundBase, boundCurrent, mergedReceipts, mergedMaps
               merged, candidate, receipts, written
               settled := by rw [if_neg fresh]; exact ⟨inserted, rfl⟩
               digest := rfl }⟩
  · rintro ⟨run⟩
    refine ⟨_, run.readBase, _, run.readCurrent, _, run.boundBase, _, run.boundCurrent, _, run.mergedMaps, _, run.candidate, ?_⟩
    have settled := run.settled
    have digest := run.digest
    have written := run.written
    obtain ⟨final, outcome, planSha256⟩ := prepared
    dsimp only at settled digest written
    subst digest
    split
    · rename_i known
      rw [if_pos known] at settled
      rw [← settled.1, written, settled.2]
      rfl
    · rename_i fresh
      rw [if_neg fresh] at settled
      rw [settled.1, Fallible.ok_bind, written, ← settled.2]
      rfl

theorem prepareAutofillPersist_ok : prepareAutofillPersist services input = .ok prepared ↔
    ∃ plan, validatedAutofillPlan services input = .ok plan ∧ Nonempty (PreparedRun services input plan prepared) := by
  unfold prepareAutofillPersist
  simp only [Fallible.bind_ok, prepareValidatedPlan_ok]

theorem checkReceiptBinding_ok {intended : AutofillReceipt} {existing : Option AutofillReceipt} :
    checkReceiptBinding intended existing = .ok () ↔ ∀ receipt, existing = some receipt → receipt.binding = intended.binding := by
  unfold checkReceiptBinding
  cases existing with
  | none => simp
  | some receipt => simp [← sameReceiptBinding_iff, autofillConflict]

/-- The receipts of the vault have the binding of this one. -/
def Vault.HoldsReceipt (services : AutofillServices) (receipt : AutofillReceipt) (vault : Vault) : Prop :=
  ∃ receipts, readReceipts services vault = .ok receipts ∧ HoldsBinding receipts receipt

theorem HoldsBinding.congr {receipts : Receipts} {receipt other : AutofillReceipt} (holds : HoldsBinding receipts receipt)
    (same : other.binding = receipt.binding) : HoldsBinding receipts other := by
  obtain ⟨held, found, alike⟩ := holds
  rw [← AutofillReceipt.binding_operationId same] at found
  exact ⟨held, found, alike.trans same.symm⟩

namespace PreparedRun

variable (run : PreparedRun services input plan prepared)

include run

theorem known_merged : KnownReceipts run.mergedReceipts :=
  mergeReceiptMaps_known (readReceipts_known run.readBase) (readReceipts_known run.readCurrent) run.mergedMaps

theorem known (law : AutofillLaw services) (valid : validatedAutofillPlan services input = .ok plan) :
    KnownReceipts run.receipts := by
  have settled := run.settled
  split at settled
  · rw [settled.1]
    exact run.known_merged
  · exact insertReceipt_known run.known_merged (validateReceipt_intended law valid) settled.1

theorem holds : HoldsBinding run.receipts (intendedReceipt services input plan) := by
  have settled := run.settled
  split at settled
  · rename_i known
    obtain ⟨held, found⟩ := (BTreeMap.mem_iff_lookup ..).mp (Std.ExtTreeMap.contains_iff_mem.mp known)
    have bound := checkReceiptBinding_ok.mp run.boundCurrent held found
    have named : held.operationId = input.operationId := (readReceipts_known run.readCurrent).named _ held found
    have member : held ∈ receiptList run.currentReceipts := mem_receiptList.mpr ⟨_, found⟩
    rw [settled.1]
    exact (insertReceipts_holds member run.mergedMaps).congr bound.symm
  · exact insertReceipt_holds settled.1

/-- The candidate is the merge with its target protected and the ledger written. -/
theorem final (law : AutofillLaw services) (valid : validatedAutofillPlan services input = .ok plan) :
    ∃ current others json, current.operationId = input.operationId ∧
      current.binding = (intendedReceipt services input plan).binding ∧
      WrittenLedger services run.receipts current others input.nowEpochMs json ∧
      prepared.candidate = (protectTargetXmlForbiddenFields run.merged plan.entryId).withLedger json := by
  obtain ⟨current, others, json, named, ledger, same⟩ := writePrunedLedger_ok (run.known law valid) run.written
  obtain ⟨held, found, alike⟩ := run.holds
  have here : run.receipts[input.operationId]? = some current := named ▸ ledger.held
  have held_current : held = current := Option.some.inj (found.symm.trans here)
  exact ⟨current, others, json, named, held_current ▸ alike, ledger, same⟩

/-- The candidate holds the receipt of the operation. -/
theorem candidate_holds (law : AutofillLaw services) (valid : validatedAutofillPlan services input = .ok plan) :
    prepared.candidate.HoldsReceipt services (intendedReceipt services input plan) := by
  obtain ⟨current, others, json, named, alike, ledger, same⟩ := run.final law valid
  obtain ⟨receipts, read, known, held, _⟩ := ledger.reads law.toLedgerLaw (run.known law valid)
    (protectTargetXmlForbiddenFields run.merged plan.entryId)
  rw [same]
  refine ⟨receipts, read, current, ?_, alike⟩
  rw [← AutofillReceipt.binding_operationId alike]
  exact held

theorem candidate_contents (law : AutofillLaw services) (valid : validatedAutofillPlan services input = .ok plan) :
    prepared.candidate.contents = run.merged.contents := by
  obtain ⟨current, others, json, _, _, _, same⟩ := run.final law valid
  rw [same]
  exact protectTarget_contents run.merged plan.entryId

/-- What is merged are the baseline, the local vault with or without the plan, and the current source. -/
theorem vaults : ∃ local', MergedVaults input.baselineSource local' input.currentSource run.merged := by
  have candidate := run.candidate
  unfold autofillCandidate at candidate
  split at candidate
  · exact ⟨input.baseLoaded, mergeAutofillCandidate_ok candidate⟩
  · obtain ⟨local', _, merged⟩ := Fallible.bind_ok.mp candidate
    exact ⟨local', mergeAutofillCandidate_ok merged⟩

/-- What is published is the merge of the local vault: as it is if it holds the receipt, or with the plan. -/
theorem published {entryId : String} (publish : prepared.outcome = .needsPublish entryId) :
    input.baseLoaded.HoldsReceipt services (intendedReceipt services input plan) ∧
        mergeAutofillCandidate input.baselineSource input.baseLoaded input.currentSource = .ok run.merged ∨
      ∃ local', applyPlanToLocalCandidate input.clock plan input.currentSource input.nowEpochMs input.baseLoaded = .ok local' ∧
        mergeAutofillCandidate input.baselineSource local' input.currentSource = .ok run.merged := by
  have candidate := run.candidate
  have fresh : run.currentReceipts.contains input.operationId = false := by
    cases known : run.currentReceipts.contains input.operationId with
    | false => rfl
    | true =>
        have settled := run.settled
        rw [if_pos known] at settled
        have outcome := settled.2.symm.trans publish
        split at outcome <;> cases outcome
  rw [fresh, Bool.or_false] at candidate
  unfold autofillCandidate at candidate
  split at candidate
  · rename_i known
    obtain ⟨held, found⟩ := (BTreeMap.mem_iff_lookup ..).mp (Std.ExtTreeMap.contains_iff_mem.mp known)
    exact .inl ⟨⟨run.baseReceipts, run.readBase, held, found, checkReceiptBinding_ok.mp run.boundBase held found⟩, candidate⟩
  · exact .inr (Fallible.bind_ok.mp candidate)

/-- With the receipt in the current source the plan is not applied. -/
theorem replayed (holds : input.currentSource.HoldsReceipt services (intendedReceipt services input plan)) :
    mergeAutofillCandidate input.baselineSource input.baseLoaded input.currentSource = .ok run.merged ∧
      prepared.outcome =
        if prepared.candidate = input.currentSource then .replayed plan.entryId else .replayedNeedsPublish plan.entryId := by
  obtain ⟨receipts, read, held, found, _⟩ := holds
  have alike : receipts = run.currentReceipts := Except.ok.inj (read.symm.trans run.readCurrent)
  subst alike
  have inside : input.operationId ∈ run.currentReceipts := (BTreeMap.mem_iff_lookup ..).mpr ⟨held, found⟩
  have known : run.currentReceipts.contains input.operationId = true := Std.ExtTreeMap.contains_iff_mem.mpr inside
  have settled := run.settled
  have candidate := run.candidate
  rw [if_pos known] at settled
  rw [known, Bool.or_true] at candidate
  exact ⟨candidate, settled.2⟩

/-- Prepared again on its own result at the same time, a request returns that result. -/
theorem readBack (law : AutofillLaw services) (valid : validatedAutofillPlan services input = .ok plan)
    (apart : prepared.candidate.Apart) {later : AutofillPersistEngineInput} (same : SameRequest input later)
    (baseline : later.baselineSource = prepared.candidate) (loaded : later.baseLoaded = prepared.candidate)
    (source : later.currentSource = prepared.candidate) (now : later.nowEpochMs = input.nowEpochMs) :
    prepareValidatedPlan services later plan = .ok
      { candidate := prepared.candidate, outcome := .replayed plan.entryId, planSha256 := prepared.planSha256 } := by
  obtain ⟨current, others, json, named, alike, ledger, final⟩ := run.final law valid
  obtain ⟨receipts, read, known, held, perm⟩ := ledger.reads law.toLedgerLaw (run.known law valid)
    (protectTargetXmlForbiddenFields run.merged plan.entryId)
  have again := ledger.again (run.known law valid) known held perm (protectTargetXmlForbiddenFields run.merged plan.entryId)
  rw [← final] at read again
  obtain ⟨local', vaults⟩ := run.vaults
  have ids := protectTarget_ids run.merged plan.entryId
  have root : prepared.candidate.root = (protectTargetXmlForbiddenFields run.merged plan.entryId).root := by
    rw [final, withLedger_root]
  have apart' : run.merged.Apart := by
    intro id member
    rw [← ids.1, ← root]
    rw [← ids.2.1, ← root] at member
    exact apart id member
  have identified : prepared.candidate.Identified := by
    have merged := vaults.identified apart'
    constructor
    · exact ⟨by rw [root, ids.1]; exact merged.groups, by rw [root, ids.2.1]; exact merged.entries⟩
    · exact apart
    · rw [final, withLedger_deletedObjects, ids.2.2]
      exact merged.tombstones
  have protectedTarget : protectTargetXmlForbiddenFields prepared.candidate plan.entryId = prepared.candidate :=
    protectTarget_again root
  have bound : checkReceiptBinding (intendedReceipt services later plan) receipts[later.operationId]? = .ok () := by
    rw [checkReceiptBinding_ok, same.operationId, ← named, held]
    intro receipt found
    cases found
    exact alike.trans same.binding.symm
  have contains : receipts.contains later.operationId = true := by
    rw [same.operationId, ← named]
    exact Std.ExtTreeMap.contains_iff_mem.mpr ((BTreeMap.mem_iff_lookup ..).mpr ⟨current, held⟩)
  apply prepareValidatedPlan_ok.mpr
  exact ⟨{
    baseReceipts := receipts
    readBase := by rw [loaded]; exact read
    currentReceipts := receipts
    readCurrent := by rw [source]; exact read
    boundBase := bound
    boundCurrent := bound
    mergedReceipts := receipts
    mergedMaps := mergeReceiptMaps_self known
    merged := prepared.candidate
    candidate := by
      rw [contains, Bool.or_true]
      unfold autofillCandidate
      rw [if_pos rfl, baseline, loaded, source]
      exact mergeAutofillCandidate_self identified
    receipts
    written := by
      unfold finishAutofillCandidate
      rw [protectedTarget, now, same.operationId, ← named]
      exact again
    settled := by
      rw [if_pos contains, if_pos source.symm]
      exact ⟨rfl, rfl⟩
    digest := by
      rw [run.digest]
      have digests := congrArg AutofillReceipt.planSha256 (@SameRequest.binding services _ _ plan same)
      exact digests.symm }⟩

end PreparedRun

end Preparing

/-! ## Samples -/

def exampleUrl : Url :=
  { scheme := "https", username := "", hasPassword := false, host := some "example.com", port := none
    path := "/login", hasQuery := false, hasFragment := false }

/-- Libraries as they answer for one request: its digest and its ledger. -/
def sampleServices (digest : List UInt8) (ledger : ReceiptLedger) (json : String) : AutofillServices :=
  { sha256 := fun _ => digest
    parseUrl := fun text => if text = "https://example.com/login" then some exampleUrl else none
    decodeBase32 := fun _ => none
    parseLedger := fun text => if text = json then some ledger else none
    printLedger := fun other => if other = ledger then some json else none }

theorem sampleServices_law {digest : List UInt8} {ledger : ReceiptLedger} {json : String} (length : digest.length = 32) :
    AutofillLaw (sampleServices digest ledger json) := by
  constructor
  · constructor
    intro other text printed
    simp only [sampleServices] at printed ⊢
    split at printed
    · rename_i same
      cases printed
      rw [if_pos rfl, same]
    · cases printed
  · exact fun _ => length

def sampleSource : String := "0123456789abcdef0123456789abcdef0123456789abcdef0123456789abcdef"

def sampleReceipt (planSha256 : String) (mode : ReceiptMode) (entryId : Uuid) : AutofillReceipt :=
  { operationId := "operation-1", transactionId := "transaction-1", sourceIdentitySha256 := sampleSource
    planSha256, mode, entryId := uuidToString entryId, committedAtEpochMs := 1700000000000 }

def sampleLedger (receipt : AutofillReceipt) : ReceiptLedger := { version := receiptVersion, receipts := [receipt] }

/-- The JSON of a ledger with one receipt. -/
def sampleJson (receipt : AutofillReceipt) (mode : String) : String :=
  "\x7b\"version\":1,\"receipts\":[\x7b\"operationId\":\"" ++ receipt.operationId ++ "\",\"transactionId\":\"" ++
    receipt.transactionId ++ "\",\"sourceIdentitySha256\":\"" ++ receipt.sourceIdentitySha256 ++
    "\",\"planSha256\":\"" ++ receipt.planSha256 ++ "\",\"mode\":\"" ++ mode ++ "\",\"entryId\":\"" ++ receipt.entryId ++
    "\",\"committedAtEpochMs\":1700000000000\x7d]\x7d"

def sampleRequest (plan : AutofillPersistPlanDto) (baseline local' current : Vault) : AutofillPersistEngineInput :=
  { baselineSource := baseline, baseLoaded := local', currentSource := current, transactionId := "transaction-1"
    operationId := "operation-1", vaultId := "vault-1", sourceIdentitySha256 := sampleSource, plan
    nowEpochMs := 1700000000000, clock := 1700000000 }

/-- A new password for the login of the site. -/
def updateSample : AutofillPersistPlanDto :=
  .update (uuidToString 10) ⟨"ada", "old", "https://example.com/login"⟩ ⟨"ada", "new", "https://example.com/login"⟩

def updateDigest : List UInt8 :=
  [118, 209, 239, 60, 114, 14, 126, 64, 74, 178, 235, 79, 46, 47, 157, 150, 15, 88, 72, 145, 75, 186, 95, 5, 252, 119, 4,
    36, 248, 101, 220, 22]

def updateReceipt : AutofillReceipt := sampleReceipt (hexText updateDigest) .update 10

def updateServices : AutofillServices :=
  sampleServices updateDigest (sampleLedger updateReceipt) (sampleJson updateReceipt "update")

/-- A first login for the site. -/
def createSample : AutofillPersistPlanDto :=
  .create (uuidToString 1) (uuidToString 5) []
    { title := "Example", username := "ada", password := "new", url := "https://example.com/login", notes := ""
      totpUri := none, customFields := [] }

def createDigest : List UInt8 :=
  [14, 9, 179, 217, 174, 234, 218, 185, 197, 71, 164, 121, 213, 150, 41, 5, 85, 80, 46, 46, 170, 42, 119, 244, 12, 180, 194,
    13, 19, 249, 192, 79]

def createReceipt : AutofillReceipt := sampleReceipt (hexText createDigest) .create 5

def createServices : AutofillServices :=
  sampleServices createDigest (sampleLedger createReceipt) (sampleJson createReceipt "create")

def loginVault (password : String) (modifiedAt : Nat) : Vault :=
  { name := "Vault"
    root :=
      { id := 1, title := "Root"
        entries := [{ id := 10, title := "Example", username := "ada", password, url := "https://example.com/login", modifiedAt }] } }

def emptyVault : Vault := { name := "Vault", root := { id := 1, title := "Root" } }

/-- Somebody added a group with the id that was planned for an entry. -/
def collidingVault : Vault :=
  { name := "Vault", root := { id := 1, title := "Root", children := [{ id := 5, title := "Work" }] } }

/-! ## Preparing the samples -/

theorem isXml10Text_append {left right : String} (first : isXml10Text left = true) (second : isXml10Text right = true) :
    isXml10Text (left ++ right) = true := by
  simp only [isXml10Text, String.toList_append, List.all_append] at *
  rw [first, second, Bool.and_self]

theorem sampleJson_text {receipt : AutofillReceipt} {mode : String} (operation : isXml10Text receipt.operationId = true)
    (transaction : isXml10Text receipt.transactionId = true) (source : isXml10Text receipt.sourceIdentitySha256 = true)
    (digest : isXml10Text receipt.planSha256 = true) (named : isXml10Text mode = true)
    (entry : isXml10Text receipt.entryId = true) : isXml10Text (sampleJson receipt mode) = true := by
  have first : isXml10Text "\x7b\"version\":1,\"receipts\":[\x7b\"operationId\":\"" = true := by decide +kernel
  have second : isXml10Text "\",\"transactionId\":\"" = true := by decide +kernel
  have third : isXml10Text "\",\"sourceIdentitySha256\":\"" = true := by decide +kernel
  have fourth : isXml10Text "\",\"planSha256\":\"" = true := by decide +kernel
  have fifth : isXml10Text "\",\"mode\":\"" = true := by decide +kernel
  have sixth : isXml10Text "\",\"entryId\":\"" = true := by decide +kernel
  have last : isXml10Text "\",\"committedAtEpochMs\":1700000000000\x7d]\x7d" = true := by decide +kernel
  have binding := isXml10Text_append (isXml10Text_append (isXml10Text_append first operation) second) transaction
  have digests := isXml10Text_append (isXml10Text_append (isXml10Text_append binding third) source) fourth
  have target := isXml10Text_append (isXml10Text_append (isXml10Text_append digests digest) fifth) named
  exact isXml10Text_append (isXml10Text_append (isXml10Text_append target sixth) entry) last

theorem checkCustomDataItem_receipt {json : String} (text : isXml10Text json = true) :
    checkCustomDataItem autofillReceiptKey json = .ok () := by
  have key : isXml10Text autofillReceiptKey = true := by decide +kernel
  have given : autofillReceiptKey.isEmpty = false := by decide +kernel
  unfold checkCustomDataItem validateNonEmptyKey validateUnprotectedXmlText
  rw [key, text, given]
  rfl

theorem readReceipts_none {services : AutofillServices} {vault : Vault} (none' : vault.metaCustomData[autofillReceiptKey]? = none) :
    readReceipts services vault = .ok ∅ := by
  unfold readReceipts readLedger
  rw [none']
  rfl

/-- The vaults of a request do not show in its receipt. -/
theorem intendedReceipt_sample (services : AutofillServices) (plan : AutofillPersistPlanDto) (valid : ValidatedPlan)
    (baseline local' current : Vault) : intendedReceipt services (sampleRequest plan baseline local' current) valid =
      intendedReceipt services (sampleRequest plan emptyVault emptyVault emptyVault) valid := rfl

section Sample

variable {services : AutofillServices} {receipt : AutofillReceipt} {json : String} {plan : AutofillPersistPlanDto}
  {valid : ValidatedPlan} {baseline local' current merged : Vault}

/-- A request over vaults without a ledger is published, with the one receipt of the sample. -/
theorem sampleRequest_prepared
    (printed : services.printLedger (sampleLedger receipt) = some json)
    (validated : validatedAutofillPlan services (sampleRequest plan baseline local' current) = .ok valid)
    (intended : intendedReceipt services (sampleRequest plan baseline local' current) valid = receipt)
    (fresh : local'.metaCustomData[autofillReceiptKey]? = none) (fresh' : current.metaCustomData[autofillReceiptKey]? = none)
    (merges : autofillCandidate (sampleRequest plan baseline local' current) valid false = .ok merged)
    (text : isXml10Text json = true) (small : json.utf8ByteSize ≤ maxLedgerBytes) :
    prepareAutofillPersist services (sampleRequest plan baseline local' current) =
      .ok { candidate := (protectTargetXmlForbiddenFields merged valid.entryId).withLedger json
            outcome := .needsPublish valid.entryId, planSha256 := receipt.planSha256 } := by
  have operation : receipt.operationId = "operation-1" := by rw [← intended]; rfl
  have written : finishAutofillCandidate services
      (sampleRequest plan baseline local' current) valid ((∅ : Receipts).insert receipt.operationId receipt) merged =
        .ok ((protectTargetXmlForbiddenFields merged valid.entryId).withLedger json) := by
    have single : ((∅ : Receipts).insert receipt.operationId receipt).toList.map Prod.snd = [receipt] := rfl
    unfold finishAutofillCandidate writePrunedLedger
    rw [single]
    have pruned : prunedReceipts (swapRemove [receipt] 0) receipt 1700000000000 = [receipt] := by
      simp [prunedReceipts, swapRemove]
    simp only [List.findIdx?_cons, sampleRequest, operation, decide_true, if_true, List.getElem?_cons_zero, pruned]
    exact writeLedger_ok.mpr ⟨json, printed, small, checkCustomDataItem_receipt text, rfl⟩
  refine prepareAutofillPersist_ok.mpr ⟨valid, validated, ⟨?_⟩⟩
  exact {
    baseReceipts := ∅
    readBase := readReceipts_none fresh
    currentReceipts := ∅
    readCurrent := readReceipts_none fresh'
    boundBase := rfl
    boundCurrent := rfl
    mergedReceipts := ∅
    mergedMaps := rfl
    merged
    candidate := merges
    receipts := (∅ : Receipts).insert receipt.operationId receipt
    written
    settled := by
      rw [intended]
      exact ⟨rfl, rfl⟩
    digest := by rw [intended] }

end Sample

def updatedPlan : ValidatedPlan :=
  .update (uuidToString 10) ⟨"ada", "old", "https://example.com/login"⟩ ⟨"ada", "new", "https://example.com/login"⟩

example : (updateReceipt.planSha256.toList.length, updatedPlan.entryId) = (64, uuidToString 10) := by decide +kernel

theorem updateSample_valid (baseline local' current : Vault) :
    validatedAutofillPlan updateServices (sampleRequest updateSample baseline local' current) = .ok updatedPlan := by
  have valid : (validatedAutofillPlan updateServices (sampleRequest updateSample emptyVault emptyVault emptyVault)).toOption =
      some updatedPlan := by decide +kernel
  exact Fallible.toOption_some valid

theorem updateSample_prepared {baseline local' current merged : Vault}
    (fresh : local'.metaCustomData[autofillReceiptKey]? = none) (fresh' : current.metaCustomData[autofillReceiptKey]? = none)
    (merges : autofillCandidate (sampleRequest updateSample baseline local' current) updatedPlan false = .ok merged) :
    prepareAutofillPersist updateServices (sampleRequest updateSample baseline local' current) =
      .ok { candidate := (protectTargetXmlForbiddenFields merged (uuidToString 10)).withLedger
              (sampleJson updateReceipt "update")
            outcome := .needsPublish (uuidToString 10), planSha256 := updateReceipt.planSha256 } := by
  have intended : intendedReceipt updateServices (sampleRequest updateSample emptyVault emptyVault emptyVault) updatedPlan =
      updateReceipt := by decide +kernel
  have text : isXml10Text (sampleJson updateReceipt "update") = true := by apply sampleJson_text <;> decide +kernel
  have small : (sampleJson updateReceipt "update").utf8ByteSize ≤ maxLedgerBytes := by decide +kernel
  have validated := updateSample_valid baseline local' current
  rw [← intendedReceipt_sample _ _ _ baseline local' current] at intended
  have prepared := sampleRequest_prepared (if_pos rfl : updateServices.printLedger (sampleLedger updateReceipt) = _) validated
    intended fresh fresh' merges text small
  rwa [show updatedPlan.entryId = uuidToString 10 from rfl] at prepared

def sampleFields : ValidatedFields :=
  { values := { title := "Example", username := "ada", password := "new", url := "https://example.com/login", notes := "" }
    customFields := ∅, totp := none }

def createdPlan : ValidatedPlan := .create (uuidToString 1) (uuidToString 5) [] sampleFields

theorem createSample_valid (baseline local' current : Vault) :
    validatedAutofillPlan createServices (sampleRequest createSample baseline local' current) = .ok createdPlan := by
  have valid : (validatedAutofillPlan createServices (sampleRequest createSample emptyVault emptyVault emptyVault)).toOption =
      some createdPlan := by decide +kernel
  exact Fallible.toOption_some valid

theorem createSample_prepared {baseline local' current merged : Vault}
    (fresh : local'.metaCustomData[autofillReceiptKey]? = none) (fresh' : current.metaCustomData[autofillReceiptKey]? = none)
    (merges : autofillCandidate (sampleRequest createSample baseline local' current) createdPlan false = .ok merged) :
    prepareAutofillPersist createServices (sampleRequest createSample baseline local' current) =
      .ok { candidate := (protectTargetXmlForbiddenFields merged (uuidToString 5)).withLedger
              (sampleJson createReceipt "create")
            outcome := .needsPublish (uuidToString 5), planSha256 := createReceipt.planSha256 } := by
  have intended : intendedReceipt createServices (sampleRequest createSample emptyVault emptyVault emptyVault) createdPlan =
      createReceipt := by decide +kernel
  have text : isXml10Text (sampleJson createReceipt "create") = true := by apply sampleJson_text <;> decide +kernel
  have small : (sampleJson createReceipt "create").utf8ByteSize ≤ maxLedgerBytes := by decide +kernel
  have validated := createSample_valid baseline local' current
  rw [← intendedReceipt_sample _ _ _ baseline local' current] at intended
  have prepared := sampleRequest_prepared (if_pos rfl : createServices.printLedger (sampleLedger createReceipt) = _) validated
    intended fresh fresh' merges text small
  rwa [show createdPlan.entryId = uuidToString 5 from rfl] at prepared

/-- The login changes to the new password in all three places. -/
theorem updateSample_merges : ∃ merged, autofillCandidate (sampleRequest updateSample (loginVault "old" 0)
    (loginVault "old" 0) (loginVault "old" 0)) updatedPlan false = .ok merged := by
  have merges : (autofillCandidate (sampleRequest updateSample (loginVault "old" 0) (loginVault "old" 0)
      (loginVault "old" 0)) updatedPlan false).toOption.map (fun _ => ()) = some () := by decide +kernel
  obtain ⟨merged, merges, _⟩ := Fallible.ok_of_toOption merges
  exact ⟨merged, merges⟩

/-! ## Once -/

section Once

variable {services : AutofillServices} {input : AutofillPersistEngineInput} {prepared : PreparedAutofillPersist}

/-- What holds from the first publication of a plan on: its receipt is in the candidate; whoever asks
    again with a source that still holds the receipt gets the merge of his vaults, the plan left alone
    and the receipt kept, or no candidate; and the candidate reads back as itself. -/
theorem autofill_applied_once (law : AutofillLaw services) {entryId : String}
    (first : prepareAutofillPersist services input = .ok prepared) (publish : prepared.outcome = .needsPublish entryId) :
    ∃ plan, validatedAutofillPlan services input = .ok plan ∧ entryId = plan.entryId ∧
      prepared.candidate.HoldsReceipt services (intendedReceipt services input plan) ∧
      (∀ later again, SameRequest input later →
        later.currentSource.HoldsReceipt services (intendedReceipt services input plan) →
        prepareAutofillPersist services later = .ok again →
          again.outcome = (if again.candidate = later.currentSource then .replayed entryId else .replayedNeedsPublish entryId) ∧
          again.candidate.HoldsReceipt services (intendedReceipt services input plan) ∧
          ∃ merged, mergeAutofillCandidate later.baselineSource later.baseLoaded later.currentSource = .ok merged ∧
            again.candidate.contents = merged.contents) ∧
      (prepared.candidate.Apart → ∀ later, SameRequest input later → later.baselineSource = prepared.candidate →
        later.baseLoaded = prepared.candidate → later.currentSource = prepared.candidate →
        later.nowEpochMs = input.nowEpochMs →
          prepareAutofillPersist services later = .ok
            { candidate := prepared.candidate, outcome := .replayed entryId, planSha256 := prepared.planSha256 }) := by
  obtain ⟨plan, valid, ⟨run⟩⟩ := prepareAutofillPersist_ok.mp first
  have settled := run.settled
  have named : entryId = plan.entryId := by
    split at settled
    · have outcome := settled.2.symm.trans publish
      split at outcome <;> cases outcome
    · exact (AutofillPersistLogicalOutcome.needsPublish.inj (settled.2.symm.trans publish)).symm
  subst named
  refine ⟨plan, valid, rfl, run.candidate_holds law valid, ?_, ?_⟩
  · intro later again same holds prepared
    obtain ⟨plan', valid', ⟨run'⟩⟩ := prepareAutofillPersist_ok.mp prepared
    have plans : plan' = plan := Except.ok.inj (valid'.symm.trans (same.validated.trans valid))
    subst plans
    have holds' : later.currentSource.HoldsReceipt services (intendedReceipt services later plan') := by
      obtain ⟨receipts, read, held⟩ := holds
      exact ⟨receipts, read, held.congr same.binding⟩
    obtain ⟨merged, outcome⟩ := run'.replayed holds'
    obtain ⟨receipts, read, held⟩ := run'.candidate_holds law valid'
    exact ⟨outcome, ⟨receipts, read, held.congr same.binding.symm⟩, run'.merged, merged, run'.candidate_contents law valid'⟩
  · intro apart later same baseline loaded source now
    unfold prepareAutofillPersist
    rw [same.validated, valid]
    exact run.readBack law valid apart same baseline loaded source now

end Once

theorem autofill_applied_once_login : ∃ prepared plan,
    prepareAutofillPersist updateServices (sampleRequest updateSample (loginVault "old" 0) (loginVault "old" 0)
      (loginVault "old" 0)) = .ok prepared ∧
    prepared.candidate.HoldsReceipt updateServices (intendedReceipt updateServices
      (sampleRequest updateSample (loginVault "old" 0) (loginVault "old" 0) (loginVault "old" 0)) plan) := by
  obtain ⟨merged, merges⟩ := updateSample_merges
  have first := updateSample_prepared rfl rfl merges
  obtain ⟨plan, _, _, holds, _⟩ := autofill_applied_once (sampleServices_law rfl) first rfl
  exact ⟨_, plan, first, holds⟩

/-- A candidate with an entry and a group of one id is not read back. -/
theorem collidingId_notReadBack : ¬ ∀ (services : AutofillServices) (input later : AutofillPersistEngineInput)
    (prepared : PreparedAutofillPersist) (entryId : String), AutofillLaw services →
    prepareAutofillPersist services input = .ok prepared → prepared.outcome = .needsPublish entryId →
    SameRequest input later → later.baselineSource = prepared.candidate → later.baseLoaded = prepared.candidate →
    later.currentSource = prepared.candidate → later.nowEpochMs = input.nowEpochMs →
      ∃ again, prepareAutofillPersist services later = .ok again ∧ again.outcome = .replayed entryId ∧
        again.candidate = prepared.candidate := by
  intro claim
  have merges : (autofillCandidate (sampleRequest createSample emptyVault emptyVault collidingVault) createdPlan
      false).toOption.map (fun merged => (entryIds merged.root, groupIds merged.root)) = some ([5], [1, 5]) := by
    decide +kernel
  obtain ⟨merged, merges, ids⟩ := Fallible.ok_of_toOption merges
  obtain ⟨entries, groups⟩ := Prod.mk.inj ids
  have first := createSample_prepared rfl rfl merges
  obtain ⟨again, read, _⟩ := claim createServices _ (sampleRequest createSample
    ((protectTargetXmlForbiddenFields merged (uuidToString 5)).withLedger (sampleJson createReceipt "create"))
    ((protectTargetXmlForbiddenFields merged (uuidToString 5)).withLedger (sampleJson createReceipt "create"))
    ((protectTargetXmlForbiddenFields merged (uuidToString 5)).withLedger (sampleJson createReceipt "create")))
    _ _ (sampleServices_law rfl) first rfl ⟨rfl, rfl, rfl, rfl, rfl⟩ rfl rfl rfl rfl
  obtain ⟨plan, _, ⟨run⟩⟩ := prepareAutofillPersist_ok.mp read
  obtain ⟨_, vaults⟩ := run.vaults
  have kept := protectTarget_ids merged (uuidToString 5)
  have apart := vaults.validCurrent.apart 5
  simp only [sampleRequest, withLedger_root, kept.1, kept.2.1, entries, groups] at apart
  exact absurd (apart (by decide)) (by decide)

end VaultKern
