import VaultKern.Guarantees.AutofillOnce

/-! # Ledgers merged and pruned

What a merge of ledgers holds is told by the receipts that went in: of every operation the
latest one. So it does not matter in which order ledgers are merged. A ledger that is written
holds the current receipt and the newest of the others.
-/

namespace VaultKern

/-! ## Collecting -/

/-- Receipts of one operation say the same but for their time. -/
def Agree (list : List AutofillReceipt) : Prop :=
  ∀ first ∈ list, ∀ second ∈ list, first.operationId = second.operationId → first.binding = second.binding

/-- The map holds the latest receipt of every operation. -/
structure HoldsLatest (list : List AutofillReceipt) (receipts : Receipts) : Prop where
  held : ∀ (operationId : String) (receipt : AutofillReceipt), receipts[operationId]? = some receipt →
    receipt ∈ list ∧ receipt.operationId = operationId
  latest : ∀ receipt ∈ list, ∃ kept, receipts[receipt.operationId]? = some kept ∧
    receipt.committedAtEpochMs ≤ kept.committedAtEpochMs

/-- What comes of collecting receipts: the latest ones, or the conflict of two of them. -/
def Collects (list : List AutofillReceipt) (result : AutofillResult Receipts) : Prop :=
  (∃ receipts, result = .ok receipts ∧ Agree list ∧ HoldsLatest list receipts) ∨
    result = .error (.conflict .operationBindingMismatch) ∧ ¬ Agree list

section Collecting

variable {list others : List AutofillReceipt} {receipts receipts' : Receipts} {receipt : AutofillReceipt}

theorem AutofillReceipt.eq_of_binding {left right : AutofillReceipt} (same : left.binding = right.binding)
    (times : left.committedAtEpochMs = right.committedAtEpochMs) : left = right := by
  cases left
  cases right
  simp_all [AutofillReceipt.binding]

theorem Agree.sub (agree : Agree list) (sub : ∀ receipt ∈ others, receipt ∈ list) : Agree others :=
  fun first inside second inside' => agree first (sub first inside) second (sub second inside')

/-- What one map holds the other holds. -/
theorem HoldsLatest.lookup (agree : Agree list) (same : ∀ receipt, receipt ∈ list ↔ receipt ∈ others)
    (latest : HoldsLatest list receipts) (latest' : HoldsLatest others receipts') {operationId : String}
    (held : receipts[operationId]? = some receipt) : receipts'[operationId]? = some receipt := by
  obtain ⟨member, rfl⟩ := latest.held operationId receipt held
  obtain ⟨kept, found, later⟩ := latest'.latest receipt ((same receipt).mp member)
  obtain ⟨member', named⟩ := latest'.held _ kept found
  have inside := (same kept).mpr member'
  obtain ⟨again, found', later'⟩ := latest.latest kept inside
  rw [named, held] at found'
  cases found'
  have binding := agree kept inside receipt member named
  have times : kept.committedAtEpochMs = receipt.committedAtEpochMs := UInt64.le_antisymm later' later
  rw [found, AutofillReceipt.eq_of_binding binding times]

/-- One result for lists of the same receipts. -/
theorem Collects.unique (same : ∀ receipt, receipt ∈ list ↔ receipt ∈ others) {result result' : AutofillResult Receipts}
    (collects : Collects list result) (collects' : Collects others result') : result = result' := by
  have same' (receipt : AutofillReceipt) : receipt ∈ others ↔ receipt ∈ list := (same receipt).symm
  rcases collects with ⟨receipts, rfl, agree, latest⟩ | ⟨rfl, conflict⟩
  · rcases collects' with ⟨receipts', rfl, agree', latest'⟩ | ⟨_, conflict'⟩
    · congr 1
      apply Std.ExtTreeMap.ext_getElem?
      intro operationId
      apply Option.ext
      intro receipt
      exact ⟨latest.lookup agree same latest', latest'.lookup agree' same' latest⟩
    · exact absurd (agree.sub fun receipt => (same receipt).mpr) conflict'
  · rcases collects' with ⟨_, _, agree', _⟩ | ⟨rfl, _⟩
    · exact absurd (agree'.sub fun receipt => (same receipt).mp) conflict
    · rfl

theorem Agree.append_one (agree : Agree list)
    (alike : ∀ other ∈ list, other.operationId = receipt.operationId → other.binding = receipt.binding) :
    Agree (list ++ [receipt]) := by
  intro first inside second inside' named
  rcases List.mem_append.mp inside with old | new
  · rcases List.mem_append.mp inside' with old' | new'
    · exact agree first old second old' named
    · cases List.mem_singleton.mp new'
      exact alike first old named
  · cases List.mem_singleton.mp new
    rcases List.mem_append.mp inside' with old' | new'
    · exact (alike second old' named.symm).symm
    · cases List.mem_singleton.mp new'
      rfl

/-- A receipt that is later than those of its operation goes in. -/
theorem HoldsLatest.insert (latest : HoldsLatest list receipts)
    (newest : ∀ other ∈ list, other.operationId = receipt.operationId →
      other.committedAtEpochMs ≤ receipt.committedAtEpochMs) :
    HoldsLatest (list ++ [receipt]) (receipts.insert receipt.operationId receipt) where
  held operationId found lookup := by
    rw [BTreeMap.insert_lookup] at lookup
    split at lookup
    · rename_i here
      cases lookup
      exact ⟨by simp, here⟩
    · obtain ⟨member, named⟩ := latest.held operationId found lookup
      exact ⟨List.mem_append_left _ member, named⟩
  latest other member := by
    rw [BTreeMap.insert_lookup]
    split
    · rename_i here
      refine ⟨receipt, rfl, ?_⟩
      rcases List.mem_append.mp member with old | new
      · exact newest other old here.symm
      · rw [List.mem_singleton.mp new]
        exact UInt64.le_refl _
    · rename_i elsewhere
      rcases List.mem_append.mp member with old | new
      · exact latest.latest other old
      · exact absurd (congrArg _ (List.mem_singleton.mp new).symm) elsewhere

/-- One receipt more. -/
theorem insertReceipt_collects (agree : Agree list) (latest : HoldsLatest list receipts) :
    Collects (list ++ [receipt]) (insertReceipt receipts receipt) := by
  unfold insertReceipt
  cases held : receipts[receipt.operationId]? with
  | none =>
      have fresh : ∀ other ∈ list, other.operationId ≠ receipt.operationId := by
        intro other member named
        obtain ⟨kept, found, _⟩ := latest.latest other member
        rw [named, held] at found
        cases found
      refine .inl ⟨_, rfl, agree.append_one fun other member named => absurd named (fresh other member), ?_⟩
      exact latest.insert fun other member named => absurd named (fresh other member)
  | some existing =>
      obtain ⟨inside, named⟩ := latest.held _ existing held
      dsimp only
      split
      · rename_i differ
        refine .inr ⟨rfl, fun both => ?_⟩
        have binding := both existing (List.mem_append_left _ inside) receipt (by simp) named
        rw [sameReceiptBinding_iff.mpr binding] at differ
        cases differ
      · rename_i alike
        simp only [Bool.not_eq_true', Bool.not_eq_false] at alike
        have binding := sameReceiptBinding_iff.mp alike
        have agree' : Agree (list ++ [receipt]) := by
          apply agree.append_one
          intro other member named'
          exact (agree other member existing inside (named'.trans named.symm)).trans binding
        split
        · rename_i newer
          refine .inl ⟨_, rfl, agree', latest.insert fun other member named' => ?_⟩
          obtain ⟨kept, found, later⟩ := latest.latest other member
          rw [named', held] at found
          cases found
          exact UInt64.le_trans later (UInt64.le_of_lt newer)
        · rename_i older
          refine .inl ⟨receipts, rfl, agree', ?_, ?_⟩
          · intro operationId found lookup
            obtain ⟨member, named⟩ := latest.held operationId found lookup
            exact ⟨List.mem_append_left _ member, named⟩
          · intro other member
            rcases List.mem_append.mp member with old | new
            · exact latest.latest other old
            · rw [List.mem_singleton.mp new]
              exact ⟨existing, held, UInt64.not_lt.mp older⟩

theorem insertReceipts_collects (agree : Agree list) (latest : HoldsLatest list receipts) :
    Collects (list ++ others) (others.foldlM insertReceipt receipts) := by
  induction others generalizing list receipts with
  | nil =>
      rw [List.append_nil]
      exact .inl ⟨receipts, rfl, agree, latest⟩
  | cons first rest ih =>
      rw [List.foldlM_cons, List.append_cons]
      rcases insertReceipt_collects agree latest with ⟨mid, inserted, agree', latest'⟩ | ⟨inserted, conflict⟩
      · rw [inserted]
        exact ih agree' latest'
      · rw [inserted]
        exact .inr ⟨rfl, fun both => conflict (both.sub fun receipt => List.mem_append_left rest)⟩

theorem KnownReceipts.agree (known : KnownReceipts receipts) : Agree (receiptList receipts) := by
  intro first inside second inside' named
  have held := known.mem_list.mp inside
  rw [named, known.mem_list.mp inside'] at held
  cases held
  rfl

theorem KnownReceipts.holdsLatest (known : KnownReceipts receipts) : HoldsLatest (receiptList receipts) receipts where
  held operationId receipt found := ⟨mem_receiptList.mpr ⟨operationId, found⟩, known.named operationId receipt found⟩
  latest receipt member := ⟨receipt, known.mem_list.mp member, UInt64.le_refl _⟩

/-! ## Merging -/

theorem mergeReceiptMaps_collects (agree : Agree list) (latest : HoldsLatest list receipts) :
    Collects (list ++ receiptList receipts') (mergeReceiptMaps receipts receipts') :=
  insertReceipts_collects agree latest

variable {a b c merged : Receipts}

theorem mergeReceiptMaps_comm (first : KnownReceipts a) (second : KnownReceipts b) :
    mergeReceiptMaps a b = mergeReceiptMaps b a := by
  apply (mergeReceiptMaps_collects first.agree first.holdsLatest).unique _
    (mergeReceiptMaps_collects second.agree second.holdsLatest)
  intro receipt
  rw [List.mem_append, List.mem_append, or_comm]

theorem mergeReceiptMaps_then (first : KnownReceipts a) :
    Collects (receiptList a ++ receiptList b ++ receiptList c)
      (mergeReceiptMaps a b >>= fun merged => mergeReceiptMaps merged c) := by
  rcases mergeReceiptMaps_collects first.agree first.holdsLatest with
    ⟨merged, done, agree, latest⟩ | ⟨failed, conflict⟩
  · rw [done]
    exact mergeReceiptMaps_collects agree latest
  · rw [failed]
    exact .inr ⟨rfl, fun both => conflict (both.sub fun receipt => List.mem_append_left _)⟩

/-- Of three ledgers any two may be merged first. -/
theorem mergeReceiptMaps_assoc (first : KnownReceipts a) (second : KnownReceipts b) (third : KnownReceipts c) :
    (mergeReceiptMaps a b >>= fun merged => mergeReceiptMaps merged c) =
      mergeReceiptMaps b c >>= fun merged => mergeReceiptMaps a merged := by
  have turned : (mergeReceiptMaps b c >>= fun merged => mergeReceiptMaps a merged) =
      mergeReceiptMaps b c >>= fun merged => mergeReceiptMaps merged a := by
    cases done : mergeReceiptMaps b c with
    | error e => rfl
    | ok merged => exact mergeReceiptMaps_comm first (mergeReceiptMaps_known second third done)
  rw [turned]
  apply (mergeReceiptMaps_then first).unique _ (mergeReceiptMaps_then second)
  intro receipt
  simp only [List.mem_append]
  grind

/-- Merging one of the two sides again changes nothing. -/
theorem mergeReceiptMaps_absorbs (first : KnownReceipts a) (done : mergeReceiptMaps a b = .ok merged) :
    mergeReceiptMaps merged a = .ok merged ∧ mergeReceiptMaps merged b = .ok merged := by
  rcases mergeReceiptMaps_collects first.agree first.holdsLatest with ⟨held, same, agree, latest⟩ | ⟨failed, _⟩
  · cases done.symm.trans same
    have settled : Collects (receiptList a ++ receiptList b) (.ok merged) := .inl ⟨merged, rfl, agree, latest⟩
    constructor
    · apply (mergeReceiptMaps_collects agree latest).unique _ settled
      simp [or_comm]
    · apply (mergeReceiptMaps_collects agree latest).unique _ settled
      simp
  · cases done.symm.trans failed

/-- A merge fails just where the two sides have different receipts of one operation. -/
theorem mergeReceiptMaps_conflict (first : KnownReceipts a) (second : KnownReceipts b) :
    mergeReceiptMaps a b = .error (.conflict .operationBindingMismatch) ↔
      ∃ (operationId : String) (left right : AutofillReceipt),
        a[operationId]? = some left ∧ b[operationId]? = some right ∧ left.binding ≠ right.binding := by
  constructor
  · intro failed
    rcases mergeReceiptMaps_collects first.agree first.holdsLatest with ⟨held, same, _, _⟩ | ⟨_, conflict⟩
    · cases failed.symm.trans same
    · by_contra none
      apply conflict
      have alike {left right : AutofillReceipt} (inside : left ∈ receiptList a) (inside' : right ∈ receiptList b)
          (named : left.operationId = right.operationId) : left.binding = right.binding := by
        by_contra differ
        refine none ⟨left.operationId, left, right, first.mem_list.mp inside, ?_, differ⟩
        rw [named]
        exact second.mem_list.mp inside'
      intro left inside right inside' named
      rcases List.mem_append.mp inside with here | here
      · rcases List.mem_append.mp inside' with there | there
        · exact first.agree left here right there named
        · exact alike here there named
      · rcases List.mem_append.mp inside' with there | there
        · exact (alike there here named.symm).symm
        · exact second.agree left here right there named
  · rintro ⟨operationId, left, right, here, there, differ⟩
    rcases mergeReceiptMaps_collects first.agree first.holdsLatest with ⟨held, same, agree, _⟩ | ⟨failed, _⟩
    · have inside := List.mem_append_left (receiptList b) (mem_receiptList.mpr ⟨operationId, here⟩)
      have inside' := List.mem_append_right (receiptList a) (mem_receiptList.mpr ⟨operationId, there⟩)
      have named := (first.named _ _ here).trans (second.named _ _ there).symm
      exact absurd (agree left inside right inside' named) differ
    · exact failed

theorem HoldsLatest.find (latest : HoldsLatest list receipts) (member : receipt ∈ list) :
    ∃ kept, receipts[receipt.operationId]? = some kept ∧ kept ∈ list ∧ kept.operationId = receipt.operationId ∧
      receipt.committedAtEpochMs ≤ kept.committedAtEpochMs := by
  obtain ⟨kept, found, later⟩ := latest.latest receipt member
  obtain ⟨inside, named⟩ := latest.held _ kept found
  exact ⟨kept, found, inside, named, later⟩

/-- No receipt of either side is lost, but for one that has a later equal. -/
theorem mergeReceiptMaps_keeps (first : KnownReceipts a) (done : mergeReceiptMaps a b = .ok merged) {operationId : String}
    (held : a[operationId]? = some receipt ∨ b[operationId]? = some receipt) :
    ∃ kept, merged[receipt.operationId]? = some kept ∧ kept.binding = receipt.binding ∧
      receipt.committedAtEpochMs ≤ kept.committedAtEpochMs := by
  rcases mergeReceiptMaps_collects first.agree first.holdsLatest with ⟨merged', same, agree, latest⟩ | ⟨failed, _⟩
  · cases done.symm.trans same
    have member : receipt ∈ receiptList a ++ receiptList b := by
      rcases held with here | there
      · exact List.mem_append_left _ (mem_receiptList.mpr ⟨_, here⟩)
      · exact List.mem_append_right _ (mem_receiptList.mpr ⟨_, there⟩)
    obtain ⟨kept, found, inside, named, later⟩ := latest.find member
    exact ⟨kept, found, agree kept inside receipt member named, later⟩
  · cases done.symm.trans failed

end Collecting

/-! ## Pruning -/

/-- A ledger with the current receipt and the newest of the others that are not too old. -/
structure SafeLedger (receipts : Receipts) (current : AutofillReceipt) (nowEpochMs : UInt64)
    (ledger : List AutofillReceipt) : Prop where
  holdsCurrent : current ∈ ledger
  few : ledger.length ≤ maxReceipts
  distinct : (ledger.map (·.operationId)).Nodup
  held : ∀ receipt ∈ ledger, receipts[receipt.operationId]? = some receipt
  recent : ∀ receipt ∈ ledger, receipt ≠ current → retentionCutoff nowEpochMs ≤ receipt.committedAtEpochMs
  newest : ∀ dropped : AutofillReceipt, receipts[dropped.operationId]? = some dropped →
    retentionCutoff nowEpochMs ≤ dropped.committedAtEpochMs → dropped ∉ ledger →
      ledger.length = maxReceipts ∧
        ∀ kept ∈ ledger, kept ≠ current → dropped.committedAtEpochMs ≤ kept.committedAtEpochMs

section Pruning

variable {services : AutofillServices} {receipts : Receipts} {current : AutofillReceipt} {others : List AutofillReceipt}
  {now : UInt64} {json : String} {receipt : AutofillReceipt}

theorem laterReceipt_iff {left right : AutofillReceipt} : laterReceipt left right = true ↔
    right.committedAtEpochMs < left.committedAtEpochMs ∨
      left.committedAtEpochMs = right.committedAtEpochMs ∧ right.operationId ≤ left.operationId := by
  simp [laterReceipt]

theorem laterReceipt_trans (a b c : AutofillReceipt) (first : laterReceipt a b) (second : laterReceipt b c) :
    laterReceipt a c := by
  rw [laterReceipt_iff] at *
  rcases first with early | ⟨same, named⟩
  · rcases second with early' | ⟨same', _⟩
    · exact .inl (UInt64.lt_trans early' early)
    · exact .inl (same' ▸ early)
  · rcases second with early' | ⟨same', named'⟩
    · exact .inl (same ▸ early')
    · exact .inr ⟨same.trans same', String.le_trans named' named⟩

theorem laterReceipt_total (a b : AutofillReceipt) : laterReceipt a b || laterReceipt b a := by
  rw [Bool.or_eq_true, laterReceipt_iff, laterReceipt_iff]
  have times := UInt64.lt_or_lt_of_ne (a := a.committedAtEpochMs) (b := b.committedAtEpochMs)
  have names := String.le_total a.operationId b.operationId
  grind

theorem laterReceipt_le {left right : AutofillReceipt} (later : laterReceipt left right = true) :
    right.committedAtEpochMs ≤ left.committedAtEpochMs := by
  rcases laterReceipt_iff.mp later with early | ⟨same, _⟩
  · exact UInt64.le_of_lt early
  · rw [same]
    exact UInt64.le_refl _

/-- A receipt that was dropped although it is not too old is older than those that were kept, and they are many. -/
theorem keptReceipts_newest {list : List AutofillReceipt} (member : receipt ∈ list)
    (recent : retentionCutoff now ≤ receipt.committedAtEpochMs) (dropped : receipt ∉ keptReceipts list now) :
    (keptReceipts list now).length = maxReceipts - 1 ∧
      ∀ kept ∈ keptReceipts list now, receipt.committedAtEpochMs ≤ kept.committedAtEpochMs := by
  unfold keptReceipts at dropped ⊢
  generalize sorted : (list.filter fun receipt => receipt.committedAtEpochMs ≥ retentionCutoff now).mergeSort laterReceipt =
    ordered at dropped ⊢
  have inside : receipt ∈ ordered := by
    rw [← sorted, (List.mergeSort_perm _ _).mem_iff, List.mem_filter, decide_eq_true_eq]
    exact ⟨member, recent⟩
  have order : ordered.Pairwise fun a b => laterReceipt a b = true := by
    rw [← sorted]
    exact List.pairwise_mergeSort laterReceipt_trans laterReceipt_total _
  rw [← List.take_append_drop (maxReceipts - 1) ordered] at inside order
  have behind : receipt ∈ ordered.drop (maxReceipts - 1) := (List.mem_append.mp inside).resolve_left dropped
  constructor
  · apply List.length_take_of_le
    have long := List.length_pos_of_mem behind
    rw [List.length_drop] at long
    omega
  · intro kept before
    exact laterReceipt_le ((List.pairwise_append.mp order).2.2 kept before receipt behind)

theorem WrittenLedger.safe (known : KnownReceipts receipts)
    (written : WrittenLedger services receipts current others now json) :
    SafeLedger receipts current now (prunedReceipts others current now) := by
  have perm := prunedReceipts_perm others current now
  have cases_ {receipt : AutofillReceipt} : receipt ∈ prunedReceipts others current now ↔
      receipt = current ∨ receipt ∈ keptReceipts others now := by rw [perm.mem_iff, List.mem_cons]
  have distinct := written.distinct known
  have beside {receipt : AutofillReceipt} (inside : receipt ∈ keptReceipts others now) : receipt ≠ current := by
    rintro rfl
    exact (List.nodup_cons.mp distinct).1 (List.mem_map_of_mem (keptReceipts_sub inside).1)
  refine ⟨cases_.mpr (.inl rfl), ?_, prunedReceipts_distinct distinct, ?_, ?_, ?_⟩
  · have kept := keptReceipts_length others now
    rw [perm.length_eq, List.length_cons]
    unfold maxReceipts at kept ⊢
    omega
  · intro receipt inside
    rcases cases_.mp inside with rfl | kept
    · exact written.held
    · exact known.mem_list.mp (written.split.mem_iff.mp (List.mem_cons_of_mem current (keptReceipts_sub kept).1))
  · intro receipt inside apart
    exact (keptReceipts_sub ((cases_.mp inside).resolve_left apart)).2
  · intro dropped held recent gone
    have apart : dropped ≠ current := fun same => gone (cases_.mpr (.inl same))
    have inside : dropped ∈ others :=
      (List.mem_cons.mp (written.split.mem_iff.mpr (known.mem_list.mpr held))).resolve_left apart
    obtain ⟨full, newest⟩ := keptReceipts_newest inside recent fun kept => gone (cases_.mpr (.inr kept))
    refine ⟨?_, fun kept member apart' => newest kept ((cases_.mp member).resolve_left apart')⟩
    rw [perm.length_eq, List.length_cons, full]
    rfl

end Pruning

/-! ## Written ledgers -/

/-- The receipts that are written: those of two ledgers, with one more or without. -/
def WritesReceipts (first second written : Receipts) : Prop :=
  ∃ merged, mergeReceiptMaps first second = .ok merged ∧
    (written = merged ∨ ∃ receipt, validateReceipt receipt = .ok () ∧ insertReceipt merged receipt = .ok written)

theorem WritesReceipts.known {first second written : Receipts} (knownFirst : KnownReceipts first)
    (knownSecond : KnownReceipts second) (writes : WritesReceipts first second written) : KnownReceipts written := by
  obtain ⟨merged, done, rfl | ⟨receipt, valid, inserted⟩⟩ := writes
  · exact mergeReceiptMaps_known knownFirst knownSecond done
  · exact insertReceipt_known (mergeReceiptMaps_known knownFirst knownSecond done) valid inserted

/-- A ledger that was written reads back as a safe one, and writing it again changes nothing. -/
theorem writePrunedLedger_safe {services : AutofillServices} (law : LedgerLaw services) {receipts : Receipts}
    (known : KnownReceipts receipts) {candidate vault : Vault} {operationId : String} {now : UInt64}
    (written : writePrunedLedger services candidate (receiptList receipts) operationId now = .ok vault) :
    ∃ current ledger receipts', receipts[operationId]? = some current ∧ readLedger services vault = .ok ledger ∧
      SafeLedger receipts current now ledger.receipts ∧ readReceipts services vault = .ok receipts' ∧
      writePrunedLedger services vault (receiptList receipts') operationId now = .ok vault := by
  obtain ⟨current, others, json, rfl, done, rfl⟩ := writePrunedLedger_ok known written
  have safe := done.safe known
  have read : readLedger services (candidate.withLedger json) =
      .ok { version := receiptVersion, receipts := prunedReceipts others current now } :=
    readLedger_written law done.printed done.small safe.few fun receipt inside => known.valid _ receipt (safe.held receipt inside)
  obtain ⟨receipts', read', known', held, perm⟩ := done.reads law known candidate
  exact ⟨current, _, receipts', done.held, read, safe, read', done.again known known' held perm candidate⟩

/-- Ledgers merge to one result in any order, or conflict, and what is written of them is a safe
    ledger that the reader accepts. -/
theorem receiptLedgers_merge_safely (services : AutofillServices) (law : LedgerLaw services) (base local' remote : Vault)
    (atBase atLocal atRemote : Receipts) (readBase : readReceipts services base = .ok atBase)
    (readLocal : readReceipts services local' = .ok atLocal) (readRemote : readReceipts services remote = .ok atRemote) :
    mergeReceiptMaps atLocal atRemote = mergeReceiptMaps atRemote atLocal ∧
    (mergeReceiptMaps atBase atLocal >>= fun merged => mergeReceiptMaps merged atRemote) =
      (mergeReceiptMaps atLocal atRemote >>= fun merged => mergeReceiptMaps atBase merged) ∧
    (mergeReceiptMaps atLocal atRemote = .error (.conflict .operationBindingMismatch) ↔
      ∃ (operationId : String) (left right : AutofillReceipt),
        atLocal[operationId]? = some left ∧ atRemote[operationId]? = some right ∧ left.binding ≠ right.binding) ∧
    (∀ merged, mergeReceiptMaps atLocal atRemote = .ok merged →
      mergeReceiptMaps merged merged = .ok merged ∧ mergeReceiptMaps merged atLocal = .ok merged ∧
        mergeReceiptMaps merged atRemote = .ok merged ∧
        ∀ (operationId : String) (receipt : AutofillReceipt),
          atLocal[operationId]? = some receipt ∨ atRemote[operationId]? = some receipt →
            ∃ kept, merged[receipt.operationId]? = some kept ∧ kept.binding = receipt.binding ∧
              receipt.committedAtEpochMs ≤ kept.committedAtEpochMs) ∧
    ∀ (receipts : Receipts) (candidate vault : Vault) (operationId : String) (now : UInt64),
      WritesReceipts atLocal atRemote receipts →
      writePrunedLedger services candidate (receiptList receipts) operationId now = .ok vault →
      ∃ current ledger receipts', receipts[operationId]? = some current ∧ readLedger services vault = .ok ledger ∧
        SafeLedger receipts current now ledger.receipts ∧ readReceipts services vault = .ok receipts' ∧
        writePrunedLedger services vault (receiptList receipts') operationId now = .ok vault := by
  have first := readReceipts_known readBase
  have second := readReceipts_known readLocal
  have third := readReceipts_known readRemote
  refine ⟨mergeReceiptMaps_comm second third, mergeReceiptMaps_assoc first second third,
    mergeReceiptMaps_conflict second third, ?_, ?_⟩
  · intro merged done
    obtain ⟨again, again'⟩ := mergeReceiptMaps_absorbs second done
    exact ⟨mergeReceiptMaps_self (mergeReceiptMaps_known second third done), again, again',
      fun operationId receipt held => mergeReceiptMaps_keeps second done held⟩
  · intro receipts candidate vault operationId now writes written
    exact writePrunedLedger_safe law (writes.known second third) written

/-! ## Two ledgers, three years later -/

def updateJson : String := sampleJson updateReceipt "update"

/-- The receipt of another device. -/
def otherReceipt : AutofillReceipt := { updateReceipt with operationId := "operation-2", transactionId := "transaction-2" }

def otherJson : String := sampleJson otherReceipt "update"

/-- Libraries as they answer for the two ledgers. -/
def ledgerServices : AutofillServices :=
  { updateServices with
    parseLedger := fun text =>
      if text = updateJson then some (sampleLedger updateReceipt)
      else if text = otherJson then some (sampleLedger otherReceipt) else none
    printLedger := fun ledger =>
      if ledger = sampleLedger updateReceipt then some updateJson
      else if ledger = sampleLedger otherReceipt then some otherJson else none }

theorem otherJson_apart : otherJson ≠ updateJson := by decide +kernel

theorem ledgerServices_law : LedgerLaw ledgerServices where
  readsBack ledger json printed := by
    simp only [ledgerServices] at printed ⊢
    split at printed
    · rename_i same
      cases printed
      rw [if_pos rfl, same]
    · split at printed
      · rename_i same
        cases printed
        rw [if_neg otherJson_apart, if_pos rfl, same]
      · cases printed

theorem otherLedger_printed : ledgerServices.printLedger (sampleLedger otherReceipt) = some otherJson := by
  have apart : sampleLedger otherReceipt ≠ sampleLedger updateReceipt :=
    fun same => absurd (congrArg (fun ledger => ledger.receipts.map (·.operationId)) same) (by decide)
  unfold ledgerServices
  dsimp only
  rw [if_neg apart, if_pos rfl]

theorem ledgerServices_read {receipt : AutofillReceipt} {json : String}
    (printed : ledgerServices.printLedger (sampleLedger receipt) = some json) (small : json.utf8ByteSize ≤ maxLedgerBytes)
    (valid : (validateReceipt receipt).toBool = true) (candidate : Vault) :
    readLedger ledgerServices (candidate.withLedger json) = .ok (sampleLedger receipt) ∧
      readReceipts ledgerServices (candidate.withLedger json) = .ok ((∅ : Receipts).insert receipt.operationId receipt) := by
  have read : readLedger ledgerServices (candidate.withLedger json) = .ok (sampleLedger receipt) := by
    apply readLedger_written ledgerServices_law printed small (show 1 ≤ maxReceipts by decide)
    intro other member
    obtain rfl := List.mem_singleton.mp member
    exact (Fallible.ok_of_toBool valid).choose_spec
  refine ⟨read, ?_⟩
  unfold readReceipts
  rw [read]
  rfl

theorem updateLedger_read (candidate : Vault) :
    readLedger ledgerServices (candidate.withLedger updateJson) = .ok (sampleLedger updateReceipt) ∧
      readReceipts ledgerServices (candidate.withLedger updateJson) =
        .ok ((∅ : Receipts).insert "operation-1" updateReceipt) :=
  ledgerServices_read (if_pos rfl) (by decide +kernel) (by decide +kernel) candidate

theorem updateLedger_written (candidate : Vault) {receipts : List AutofillReceipt} {now : UInt64} {index : Nat}
    (found : (receipts.findIdx? fun receipt => receipt.operationId = "operation-1") = some index)
    (current : receipts[index]? = some updateReceipt) (alone : keptReceipts (swapRemove receipts index) now = []) :
    writePrunedLedger ledgerServices candidate receipts "operation-1" now = .ok (candidate.withLedger updateJson) := by
  have text : isXml10Text (sampleJson updateReceipt "update") = true := by apply sampleJson_text <;> decide +kernel
  have pruned : prunedReceipts (swapRemove receipts index) updateReceipt now = [updateReceipt] := by
    have same := prunedReceipts_perm (swapRemove receipts index) updateReceipt now
    rw [alone] at same
    exact List.perm_singleton.mp same
  unfold writePrunedLedger
  simp only [found, current, pruned]
  exact writeLedger_ok.mpr ⟨updateJson, if_pos rfl, by decide +kernel, checkCustomDataItem_receipt text, rfl⟩

def bothReceipts : Receipts := ((∅ : Receipts).insert "operation-1" updateReceipt).insert "operation-2" otherReceipt

theorem bothReceipts_list : receiptList bothReceipts = [updateReceipt, otherReceipt] := by decide +kernel

theorem receiptLedgers_merge_safely_sample : ∃ ledger,
    mergeReceiptMaps ((∅ : Receipts).insert "operation-2" otherReceipt) ((∅ : Receipts).insert "operation-1" updateReceipt) =
        .ok bothReceipts ∧
      readLedger ledgerServices (emptyVault.withLedger updateJson) = .ok ledger ∧
      SafeLedger bothReceipts updateReceipt 1800000000000 ledger.receipts ∧ otherReceipt ∉ ledger.receipts := by
  obtain ⟨commutes, _, _, _, safely⟩ := receiptLedgers_merge_safely ledgerServices ledgerServices_law emptyVault
    (emptyVault.withLedger updateJson) (emptyVault.withLedger otherJson) ∅ _ _ (readReceipts_none rfl)
    (updateLedger_read emptyVault).2
    (@ledgerServices_read otherReceipt _ otherLedger_printed (by decide +kernel) (by decide +kernel) emptyVault).2
  have merges : mergeReceiptMaps ((∅ : Receipts).insert "operation-1" updateReceipt)
      ((∅ : Receipts).insert "operation-2" otherReceipt) = .ok bothReceipts := rfl
  have old : keptReceipts [otherReceipt] 1800000000000 = [] := by
    unfold keptReceipts
    rw [show [otherReceipt].filter _ = [] by decide +kernel, List.mergeSort_nil, List.take_nil]
  obtain ⟨current, ledger, _, held, read, safe, _⟩ := safely bothReceipts emptyVault _ "operation-1" 1800000000000
    ⟨_, merges, .inl rfl⟩ (updateLedger_written emptyVault (by rw [bothReceipts_list]; rfl) (by rw [bothReceipts_list]; rfl)
      (by rw [bothReceipts_list]; exact old))
  obtain rfl : updateReceipt = current := Option.some.inj held
  refine ⟨ledger, commutes ▸ merges, read, safe, ?_⟩
  cases (updateLedger_read emptyVault).1.symm.trans read
  decide +kernel

/-- The receipt of an operation that is replayed after three years stays in the ledger. -/
theorem replayed_receipt_stays : ¬ ∀ (services : AutofillServices), LedgerLaw services →
    ∀ (candidate vault : Vault) (receipts : List AutofillReceipt) (operationId : String) (now : UInt64) (ledger : ReceiptLedger),
      writePrunedLedger services candidate receipts operationId now = .ok vault → readLedger services vault = .ok ledger →
        ∀ receipt ∈ ledger.receipts, retentionCutoff now ≤ receipt.committedAtEpochMs := by
  intro within
  have kept := within ledgerServices ledgerServices_law emptyVault _ [updateReceipt] "operation-1" 1800000000000 _
    (updateLedger_written emptyVault rfl rfl (by simp [keptReceipts, swapRemove])) (updateLedger_read emptyVault).1
    updateReceipt List.mem_cons_self
  revert kept
  decide

end VaultKern
