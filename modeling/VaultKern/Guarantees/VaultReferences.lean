import VaultKern.Lib.Utf8
import VaultKern.Runtime.VaultReferenceStore

/-! # Vault references stay consistent

Whatever the owners of a store do and in whatever order, its references and its pending cleanups fit
together, and a reference keeps its source.
-/

namespace VaultKern.References

open LockedFile

/-! ## Names of sources -/

theorem hexDigits_byte (n : Nat) : hexDigits 2 n = [hexLower (n / 16 % 16), hexLower (n % 16)] := rfl

theorem hexLower_injective : ∀ first second : Fin 16, hexLower first = hexLower second → first = second := by decide

theorem hexText_injective : Function.Injective hexText := by
  intro first second same
  have digits : (first.flatMap fun byte => hexDigits 2 byte.toNat) = second.flatMap fun byte => hexDigits 2 byte.toNat :=
    String.ofList_injective same
  clear same
  induction first generalizing second with
  | nil =>
      cases second with
      | nil => rfl
      | cons byte rest => simp [hexDigits] at digits
  | cons byte rest ih =>
      cases second with
      | nil => simp [hexDigits] at digits
      | cons byte' rest' =>
          rw [List.flatMap_cons, List.flatMap_cons, hexDigits_byte, hexDigits_byte] at digits
          simp only [List.cons_append, List.nil_append, List.cons.injEq] at digits
          obtain ⟨high, low, others⟩ := digits
          have first := hexLower_injective ⟨byte.toNat / 16 % 16, by omega⟩ ⟨byte'.toNat / 16 % 16, by omega⟩ high
          have second := hexLower_injective ⟨byte.toNat % 16, by omega⟩ ⟨byte'.toNat % 16, by omega⟩ low
          have small := byte.toNat_lt
          have small' := byte'.toNat_lt
          have whole : byte = byte' := by
            simp only [Fin.mk.injEq] at first second
            apply UInt8.toNat_inj.mp
            omega
          rw [whole, ih others]

/-- Where a vault lives; the account label is no part of it. -/
inductive Place where
  | localPath (path : String)
  | item (driveId itemId : String)
  deriving DecidableEq

def StoredVaultSource.place : StoredVaultSource → Place
  | .localPath path => .localPath path
  | .oneDriveItem driveId itemId _ => .item driveId itemId

/-- The text that is hashed for an item. -/
def joined (driveId itemId : String) : String := driveId ++ ":" ++ itemId

/-- The same place, or items whose texts are the same. -/
def Place.Alike : Place → Place → Prop
  | .localPath path, .localPath path' => path = path'
  | .item driveId itemId, .item driveId' itemId' => joined driveId itemId = joined driveId' itemId'
  | _, _ => False

variable (library : ReferenceLibrary)

def Place.refId : Place → String
  | .localPath path => localVaultRefId library path
  | .item driveId itemId => onedriveVaultRefId library driveId itemId

variable {library}

theorem Place.refId_alike (injective : Function.Injective library.sha256) : ∀ {place place' : Place},
    place.refId library = place'.refId library → place.Alike place'
  | .localPath path, .localPath path', same => by
      have texts := congrArg String.toList same
      simp only [refId, localVaultRefId, String.toList_append] at texts
      have digests := injective (hexText_injective (String.toList_inj.mp (List.append_cancel_left texts)))
      exact Utf8.bytes_injective digests
  | .item driveId itemId, .item driveId' itemId', same => by
      have texts := congrArg String.toList same
      simp only [refId, onedriveVaultRefId, String.toList_append] at texts
      have digests := injective (hexText_injective (String.toList_inj.mp (List.append_cancel_left texts)))
      exact Utf8.bytes_injective digests
  | .localPath path, .item driveId itemId, same => by
      have texts := congrArg String.toList same
      simp [refId, localVaultRefId, onedriveVaultRefId] at texts
  | .item driveId itemId, .localPath path, same => by
      have texts := congrArg String.toList same
      simp [refId, localVaultRefId, onedriveVaultRefId] at texts

/-! ## Lists of references -/

section Lists

variable {A B : Type} {wanted : A → Bool} {change : A → A}

theorem map_changeFirst {key : A → B} (same : ∀ a, key (change a) = key a) (list : List A) :
    (changeFirst wanted change list).map key = list.map key := by
  induction list with
  | nil => rfl
  | cons a rest ih =>
      rw [changeFirst]
      split
      · simp [same]
      · simp [ih]

theorem mem_changeFirst {list : List A} {b : A} (member : b ∈ changeFirst wanted change list) :
    b ∈ list ∨ ∃ a ∈ list, wanted a = true ∧ b = change a := by
  induction list with
  | nil => cases member
  | cons a rest ih =>
      rw [changeFirst] at member
      split at member
      · rename_i found
        rcases List.mem_cons.mp member with rfl | member
        · exact .inr ⟨a, List.mem_cons_self, found, rfl⟩
        · exact .inl (List.mem_cons_of_mem a member)
      · rcases List.mem_cons.mp member with rfl | member
        · exact .inl List.mem_cons_self
        · rcases ih member with known | ⟨c, known, found, rfl⟩
          · exact .inl (List.mem_cons_of_mem a known)
          · exact .inr ⟨c, List.mem_cons_of_mem a known, found, rfl⟩

end Lists

theorem sortVaults_perm (vaults : List StoredVaultReference) : (sortVaults vaults).Perm vaults :=
  List.mergeSort_perm vaults _

/-! ## Consistent stores -/

/-- A reference with a complete source has the id of that source. -/
def Named (library : ReferenceLibrary) (vault : StoredVaultReference) : Prop :=
  ∃ source, storedSource vault vault.vaultRefId = .ok source ∧ vault.vaultRefId = source.place.refId library

def VaultReferenceStoreData.ids (data : VaultReferenceStoreData) : List String := data.vaults.map (·.vaultRefId)

structure Consistent (library : ReferenceLibrary) (data : VaultReferenceStoreData) : Prop where
  uniqueIds : data.ids.Nodup
  current : ∀ id, data.currentVaultRefId = some id → id ∈ data.ids
  /-- No id is both stored and pending. -/
  apart : ∀ cleanup ∈ data.pendingCleanups, cleanup.vaultRefId ∉ data.ids
  uniqueCleanups : (data.pendingCleanups.map (·.vaultRefId)).Nodup
  named : ∀ vault ∈ data.vaults, Named library vault
  cleanupsNamed : ∀ cleanup ∈ data.pendingCleanups, cleanup.vaultRefId = cleanup.source.place.refId library

theorem Consistent.empty (library : ReferenceLibrary) : Consistent library {} := by
  constructor <;> simp [VaultReferenceStoreData.ids]

namespace VaultReferenceStoreData

variable {data : VaultReferenceStoreData} {id : String}

theorem knows_iff : data.knows id = true ↔ id ∈ data.ids := by
  simp only [knows, ids, List.any_eq_true, beq_iff_eq, List.mem_map]

theorem upsert_ids {change : StoredVaultReference → StoredVaultReference} {added : StoredVaultReference}
    (same : ∀ vault, (change vault).vaultRefId = vault.vaultRefId) (named : added.vaultRefId = id) :
    (data.upsert id change added).ids.Perm (if data.knows id then data.ids else data.ids ++ [id]) := by
  apply ((sortVaults_perm _).map _).trans
  split
  · rw [map_changeFirst same]
    rfl
  · rw [List.map_append, List.map_singleton, named]
    rfl

theorem mem_upsert_ids {change : StoredVaultReference → StoredVaultReference} {added : StoredVaultReference}
    (same : ∀ vault, (change vault).vaultRefId = vault.vaultRefId) (named : added.vaultRefId = id) {other : String} :
    other ∈ (data.upsert id change added).ids ↔ other ∈ data.ids ∨ other = id := by
  rw [(upsert_ids same named).mem_iff]
  split
  · rename_i known
    constructor
    · exact .inl
    · intro either
      rcases either with stored | rfl
      · exact stored
      · exact knows_iff.mp known
  · simp

end VaultReferenceStoreData

open VaultReferenceStoreData

namespace Consistent

variable {data next : VaultReferenceStoreData} {id : String}

/-- A cleanup whose id is not stored may stay. -/
theorem filtered {keep : PendingVaultCleanup → Bool} (consistent : Consistent library data) :
    ((data.pendingCleanups.filter keep).map (·.vaultRefId)).Nodup :=
  consistent.uniqueCleanups.sublist (List.filter_sublist.map _)

theorem upsert (consistent : Consistent library data) {change : StoredVaultReference → StoredVaultReference}
    {added : StoredVaultReference} (same : ∀ vault, (change vault).vaultRefId = vault.vaultRefId)
    (changed : ∀ vault, vault.vaultRefId = id → Named library vault → Named library (change vault))
    (addedId : added.vaultRefId = id) (addedNamed : Named library added) :
    Consistent library (data.upsert id change added) where
  uniqueIds := by
    apply (upsert_ids same addedId).nodup_iff.mpr
    split
    · exact consistent.uniqueIds
    · rename_i unknown
      apply List.nodup_append.mpr ⟨consistent.uniqueIds, List.nodup_singleton id, _⟩
      intro other stored new member
      rw [List.mem_singleton.mp member]
      rintro rfl
      exact unknown (knows_iff.mpr stored)
  current := by
    intro other current
    cases current
    exact (mem_upsert_ids same addedId).mpr (.inr rfl)
  apart := by
    intro cleanup pending stored
    obtain ⟨pending, other⟩ := List.mem_filter.mp pending
    rcases (mem_upsert_ids same addedId).mp stored with stored | rfl
    · exact consistent.apart cleanup pending stored
    · simp at other
  uniqueCleanups := consistent.filtered
  named := by
    intro vault member
    have member := (sortVaults_perm _).mem_iff.mp member
    split at member
    · rcases mem_changeFirst member with stored | ⟨before, stored, found, rfl⟩
      · exact consistent.named vault stored
      · exact changed before (beq_iff_eq.mp found) (consistent.named before stored)
    · rcases List.mem_append.mp member with stored | new
      · exact consistent.named vault stored
      · rw [List.mem_singleton.mp new]
        exact addedNamed
  cleanupsNamed := fun cleanup pending => consistent.cleanupsNamed cleanup (List.mem_filter.mp pending).1

theorem upsertLocalPath (consistent : Consistent library data) (path : String) (lastUsedAt : Int) :
    Consistent library (data.upsertLocalPath library path lastUsedAt) := by
  apply consistent.upsert
  · intro vault
    rfl
  · intro vault _ named
    exact named
  · rfl
  · exact ⟨.localPath path, rfl, rfl⟩

theorem upsertOnedriveItem (consistent : Consistent library data)
    (driveId itemId displayName accountLabel : String) (lastUsedAt : Int) :
    Consistent library (data.upsertOnedriveItem library driveId itemId displayName accountLabel lastUsedAt) := by
  apply consistent.upsert
  · intro vault
    rfl
  · intro vault here _
    exact ⟨.oneDriveItem driveId itemId accountLabel, rfl, here⟩
  · rfl
  · exact ⟨.oneDriveItem driveId itemId accountLabel, rfl, rfl⟩

theorem markCurrent (consistent : Consistent library data) {lastUsedAt : Int}
    (marked : data.markCurrent id lastUsedAt = .ok next) : Consistent library next := by
  rw [VaultReferenceStoreData.markCurrent] at marked
  split at marked
  · rename_i known
    cases marked
    have ids : (sortVaults (changeFirst (·.vaultRefId == id) ({ · with lastUsedAt }) data.vaults)).map (·.vaultRefId)
        |>.Perm data.ids := by
      apply ((sortVaults_perm _).map _).trans
      rw [map_changeFirst]
      · rfl
      · intro vault
        rfl
    constructor
    · exact ids.nodup_iff.mpr consistent.uniqueIds
    · intro other current
      cases current
      exact ids.mem_iff.mpr (knows_iff.mp known)
    · intro cleanup pending stored
      exact consistent.apart cleanup pending (ids.mem_iff.mp stored)
    · exact consistent.uniqueCleanups
    · intro vault member
      rcases mem_changeFirst ((sortVaults_perm _).mem_iff.mp member) with stored | ⟨before, stored, _, rfl⟩
      · exact consistent.named vault stored
      · exact consistent.named before stored
    · exact consistent.cleanupsNamed
  · cases marked

theorem deleteWithCurrentPolicy (consistent : Consistent library data) {allowCurrent : Bool}
    {returned : Option (Bool × PendingVaultCleanup)}
    (deleted : data.deleteWithCurrentPolicy id allowCurrent = .ok (returned, next)) : Consistent library next := by
  rw [VaultReferenceStoreData.deleteWithCurrentPolicy] at deleted
  split at deleted
  · cases deleted
    exact consistent
  · split at deleted
    · cases deleted
    · rename_i stored found
      split at deleted
      · cases deleted
      · rename_i source known
        cases deleted
        have here : stored.vaultRefId = id := by
          have wanted := List.find?_some found
          exact beq_iff_eq.mp wanted
        have member := List.mem_of_find?_eq_some found
        have gone : ∀ other, other ∈ (data.vaults.filter (·.vaultRefId != id)).map (·.vaultRefId) ↔
            other ∈ data.ids ∧ other ≠ id := by
          intro other
          simp only [List.mem_map, List.mem_filter, bne_iff_ne, VaultReferenceStoreData.ids]
          constructor
          · rintro ⟨vault, ⟨stored, apart⟩, rfl⟩
            exact ⟨⟨vault, stored, rfl⟩, apart⟩
          · rintro ⟨⟨vault, stored, rfl⟩, apart⟩
            exact ⟨vault, ⟨stored, apart⟩, rfl⟩
        constructor
        · exact consistent.uniqueIds.sublist (List.filter_sublist.map _)
        · intro other current
          dsimp only at current
          split at current
          · cases current
          · rename_i not
            apply (gone other).mpr ⟨consistent.current other current, _⟩
            rintro rfl
            rw [current] at not
            simp at not
        · intro cleanup pending stored
          obtain ⟨stored, apart⟩ := (gone _).mp stored
          rcases List.mem_append.mp pending with pending | new
          · exact consistent.apart cleanup (List.mem_filter.mp pending).1 stored
          · rw [List.mem_singleton.mp new] at apart
            exact apart rfl
        · rw [List.map_append, List.map_singleton]
          apply List.nodup_append.mpr ⟨consistent.filtered, List.nodup_singleton id, _⟩
          intro other pending new member
          rw [List.mem_singleton.mp member]
          rintro rfl
          obtain ⟨cleanup, kept, same⟩ := List.mem_map.mp pending
          have other := (List.mem_filter.mp kept).2
          rw [same] at other
          simp at other
        · intro vault kept
          exact consistent.named vault (List.mem_filter.mp kept).1
        · intro cleanup pending
          rcases List.mem_append.mp pending with pending | new
          · exact consistent.cleanupsNamed cleanup (List.mem_filter.mp pending).1
          · rw [List.mem_singleton.mp new]
            obtain ⟨source', known', named⟩ := consistent.named stored member
            rw [here] at known' named
            rw [known] at known'
            cases known'
            exact named

theorem completeCleanup (consistent : Consistent library data) (cleanup : PendingVaultCleanup) :
    Consistent library (data.completeCleanup cleanup) where
  uniqueIds := consistent.uniqueIds
  current := consistent.current
  apart other pending := consistent.apart other (List.mem_filter.mp pending).1
  uniqueCleanups := consistent.filtered
  named := consistent.named
  cleanupsNamed other pending := consistent.cleanupsNamed other (List.mem_filter.mp pending).1

theorem decision (consistent : Consistent library data) (operation : Operation)
    (replaces : operation.decision library data = .replaces next) : Consistent library next := by
  cases operation with
  | upsertLocalPath path lastUsedAt =>
      cases replaces
      exact consistent.upsertLocalPath path lastUsedAt
  | upsertOnedriveItem driveId itemId displayName accountLabel lastUsedAt =>
      cases replaces
      exact consistent.upsertOnedriveItem driveId itemId displayName accountLabel lastUsedAt
  | markCurrent vaultRefId lastUsedAt =>
      cases marked : data.markCurrent vaultRefId lastUsedAt with
      | error message => rw [Operation.decision, marked] at replaces; cases replaces
      | ok marked' =>
          rw [Operation.decision, marked] at replaces
          cases replaces
          exact consistent.markCurrent marked
  | delete vaultRefId =>
      cases deleted : data.deleteWithCurrentPolicy vaultRefId true with
      | error message => rw [Operation.decision, deleted] at replaces; cases replaces
      | ok deleted' =>
          rw [Operation.decision, deleted] at replaces
          cases replaces
          exact consistent.deleteWithCurrentPolicy deleted
  | deleteIfNotCurrent vaultRefId =>
      cases deleted : data.deleteWithCurrentPolicy vaultRefId false with
      | error message => rw [Operation.decision, deleted] at replaces; cases replaces
      | ok deleted' =>
          rw [Operation.decision, deleted] at replaces
          cases replaces
          exact consistent.deleteWithCurrentPolicy deleted
  | completeCleanupWhile cleanup =>
      rw [Operation.decision] at replaces
      split at replaces
      · cases replaces
        exact consistent.completeCleanup cleanup
      · cases replaces

end Consistent

/-! ## Every run -/

/-- The place that an upsert adds. -/
def Operation.upserted : Operation → Option Place
  | .upsertLocalPath path _ => some (.localPath path)
  | .upsertOnedriveItem driveId itemId _ _ _ => some (.item driveId itemId)
  | _ => none

def StoredVaultReference.place (vault : StoredVaultReference) : Option Place :=
  (storedSource vault vault.vaultRefId).toOption.map StoredVaultSource.place

theorem Named.place {vault : StoredVaultReference} (named : Named library vault) :
    ∃ place, vault.place = some place ∧ vault.vaultRefId = place.refId library := by
  obtain ⟨source, known, named⟩ := named
  refine ⟨source.place, ?_, named⟩
  rw [StoredVaultReference.place, known]
  rfl

/-- What has one id in consistent stores has like places. -/
theorem Consistent.alike (injective : Function.Injective library.sha256) {data next : VaultReferenceStoreData}
    (before : Consistent library data) (after : Consistent library next) {vault vault' : StoredVaultReference}
    (member : vault ∈ data.vaults) (member' : vault' ∈ next.vaults) (same : vault'.vaultRefId = vault.vaultRefId) :
    ∃ place place', vault.place = some place ∧ vault'.place = some place' ∧ place.Alike place' := by
  obtain ⟨place, known, named⟩ := (before.named vault member).place
  obtain ⟨place', known', named'⟩ := (after.named vault' member').place
  refine ⟨place, place', known, known', Place.refId_alike injective ?_⟩
  rw [← named, ← named', same]

theorem upserted_as {operation : Operation} {place : Place} {data next : VaultReferenceStoreData}
    (upserts : operation.upserted = some place) (replaces : operation.decision library data = .replaces next) :
    ∃ change added, (∀ vault : StoredVaultReference, (change vault).vaultRefId = vault.vaultRefId) ∧
      added.vaultRefId = place.refId library ∧ next = data.upsert (place.refId library) change added := by
  cases operation with
  | upsertLocalPath path lastUsedAt =>
      cases replaces
      cases upserts
      refine ⟨_, _, ?_, ?_, rfl⟩
      · intro vault
        rfl
      · rfl
  | upsertOnedriveItem driveId itemId displayName accountLabel lastUsedAt =>
      cases replaces
      cases upserts
      refine ⟨_, _, ?_, ?_, rfl⟩
      · intro vault
        rfl
      · rfl
  | markCurrent vaultRefId lastUsedAt => cases upserts
  | delete vaultRefId => cases upserts
  | deleteIfNotCurrent vaultRefId => cases upserts
  | completeCleanupWhile cleanup => cases upserts

/-- An upsert loses no reference. -/
theorem upserted_ids {operation : Operation} {place : Place} {data next : VaultReferenceStoreData}
    (upserts : operation.upserted = some place) (replaces : operation.decision library data = .replaces next)
    {id : String} (stored : id ∈ data.ids) : id ∈ next.ids := by
  obtain ⟨change, added, same, named, rfl⟩ := upserted_as upserts replaces
  exact (mem_upsert_ids same named).mpr (.inl stored)

/-- Whatever the owners do, the store is consistent, a cleanup's action runs only while its reference is
deleted, an operation that fails leaves the file alone or has replaced it as a whole, and an upsert
leaves every reference with a place like the one it had. -/
theorem vaultReferences_consistent (injective : Function.Injective library.sha256) {start w : Store}
    {events : List (Operation × Outcome)} (quiet : start.Quiet) (empty : start.file = {})
    (run : StoreRun library start events w) :
    Consistent library w.file ∧
    (∀ owner cleanup read next, w.owners owner = .holding (.completeCleanupWhile cleanup) read next →
      cleanup ∈ w.file.pendingCleanups ∧ cleanup.vaultRefId ∉ w.file.ids) ∧
    (∀ owner operation outcome w', StoreStep library w owner (some (operation, outcome)) w' →
      (outcome = .failed → w'.file = w.file) ∧
      (outcome = .unsure → operation.decision library w.file = .replaces w'.file) ∧
      ∀ place, operation.upserted = some place → ∀ vault ∈ w.file.vaults, ∃ vault' ∈ w'.file.vaults,
        vault'.vaultRefId = vault.vaultRefId ∧ ∃ before after,
          vault.place = some before ∧ vault'.place = some after ∧ before.Alike after) ∧
    ∀ place place' : Place, place.refId library = place'.refId library → place.Alike place' := by
  have consistent : Consistent library w.file := by
    apply run.keeps quiet (fun operation data next consistent => consistent.decision operation)
    rw [empty]
    exact .empty library
  have sound := run.sound quiet
  refine ⟨consistent, ?_, ?_, fun place place' => Place.refId_alike injective⟩
  · intro owner cleanup read next holding
    obtain ⟨rfl, decided⟩ := sound.read owner _ _ _ holding
    rw [Operation.decision] at decided
    split at decided
    · rename_i current
      simp only [intentIsCurrent, Bool.and_eq_true, Bool.not_eq_true', List.contains_iff_mem] at current
      refine ⟨current.1, fun stored => ?_⟩
      have known := knows_iff.mpr stored
      rw [current.2] at known
      cases known
    · cases decided
  · intro owner operation outcome w' step
    have whole := (sound.whole step).2 _ rfl
    have after : Consistent library w'.file :=
      whole.keeps (fun operation _ => consistent.decision operation) consistent
    refine ⟨?_, ?_, ?_⟩
    · rintro rfl
      exact whole.failed_same
    · rintro rfl
      exact whole.unsure_replaces
    · intro place upserts vault member
      have before : vault.vaultRefId ∈ w.file.ids := List.mem_map_of_mem member
      have stored : vault.vaultRefId ∈ w'.file.ids := by
        rcases whole.same_or_replaces with same | decided
        · rw [same]
          exact before
        · exact upserted_ids upserts decided before
      obtain ⟨vault', member', same⟩ := List.mem_map.mp stored
      exact ⟨vault', member', same, consistent.alike injective after member member' same⟩

/-! ## A store -/

/-- The digests of the two texts below; other texts are told apart. -/
def exampleLibrary : ReferenceLibrary where
  sha256 bytes :=
    if bytes = "a:b:c".toUTF8.toList then
      [176, 238, 4, 248, 128, 196, 255, 66, 97, 71, 158, 46, 120, 34, 183, 65, 10, 238, 76, 113, 89, 244, 24, 90, 213,
        176, 216, 138, 49, 43, 73, 94]
    else if bytes = "personal.kdbx".toUTF8.toList then
      [53, 97, 68, 154, 248, 40, 15, 125, 178, 100, 120, 215, 136, 210, 182, 174, 102, 74, 198, 145, 38, 148, 91, 210, 44,
        175, 150, 145, 139, 14, 129, 204]
    else List.replicate 33 0 ++ bytes
  fileStem path := if path = "personal.kdbx" then some "personal" else some path
  fileName := some

theorem exampleLibrary_injective : Function.Injective exampleLibrary.sha256 := by
  intro first second same
  by_cases item : first = "a:b:c".toUTF8.toList <;> by_cases item' : second = "a:b:c".toUTF8.toList <;>
    by_cases path : first = "personal.kdbx".toUTF8.toList <;> by_cases path' : second = "personal.kdbx".toUTF8.toList
  all_goals simp_all [exampleLibrary]

def emptyStore : Store where
  file := {}
  lock := none
  owners _ := .idle
  kept _ := {}

theorem emptyStore_quiet : emptyStore.Quiet := ⟨rfl, fun _ => rfl⟩

theorem emptyRun : StoreRun exampleLibrary emptyStore [] emptyStore := .start

theorem sortVaults_single (vault : StoredVaultReference) : sortVaults [vault] = [vault] := by
  simp [sortVaults]

/-- The first reference of a store. -/
theorem upsert_first (id : String) (change : StoredVaultReference → StoredVaultReference) (added : StoredVaultReference) :
    ({} : VaultReferenceStoreData).upsert id change added = { currentVaultRefId := some id, vaults := [added] } := by
  simp [VaultReferenceStoreData.upsert, knows, sortVaults_single]

/-- The only reference of a store is changed. -/
theorem upsert_again {id : String} {change : StoredVaultReference → StoredVaultReference}
    {added vault : StoredVaultReference} {current : Option String} (known : vault.vaultRefId = id) :
    ({ currentVaultRefId := current, vaults := [vault] } : VaultReferenceStoreData).upsert id change added =
      { currentVaultRefId := some id, vaults := [change vault] } := by
  simp [VaultReferenceStoreData.upsert, knows, sortVaults_single, changeFirst, known]

/-- One owner adds a vault, another deletes it. -/
theorem vaultReferences_consistent_deleted : ∃ w : Store, w.file.vaults = [] ∧ w.file.currentVaultRefId = none ∧
    w.file.pendingCleanups = [⟨localVaultRefId exampleLibrary "personal.kdbx", .localPath "personal.kdbx"⟩] ∧
    Consistent exampleLibrary w.file := by
  have upserted : (Operation.upsertLocalPath "personal.kdbx" 10).decision exampleLibrary emptyStore.file = .replaces _ :=
    rfl
  obtain ⟨added, run, quiet, file⟩ := emptyRun.perform emptyStore_quiet 0 upserted (.inl rfl)
  have deleted : (Operation.delete (localVaultRefId exampleLibrary "personal.kdbx")).decision exampleLibrary added.file =
      .replaces { pendingCleanups := [⟨localVaultRefId exampleLibrary "personal.kdbx", .localPath "personal.kdbx"⟩] } := by
    rw [file, VaultReferenceStoreData.upsertLocalPath, emptyStore, upsert_first]
    generalize localVaultRefId exampleLibrary "personal.kdbx" = id
    simp [Operation.decision, VaultReferenceStoreData.deleteWithCurrentPolicy, storedSource, mutation]
  obtain ⟨w, run, quiet, file⟩ := run.perform quiet 1 deleted (.inl rfl)
  refine ⟨w, ?_, ?_, ?_, (vaultReferences_consistent exampleLibrary_injective emptyStore_quiet rfl run).1⟩
  all_goals rw [file]

/-- Adding the item `b:c` of the drive `a` redirects the reference of the item `c` of the drive `a:b`, and
an operation that is told of a failure has changed the store. -/
theorem vaultReferences_redirected :
    (∃ before after : Store, ∃ events events' : List (Operation × Outcome),
      StoreRun exampleLibrary emptyStore events before ∧
      StoreRun exampleLibrary emptyStore (events ++ events') after ∧
      ∃ vault ∈ before.file.vaults, ∃ vault' ∈ after.file.vaults, vault.vaultRefId = vault'.vaultRefId ∧
        vault.place = some (.item "a:b" "c") ∧ vault'.place = some (.item "a" "b:c")) ∧
    ∃ failed : Store, StoreRun exampleLibrary emptyStore [(.upsertLocalPath "personal.kdbx" 10, .unsure)] failed ∧
      failed.file ≠ emptyStore.file := by
  constructor
  · have first : (Operation.upsertOnedriveItem "a:b" "c" "Work" "me" 10).decision exampleLibrary emptyStore.file =
      .replaces _ := rfl
    obtain ⟨before, run, quiet, file⟩ := emptyRun.perform emptyStore_quiet 0 first (.inl rfl)
    have second : (Operation.upsertOnedriveItem "a" "b:c" "Home" "me" 20).decision exampleLibrary before.file =
      .replaces _ := rfl
    obtain ⟨after, run', quiet', file'⟩ := run.perform quiet 1 second (.inl rfl)
    rw [VaultReferenceStoreData.upsertOnedriveItem, emptyStore, upsert_first] at file
    have same : onedriveVaultRefId exampleLibrary "a:b" "c" = onedriveVaultRefId exampleLibrary "a" "b:c" := rfl
    rw [file, VaultReferenceStoreData.upsertOnedriveItem, upsert_again same] at file'
    refine ⟨before, after, _, _, run, run', ?_⟩
    rw [file, file']
    exact ⟨_, List.mem_singleton_self _, _, List.mem_singleton_self _, rfl, rfl, rfl⟩
  · have upserted : (Operation.upsertLocalPath "personal.kdbx" 10).decision exampleLibrary emptyStore.file =
      .replaces _ := rfl
    obtain ⟨failed, run, quiet, file⟩ := emptyRun.perform emptyStore_quiet 0 upserted (.inr rfl)
    refine ⟨failed, run, ?_⟩
    rw [file, VaultReferenceStoreData.upsertLocalPath, emptyStore, upsert_first]
    intro same
    cases congrArg VaultReferenceStoreData.vaults same

end VaultKern.References
