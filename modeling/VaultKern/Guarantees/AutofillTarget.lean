import VaultKern.Core.Places
import VaultKern.Guarantees.AutofillLedger
import VaultKern.Patch.ThreeWay
import VaultKern.Outcome.Run
import VaultKern.Runtime.EditedEntry

/-! # The candidate of a plan

Before vaults are merged every identifier in them is checked. The target is found again after
the merge, and only the protection of its fields changes.
-/

namespace VaultKern

/-! ## Identifiers -/

section Identifiers

/-- Identifiers that can be visited without meeting one twice. -/
structure NewIds (ids : List Uuid) (seen : BTreeSet Uuid) : Prop where
  nodup : ids.Nodup
  new : ∀ id ∈ ids, id ∉ seen

def addIds (ids : List Uuid) (seen : BTreeSet Uuid) : BTreeSet Uuid := ids.foldl (·.insert ·) seen

theorem mem_addIds {ids : List Uuid} {seen : BTreeSet Uuid} {id : Uuid} : id ∈ addIds ids seen ↔ id ∈ ids ∨ id ∈ seen := by
  induction ids generalizing seen with
  | nil => simp [addIds]
  | cons first rest ih =>
      have peel : addIds (first :: rest) seen = addIds rest (seen.insert first) := rfl
      rw [peel, ih, Std.ExtTreeSet.mem_insert, Std.compare_eq_iff_eq, List.mem_cons]
      grind

theorem addIds_append (front back : List Uuid) (seen : BTreeSet Uuid) :
    addIds (front ++ back) seen = addIds back (addIds front seen) := List.foldl_append

theorem newIds_nil (seen : BTreeSet Uuid) : NewIds [] seen := ⟨by simp, by simp⟩

theorem newIds_append {front back : List Uuid} {seen : BTreeSet Uuid} :
    NewIds (front ++ back) seen ↔ NewIds front seen ∧ NewIds back (addIds front seen) := by
  constructor
  · intro fresh
    obtain ⟨left, right, apart⟩ := List.nodup_append'.mp fresh.nodup
    constructor
    · exact ⟨left, fun id member => fresh.new id (List.mem_append_left back member)⟩
    · apply NewIds.mk right
      intro id member known
      rcases mem_addIds.mp known with early | old
      · exact apart early member
      · exact fresh.new id (List.mem_append_right front member) old
  · intro ⟨left, right⟩
    constructor
    · apply List.nodup_append'.mpr
      exact ⟨left.nodup, right.nodup, fun id early later => right.new id later (mem_addIds.mpr (.inl early))⟩
    · intro id member known
      rcases List.mem_append.mp member with early | later
      · exact left.new id early known
      · exact right.new id later (mem_addIds.mpr (.inr known))

theorem newIds_cons {id : Uuid} {rest : List Uuid} {seen : BTreeSet Uuid} :
    NewIds (id :: rest) seen ↔ id ∉ seen ∧ NewIds rest (seen.insert id) := by
  have single : NewIds [id] seen ↔ id ∉ seen :=
    ⟨fun fresh => fresh.new id (by simp), fun new => ⟨by simp, by simpa using new⟩⟩
  rw [show id :: rest = [id] ++ rest from rfl, newIds_append, single]
  rfl

theorem newIds_empty {ids : List Uuid} : NewIds ids ∅ ↔ ids.Nodup :=
  ⟨(·.nodup), fun nodup => ⟨nodup, by simp⟩⟩

theorem visitEntries_ok {entries : List Entry} {groups seen : BTreeSet Uuid} {found : SeenIdentifiers} :
    visitEntries entries (groups, seen) = .ok found ↔
      NewIds (entries.map (·.id)) seen ∧ found = (groups, addIds (entries.map (·.id)) seen) := by
  induction entries generalizing seen with
  | nil =>
      simp only [visitEntries, Except.ok.injEq, List.map_nil, newIds_nil, true_and]
      exact eq_comm
  | cons entry rest ih =>
      simp only [visitEntries, List.map_cons, newIds_cons]
      by_cases old : entry.id ∈ seen
      · simp [old, mergeConflict]
      · simp only [Std.ExtTreeSet.contains_iff_mem, old, if_false, not_false_eq_true, true_and, ih]
        rfl

theorem groupIds_mk (fields : GroupFields) (entries : List Entry) (children : List Group) :
    groupIds ⟨fields, entries, children⟩ = fields.id :: children.flatMap groupIds := by
  rw [groupIds_eq, funext groupIds_eq, subgroups_cons, List.map_cons, List.map_flatMap]

theorem entryIds_mk (fields : GroupFields) (entries : List Entry) (children : List Group) :
    entryIds ⟨fields, entries, children⟩ = entries.map (·.id) ++ children.flatMap entryIds := by
  rw [entryIds_eq, funext entryIds_eq, subgroups_cons, List.flatMap_cons, List.flatMap_assoc]

mutual
theorem visitGroup_ok : ∀ (group : Group) {groups seen : BTreeSet Uuid} {found : SeenIdentifiers},
    visitGroup group (groups, seen) = .ok found ↔
      NewIds (groupIds group) groups ∧ NewIds (entryIds group) seen ∧
        found = (addIds (groupIds group) groups, addIds (entryIds group) seen)
  | ⟨fields, entries, children⟩, groups, seen, found => by
      rw [groupIds_mk, entryIds_mk, newIds_cons, newIds_append, addIds_append]
      simp only [visitGroup]
      by_cases old : fields.id ∈ groups
      · simp [old, mergeConflict]
      · simp only [Std.ExtTreeSet.contains_iff_mem, old, if_false, not_false_eq_true, true_and, Fallible.bind_ok,
          visitEntries_ok]
        constructor
        · rintro ⟨_, ⟨members, rfl⟩, below⟩
          obtain ⟨named, inside, rfl⟩ := (visitChildren_ok children).mp below
          exact ⟨named, ⟨members, inside⟩, rfl⟩
        · rintro ⟨named, ⟨members, inside⟩, rfl⟩
          exact ⟨_, ⟨members, rfl⟩, (visitChildren_ok children).mpr ⟨named, inside, rfl⟩⟩

theorem visitChildren_ok : ∀ (children : List Group) {groups seen : BTreeSet Uuid} {found : SeenIdentifiers},
    visitChildren children (groups, seen) = .ok found ↔
      NewIds (children.flatMap groupIds) groups ∧ NewIds (children.flatMap entryIds) seen ∧
        found = (addIds (children.flatMap groupIds) groups, addIds (children.flatMap entryIds) seen)
  | [], groups, seen, found => by
      simp only [visitChildren, Except.ok.injEq, List.flatMap_nil, newIds_nil, true_and]
      exact eq_comm
  | child :: rest, groups, seen, found => by
      simp only [visitChildren, List.flatMap_cons, newIds_append, addIds_append, Fallible.bind_ok]
      constructor
      · rintro ⟨_, first, later⟩
        obtain ⟨named, inside, rfl⟩ := (visitGroup_ok child).mp first
        obtain ⟨named', inside', rfl⟩ := (visitChildren_ok rest).mp later
        exact ⟨⟨named, named'⟩, ⟨inside, inside'⟩, rfl⟩
      · rintro ⟨⟨named, named'⟩, ⟨inside, inside'⟩, rfl⟩
        exact ⟨_, (visitGroup_ok child).mpr ⟨named, inside, rfl⟩, (visitChildren_ok rest).mpr ⟨named', inside', rfl⟩⟩
end

theorem visitDeleted_ok {items : List DeletedObject} {seen : BTreeSet Uuid} :
    visitDeleted items seen = .ok () ↔ NewIds (items.map (·.id)) seen := by
  induction items generalizing seen with
  | nil => simp [visitDeleted, newIds_nil]
  | cons item rest ih =>
      simp only [visitDeleted, List.map_cons, newIds_cons]
      by_cases old : item.id ∈ seen
      · simp [old, mergeConflict]
      · simp [old, ih]

/-- No entry has the identifier of a group. -/
def Vault.Apart (vault : Vault) : Prop := ∀ id ∈ entryIds vault.root, id ∉ groupIds vault.root

/-- No identifier occurs twice among the objects or among the tombstones. -/
structure Vault.Identified (vault : Vault) : Prop extends vault.UniqueIds where
  apart : vault.Apart
  tombstones : (vault.deletedObjects.map (·.id)).Nodup

theorem validateVaultIdentifiers_ok {vault : Vault} : validateVaultIdentifiers vault = .ok () ↔ vault.Identified := by
  have collide : ((addIds (entryIds vault.root) ∅).toList.any fun id => (addIds (groupIds vault.root) ∅).contains id) = true ↔
      ¬ vault.Apart := by
    simp only [List.any_eq_true, Std.ExtTreeSet.mem_toList, mem_addIds, Std.ExtTreeSet.contains_iff_mem,
      Std.ExtTreeSet.not_mem_empty, or_false, Vault.Apart, Classical.not_forall, not_not, exists_prop]
  unfold validateVaultIdentifiers
  simp only [Fallible.bind_ok]
  constructor
  · rintro ⟨⟨_, _⟩, visited, rest⟩
    obtain ⟨groups, entries, same⟩ := (visitGroup_ok vault.root).mp visited
    cases same
    dsimp only at rest
    split at rest
    · cases rest
    · rename_i apart
      rw [collide, not_not] at apart
      exact ⟨⟨newIds_empty.mp groups, newIds_empty.mp entries⟩, apart, newIds_empty.mp (visitDeleted_ok.mp rest)⟩
  · intro identified
    refine ⟨_, (visitGroup_ok vault.root).mpr ⟨newIds_empty.mpr identified.groups, newIds_empty.mpr identified.entries, rfl⟩, ?_⟩
    dsimp only
    rw [if_neg (by rw [collide, not_not]; exact identified.apart)]
    exact visitDeleted_ok.mpr (newIds_empty.mpr identified.tombstones)

end Identifiers

/-! ## Merging -/

section Merging

variable {baseline local' current candidate : Vault}

theorem withoutAutofillReceipts_cases (vault : Vault) : withoutAutofillReceipts vault = vault ∨
    withoutAutofillReceipts vault = vault.writeCustomData (vault.metaCustomData.erase autofillReceiptKey) none := by
  unfold withoutAutofillReceipts
  split
  · rename_i inside
    obtain ⟨value, held⟩ := (BTreeMap.mem_iff_lookup ..).mp (Std.ExtTreeMap.contains_iff_mem.mp inside)
    unfold deleteVaultCustomData
    rw [Attempt.bind_run, Attempt.get_run]
    dsimp only
    rw [held]
    exact .inr rfl
  · exact .inl rfl

@[simp] theorem withoutAutofillReceipts_root (vault : Vault) : (withoutAutofillReceipts vault).root = vault.root := by
  rcases withoutAutofillReceipts_cases vault with same | same
  · rw [same]
  · rw [same]
    rfl

@[simp] theorem withoutAutofillReceipts_flat (vault : Vault) : (withoutAutofillReceipts vault).flat = vault.flat := by
  simp [Vault.flat]

theorem patchRecoverably_ok : patchRecoverably baseline local' current = .ok candidate ↔
    ∃ patched, threeWayFieldPatch baseline local' current = .ok patched ∧
      ensurePatchConflictHistoryIsRecoverable patched.vault patched.requiredHistorySnapshots = .ok () ∧
      candidate = patched.vault := by
  unfold patchRecoverably
  cases patched : threeWayFieldPatch baseline local' current with
  | error e => simp
  | ok result =>
      simp only [Except.ok.injEq, exists_eq_left']
      cases ensurePatchConflictHistoryIsRecoverable result.vault result.requiredHistorySnapshots with
      | error e => simp
      | ok _ => simp [eq_comm]

/-- How a merge comes out. -/
inductive MergedCandidate (baseline local' current : Vault) : Vault → Prop
  | agree (same : local' = current) : MergedCandidate baseline local' current local'
  | theirs (same : local' = baseline) : MergedCandidate baseline local' current current
  | ours (same : current = baseline) : MergedCandidate baseline local' current local'
  | patched {result : ThreeWayPatchResult}
      (patch : threeWayFieldPatch (withoutAutofillReceipts baseline) (withoutAutofillReceipts local')
        (withoutAutofillReceipts current) = .ok result)
      (recoverable : ensurePatchConflictHistoryIsRecoverable result.vault result.requiredHistorySnapshots = .ok ()) :
      MergedCandidate baseline local' current result.vault

structure MergedVaults (baseline local' current candidate : Vault) : Prop where
  validBaseline : baseline.Identified
  validLocal : local'.Identified
  validCurrent : current.Identified
  outcome : MergedCandidate baseline local' current candidate

theorem mergeAutofillCandidate_ok (merged : mergeAutofillCandidate baseline local' current = .ok candidate) :
    MergedVaults baseline local' current candidate := by
  unfold mergeAutofillCandidate at merged
  obtain ⟨_, validBase, merged⟩ := Fallible.bind_ok.mp merged
  obtain ⟨_, validLocal, merged⟩ := Fallible.bind_ok.mp merged
  obtain ⟨_, validCurrent, merged⟩ := Fallible.bind_ok.mp merged
  apply MergedVaults.mk (validateVaultIdentifiers_ok.mp validBase) (validateVaultIdentifiers_ok.mp validLocal)
    (validateVaultIdentifiers_ok.mp validCurrent)
  split at merged
  · cases merged
  · split at merged
    · rename_i same
      cases merged
      exact .agree same
    · split at merged
      · rename_i same
        cases merged
        exact .theirs same
      · split at merged
        · rename_i same
          cases merged
          exact .ours same
        · obtain ⟨result, patch, recoverable, rfl⟩ := patchRecoverably_ok.mp merged
          exact .patched patch recoverable

/-- A vault merged with itself is itself. -/
theorem mergeAutofillCandidate_self {vault : Vault} (identified : vault.Identified) :
    mergeAutofillCandidate vault vault vault = .ok vault := by
  unfold mergeAutofillCandidate
  simp [validateVaultIdentifiers_ok.mpr identified]

theorem mergeDeletedObjects_nodup (base local' remote : List DeletedObject) :
    ((mergeDeletedObjects base local' remote).map (·.id)).Nodup := by
  have keyed {items : List DeletedObject} {id : Uuid} {item : DeletedObject}
      (held : (deletedObjectMap items)[id]? = some item) : item.id = id := by
    obtain ⟨other, _, same⟩ := List.mem_map.mp (BTreeMap.mem_of_lastWins held)
    cases same
    rfl
  have named {id : Uuid} {item : DeletedObject} (held : mergeDeletedObject (deletedObjectMap base)[id]?
      (deletedObjectMap local')[id]? (deletedObjectMap remote)[id]? = some item) : item.id = id := by
    rcases ThreeWay.pick_eq_or (deletedObjectMap base)[id]? (deletedObjectMap local')[id]?
      (deletedObjectMap remote)[id]? _ with ours | theirs
    · exact keyed (ours.symm.trans held)
    · exact keyed (theirs.symm.trans held)
  unfold mergeDeletedObjects
  rw [List.map_filterMap]
  apply (BTreeMap.unionKeys3_nodup _ _ _).filterMap
  intro id id' found here there
  obtain ⟨item, held, rfl⟩ := Option.map_eq_some_iff.mp here
  obtain ⟨item', held', same⟩ := Option.map_eq_some_iff.mp there
  rw [← named held, ← named held', same]

theorem mergeMeta_deletedObjects {base local' remote merged : Vault} (mergedMeta : mergeMeta base local' remote = .ok merged) :
    merged.deletedObjects = mergeDeletedObjects base.deletedObjects local'.deletedObjects remote.deletedObjects := by
  unfold mergeMeta at mergedMeta
  obtain ⟨icons, _, rest⟩ := Fallible.bind_ok.mp mergedMeta
  split at rest
  · cases rest
  · cases rest
    rfl

theorem MergedVaults.unique (merged : MergedVaults baseline local' current candidate) : candidate.UniqueIds := by
  cases merged.outcome with
  | agree _ => exact merged.validLocal.toUniqueIds
  | theirs _ => exact merged.validCurrent.toUniqueIds
  | ours _ => exact merged.validLocal.toUniqueIds
  | patched patch _ =>
      obtain ⟨run⟩ := threeWayFieldPatch_ok.mp patch
      exact run.result_uniqueIds

/-- What is merged has identifiers of its own, except that an entry may have that of a group. -/
theorem MergedVaults.identified (merged : MergedVaults baseline local' current candidate) (apart : candidate.Apart) :
    candidate.Identified := by
  cases merged.outcome with
  | agree _ => exact merged.validLocal
  | theirs _ => exact merged.validCurrent
  | ours _ => exact merged.validLocal
  | patched patch _ =>
      obtain ⟨run⟩ := threeWayFieldPatch_ok.mp patch
      apply Vault.Identified.mk run.result_uniqueIds apart
      have kept := mergeDeletedObjects_nodup (withoutAutofillReceipts baseline).deletedObjects
        (withoutAutofillReceipts local').deletedObjects (withoutAutofillReceipts current).deletedObjects
      rw [← mergeMeta_deletedObjects run.mergedMeta] at kept
      rw [run.assembled]
      exact (List.filter_sublist.map _).nodup kept

end Merging

/-! ## The target -/

section Target

variable {id entryId : String} {before after : Entry}

/-- The first entry of the id, and the others around it. -/
theorem replaceEntry_split {entries : List Entry}
    (found : (entries.find? fun entry => uuidToString entry.id = id) = some before) :
    ∃ front back, entries = front ++ before :: back ∧ replaceEntry id after entries = front ++ after :: back := by
  induction entries with
  | nil => cases found
  | cons first rest ih =>
      unfold replaceEntry
      split
      · rename_i here
        rw [List.find?_cons_of_pos (by simpa using here)] at found
        cases found
        exact ⟨[], rest, rfl, rfl⟩
      · rename_i apart
        rw [List.find?_cons_of_neg (by simpa using apart)] at found
        obtain ⟨front, back, same, put⟩ := ih found
        exact ⟨first :: front, back, by rw [same]; rfl, by rw [put]; rfl⟩

/-- The placed entries are the rows of the vault. -/
theorem placed_row {vault : Vault} (unique : vault.UniqueIds) {parent : Uuid} {entry : Entry} :
    (parent, entry) ∈ placedEntries vault.root ↔
      ∃ row, vault.flat.entries[entry.id]? = some row ∧ row.parent = parent ∧ row.value = entry := by
  rw [mem_placedEntries]
  constructor
  · intro ⟨group, inside, same, member⟩
    obtain ⟨i, stands⟩ := List.mem_iff_getElem?.mp member
    exact ⟨_, Vault.member_row unique inside stands, same, rfl⟩
  · intro ⟨row, held, same, value⟩
    obtain ⟨group, inside, stands, _, up⟩ := (mem_entryRows _).mp ((Vault.flat_entry_lookup unique).mp held)
    exact ⟨group, inside, up.symm.trans same, value ▸ List.mem_of_getElem? stands⟩

/-- Only one entry has an identifier. -/
theorem placed_unique {vault : Vault} (unique : vault.UniqueIds) {first second : Uuid × Entry}
    (left : first ∈ placedEntries vault.root) (right : second ∈ placedEntries vault.root) (same : first.2.id = second.2.id) :
    first = second := by
  obtain ⟨row, held, up, value⟩ := (placed_row unique).mp left
  obtain ⟨row', held', up', value'⟩ := (placed_row unique).mp right
  rw [same, held'] at held
  cases held
  exact Prod.ext (up.symm.trans up') (value.symm.trans value')

mutual
theorem findEntryInGroup_entry (bin : Option Uuid) (id : Uuid) : ∀ (group : Group) (recycled : Bool),
    (findEntryInGroup bin id group recycled).map Prod.fst = findEntryById (uuidToString id) group
  | ⟨fields, entries, children⟩, recycled => by
      have named (entry : Entry) : decide (entry.id = id) = decide (uuidToString entry.id = uuidToString id) :=
        decide_eq_decide.mpr ⟨fun same => by rw [same], uuidToString_injective⟩
      simp only [findEntryInGroup, findEntryById, Option.map_or, Option.map_map, Function.comp_def, Option.map_id',
        findEntryInChildren_entry bin id children, named]

theorem findEntryInChildren_entry (bin : Option Uuid) (id : Uuid) : ∀ (children : List Group) (recycled : Bool),
    (findEntryInChildren bin id children recycled).map Prod.fst = findEntryIn (uuidToString id) children
  | [], _ => rfl
  | child :: rest, recycled => by
      simp only [findEntryInChildren, findEntryIn, Option.map_or, findEntryInGroup_entry bin id child,
        findEntryInChildren_entry bin id rest]
end

/-- `find_entry` finds what `find_entry_mut` finds. -/
theorem findEntry_entry (vault : Vault) (entryId : String) : (findEntry vault entryId).map Prod.fst = findEntryMut vault entryId := by
  unfold findEntry findEntryMut
  cases uuidParseStr entryId with
  | none => rfl
  | some id => exact findEntryInGroup_entry _ id vault.root false

theorem validateCanonicalUuid_ok {name value : String} (valid : validateCanonicalUuid name value = .ok ()) :
    ∃ id, uuidParseStr value = some id ∧ id ≠ 0 ∧ uuidToString id = value := by
  unfold validateCanonicalUuid requirePlan at valid
  cases parsed : uuidParseStr value with
  | none => simp [parsed] at valid
  | some id =>
      simp only [parsed, Option.any_some, Bool.and_eq_true, decide_eq_true_eq] at valid
      split at valid
      · rename_i canonical
        exact ⟨id, rfl, canonical⟩
      · cases valid

mutual
/-- An entry is written back where it was found, among the same entries. -/
theorem putEntryById_split : ∀ root : Group, findEntryById id root = some before →
    ∃ front group back, placedEntries root = front ++ (group, before) :: back ∧
      placedEntries (putEntryById id after root) = front ++ (group, after) :: back
  | ⟨fields, entries, children⟩, found => by
      unfold findEntryById at found
      unfold putEntryById
      cases here : entries.find? fun entry => uuidToString entry.id = id with
      | some first =>
          rw [here] at found
          cases found
          obtain ⟨front, back, same, put⟩ := @replaceEntry_split _ _ after _ here
          simp only [Option.isSome_some, if_true, placedEntries_mk, put]
          refine ⟨front.map fun entry => (fields.id, entry), fields.id,
            (back.map fun entry => (fields.id, entry)) ++ children.flatMap placedEntries, ?_, ?_⟩
          · rw [same, List.map_append, List.map_cons, List.append_assoc, List.cons_append]
          · rw [List.map_append, List.map_cons, List.append_assoc, List.cons_append]
      | none =>
          rw [here, Option.none_or] at found
          obtain ⟨front, group, back, same, put⟩ := putEntryIn_split children found
          simp only [Option.isSome_none, Bool.false_eq_true, if_false, placedEntries_mk, put]
          exact ⟨(entries.map fun entry => (fields.id, entry)) ++ front, group, back, by rw [same, List.append_assoc],
            by rw [List.append_assoc]⟩

theorem putEntryIn_split : ∀ children : List Group, findEntryIn id children = some before →
    ∃ front group back, children.flatMap placedEntries = front ++ (group, before) :: back ∧
      (putEntryIn id after children).flatMap placedEntries = front ++ (group, after) :: back
  | [], found => by cases found
  | child :: rest, found => by
      unfold findEntryIn at found
      unfold putEntryIn
      cases here : findEntryById id child with
      | some first =>
          rw [here] at found
          cases found
          obtain ⟨front, group, back, same, put⟩ := putEntryById_split child here
          simp only [Option.isSome_some, if_true, List.flatMap_cons, put]
          refine ⟨front, group, back ++ rest.flatMap placedEntries, ?_, ?_⟩
          · rw [same, List.append_assoc, List.cons_append]
          · rw [List.append_assoc, List.cons_append]
      | none =>
          rw [here, Option.none_or] at found
          obtain ⟨front, group, back, same, put⟩ := putEntryIn_split rest found
          simp only [Option.isSome_none, Bool.false_eq_true, if_false, List.flatMap_cons, put]
          exact ⟨placedEntries child ++ front, group, back, by rw [same, List.append_assoc], by rw [List.append_assoc]⟩
end

/-- Of an entry that is written back, the other entries see nothing. -/
theorem putEntryById_mapped {C : Type} {f : Entry → C} (same : f after = f before) {root : Group}
    (found : findEntryById id root = some before) :
    (placedEntries (putEntryById id after root)).map (Prod.map (fun group => group) f) =
      (placedEntries root).map (Prod.map (fun group => group) f) := by
  obtain ⟨front, group, back, alike, put⟩ := @putEntryById_split _ _ after root found
  rw [alike, put]
  simp only [List.map_append, List.map_cons, Prod.map_apply, same]

mutual
theorem putEntryById_shells : ∀ root : Group, shellsIn (putEntryById id after root) = shellsIn root
  | ⟨fields, entries, children⟩ => by
      unfold putEntryById
      split
      · rw [shellsIn_mk, shellsIn_mk]
      · rw [shellsIn_mk, shellsIn_mk, putEntryIn_shells children]

theorem putEntryIn_shells : ∀ children : List Group,
    (putEntryIn id after children).flatMap shellsIn = children.flatMap shellsIn
  | [] => rfl
  | child :: rest => by
      unfold putEntryIn
      split
      · rw [List.flatMap_cons, List.flatMap_cons, putEntryById_shells child]
      · rw [List.flatMap_cons, List.flatMap_cons, putEntryIn_shells rest]
end

theorem groupIds_shells (root : Group) : groupIds root = (shellsIn root).map (·.id) := by
  rw [groupIds_eq, shellsIn, List.map_map]
  rfl

theorem entryIds_placed (root : Group) : entryIds root = (placedEntries root).map (·.2.id) := by
  simp [entryIds_eq, placedEntries, List.map_flatMap, Function.comp_def]

theorem effectiveProtection_again (value : String) (isProtected : Bool) :
    effectiveXmlFieldProtection value (effectiveXmlFieldProtection value isProtected) =
      effectiveXmlFieldProtection value isProtected := by
  simp [effectiveXmlFieldProtection]

theorem protectXmlForbiddenFields_again (entry : Entry) :
    protectXmlForbiddenFields (protectXmlForbiddenFields entry) = protectXmlForbiddenFields entry := by
  apply Entry.ext'
  · simp only [protectXmlForbiddenFields, effectiveProtection_again, EntryFields.mk.injEq, true_and, and_true]
    apply Std.ExtTreeMap.ext_getElem?
    intro key
    simp only [Std.ExtTreeMap.getElem?_map, Option.map_map, Function.comp_def, effectiveProtection_again]
  · rfl

theorem protectEntryAndHistory_again (entry : Entry) :
    protectEntryAndHistory (protectEntryAndHistory entry) = protectEntryAndHistory entry := by
  have fields := congrArg Entry.toEntryFields (protectXmlForbiddenFields_again entry)
  apply Entry.ext'
  · exact fields
  · simp only [protectEntryAndHistory, List.map_map, Function.comp_def, protectXmlForbiddenFields_again]

/-- The entry without its protection, in its history either. -/
def withoutProtection (entry : Entry) : Entry :=
  { entry with fieldProtection := {}, attributes := entry.attributes.map fun _ field => { field with isProtected := false } }

def Entry.withoutProtection (entry : Entry) : Entry :=
  { VaultKern.withoutProtection entry with history := entry.history.map VaultKern.withoutProtection }

/-- The entries of a vault with their groups, without their protection. -/
def Vault.contents (vault : Vault) : List (Uuid × Entry) :=
  (placedEntries vault.root).map (Prod.map (fun group => group) Entry.withoutProtection)

theorem withoutProtection_protect (entry : Entry) :
    withoutProtection (protectXmlForbiddenFields entry) = withoutProtection entry := by
  apply Entry.ext'
  · simp only [withoutProtection, protectXmlForbiddenFields, EntryFields.mk.injEq, true_and, and_true]
    apply Std.ExtTreeMap.ext_getElem?
    intro key
    simp only [Std.ExtTreeMap.getElem?_map, Option.map_map, Function.comp_def]
  · rfl

theorem protectEntryAndHistory_contents (entry : Entry) :
    (protectEntryAndHistory entry).withoutProtection = entry.withoutProtection := by
  have fields := congrArg Entry.toEntryFields (withoutProtection_protect entry)
  apply Entry.ext'
  · exact fields
  · simp only [Entry.withoutProtection, protectEntryAndHistory, List.map_map, Function.comp_def, withoutProtection_protect]

theorem protectTarget_found {candidate : Vault} {uuid : Uuid} {entry : Entry} (parsed : uuidParseStr entryId = some uuid)
    (found : findEntryById (uuidToString uuid) candidate.root = some entry) :
    protectTargetXmlForbiddenFields candidate entryId =
      { candidate with root := putEntryById (uuidToString uuid) (protectEntryAndHistory entry) candidate.root } := by
  simp only [protectTargetXmlForbiddenFields, findEntryMut, putEntryMut, parsed, Option.bind_some, found]

theorem protectTarget_absent {candidate : Vault} (absent : findEntryMut candidate entryId = none) :
    protectTargetXmlForbiddenFields candidate entryId = candidate := by
  simp only [protectTargetXmlForbiddenFields, absent]

/-- Either there is no target, or it is protected where it is. -/
theorem protectTarget_cases (candidate : Vault) (entryId : String) :
    protectTargetXmlForbiddenFields candidate entryId = candidate ∨ ∃ uuid entry, uuidParseStr entryId = some uuid ∧
      findEntryById (uuidToString uuid) candidate.root = some entry ∧
      protectTargetXmlForbiddenFields candidate entryId =
        { candidate with root := putEntryById (uuidToString uuid) (protectEntryAndHistory entry) candidate.root } := by
  cases found : findEntryMut candidate entryId with
  | none => exact .inl (protectTarget_absent found)
  | some entry =>
      obtain ⟨uuid, parsed, found⟩ := Option.bind_eq_some_iff.mp found
      exact .inr ⟨uuid, entry, parsed, found, protectTarget_found parsed found⟩

theorem mem_entriesIn {root : Group} {entry : Entry} : entry ∈ entriesIn root ↔ ∃ parent, (parent, entry) ∈ placedEntries root := by
  rw [entriesIn_placed, List.mem_map]
  constructor
  · rintro ⟨⟨parent, found⟩, inside, rfl⟩
    exact ⟨parent, inside⟩
  · rintro ⟨parent, inside⟩
    exact ⟨_, inside, rfl⟩

theorem entry_row {vault : Vault} (unique : vault.UniqueIds) {entry : Entry} :
    entry ∈ entriesIn vault.root ↔ ∃ row, vault.flat.entries[entry.id]? = some row ∧ row.value = entry := by
  rw [mem_entriesIn]
  constructor
  · intro ⟨parent, inside⟩
    obtain ⟨row, held, _, value⟩ := (placed_row unique).mp inside
    exact ⟨row, held, value⟩
  · intro ⟨row, held, value⟩
    exact ⟨row.parent, (placed_row unique).mpr ⟨row, held, rfl, value⟩⟩

theorem entry_named {vault : Vault} (unique : vault.UniqueIds) {entry : Entry} {id : Uuid}
    (inside : entry ∈ entriesIn vault.root) (named : entry.id = id) :
    vault.flat.entries[id]?.map (·.value) = some entry := by
  obtain ⟨row, held, value⟩ := (entry_row unique).mp inside
  rw [← named, held, Option.map_some, value]

theorem entry_same {vault : Vault} (unique : vault.UniqueIds) {first second : Entry} (left : first ∈ entriesIn vault.root)
    (right : second ∈ entriesIn vault.root) (same : first.id = second.id) : first = second := by
  obtain ⟨parent, left⟩ := mem_entriesIn.mp left
  obtain ⟨parent', right⟩ := mem_entriesIn.mp right
  exact congrArg Prod.snd (placed_unique unique left right same)

/-- Vaults of the same contents have the same entries in the same groups, apart from protection. -/
theorem placed_of_contents {left right : Vault} (same : left.contents = right.contents) {parent : Uuid} {entry : Entry}
    (inside : (parent, entry) ∈ placedEntries left.root) :
    ∃ other, (parent, other) ∈ placedEntries right.root ∧ other.withoutProtection = entry.withoutProtection := by
  have member : (parent, entry.withoutProtection) ∈ right.contents := by
    rw [← same]
    exact List.mem_map_of_mem inside
  obtain ⟨⟨group, other⟩, there, alike⟩ := List.mem_map.mp member
  obtain ⟨here, alike⟩ := Prod.mk.inj alike
  exact ⟨other, here ▸ there, alike⟩

/-- An entry beside a protected target, or the target itself. -/
theorem protectTarget_placed {candidate : Vault} {entryId : String} {parent : Uuid} {entry : Entry}
    (inside : (parent, entry) ∈ placedEntries (protectTargetXmlForbiddenFields candidate entryId).root) :
    ∃ other, (parent, other) ∈ placedEntries candidate.root ∧ other.id = entry.id ∧
      (entry = other ∨ entry = protectEntryAndHistory other) := by
  rcases protectTarget_cases candidate entryId with same | ⟨uuid, target, _, found, same⟩
  · rw [same] at inside
    exact ⟨entry, inside, rfl, .inl rfl⟩
  · rw [same] at inside
    obtain ⟨front, group, back, alike, put⟩ := @putEntryById_split _ _ (protectEntryAndHistory target) candidate.root found
    dsimp only at inside
    rw [put] at inside
    rw [alike]
    rcases List.mem_append.mp inside with early | later
    · exact ⟨entry, List.mem_append_left _ early, rfl, .inl rfl⟩
    · rcases List.mem_cons.mp later with here | later
      · cases here
        exact ⟨target, List.mem_append_right _ List.mem_cons_self, rfl, .inr rfl⟩
      · exact ⟨entry, List.mem_append_right _ (List.mem_cons_of_mem _ later), rfl, .inl rfl⟩

/-- Of an identifier there is one entry. -/
theorem placed_filter {vault : Vault} (unique : vault.UniqueIds) {parent : Uuid} {entry : Entry}
    (inside : (parent, entry) ∈ placedEntries vault.root) :
    (placedEntries vault.root).filter (fun placed => uuidToString placed.2.id = uuidToString entry.id) = [(parent, entry)] := by
  have nodup := unique.entries
  rw [entryIds_placed] at nodup
  obtain ⟨front, back, same⟩ := List.append_of_mem inside
  rw [same] at nodup ⊢
  rw [List.map_append, List.map_cons, List.nodup_middle, List.nodup_cons, ← List.map_append] at nodup
  have apart (list : List (Uuid × Entry)) (sub : list ⊆ front ++ back) :
      list.filter (fun placed => uuidToString placed.2.id = uuidToString entry.id) = [] := by
    rw [List.filter_eq_nil_iff]
    intro placed member named
    have id : placed.2.id = entry.id := uuidToString_injective (of_decide_eq_true named)
    exact nodup.1 (id ▸ List.mem_map_of_mem (sub member))
  rw [List.filter_append, List.filter_cons_of_pos (by simp), apart front (List.subset_append_left _ _),
    apart back (List.subset_append_right _ _), List.nil_append]

theorem protectTarget_contents (candidate : Vault) (entryId : String) :
    (protectTargetXmlForbiddenFields candidate entryId).contents = candidate.contents := by
  rcases protectTarget_cases candidate entryId with same | ⟨uuid, entry, _, found, same⟩
  · rw [same]
  · rw [same]
    exact putEntryById_mapped (protectEntryAndHistory_contents entry) found

theorem protectTarget_ids (candidate : Vault) (entryId : String) :
    groupIds (protectTargetXmlForbiddenFields candidate entryId).root = groupIds candidate.root ∧
      entryIds (protectTargetXmlForbiddenFields candidate entryId).root = entryIds candidate.root ∧
      (protectTargetXmlForbiddenFields candidate entryId).deletedObjects = candidate.deletedObjects := by
  rcases protectTarget_cases candidate entryId with same | ⟨uuid, entry, _, found, same⟩
  · rw [same]
    exact ⟨rfl, rfl, rfl⟩
  · rw [same, groupIds_shells, groupIds_shells, entryIds_placed, entryIds_placed]
    refine ⟨?_, ?_, rfl⟩
    · exact congrArg _ (putEntryById_shells candidate.root)
    · have named : (protectEntryAndHistory entry).id = entry.id := rfl
      have kept := congrArg (List.map Prod.snd) (putEntryById_mapped (f := fun entry : Entry => entry.id) named found)
      simpa only [List.map_map, Function.comp_def, Prod.map_snd] using kept

/-- A protected target is not changed again. -/
theorem protectTarget_again {candidate vault : Vault}
    (root : vault.root = (protectTargetXmlForbiddenFields candidate entryId).root) :
    protectTargetXmlForbiddenFields vault entryId = vault := by
  cases parsed : uuidParseStr entryId with
  | none => exact protectTarget_absent (by simp only [findEntryMut, parsed, Option.bind_none])
  | some uuid =>
      cases found : findEntryById (uuidToString uuid) candidate.root with
      | none =>
          rw [protectTarget_absent (by simp only [findEntryMut, parsed, Option.bind_some, found])] at root
          exact protectTarget_absent (by simp only [findEntryMut, parsed, Option.bind_some, root, found])
      | some entry =>
          rw [protectTarget_found parsed found] at root
          have named : uuidToString (protectEntryAndHistory entry).id = uuidToString uuid := by
            have named := findEntryById_named candidate.root found
            exact named
          have there : findEntryById (uuidToString uuid) vault.root = some (protectEntryAndHistory entry) := by
            rw [root]
            exact findEntryById_put named candidate.root found
          rw [protectTarget_found parsed there, protectEntryAndHistory_again, putEntryById_same _ vault.root there]

end Target

end VaultKern
