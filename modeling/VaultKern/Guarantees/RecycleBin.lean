import VaultKern.Core.Places
import VaultKern.Guarantees.RuntimeEdits

/-! # Restoring what was soft deleted

A soft delete writes the group of the entry into `previous_parent`, and a restore leads back
there. The second soft delete of an entry that is already in the recycle bin writes the bin.
-/

namespace VaultKern

open Attempt

/-! ## The bin -/

/-- The recycle bin that a soft delete uses, and the tree that holds it. -/
inductive BinReady (drawn : Uuid) (vault : Vault) : Uuid → Group → Prop
  | live {bin : Uuid} (marked : vault.recycleBinGroup = some bin) : BinReady drawn vault bin vault.root
  | created (gone : vault.liveRecycleBin = none) :
      BinReady drawn vault drawn (vault.root.addChild (newRecycleBin drawn))

theorem ensureRecycleBin_ready_bin {drawn : Uuid} {changedAt : Int} {binId : String} {vault ready : Vault}
    (run : ensureRecycleBin drawn changedAt vault = (.ok binId, ready)) :
    ∃ bin, uuidToString bin = binId ∧ ready.recycleBinGroup = some bin ∧ BinReady drawn vault bin ready.root := by
  rcases ensureRecycleBin_cases vault drawn changedAt with ⟨_, live, run'⟩ | ⟨gone, run'⟩
  · cases run'.symm.trans run
    obtain ⟨marked, -⟩ := Option.filter_eq_some_iff.mp live
    obtain ⟨bin, marked, named⟩ := Option.map_eq_some_iff.mp marked
    exact ⟨bin, named, marked, .live marked⟩
  · cases run'.symm.trans run
    exact ⟨drawn, rfl, rfl, .created gone⟩

theorem placedEntries_addBin (root : Group) (drawn : Uuid) :
    placedEntries (root.addChild (newRecycleBin drawn)) = placedEntries root := by
  cases root
  simp [Group.addChild, newRecycleBin, placedEntries_mk]

theorem liveIds_addBin (root : Group) (drawn : Uuid) :
    (liveIds (root.addChild (newRecycleBin drawn))).Perm (drawn :: liveIds root) := by
  unfold liveIds
  rw [shellsIn_addLast, entriesIn_addLast]
  simp only [newRecycleBin, shellsIn_mk, entriesIn_mk, List.flatMap_nil, List.append_nil, List.map_append, List.map_cons,
    List.map_nil, List.append_assoc, List.singleton_append]
  exact List.perm_middle

namespace BinReady

variable {drawn bin : Uuid} {vault : Vault} {base : Group}

theorem placed (ready : BinReady drawn vault bin base) : placedEntries base = placedEntries vault.root := by
  cases ready with
  | live => rfl
  | created => exact placedEntries_addBin vault.root drawn

theorem distinct (ready : BinReady drawn vault bin base) (unused : vault.usesUuid drawn = false)
    (distinct : (liveIds vault.root).Nodup) : (liveIds base).Nodup := by
  cases ready with
  | live => exact distinct
  | created =>
      apply (liveIds_addBin vault.root drawn).nodup_iff.mpr
      exact List.nodup_cons.mpr ⟨(usesUuid_eq_false.mp unused).1, distinct⟩

theorem keepsGroups (ready : BinReady drawn vault bin base) {target : String}
    (there : (findGroupById target vault.root).isSome) : (findGroupById target base).isSome := by
  cases ready with
  | live => exact there
  | created =>
      rw [findGroupById_isSome] at there ⊢
      rw [shellsIn_addLast, List.map_append]
      exact List.mem_append_left _ there

end BinReady

/-! ## One move -/

section Moved

variable {entryId : String} {target : Uuid} {change : Entry → Uuid → Entry} {before after : Group}

theorem EntryMoved.distinct (moved : EntryMoved entryId (uuidToString target) change before after)
    (same : (change moved.entry moved.parent).id = moved.entry.id) (distinct : (liveIds before).Nodup) :
    (liveIds after).Nodup := by
  have relocated := moved.relocated (fun _ _ => True) trivial same
  exact relocated.liveIds.nodup_iff.mpr distinct

theorem EntryMoved.keepsGroups (moved : EntryMoved entryId (uuidToString target) change before after)
    (same : (change moved.entry moved.parent).id = moved.entry.id) {other : String}
    (there : (findGroupById other before).isSome) : (findGroupById other after).isSome := by
  have ids := (moved.relocated (fun _ _ => True) trivial same).groupIds
  rw [findGroupById_isSome, List.mem_map] at there ⊢
  obtain ⟨group, inside, named⟩ := there
  obtain ⟨group', inside', same⟩ := List.mem_map.mp (ids.mem_iff.mpr (List.mem_map_of_mem inside))
  exact ⟨group', inside', by rw [same, named]⟩

/-- Where the entry was and where it is; the other entries keep their places. -/
theorem EntryMoved.places (moved : EntryMoved entryId (uuidToString target) change before after)
    (same : (change moved.entry moved.parent).id = moved.entry.id) :
    ∃ others, (placedEntries before).Perm ((moved.parent, moved.entry) :: others) ∧
      (placedEntries after).Perm ((target, change moved.entry moved.parent) :: others) ∧
      ∀ touched, moved.parent ∈ touched → after.apartFrom entryId touched = before.apartFrom entryId touched := by
  obtain ⟨⟨named, -⟩, -⟩ := takeEntryFromGroup_bags moved.taken
  obtain ⟨bag, groups⟩ := placedEntries_take moved.taken
  obtain ⟨place, samePlace, bag'⟩ := placedEntries_addEntry moved.put
  cases uuidToString_injective samePlace
  exact ⟨_, bag, bag', fun touched inside =>
    (apartFrom_addEntry (by rw [same, named]) moved.put).trans (groups touched inside)⟩

end Moved

/-- The entry that moves is the one with that id, and it leaves its own group. -/
theorem EntryMoved.from_place {entryId target : String} {change : Entry → Uuid → Entry} {before after : Group}
    (moved : EntryMoved entryId target change before after) (distinct : (liveIds before).Nodup) {place : Uuid}
    {entry : Entry} (held : (place, entry) ∈ placedEntries before) (named : uuidToString entry.id = entryId) :
    moved.parent = place ∧ moved.entry = entry := by
  obtain ⟨⟨named', -⟩, -⟩ := takeEntryFromGroup_bags moved.taken
  have inside := (placedEntries_take moved.taken).1.mem_iff.mpr List.mem_cons_self
  exact place_unique (List.nodup_append.mp distinct).2.1 held inside (uuidToString_injective (named'.trans named.symm))

/-- The entry as a soft delete leaves it in the bin. -/
def binnedEntry (previous : Uuid) (location : Nat) (entry : Entry) : Entry :=
  { entry with previousParent := some previous, locationChangedAt := some location }

/-- What a soft delete of an entry in a group does. -/
structure SoftDeletes (drawn : Uuid) (now : Int) (place : Uuid) (entry : Entry) (before after : Vault) (bin : Uuid)
    (base : Group) (location : Nat) : Prop where
  ready : BinReady drawn before bin base
  marked : after.recycleBinGroup = some bin
  clock : nextEntryLocationTimestamp now entry.locationChangedAt = .ok location
  distinct : (liveIds after.root).Nodup
  places : ∃ others, (placedEntries before.root).Perm ((place, entry) :: others) ∧
    (placedEntries after.root).Perm ((bin, binnedEntry place location entry) :: others)
  groups : ∀ touched, place ∈ touched →
    after.root.apartFrom (uuidToString entry.id) touched = base.apartFrom (uuidToString entry.id) touched
  keepsGroups : ∀ target, (findGroupById target before.root).isSome → (findGroupById target after.root).isSome

theorem softDelete_places {drawn place : Uuid} {now binChangedAt deletedAt : Int} {entry : Entry} {view : EntryView}
    {before after : Vault} (distinct : (liveIds before.root).Nodup) (unused : before.usesUuid drawn = false)
    (held : (place, entry) ∈ placedEntries before.root)
    (run : softDeleteEntryToRecycleBin drawn now binChangedAt deletedAt (uuidToString entry.id) before = (.ok view, after)) :
    ∃ bin base location, SoftDeletes drawn now place entry before after bin base location := by
  rcases softDeleteEntryToRecycleBin_cases before (uuidToString entry.id) drawn now binChangedAt deletedAt with
    ⟨e, failed⟩ | ⟨next, binId, readied, root, moved, ready, clock, run'⟩
  · cases failed.symm.trans run
  · cases run'.symm.trans run
    obtain ⟨bin, rfl, marked, ready⟩ := ensureRecycleBin_ready_bin ready
    have distinct' := ready.distinct unused distinct
    obtain ⟨others, bag, bag', groups⟩ := moved.places rfl
    obtain ⟨samePlace, sameEntry⟩ := moved.from_place distinct' (ready.placed ▸ held) rfl
    rw [samePlace, sameEntry] at bag bag'
    rw [samePlace] at groups
    rw [sameEntry] at clock
    refine ⟨bin, readied.root, next, ready, marked, clock, moved.distinct rfl distinct', ⟨others, ?_, bag'⟩, groups, ?_⟩
    · rwa [ready.placed] at bag
    · intro target there
      exact moved.keepsGroups rfl (ready.keepsGroups there)

/-- What a restore of an entry in the bin does. -/
structure Restores (now : Int) (entry : Entry) (previous : Uuid) (before after : Vault) (location : Nat) : Prop where
  clock : nextEntryLocationTimestamp now entry.locationChangedAt = .ok location
  distinct : (liveIds after.root).Nodup
  places : ∀ place, (place, entry) ∈ placedEntries before.root → ∃ others,
    (placedEntries before.root).Perm ((place, entry) :: others) ∧
      (placedEntries after.root).Perm ((previous, restoredEntry location entry) :: others)
  groups : ∀ place touched, (place, entry) ∈ placedEntries before.root → place ∈ touched →
    after.root.apartFrom (uuidToString entry.id) touched = before.root.apartFrom (uuidToString entry.id) touched
  noTombstone : entry.id ∉ tombstones after

section Restored

variable {bin previous : Uuid} {now : Int} {entry : Entry} {before : Vault}

/-- The entry stands in the marked bin, and its former group is in the tree. -/
structure InBin (bin previous : Uuid) (entry : Entry) (vault : Vault) : Prop where
  marked : vault.recycleBinGroup = some bin
  distinct : (liveIds vault.root).Nodup
  held : (bin, entry) ∈ placedEntries vault.root
  lineage : entry.previousParent = some previous
  there : (findGroupById (uuidToString previous) vault.root).isSome

theorem InBin.restorable_iff (inBin : InBin bin previous entry before) {binned : Entry} {target : String} {next : Nat} :
    Restorable before now (uuidToString entry.id) none binned target next ↔
      binned = entry ∧ target = uuidToString previous ∧ nextEntryLocationTimestamp now entry.locationChangedAt = .ok next := by
  obtain ⟨group, inside, rfl, member⟩ := mem_placedEntries.mp inBin.held
  have groups : ((subgroups before.root).map (·.id)).Nodup := by
    have ids := (List.nodup_append.mp inBin.distinct).1
    simpa [shellsIn, Function.comp_def, Group.shell] using ids
  have entries := (List.nodup_append.mp inBin.distinct).2.1
  have found := findGroupById_of_group groups inside
  have inGroup : group.entries.find? (namedEntry (uuidToString entry.id)) = some entry := by
    cases search : group.entries.find? (namedEntry (uuidToString entry.id)) with
    | none => simpa [namedEntry] using List.find?_eq_none.mp search entry member
    | some other =>
        have named : uuidToString other.id = uuidToString entry.id := by simpa [namedEntry] using List.find?_some search
        have other_held := mem_placedEntries.mpr ⟨group, inside, rfl, List.mem_of_find?_eq_some search⟩
        rw [(place_unique entries inBin.held other_held (uuidToString_injective named)).2]
  constructor
  · rintro ⟨⟨binId, recycleBin, marked, found', search⟩, targeted, clock, -⟩
    rw [inBin.marked, Option.map_some, Option.some.injEq] at marked
    subst marked
    cases found.symm.trans found'
    cases inGroup.symm.trans search
    rw [inBin.lineage] at targeted
    exact ⟨rfl, (Option.some.inj targeted).symm, clock⟩
  · rintro ⟨rfl, rfl, clock⟩
    refine ⟨⟨_, group, by rw [inBin.marked]; rfl, found, inGroup⟩, ?_, clock, inBin.there⟩
    rw [inBin.lineage]
    rfl

/-- The restore of an entry in the bin succeeds when the clock does, and leads to its former group. -/
theorem restore_places (inBin : InBin bin previous entry before) :
    (∃ e, restoreEntryFromRecycleBin now (uuidToString entry.id) none before = (.error e, before) ∧
      ∀ location, nextEntryLocationTimestamp now entry.locationChangedAt ≠ .ok location) ∨
    ∃ view after location, restoreEntryFromRecycleBin now (uuidToString entry.id) none before = (.ok view, after) ∧
      Restores now entry previous before after location := by
  rcases restoreEntryFromRecycleBin_restorable before (uuidToString entry.id) now none with
    ⟨e, failed, blocked⟩ | ⟨binned, target, next, restorable, root, moved, run⟩
  · refine .inl ⟨e, failed, fun location clock => ?_⟩
    exact blocked entry _ location (inBin.restorable_iff.mpr ⟨rfl, rfl, clock⟩)
  · obtain ⟨rfl, rfl, clock⟩ := inBin.restorable_iff.mp restorable
    obtain ⟨samePlace, sameEntry⟩ := moved.from_place inBin.distinct inBin.held rfl
    have sameId := restoredEntry_id next moved.entry
    obtain ⟨others, bag, bag', groups⟩ := moved.places sameId
    rw [sameEntry] at bag bag'
    rw [samePlace] at bag groups
    refine .inr ⟨_, _, next, run, clock, moved.distinct sameId inBin.distinct, ?_, ?_, ?_⟩
    · intro place held
      obtain ⟨rfl, -⟩ := place_unique (List.nodup_append.mp inBin.distinct).2.1 inBin.held held rfl
      exact ⟨others, bag, bag'⟩
    · intro place touched held inside
      obtain ⟨rfl, -⟩ := place_unique (List.nodup_append.mp inBin.distinct).2.1 inBin.held held rfl
      exact groups touched inside
    · intro buried
      obtain ⟨item, kept, same⟩ := List.mem_map.mp buried
      have apart := (List.mem_filter.mp kept).2
      simp [same] at apart

end Restored

/-! ## Soft deletes, then a restore -/

/-- One or more soft deletes of an entry, with their times, the last one first. -/
inductive SoftDeleted (entryId : String) (start : Vault) : List Int → Vault → Prop
  | once {drawn : Uuid} {now binChangedAt deletedAt : Int} {view : EntryView} {vault : Vault}
      (unused : start.usesUuid drawn = false)
      (run : softDeleteEntryToRecycleBin drawn now binChangedAt deletedAt entryId start = (.ok view, vault)) :
      SoftDeleted entryId start [now] vault
  | again {times : List Int} {drawn : Uuid} {now binChangedAt deletedAt : Int} {view : EntryView} {before vault : Vault}
      (earlier : SoftDeleted entryId start times before) (unused : before.usesUuid drawn = false)
      (run : softDeleteEntryToRecycleBin drawn now binChangedAt deletedAt entryId before = (.ok view, vault)) :
      SoftDeleted entryId start (now :: times) vault

/-- The entry is back in its group, and everything else is as it was. The groups may have one more, the
    bin; the slots of entries of the home and of the bin are not compared. -/
structure PutBack (home : Uuid) (entry : Entry) (start after : Vault) : Prop where
  places : ∃ entry' others, (placedEntries start.root).Perm ((home, entry) :: others) ∧
    (placedEntries after.root).Perm ((home, entry') :: others) ∧ entry'.unplaced = entry.unplaced
  groups : ∃ drawn bin base, start.usesUuid drawn = false ∧ BinReady drawn start bin base ∧
    after.root.apartFrom (uuidToString entry.id) [home, bin] = base.apartFrom (uuidToString entry.id) [home, bin]
  noTombstone : entry.id ∉ tombstones after

/-- A restore without a target undoes the soft deletes. -/
def Undoes (now : Int) (home : Uuid) (entry : Entry) (start vault : Vault) : Prop :=
  ∃ view after, restoreEntryFromRecycleBin now (uuidToString entry.id) none vault = (.ok view, after) ∧
    PutBack home entry start after

/-- One soft delete, clocks within the format, and no slot of a former parent. -/
def LeadsHome (now : Int) (entry : Entry) (times : List Int) : Prop :=
  ∃ deleted, times = [deleted] ∧
    ClockFits (max now.toNat (max deleted.toNat (entry.locationChangedAt.getD 0 + 1) + 1)) ∧
    entry.removeNode "PreviousParentGroup" = entry

theorem nextEntryLocationTimestamp_ok {now : Int} {previous : Option Nat} {next : Nat} :
    nextEntryLocationTimestamp now previous = .ok next ↔
      next = max now.toNat (previous.getD 0 + 1) ∧ ClockFits next := by
  unfold nextEntryLocationTimestamp
  dsimp only
  rw [checks_ok, validatePersistentUnsignedTimestamp_ok]
  unfold ClockFits
  constructor
  · rintro ⟨fits, same⟩
    cases same
    omega
  · rintro ⟨rfl, fits⟩
    constructor
    · omega
    · congr 1
      omega

section Undo

variable {home : Uuid} {entry : Entry} {start vault : Vault}

/-- What soft deletes leave of the vault that they started from. -/
structure Binned (home : Uuid) (entry : Entry) (start : Vault) (bin previous : Uuid) (location : Nat) (vault : Vault) :
    Prop where
  apart : bin ≠ home
  inBin : InBin bin previous (binnedEntry previous location entry) vault
  places : ∃ others, (placedEntries start.root).Perm ((home, entry) :: others) ∧
    (placedEntries vault.root).Perm ((bin, binnedEntry previous location entry) :: others)
  groups : ∃ drawn base, start.usesUuid drawn = false ∧ BinReady drawn start bin base ∧
    vault.root.apartFrom (uuidToString entry.id) [home, bin] = base.apartFrom (uuidToString entry.id) [home, bin]

theorem home_found (held : (home, entry) ∈ placedEntries start.root) :
    (findGroupById (uuidToString home) start.root).isSome := by
  obtain ⟨group, inside, rfl, -⟩ := mem_placedEntries.mp held
  rw [findGroupById_isSome, shellsIn, List.map_map]
  exact List.mem_map_of_mem inside

/-- The first soft delete remembers the group of the entry. -/
theorem binned_once {drawn : Uuid} {now binChangedAt deletedAt : Int} {view : EntryView}
    (distinct : (liveIds start.root).Nodup) (held : (home, entry) ∈ placedEntries start.root)
    (outside : start.recycleBinGroup ≠ some home) (unused : start.usesUuid drawn = false)
    (run : softDeleteEntryToRecycleBin drawn now binChangedAt deletedAt (uuidToString entry.id) start = (.ok view, vault)) :
    ∃ bin location, nextEntryLocationTimestamp now entry.locationChangedAt = .ok location ∧
      Binned home entry start bin home location vault := by
  obtain ⟨bin, base, location, deletes⟩ := softDelete_places distinct unused held run
  obtain ⟨others, bag, bag'⟩ := deletes.places
  have there := home_found held
  refine ⟨bin, location, deletes.clock, ?_, ?_, ⟨others, bag, bag'⟩, drawn, base, unused, deletes.ready,
    deletes.groups _ List.mem_cons_self⟩
  · rintro rfl
    cases deletes.ready with
    | live marked => exact outside marked
    | created gone =>
        apply (usesUuid_eq_false.mp unused).1
        apply List.mem_append_left
        obtain ⟨group, inside, same, -⟩ := mem_placedEntries.mp held
        rw [← same, shellsIn, List.map_map]
        exact List.mem_map_of_mem inside
  · exact ⟨deletes.marked, deletes.distinct, bag'.mem_iff.mpr List.mem_cons_self, rfl, deletes.keepsGroups _ there⟩

/-- A further soft delete remembers the bin. -/
theorem Binned.again {bin previous : Uuid} {location : Nat} {before : Vault}
    (binned : Binned home entry start bin previous location before) {drawn : Uuid} {now binChangedAt deletedAt : Int}
    {view : EntryView} (unused : before.usesUuid drawn = false)
    (run : softDeleteEntryToRecycleBin drawn now binChangedAt deletedAt (uuidToString entry.id) before = (.ok view, vault)) :
    ∃ later, Binned home entry start bin bin later vault := by
  obtain ⟨apart, inBin, ⟨others, bag, bag'⟩, drawn', base', unused', ready', groups⟩ := binned
  obtain ⟨bin'', base, later, deletes⟩ := softDelete_places inBin.distinct unused inBin.held run
  obtain ⟨rfl, rfl⟩ : bin'' = bin ∧ base = before.root := by
    cases deletes.ready with
    | live marked => exact ⟨Option.some.inj (marked.symm.trans inBin.marked), rfl⟩
    | created gone =>
        have live : before.liveRecycleBin = some (uuidToString bin) := by
          unfold Vault.liveRecycleBin
          rw [inBin.marked]
          exact Option.filter_eq_some_iff.mpr ⟨rfl, home_found inBin.held⟩
        cases live.symm.trans gone
  obtain ⟨others', again, again'⟩ := deletes.places
  have same : others.Perm others' := (List.perm_cons _).mp (bag'.symm.trans again)
  have placed : (placedEntries vault.root).Perm ((bin'', binnedEntry bin'' later entry) :: others) :=
    again'.trans (same.symm.cons _)
  refine ⟨later, apart, ?_, ⟨others, bag, placed⟩, drawn', base', unused', ready',
    (deletes.groups [home, bin''] (by simp)).trans groups⟩
  exact ⟨deletes.marked, deletes.distinct, placed.mem_iff.mpr List.mem_cons_self, rfl,
    deletes.keepsGroups _ (home_found inBin.held)⟩

/-- One soft delete leads back to the group; after more of them the way leads to the bin. -/
theorem SoftDeleted.binned (distinct : (liveIds start.root).Nodup) (held : (home, entry) ∈ placedEntries start.root)
    (outside : start.recycleBinGroup ≠ some home) {times : List Int}
    (deleted : SoftDeleted (uuidToString entry.id) start times vault) :
    ∃ bin previous location, Binned home entry start bin previous location vault ∧
      ((previous = bin ∧ ∀ time, times ≠ [time]) ∨
        (previous = home ∧ ∃ time, times = [time] ∧
          nextEntryLocationTimestamp time entry.locationChangedAt = .ok location)) := by
  induction deleted with
  | once unused run =>
      obtain ⟨bin, location, clock, binned⟩ := binned_once distinct held outside unused run
      exact ⟨bin, home, location, binned, .inr ⟨rfl, _, rfl, clock⟩⟩
  | again earlier unused run ih =>
      obtain ⟨bin, previous, location, binned, -⟩ := ih
      obtain ⟨later, binned⟩ := binned.again unused run
      refine ⟨bin, bin, later, binned, .inl ⟨rfl, ?_⟩⟩
      intro time same
      cases same
      cases earlier

theorem restoredEntry_unplaced_iff (previous : Uuid) (first second : Nat) (entry : Entry) :
    (restoredEntry second (binnedEntry previous first entry)).unplaced = entry.unplaced ↔
      entry.removeNode "PreviousParentGroup" = entry := by
  obtain ⟨fields, history⟩ := entry
  cases fields
  simp [restoredEntry, clearPreviousParent, binnedEntry, Entry.removeNode, Entry.unplaced]

/-- A restore undoes the soft deletes exactly when there was one of them. -/
theorem softDeleted_undone_iff (distinct : (liveIds start.root).Nodup) (held : (home, entry) ∈ placedEntries start.root)
    (outside : start.recycleBinGroup ≠ some home) {times : List Int}
    (deleted : SoftDeleted (uuidToString entry.id) start times vault) (now : Int) :
    Undoes now home entry start vault ↔ LeadsHome now entry times := by
  obtain ⟨bin, previous, location, binned, before⟩ := deleted.binned distinct held outside
  have entries := (List.nodup_append.mp distinct).2.1
  constructor
  · rintro ⟨view, after, run, ⟨entry', others, bag, bag', same⟩, -, -⟩
    rcases restore_places binned.inBin with ⟨e, failed, -⟩ | ⟨view', after', second, run', restores⟩
    · cases failed.symm.trans run
    · cases run'.symm.trans run
      obtain ⟨others', -, placed⟩ := restores.places bin binned.inBin.held
      have sameId : entry'.unplaced.id = entry.unplaced.id := by rw [same]
      obtain ⟨homeward, rfl⟩ := place_unique (List.nodup_append.mp restores.distinct).2.1
        (placed.mem_iff.mpr List.mem_cons_self) (bag'.mem_iff.mpr List.mem_cons_self) (by rw [restoredEntry_id]; exact sameId)
      rcases before with ⟨rfl, -⟩ | ⟨rfl, time, rfl, clock⟩
      · exact absurd homeward.symm binned.apart
      · have first := nextEntryLocationTimestamp_ok.mp clock
        have next := nextEntryLocationTimestamp_ok.mp restores.clock
        refine ⟨time, rfl, ?_, (restoredEntry_unplaced_iff previous location second entry).mp same⟩
        rw [← first.1]
        exact next.1 ▸ next.2
  · rintro ⟨time, rfl, fits, unslotted⟩
    rcases before with ⟨-, several⟩ | ⟨rfl, _, ⟨⟩, clock⟩
    · exact absurd rfl (several time)
    · have first := nextEntryLocationTimestamp_ok.mp clock
      rcases restore_places binned.inBin with ⟨e, -, blocked⟩ | ⟨view, after, second, run, restores⟩
      · rw [← first.1] at fits
        exact absurd (nextEntryLocationTimestamp_ok.mpr ⟨rfl, fits⟩) (blocked _)
      · obtain ⟨drawn, base, unused, ready, groups⟩ := binned.groups
        obtain ⟨others, bag, bag'⟩ := binned.places
        obtain ⟨others', again, again'⟩ := restores.places bin binned.inBin.held
        have same : others.Perm others' := (List.perm_cons _).mp (bag'.symm.trans again)
        refine ⟨view, after, run, ⟨_, others, bag, again'.trans (same.symm.cons _), ?_⟩,
          ⟨drawn, bin, base, unused, ready, (restores.groups bin [_, bin] binned.inBin.held (by simp)).trans groups⟩,
          restores.noTombstone⟩
        exact (restoredEntry_unplaced_iff previous location second entry).mpr unslotted

end Undo

/-! ## A mail in an inbox -/

def inboxMail : Entry := { id := 3, title := "Mail", locationChangedAt := some 7 }

def inboxVault : Vault :=
  { name := "Inbox"
    root :=
      { id := 1, title := "Root", entries := [{ id := 4, title := "Note" }]
        children := [{ id := 2, title := "Inbox", entries := [inboxMail, { id := 5, title := "Letter" }] }] } }

def deleteMail (drawn : Uuid) (now : Int) : Mutator EntryView := softDeleteEntryToRecycleBin drawn now 5 5 (uuidToString inboxMail.id)

def restoreMail (now : Int) : Mutator EntryView := restoreEntryFromRecycleBin now (uuidToString inboxMail.id) none

theorem succeeded {A : Type} (call : Mutator A) (vault : Vault) (ok : (call vault).1.toBool = true) :
    ∃ view, call vault = (.ok view, (call vault).2) := by
  rcases run : call vault with ⟨result, vault'⟩
  rw [run] at ok
  cases result with
  | error e => cases ok
  | ok view => exact ⟨view, rfl⟩

example : (deleteMail 9 10 inboxVault).2.recycleBinGroup = some 9 := by decide +kernel

theorem inboxMail_deleted : SoftDeleted (uuidToString inboxMail.id) inboxVault [10] (deleteMail 9 10 inboxVault).2 := by
  obtain ⟨view, run⟩ := succeeded (deleteMail 9 10) inboxVault (by decide +kernel)
  exact .once (by decide +kernel) run

theorem inboxMail_deletedTwice : SoftDeleted (uuidToString inboxMail.id) inboxVault [20, 10]
    (deleteMail 8 20 (deleteMail 9 10 inboxVault).2).2 := by
  obtain ⟨view, run⟩ := succeeded (deleteMail 8 20) (deleteMail 9 10 inboxVault).2 (by decide +kernel)
  exact .again inboxMail_deleted (by decide +kernel) run

example : ((restoreMail 30 (deleteMail 9 10 inboxVault).2).2.root.children.map (·.entries.length)) = [2, 0] := by
  decide +kernel

theorem softDeleted_undone_mail : Undoes 30 2 inboxMail inboxVault (deleteMail 9 10 inboxVault).2 :=
  (softDeleted_undone_iff (by decide +kernel) (by decide +kernel) (by decide +kernel) inboxMail_deleted 30).mpr
    ⟨10, rfl, by unfold ClockFits; decide, by decide +kernel⟩

/-- The mail is deleted, deleted once more in the bin, and restored into the bin. -/
theorem twiceDeleted_staysInBin : ¬ ∀ (home : Uuid) (entry : Entry) (start vault : Vault) (times : List Int) (now : Int),
    (liveIds start.root).Nodup → (home, entry) ∈ placedEntries start.root → start.recycleBinGroup ≠ some home →
      SoftDeleted (uuidToString entry.id) start times vault → Undoes now home entry start vault := by
  intro undone
  obtain ⟨view, after, run, ⟨entry', others, -, bag, same⟩, -, -⟩ := undone 2 inboxMail inboxVault _ _ 30 (by decide +kernel)
    (by decide +kernel) (by decide +kernel) inboxMail_deletedTwice
  have places : (placedEntries (restoreMail 30 (deleteMail 8 20 (deleteMail 9 10 inboxVault).2).2).2.root).map
      (fun place => (place.1, place.2.id)) = [(1, 4), (2, 5), (9, 3)] := by decide +kernel
  rw [restoreMail, run] at places
  have id : entry'.id = 3 := congrArg (·.id) same
  have inside : (2, entry'.id) ∈ (placedEntries after.root).map fun place => (place.1, place.2.id) :=
    List.mem_map.mpr ⟨_, bag.mem_iff.mpr List.mem_cons_self, rfl⟩
  rw [places, id] at inside
  exact absurd inside (by decide)

end VaultKern
