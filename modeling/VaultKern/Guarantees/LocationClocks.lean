import VaultKern.Core.Places
import VaultKern.Guarantees.RuntimeEdits

/-! # Location clocks of moved objects

Every call that moves an entry writes a later location clock, or writes nothing. The call that
moves a group writes no clock at all.
-/

namespace VaultKern

open Attempt

/-- A merge counts an absent clock as zero. -/
def LaterClock (before after : Option Nat) : Prop := ∃ time, after = some time ∧ before.getD 0 < time

theorem nextEntryLocationTimestamp_later {now : Int} {previous : Option Nat} {next : Nat}
    (granted : nextEntryLocationTimestamp now previous = .ok next) : LaterClock previous (some next) := by
  unfold nextEntryLocationTimestamp at granted
  dsimp only at granted
  obtain ⟨valid, same⟩ := checks_ok.mp granted
  have fits := validatePersistentUnsignedTimestamp_ok.mp valid
  cases same
  refine ⟨_, rfl, ?_⟩
  unfold ClockFits at fits
  omega

/-! ## Entries -/

section Entries

variable {entryId target : String} {change : Entry → Uuid → Entry} {before after : Group}

/-- With distinct ids the entry that is taken and the one that is put in are those that a search finds. -/
theorem EntryMoved.found (moved : EntryMoved entryId target change before after)
    (distinct : ((entriesIn before).map (·.id)).Nodup)
    (same : (change moved.entry moved.parent).id = moved.entry.id) :
    findEntryById entryId before = some moved.entry ∧
      findEntryById entryId after = some (change moved.entry moved.parent) := by
  obtain ⟨⟨named, bag, -⟩, -⟩ := takeEntryFromGroup_bags moved.taken
  have bag' := entriesIn_addEntry moved.put
  have distinct' : ((entriesIn after).map (·.id)).Nodup := by
    have ids := bag'.map fun entry : Entry => entry.id
    rw [List.map_cons, same] at ids
    exact (ids.trans (bag.map fun entry : Entry => entry.id).symm).nodup_iff.mpr distinct
  constructor
  · have held := findEntryById_of_entry distinct (bag.mem_iff.mpr List.mem_cons_self)
    rwa [named] at held
  · have held := findEntryById_of_entry distinct' (bag'.mem_iff.mpr List.mem_cons_self)
    rwa [same, named] at held

/-- The clock of the entry advances, or nothing is written because it cannot. -/
structure EntryClockAdvances (entryId : String) (now : Int) (call : Mutator EntryView) (vault : Vault) : Prop where
  later : ∀ view vault', call vault = (.ok view, vault') → ∃ entry entry',
    findEntryById entryId vault.root = some entry ∧ findEntryById entryId vault'.root = some entry' ∧
      LaterClock entry.locationChangedAt entry'.locationChangedAt
  refused : ∀ entry, findEntryById entryId vault.root = some entry →
    (∃ e, nextEntryLocationTimestamp now entry.locationChangedAt = .error e) → ∃ e, call vault = (.error e, vault)

end Entries

section Calls

variable {vault : Vault} (distinct : (liveIds vault.root).Nodup)

include distinct

theorem moveEntry_advances (now : Int) (entryId target : String) :
    EntryClockAdvances entryId now (moveEntry now entryId target) vault := by
  have entries := (List.nodup_append.mp distinct).2.1
  rcases moveEntry_cases vault entryId target now with ⟨e, failed⟩ | ⟨next, after, moved, held, clock, run⟩
  · constructor
    · intro view vault' succeeded
      cases failed.symm.trans succeeded
    · intro entry _ _
      exact ⟨e, failed⟩
  · constructor
    · intro view vault' succeeded
      cases run.symm.trans succeeded
      exact ⟨_, _, held, (moved.found entries rfl).2, nextEntryLocationTimestamp_later clock⟩
    · rintro entry found ⟨e, refused⟩
      cases held.symm.trans found
      cases clock.symm.trans refused

theorem softDelete_advances (drawn : Uuid) (now binChangedAt deletedAt : Int) (entryId : String) :
    EntryClockAdvances entryId now (softDeleteEntryToRecycleBin drawn now binChangedAt deletedAt entryId) vault := by
  have entries := (List.nodup_append.mp distinct).2.1
  rcases softDeleteEntryToRecycleBin_cases vault entryId drawn now binChangedAt deletedAt with
    ⟨e, failed⟩ | ⟨next, binId, ready, after, moved, bin, clock, run⟩
  · constructor
    · intro view vault' succeeded
      cases failed.symm.trans succeeded
    · intro entry _ _
      exact ⟨e, failed⟩
  · obtain ⟨-, -, _, -, places, -⟩ := ensureRecycleBin_tree bin
    have same : entriesIn ready.root = entriesIn vault.root := by
      rw [entriesIn_placed, places, ← entriesIn_placed]
    rw [← same] at entries
    obtain ⟨held, there⟩ := moved.found entries rfl
    rw [findEntryById_eq, same, ← findEntryById_eq] at held
    constructor
    · intro view vault' succeeded
      cases run.symm.trans succeeded
      exact ⟨_, _, held, there, nextEntryLocationTimestamp_later clock⟩
    · rintro entry found ⟨e, refused⟩
      cases held.symm.trans found
      cases clock.symm.trans refused

theorem restore_advances (now : Int) (entryId : String) (requested : Option String) :
    EntryClockAdvances entryId now (restoreEntryFromRecycleBin now entryId requested) vault := by
  have entries := (List.nodup_append.mp distinct).2.1
  rcases restoreEntryFromRecycleBin_restorable vault entryId now requested with
    ⟨e, failed, -⟩ | ⟨binned, target, next, restorable, after, moved, run⟩
  · constructor
    · intro view vault' succeeded
      cases failed.symm.trans succeeded
    · intro entry _ _
      exact ⟨e, failed⟩
  · obtain ⟨held, there⟩ := moved.found entries (restoredEntry_id next moved.entry)
    have same : moved.entry = binned := by
      obtain ⟨_, recycleBin, -, found, inBin⟩ := restorable.bin
      have member : binned ∈ entriesIn vault.root :=
        List.mem_flatMap.mpr ⟨recycleBin, (findGroupById_some _ found).1, List.mem_of_find?_eq_some inBin⟩
      have named : uuidToString binned.id = entryId := by simpa [namedEntry] using List.find?_some inBin
      have again := findEntryById_of_entry entries member
      rw [named, held] at again
      exact Option.some.inj again
    constructor
    · intro view vault' succeeded
      cases run.symm.trans succeeded
      refine ⟨_, _, held, there, ?_⟩
      rw [same]
      exact nextEntryLocationTimestamp_later restorable.clock
    · rintro entry found ⟨e, refused⟩
      cases held.symm.trans found
      rw [same] at refused
      cases restorable.clock.symm.trans refused

end Calls

/-! ## Groups -/

/-- The group stands right below the target. -/
def childOf (groupId target : String) (root : Group) : Bool :=
  (findGroupById target root).any fun parent => parent.children.any (namedGroup groupId)

/-- A move to another parent gives the group a later clock. -/
def GroupClockAdvances (groupId target : String) (vault : Vault) : Prop :=
  ∀ view vault', moveGroup groupId target vault = (.ok view, vault') → childOf groupId target vault.root = false →
    ∃ group group', findGroupById groupId vault.root = some group ∧ findGroupById groupId vault'.root = some group' ∧
      LaterClock (groupLocationChangedAt group) (groupLocationChangedAt group')

/-- The move is carried out and leads to another parent. -/
def RegroupsElsewhere (vault : Vault) (groupId target : String) : Prop :=
  MovableGroup vault groupId target ∧ ¬ LosesGroup vault groupId target ∧ childOf groupId target vault.root = false

theorem Reslotted.row {place : Uuid} {before after : List Group} (reslotted : Reslotted place before after)
    (distinct : (before.map (·.id)).Nodup)
    {group group' : Group} (held : group ∈ before) (held' : group' ∈ after) (same : group'.id = group.id) :
    group'.withoutSlots = group.withoutSlots := by
  obtain ⟨slotted, slotted', others, -, first, second, slots⟩ := reslotted
  have ids : slotted'.withoutSlots.id = slotted.withoutSlots.id := by rw [slots]
  have nodup := (first.map fun group : Group => group.id).nodup_iff.mp distinct
  rw [List.map_cons, List.nodup_cons] at nodup
  rcases List.mem_cons.mp (first.mem_iff.mp held) with rfl | inside <;>
    rcases List.mem_cons.mp (second.mem_iff.mp held') with rfl | inside'
  · exact slots
  · exact absurd (same ▸ List.mem_map_of_mem inside') nodup.1
  · exact absurd (ids.symm.trans same ▸ List.mem_map_of_mem inside) nodup.1
  · rw [List.inj_on_of_nodup_map nodup.2 inside' inside same]

/-- A moved group has the clock that it had. -/
theorem GroupMoved.sameClock {groupId target : String} {before after group group' : Group}
    (moved : GroupMoved groupId target before after) (distinct : (liveIds before).Nodup)
    (found : findGroupById groupId before = some group) (found' : findGroupById groupId after = some group') :
    groupLocationChangedAt group' = groupLocationChangedAt group := by
  obtain ⟨inside, named⟩ := findGroupById_some before found
  obtain ⟨inside', named'⟩ := findGroupById_some after found'
  have same : group'.shell.id = group.shell.id := uuidToString_injective (named'.trans named.symm)
  obtain ⟨-, _, -, _, -, -, groups⟩ := moved.regrouped
  have shells := groups.row (List.nodup_append.mp distinct).1 (List.mem_map_of_mem inside)
    (List.mem_map_of_mem inside') same
  have times := congrArg (fun group : Group => group.times) shells
  exact congrArg (fun times : Option GroupTimes => times.bind (·.locationChangedAt)) times

theorem moveGroup_advances_iff {vault : Vault} (distinct : (liveIds vault.root).Nodup) (groupId target : String) :
    GroupClockAdvances groupId target vault ↔ ¬ RegroupsElsewhere vault groupId target := by
  have atomic := @moveGroup_atomic_iff vault groupId target
  rcases moveGroup_cases vault groupId target with
    ⟨e, run, blocked⟩ | ⟨-, left, group, taken, -, run⟩ | ⟨movable, after, moved, run⟩
  · apply iff_of_true
    · intro view vault' succeeded
      cases run.symm.trans succeeded
    · intro elsewhere
      exact blocked elsewhere.1
  · apply iff_of_true
    · intro view vault' succeeded
      cases run.symm.trans succeeded
    · intro elsewhere
      have kept := atomic.mpr elsewhere.2.1 _ (by rw [run])
      rw [run] at kept
      exact left_ne_root taken (congrArg Vault.root kept)
  · have carried : ¬ LosesGroup vault groupId target := by
      apply atomic.mp
      intro e failed
      rw [run] at failed
      cases failed
    constructor
    · rintro advances ⟨-, -, elsewhere⟩
      obtain ⟨group, group', found, found', time, later, increased⟩ := advances _ _ run elsewhere
      rw [moved.sameClock distinct found found'] at later
      rw [later] at increased
      exact Nat.lt_irrefl time increased
    · intro stays view vault' _ elsewhere
      exact absurd ⟨movable, carried, elsewhere⟩ stays

/-! ## All calls -/

/-- A call that changes the place of an object gives it a later clock, or fails and writes nothing. -/
def Call.AdvancesClock {A : Type} (vault : Vault) : Call A → Prop
  | .moveEntry now entryId target => EntryClockAdvances entryId now (VaultKern.moveEntry now entryId target) vault
  | .softDeleteEntryToRecycleBin drawn now binChangedAt deletedAt entryId =>
      EntryClockAdvances entryId now (VaultKern.softDeleteEntryToRecycleBin drawn now binChangedAt deletedAt entryId) vault
  | .restoreEntryFromRecycleBin now entryId requested =>
      EntryClockAdvances entryId now (VaultKern.restoreEntryFromRecycleBin now entryId requested) vault
  | .moveGroup groupId target => GroupClockAdvances groupId target vault
  | _ => True

def Call.RegroupsElsewhere {A : Type} (vault : Vault) : Call A → Prop
  | .moveGroup groupId target => VaultKern.RegroupsElsewhere vault groupId target
  | _ => False

/-- All clocks advance except those of groups that move to another parent. -/
theorem call_advancesClock_iff {A : Type} (call : Call A) {vault : Vault} (distinct : (liveIds vault.root).Nodup) :
    call.AdvancesClock vault ↔ ¬ call.RegroupsElsewhere vault := by
  cases call with
  | moveEntry now entryId target => exact iff_of_true (moveEntry_advances distinct now entryId target) not_false
  | softDeleteEntryToRecycleBin drawn now binChangedAt deletedAt entryId =>
      exact iff_of_true (softDelete_advances distinct drawn now binChangedAt deletedAt entryId) not_false
  | restoreEntryFromRecycleBin now entryId requested =>
      exact iff_of_true (restore_advances distinct now entryId requested) not_false
  | moveGroup groupId target => exact moveGroup_advances_iff distinct groupId target
  | _ => exact iff_of_true trivial not_false

def folderTimes : GroupTimes :=
  { createdAt := 1
    modifiedAt := 1
    expires := false
    expiryTime := none
    lastAccessedAt := none
    usageCount := none
    locationChangedAt := some 7 }

/-- A mail in the root, and a folder below another one. -/
def foldersVault : Vault :=
  { name := "Folders"
    root :=
      { id := 1, title := "Root", entries := [{ id := 2, title := "Mail", locationChangedAt := some 7 }]
        children :=
          [{ id := 3, title := "Outer"
             children := [{ id := 4, title := "Inner", times := some folderTimes }] }] } }

theorem call_advancesClock_mail :
    (Call.moveEntry 5 (uuidToString 2) (uuidToString 3)).AdvancesClock foldersVault :=
  (call_advancesClock_iff _ (show (liveIds foldersVault.root).Nodup by decide +kernel)).mpr not_false

/-- The inner folder moves to the root with its old clock. -/
theorem movedFolder_keepsClock : ¬ ∀ (A : Type) (call : Call A) (vault : Vault), (liveIds vault.root).Nodup →
    call.AdvancesClock vault := by
  intro advances
  have before : (findGroupById (uuidToString 4) foldersVault.root).map groupLocationChangedAt = some (some 7) := by
    decide +kernel
  have after : (findGroupById (uuidToString 4) (moveGroup (uuidToString 4) (uuidToString 1) foldersVault).2.root).map
      groupLocationChangedAt = some (some 7) := by decide +kernel
  have moves : (moveGroup (uuidToString 4) (uuidToString 1) foldersVault).1.toBool = true := by decide +kernel
  have clock := advances _ (.moveGroup (uuidToString 4) (uuidToString 1)) foldersVault (by decide +kernel)
  cases run : moveGroup (uuidToString 4) (uuidToString 1) foldersVault with
  | mk result vault' =>
      rw [run] at moves after
      cases result with
      | error e => cases moves
      | ok view =>
          obtain ⟨group, group', found, found', time, later, increased⟩ := clock view vault' run (by decide +kernel)
          rw [found, Option.map_some, Option.some.injEq] at before
          rw [found', Option.map_some, Option.some.injEq] at after
          rw [before, Option.getD_some] at increased
          cases after.symm.trans later
          exact Nat.lt_irrefl 7 increased

end VaultKern
