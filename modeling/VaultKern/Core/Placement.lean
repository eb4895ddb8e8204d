import VaultKern.Core.Detach
import VaultKern.Core.VaultMutators

/-! # Mutators of the tree

Adding, deleting and moving entries and groups, and the recycle bin. `now` and the
other times are readings of the system clock, and `drawn` is what the loop of
`fresh_live_uuid` returns.
-/

namespace VaultKern

open MutationError Attempt

/-! ## Identifiers and the location clock -/

mutual
def groupOrEntryUsesUuid (id : Uuid) : Group → Bool
  | ⟨fields, entries, children⟩ =>
      fields.id = id || entries.any (fun entry => entry.id = id) || childUsesUuid id children

def childUsesUuid (id : Uuid) : List Group → Bool
  | [] => false
  | child :: rest => groupOrEntryUsesUuid id child || childUsesUuid id rest
end

/-- A live object or a tombstone has the id; `fresh_live_uuid` draws again as long as this holds. -/
def Vault.usesUuid (vault : Vault) (id : Uuid) : Bool :=
  groupOrEntryUsesUuid id vault.root || vault.deletedObjects.any fun deleted => deleted.id = id

mutual
def groupContainsId (id : String) : Group → Bool
  | ⟨_, _, children⟩ => childrenContainId id children

def childrenContainId (id : String) : List Group → Bool
  | [] => false
  | child :: rest => namedGroup id child || groupContainsId id child || childrenContainId id rest
end

mutual
theorem groupContainsId_false {id : String} : ∀ {root : Group}, groupContainsId id root = false →
    ∀ group ∈ subgroupsOf root.children, namedGroup id group = false
  | ⟨_, _, _⟩, absent => childrenContainId_false absent

theorem childrenContainId_false {id : String} : ∀ {children : List Group}, childrenContainId id children = false →
    ∀ group ∈ subgroupsOf children, namedGroup id group = false
  | [], _ => by simp [subgroupsOf]
  | child :: rest, absent => by
      simp only [childrenContainId, Bool.or_eq_false_iff] at absent
      intro group inside
      rw [subgroupsOf, subgroups_cons, ← subgroupsOf_eq_flatMap, List.mem_append, List.mem_cons] at inside
      rcases inside with (rfl | below) | later
      · exact absent.1.1
      · exact groupContainsId_false absent.1.2 group below
      · exact childrenContainId_false absent.2 group later
end

/-- A time before the epoch counts as the epoch, and the previous clock saturates at `u64::MAX`. -/
def nextEntryLocationTimestamp (now : Int) (previous : Option Nat) : Except MutationError Nat := do
  let next := max now.toNat (min (previous.getD 0 + 1) (2 ^ 64 - 1))
  validatePersistentUnsignedTimestamp next
  return next

/-! ## Taking out and putting in -/

def takeEntry (entryId : String) : Mutator (Entry × Uuid) := do
  let (root, taken) ← require (entryNotFound entryId) (takeEntryFromGroup entryId (← get).root)
  modify fun vault => { vault with root }
  return taken

def takeGroup (groupId : String) : Mutator Group := do
  let (root, taken) ← require (groupNotFound groupId) (takeGroupFromGroup groupId (← get).root)
  modify fun vault => { vault with root }
  return taken

def Group.addEntry (group : Group) (entry : Entry) : Group := { group with entries := group.entries ++ [entry] }

def Group.addChild (group child : Group) : Group := { group with children := group.children ++ [child] }

def pushEntry (targetGroupId : String) (entry : Entry) : Mutator EntryView :=
  onGroup targetGroupId (write (·.addEntry entry) fun _ => projectEntry entry)

def pushGroup (targetGroupId : String) (child : Group) : Mutator GroupView :=
  onGroup targetGroupId (write (·.addChild child) fun _ => projectGroup child)

/-! ## Adding -/

structure EntryCreate where
  title : String := ""
  username : String := ""
  password : String := ""
  url : String := ""
  notes : String := ""

def createdEntry (id : Uuid) (creationTime : Nat) (create : EntryCreate) : Entry :=
  { id, title := create.title
    username := create.username
    password := create.password
    url := create.url
    notes := create.notes
    createdAt := creationTime
    modifiedAt := creationTime
    expiryTime := some creationTime
    lastAccessedAt := some creationTime
    usageCount := some 0
    locationChangedAt := some creationTime }

def addEntryWithId (now : Int) (parentGroupId entryId : String) (create : EntryCreate) : Mutator EntryView := do
  let id ← lift (parseUuid entryId)
  ensure (id ≠ 0 && uuidToString id = entryId) (invalidUuid entryId)
  ensure (!(← get).usesUuid id) (uuidCollision entryId)
  lift (validateUnprotectedXmlText create.title "entry title")
  lift (validateUnprotectedXmlText create.username "entry username")
  lift (validateUnprotectedXmlText create.url "entry URL")
  lift (validateUnprotectedXmlText create.notes "entry notes")
  let _ ← readGroup parentGroupId
  lift (validatePersistentUnsignedTimestamp now.toNat)
  pushEntry parentGroupId (createdEntry id now.toNat create)

def addEntry (drawn : Uuid) (now : Int) (parentGroupId : String) (create : EntryCreate) : Mutator EntryView :=
  addEntryWithId now parentGroupId (uuidToString drawn) create

def addGroup (drawn : Uuid) (parentGroupId title : String) : Mutator GroupView := do
  lift (validateUnprotectedXmlText title "group title")
  pushGroup parentGroupId { id := drawn, title }

/-! ## Deleting -/

def deleteEntry (entryId : String) : Mutator Unit := do
  let root ← require (entryNotFound entryId) (deleteEntryFromGroup entryId (← get).root)
  modify fun vault => { vault with root }

def deleteGroup (groupId : String) : Mutator Unit := do
  ensure (!namedGroup groupId (← get).root) cannotDeleteRootGroup
  let root ← require (groupNotFound groupId) (deleteGroupFromGroup groupId (← get).root)
  modify fun vault => { vault with root }

/-! ## Moving -/

def moveEntry (now : Int) (entryId targetGroupId : String) : Mutator EntryView := do
  let _ ← readGroup targetGroupId
  let nextLocation ← lift (nextEntryLocationTimestamp now (← readEntry entryId).locationChangedAt)
  let (entry, _) ← takeEntry entryId
  pushEntry targetGroupId { entry with locationChangedAt := some nextLocation }

/-- The checks of `move_group`. -/
def checkMoveGroup (groupId targetParentGroupId : String) : Mutator Unit := do
  ensure (!namedGroup groupId (← get).root) cannotMoveRootGroup
  let movingGroup ← readGroup groupId
  ensure (!(namedGroup targetParentGroupId movingGroup || groupContainsId targetParentGroupId movingGroup))
    cannotMoveGroupIntoDescendant
  let _ ← readGroup targetParentGroupId

def moveGroup (groupId targetParentGroupId : String) : Mutator GroupView := do
  checkMoveGroup groupId targetParentGroupId
  let movedGroup ← takeGroup groupId
  pushGroup targetParentGroupId movedGroup

/-! ## The recycle bin -/

/-- The recycle bin, if it is in the tree. -/
def Vault.liveRecycleBin (vault : Vault) : Option String :=
  (vault.recycleBinGroup.map uuidToString).filter fun id => (findGroupById id vault.root).isSome

def newRecycleBin (drawn : Uuid) : Group := { id := drawn, title := "Recycle Bin" }

def Vault.createRecycleBin (drawn : Uuid) (changedAt : Int) (vault : Vault) : Vault :=
  { vault with
    root := vault.root.addChild (newRecycleBin drawn)
    recycleBinEnabled := some true
    recycleBinGroup := some drawn
    recycleBinChanged := vault.recycleBinChanged.or (some changedAt) }

def ensureRecycleBin (drawn : Uuid) (changedAt : Int) : Mutator String := do
  match (← get).liveRecycleBin with
  | some id =>
      modify fun vault => { vault with recycleBinEnabled := some true }
      return id
  | none =>
      modify (Vault.createRecycleBin drawn changedAt)
      return uuidToString drawn

/-- Any earlier tombstone of the object gives way. -/
def Vault.addTombstone (id : Uuid) (deletedAt : Int) (vault : Vault) : Vault :=
  { vault with
    deletedObjects := vault.deletedObjects.filter (fun item => item.id ≠ id) ++ [{ id, deletedAt }] }

def Vault.dropTombstones (id : String) (vault : Vault) : Vault :=
  { vault with deletedObjects := vault.deletedObjects.filter fun item => uuidToString item.id ≠ id }

def softDeleteEntryToRecycleBin (drawn : Uuid) (now binChangedAt deletedAt : Int) (entryId : String) :
    Mutator EntryView := do
  let nextLocation ← lift (nextEntryLocationTimestamp now (← readEntry entryId).locationChangedAt)
  let recycleBinId ← ensureRecycleBin drawn binChangedAt
  let (entry, parentGroupId) ← takeEntry entryId
  modify (Vault.addTombstone entry.id deletedAt)
  pushEntry recycleBinId
    { entry with previousParent := some parentGroupId, locationChangedAt := some nextLocation }

/-- The entry as `restore_entry_from_recycle_bin` puts it back. -/
def restoredEntry (location : Nat) (entry : Entry) : Entry :=
  { clearPreviousParent entry with locationChangedAt := some location }

def restoreEntryFromRecycleBin (now : Int) (entryId : String) (targetGroupId : Option String) :
    Mutator EntryView := do
  let recycleBinId ← require (groupNotFound "recycle-bin") ((← get).recycleBinGroup.map uuidToString)
  let recycleBin ← readGroup recycleBinId
  let binned ← require (entryNotFound entryId) (recycleBin.entries.find? (namedEntry entryId))
  let targetGroupId ← require (groupNotFound "restore-target")
    (targetGroupId.or (binned.previousParent.map uuidToString))
  let nextLocation ← lift (nextEntryLocationTimestamp now binned.locationChangedAt)
  let _ ← readGroup targetGroupId
  let (entry, _) ← takeEntry entryId
  let view ← pushEntry targetGroupId (restoredEntry nextLocation entry)
  modify (Vault.dropTombstones entryId)
  return view

/-! ## What a call can do -/

section Cases

variable {vault : Vault} {target entryId groupId : String}

/-- The tree with something put into the first group of that id. -/
def putInto (target : String) (change : Group → Group) (root : Group) : Option Group :=
  (findGroupById target root).map fun group => putGroupById target (change group) root

theorem pushEntry_cases (entry : Entry) :
    pushEntry target entry vault =
      match putInto target (·.addEntry entry) vault.root with
      | some root => (.ok (projectEntry entry), { vault with root })
      | none => (.error (groupNotFound target), vault) := by
  unfold pushEntry onGroup within putInto
  dsimp only
  cases findGroupById target vault.root <;> rfl

theorem pushGroup_cases (child : Group) :
    pushGroup target child vault =
      match putInto target (·.addChild child) vault.root with
      | some root => (.ok (projectGroup child), { vault with root })
      | none => (.error (groupNotFound target), vault) := by
  unfold pushGroup onGroup within putInto
  dsimp only
  cases findGroupById target vault.root <;> rfl

theorem takeEntry_cases :
    takeEntry entryId vault =
      match takeEntryFromGroup entryId vault.root with
      | some (root, taken) => (.ok taken, { vault with root })
      | none => (.error (entryNotFound entryId), vault) := by
  unfold takeEntry
  simp only [bind_run, get_run]
  cases takeEntryFromGroup entryId vault.root <;> rfl

theorem takeGroup_cases :
    takeGroup groupId vault =
      match takeGroupFromGroup groupId vault.root with
      | some (root, taken) => (.ok taken, { vault with root })
      | none => (.error (groupNotFound groupId), vault) := by
  unfold takeGroup
  simp only [bind_run, get_run]
  cases takeGroupFromGroup groupId vault.root <;> rfl

theorem readGroup_cases (vault : Vault) (groupId : String) :
    readGroup groupId vault =
      match findGroupById groupId vault.root with
      | some group => (.ok group, vault)
      | none => (.error (groupNotFound groupId), vault) := by
  unfold readGroup
  simp only [bind_run, get_run]
  cases findGroupById groupId vault.root <;> rfl

theorem readEntry_cases :
    readEntry entryId vault =
      match findEntryById entryId vault.root with
      | some entry => (.ok entry, vault)
      | none => (.error (entryNotFound entryId), vault) := by
  unfold readEntry
  simp only [bind_run, get_run]
  cases findEntryById entryId vault.root <;> rfl

/-- Taking an entry out keeps every group in place. -/
theorem findGroupById_left {root left : Group} {taken : Entry × Uuid}
    (result : takeEntryFromGroup entryId root = some (left, taken)) :
    (findGroupById target left).isSome ↔ (findGroupById target root).isSome := by
  obtain ⟨⟨_, _, groups⟩, _⟩ := takeEntryFromGroup_bags result
  have ids := (groups.ids.map uuidToString).mem_iff (a := target)
  simp only [List.map_map, Function.comp_def] at ids
  rw [findGroupById_isSome, findGroupById_isSome]
  exact ids.symm

theorem putInto_isSome {change : Group → Group} {root : Group} :
    (putInto target change root).isSome = (findGroupById target root).isSome := by
  unfold putInto
  exact Option.isSome_map

theorem deleteEntry_cases :
    deleteEntry entryId vault =
      match takeEntryFromGroup entryId vault.root with
      | some (root, _) => (.ok (), { vault with root })
      | none => (.error (entryNotFound entryId), vault) := by
  unfold deleteEntry deleteEntryFromGroup
  simp only [bind_run, get_run]
  cases takeEntryFromGroup entryId vault.root <;> rfl

theorem deleteGroup_cases (vault : Vault) (groupId : String) :
    (∃ e, deleteGroup groupId vault = (.error e, vault)) ∨
    ∃ left taken, takeGroupFromGroup groupId vault.root = some (left, taken) ∧
      deleteGroup groupId vault = (.ok (), { vault with root := left }) := by
  unfold deleteGroup deleteGroupFromGroup
  simp only [bind_run, get_run]
  cases namedGroup groupId vault.root with
  | true => exact .inl ⟨_, rfl⟩
  | false =>
      simp only [Bool.not_false, ensure_true]
      cases takeGroupFromGroup groupId vault.root with
      | none => exact .inl ⟨_, rfl⟩
      | some taken => exact .inr ⟨taken.1, taken.2, rfl, rfl⟩

/-- An entry of an unused id is added. -/
theorem addEntryWithId_ok {now : Int} {create : EntryCreate} {view : EntryView} {vault' : Vault}
    (result : addEntryWithId now target entryId create vault = (.ok view, vault')) :
    ∃ (id : Uuid) (after : Group), uuidToString id = entryId ∧ vault.usesUuid id = false ∧
      putInto target (·.addEntry (createdEntry id now.toNat create)) vault.root = some after ∧
      view = projectEntry (createdEntry id now.toNat create) ∧ vault' = { vault with root := after } := by
  obtain ⟨id, parsed, result⟩ := (ReadOnly.lift _).bind_ok.mp result
  obtain ⟨_, named, result⟩ := (ReadOnly.ensure _ _).bind_ok.mp result
  obtain ⟨_, ⟨⟩, result⟩ := ReadOnly.get.bind_ok.mp result
  obtain ⟨_, unused, result⟩ := (ReadOnly.ensure _ _).bind_ok.mp result
  obtain ⟨-, -, result⟩ := (ReadOnly.lift _).bind_ok.mp result
  obtain ⟨-, -, result⟩ := (ReadOnly.lift _).bind_ok.mp result
  obtain ⟨-, -, result⟩ := (ReadOnly.lift _).bind_ok.mp result
  obtain ⟨-, -, result⟩ := (ReadOnly.lift _).bind_ok.mp result
  obtain ⟨-, -, result⟩ := (ReadOnly.bind .get fun _ => .require _ _).bind_ok.mp result
  obtain ⟨-, -, result⟩ := (ReadOnly.lift _).bind_ok.mp result
  rw [pushEntry_cases] at result
  refine ⟨id, ?_⟩
  cases put : putInto target (·.addEntry (createdEntry id now.toNat create)) vault.root with
  | none => simp [put] at result
  | some after =>
      simp only [put, Prod.mk.injEq] at result
      have sameText := (ensure_ok.mp named).1
      simp only [ne_eq, decide_not, Bool.and_eq_true, decide_eq_true_eq] at sameText
      exact ⟨after, sameText.2, by simpa using (ensure_ok.mp unused).1, rfl, (Except.ok.inj result.1).symm, result.2.symm⟩

theorem addGroup_ok {drawn : Uuid} {title : String} {view : GroupView} {vault' : Vault}
    (result : addGroup drawn target title vault = (.ok view, vault')) :
    ∃ after, putInto target (·.addChild { id := drawn, title }) vault.root = some after ∧
      vault' = { vault with root := after } := by
  obtain ⟨-, -, result⟩ := (ReadOnly.lift _).bind_ok.mp result
  rw [pushGroup_cases] at result
  cases put : putInto target (·.addChild { id := drawn, title }) vault.root with
  | none => simp [put] at result
  | some after =>
      simp only [put, Prod.mk.injEq] at result
      exact ⟨after, rfl, result.2.symm⟩

/-- What a move of an entry leaves: the tree without the entry, and with it in its new place. -/
structure EntryMoved (entryId target : String) (change : Entry → Uuid → Entry) (before after : Group) : Type where
  left : Group
  entry : Entry
  parent : Uuid
  taken : takeEntryFromGroup entryId before = some (left, entry, parent)
  put : putInto target (·.addEntry (change entry parent)) left = some after

/-- An entry that is found can move to a group that is found. -/
theorem entryMoved_of_found {root : Group} {entry : Entry} (held : findEntryById entryId root = some entry)
    (there : (findGroupById target root).isSome) (change : Entry → Uuid → Entry) :
    ∃ (after : Group) (moved : EntryMoved entryId target change root after), moved.entry = entry := by
  have search := takeEntryFromGroup_entry entryId root
  rw [held] at search
  obtain ⟨⟨left, entry', parent⟩, taken, same⟩ := Option.map_eq_some_iff.mp search
  cases same
  have still : (putInto target (·.addEntry (change entry' parent)) left).isSome := by
    rw [putInto_isSome]
    exact (findGroupById_left taken).mpr there
  obtain ⟨after, put⟩ := Option.isSome_iff_exists.mp still
  exact ⟨after, ⟨left, entry', parent, taken, put⟩, rfl⟩

/-- Either nothing is written, or the entry moves and gets a later location clock. -/
theorem moveEntry_cases (vault : Vault) (entryId target : String) (now : Int) :
    (∃ e, moveEntry now entryId target vault = (.error e, vault)) ∨
    ∃ next after, ∃ moved : EntryMoved entryId target
        (fun entry _ => { entry with locationChangedAt := some next }) vault.root after,
      findEntryById entryId vault.root = some moved.entry ∧
      nextEntryLocationTimestamp now moved.entry.locationChangedAt = .ok next ∧
      moveEntry now entryId target vault =
        (.ok (projectEntry { moved.entry with locationChangedAt := some next }), { vault with root := after }) := by
  unfold moveEntry
  simp only [bind_run, readGroup_cases, readEntry_cases]
  cases there : findGroupById target vault.root with
  | none => exact .inl ⟨_, rfl⟩
  | some group =>
      dsimp only
      cases held : findEntryById entryId vault.root with
      | none => exact .inl ⟨_, rfl⟩
      | some entry =>
          dsimp only
          cases clock : nextEntryLocationTimestamp now entry.locationChangedAt with
          | error e => exact .inl ⟨e, rfl⟩
          | ok next =>
              obtain ⟨after, moved, same⟩ := entryMoved_of_found held (by rw [there]; rfl)
                fun entry _ => { entry with locationChangedAt := some next }
              cases same
              refine .inr ⟨next, after, moved, rfl, clock, ?_⟩
              simp only [lift_ok, takeEntry_cases, moved.taken, pushEntry_cases, moved.put]

/-- What `move_group` has checked when it starts to write. -/
structure MovableGroup (vault : Vault) (groupId target : String) : Prop where
  notRoot : namedGroup groupId vault.root = false
  found : ∃ moving, findGroupById groupId vault.root = some moving ∧ namedGroup target moving = false ∧
    groupContainsId target moving = false
  targetFound : (findGroupById target vault.root).isSome

theorem checkMoveGroup_cases (vault : Vault) (groupId target : String) :
    (∃ e, checkMoveGroup groupId target vault = (.error e, vault) ∧ ¬ MovableGroup vault groupId target) ∨
    (checkMoveGroup groupId target vault = (.ok (), vault) ∧ MovableGroup vault groupId target) := by
  unfold checkMoveGroup
  simp only [bind_run, get_run, readGroup_cases]
  cases isRoot : namedGroup groupId vault.root with
  | true => exact .inl ⟨_, rfl, fun movable => by simpa [isRoot] using movable.notRoot⟩
  | false =>
      simp only [Bool.not_false, ensure_true]
      cases here : findGroupById groupId vault.root with
      | none => exact .inl ⟨_, rfl, fun movable => by
          obtain ⟨moving, found, -⟩ := movable.found
          simp [here] at found⟩
      | some moving =>
          dsimp only
          cases below : namedGroup target moving || groupContainsId target moving with
          | true => exact .inl ⟨_, rfl, fun movable => by
              obtain ⟨moving', found, apart, above⟩ := movable.found
              rw [here] at found
              cases found
              simp [apart, above] at below⟩
          | false =>
              simp only [Bool.not_false, ensure_true]
              cases there : findGroupById target vault.root with
              | none => exact .inl ⟨_, rfl, fun movable => by simpa [there] using movable.targetFound⟩
              | some group =>
                  refine .inr ⟨rfl, isRoot, ⟨moving, here, Bool.or_eq_false_iff.mp below⟩, by rw [there]; rfl⟩

/-- What `move_group` leaves: the tree without the group, and with it in its new place. -/
structure GroupMoved (groupId target : String) (before after : Group) : Type where
  left : Group
  group : Group
  taken : takeGroupFromGroup groupId before = some (left, group)
  put : putInto target (·.addChild group) left = some after

/-- A group that was found below the root is taken out. -/
theorem takeGroup_of_movable (movable : MovableGroup vault groupId target) :
    ∃ left group, takeGroupFromGroup groupId vault.root = some (left, group) := by
  obtain ⟨moving, found, -, -⟩ := movable.found
  obtain ⟨inside, named⟩ := findGroupById_some vault.root found
  have search := takeGroupFromGroup_taken groupId vault.root
  cases result : takeGroupFromGroup groupId vault.root with
  | some taken => exact ⟨taken.1, taken.2, rfl⟩
  | none =>
      rw [result] at search
      have apart := firstBelow_none vault.root search.symm
      rw [subgroups_cons, ← subgroupsOf_eq_flatMap] at inside
      rcases List.mem_cons.mp inside with rfl | below
      · simpa [namedGroup, named] using movable.notRoot
      · exact absurd named (apart moving below)

/-- A checked group moves, or its target was inside what was taken out and both are gone. -/
theorem moveGroup_cases (vault : Vault) (groupId target : String) :
    (∃ e, moveGroup groupId target vault = (.error e, vault) ∧ ¬ MovableGroup vault groupId target) ∨
    (MovableGroup vault groupId target ∧ ∃ left group,
      takeGroupFromGroup groupId vault.root = some (left, group) ∧ findGroupById target left = none ∧
      moveGroup groupId target vault = (.error (groupNotFound target), { vault with root := left })) ∨
    (MovableGroup vault groupId target ∧ ∃ after, ∃ moved : GroupMoved groupId target vault.root after,
      moveGroup groupId target vault = (.ok (projectGroup moved.group), { vault with root := after })) := by
  unfold moveGroup
  rcases checkMoveGroup_cases vault groupId target with
    ⟨e, failed, blocked⟩ | ⟨checked, movable⟩
  · exact .inl ⟨e, by rw [bind_run, failed], blocked⟩
  · obtain ⟨left, group, taken⟩ := takeGroup_of_movable movable
    simp only [bind_run, checked, takeGroup_cases, taken, pushGroup_cases]
    cases put : putInto target (·.addChild group) left with
    | none =>
        refine .inr (.inl ⟨movable, left, group, rfl, ?_, rfl⟩)
        simpa [putInto] using put
    | some after => exact .inr (.inr ⟨movable, after, ⟨left, group, taken, put⟩, rfl⟩)

theorem findEntryById_addEmptyChild (root : Group) (fields : GroupFields) :
    findEntryById entryId (root.addChild ⟨fields, [], []⟩) = findEntryById entryId root := by
  cases root
  simp [Group.addChild, findEntryById, findEntryIn_append, findEntryIn]

theorem entriesIn_addLast (root child : Group) : entriesIn (root.addChild child) = entriesIn root ++ entriesIn child := by
  cases root
  simp [Group.addChild, entriesIn_mk]

theorem shellsIn_addLast (root child : Group) : shellsIn (root.addChild child) = shellsIn root ++ shellsIn child := by
  cases root
  simp [Group.addChild, shellsIn_mk]

theorem ensureRecycleBin_cases (vault : Vault) (drawn : Uuid) (changedAt : Int) :
    (∃ binId, vault.liveRecycleBin = some binId ∧
      ensureRecycleBin drawn changedAt vault = (.ok binId, { vault with recycleBinEnabled := some true })) ∨
    (vault.liveRecycleBin = none ∧
      ensureRecycleBin drawn changedAt vault =
        (.ok (uuidToString drawn), vault.createRecycleBin drawn changedAt)) := by
  unfold ensureRecycleBin
  simp only [bind_run, get_run]
  cases live : vault.liveRecycleBin with
  | some binId => exact .inl ⟨binId, rfl, rfl⟩
  | none => exact .inr ⟨rfl, rfl⟩

/-- The bin that `ensure_recycle_bin` returns is in the tree, which holds the same entries. -/
theorem ensureRecycleBin_ready (vault : Vault) (entryId : String) (drawn : Uuid) (changedAt : Int) :
    ∃ binId ready, ensureRecycleBin drawn changedAt vault = (.ok binId, ready) ∧
      (findGroupById binId ready.root).isSome ∧
      findEntryById entryId ready.root = findEntryById entryId vault.root := by
  rcases ensureRecycleBin_cases vault drawn changedAt with ⟨binId, live, run⟩ | ⟨-, run⟩
  · refine ⟨binId, _, run, ?_, rfl⟩
    exact (Option.filter_eq_some_iff.mp live).2
  · refine ⟨_, _, run, ?_, ?_⟩
    · rw [findGroupById_isSome]
      simp [Vault.createRecycleBin, newRecycleBin, shellsIn_addLast, shellsIn_mk]
    · exact findEntryById_addEmptyChild _ _

/-- Either nothing is written, or the entry moves to the recycle bin and gets a tombstone. -/
theorem softDeleteEntryToRecycleBin_cases (vault : Vault) (entryId : String) (drawn : Uuid)
    (now binChangedAt deletedAt : Int) :
    (∃ e, softDeleteEntryToRecycleBin drawn now binChangedAt deletedAt entryId vault = (.error e, vault)) ∨
    ∃ next binId ready after, ∃ moved : EntryMoved entryId binId (fun entry parent =>
          { entry with previousParent := some parent, locationChangedAt := some next }) ready.root after,
      ensureRecycleBin drawn binChangedAt vault = (.ok binId, ready) ∧
      nextEntryLocationTimestamp now moved.entry.locationChangedAt = .ok next ∧
      softDeleteEntryToRecycleBin drawn now binChangedAt deletedAt entryId vault =
        (.ok (projectEntry
            { moved.entry with previousParent := some moved.parent, locationChangedAt := some next }),
          { ready with root := after }.addTombstone moved.entry.id deletedAt) := by
  unfold softDeleteEntryToRecycleBin
  simp only [bind_run, readEntry_cases]
  cases held : findEntryById entryId vault.root with
  | none => exact .inl ⟨_, rfl⟩
  | some entry =>
      dsimp only
      cases clock : nextEntryLocationTimestamp now entry.locationChangedAt with
      | error e => exact .inl ⟨e, rfl⟩
      | ok next =>
          obtain ⟨binId, ready, run, there, same⟩ := ensureRecycleBin_ready vault entryId
            drawn binChangedAt
          obtain ⟨after, moved, rfl⟩ := entryMoved_of_found (same.trans held) there
            fun entry parent => { entry with previousParent := some parent, locationChangedAt := some next }
          refine .inr ⟨next, binId, ready, after, moved, run, clock, ?_⟩
          have put : putInto binId (·.addEntry
              { moved.entry with previousParent := some moved.parent, locationChangedAt := some next })
              ({ ready with root := moved.left }.addTombstone moved.entry.id deletedAt).root = some after := moved.put
          simp only [lift_ok, run, takeEntry_cases, moved.taken, modify_run, pushEntry_cases, put]
          rfl

/-- What `restore_entry_from_recycle_bin` has found when it starts to write. -/
structure Restorable (vault : Vault) (now : Int) (entryId : String) (requested : Option String) (binned : Entry)
    (target : String) (next : Nat) : Prop where
  bin : ∃ binId recycleBin, vault.recycleBinGroup.map uuidToString = some binId ∧
    findGroupById binId vault.root = some recycleBin ∧ recycleBin.entries.find? (namedEntry entryId) = some binned
  targeted : requested.or (binned.previousParent.map uuidToString) = some target
  clock : nextEntryLocationTimestamp now binned.locationChangedAt = .ok next
  targetFound : (findGroupById target vault.root).isSome

/-- Either nothing is written, or the entry moves and its tombstones are dropped. -/
theorem restoreEntryFromRecycleBin_restorable (vault : Vault) (entryId : String) (now : Int) (requested : Option String) :
    (∃ e, restoreEntryFromRecycleBin now entryId requested vault = (.error e, vault) ∧
      ∀ binned target next, ¬ Restorable vault now entryId requested binned target next) ∨
    ∃ binned target next, Restorable vault now entryId requested binned target next ∧
      ∃ after, ∃ moved : EntryMoved entryId target (fun entry _ => restoredEntry next entry) vault.root after,
        restoreEntryFromRecycleBin now entryId requested vault =
          (.ok (projectEntry (restoredEntry next moved.entry)),
            { vault with root := after }.dropTombstones entryId) := by
  unfold restoreEntryFromRecycleBin
  simp only [bind_run, get_run]
  cases group : vault.recycleBinGroup.map uuidToString with
  | none =>
      refine .inl ⟨_, rfl, fun _ _ _ restorable => ?_⟩
      obtain ⟨_, _, same, -⟩ := restorable.bin
      rw [group] at same
      cases same
  | some binId =>
      simp only [require_some, readGroup_cases]
      cases bin : findGroupById binId vault.root with
      | none =>
          refine .inl ⟨_, rfl, fun _ _ _ restorable => ?_⟩
          obtain ⟨_, _, same, found, -⟩ := restorable.bin
          cases group.symm.trans same
          cases bin.symm.trans found
      | some recycleBin =>
          dsimp only
          cases inBin : recycleBin.entries.find? (namedEntry entryId) with
          | none =>
              refine .inl ⟨_, rfl, fun _ _ _ restorable => ?_⟩
              obtain ⟨_, _, same, found, held⟩ := restorable.bin
              cases group.symm.trans same
              cases bin.symm.trans found
              cases inBin.symm.trans held
          | some binned =>
              have only (other : Entry) (target : String) (next : Nat)
                  (restorable : Restorable vault now entryId requested other target next) : other = binned := by
                obtain ⟨_, _, same, found, held⟩ := restorable.bin
                cases group.symm.trans same
                cases bin.symm.trans found
                exact Option.some.inj (held.symm.trans inBin)
              simp only [require_some]
              cases targeted : requested.or (binned.previousParent.map uuidToString) with
              | none =>
                  refine .inl ⟨_, rfl, fun other _ _ restorable => ?_⟩
                  cases only _ _ _ restorable
                  cases targeted.symm.trans restorable.targeted
              | some target =>
                  simp only [require_some]
                  cases clock : nextEntryLocationTimestamp now binned.locationChangedAt with
                  | error e =>
                      refine .inl ⟨_, rfl, fun other _ _ restorable => ?_⟩
                      cases only _ _ _ restorable
                      cases clock.symm.trans restorable.clock
                  | ok next =>
                      simp only [lift_ok]
                      cases there : findGroupById target vault.root with
                      | none =>
                          refine .inl ⟨_, rfl, fun other _ _ restorable => ?_⟩
                          cases only _ _ _ restorable
                          cases targeted.symm.trans restorable.targeted
                          have found := restorable.targetFound
                          rw [there] at found
                          cases found
                      | some _ =>
                          obtain ⟨entry, held⟩ := findEntryById_of_mem
                            (findGroupById_some vault.root bin).1 (List.mem_of_find?_eq_some inBin)
                            (by simpa [namedEntry] using List.find?_some inBin)
                          obtain ⟨after, moved, -⟩ := entryMoved_of_found held (by rw [there]; rfl)
                            fun entry _ => restoredEntry next entry
                          refine .inr ⟨binned, target, next, ⟨⟨binId, recycleBin, group, bin, inBin⟩, targeted, clock, ?_⟩,
                            after, moved, ?_⟩
                          · rw [there]
                            rfl
                          · simp only [takeEntry_cases, moved.taken, pushEntry_cases, moved.put, modify_run, pure_run]

theorem restoreEntryFromRecycleBin_cases (vault : Vault) (entryId : String) (now : Int)
    (requested : Option String) :
    (∃ e, restoreEntryFromRecycleBin now entryId requested vault = (.error e, vault)) ∨
    ∃ next target after, ∃ moved : EntryMoved entryId target (fun entry _ => restoredEntry next entry)
        vault.root after,
      restoreEntryFromRecycleBin now entryId requested vault =
        (.ok (projectEntry (restoredEntry next moved.entry)),
          { vault with root := after }.dropTombstones entryId) := by
  rcases restoreEntryFromRecycleBin_restorable vault entryId now requested with
    ⟨e, failed, -⟩ | ⟨_, target, next, -, after, moved, run⟩
  · exact .inl ⟨e, failed⟩
  · exact .inr ⟨next, target, after, moved, run⟩

end Cases

end VaultKern
