import VaultKern.Core.KeyedNodes
import VaultKern.Core.Lookup
import VaultKern.Tree.WellFormed

/-! # Taking objects out of the tree

A tree is a bag of entries and of groups without members. Taking an object out and
putting one in change the bags by that object; a group that loses a member gets
other slots and anchors, and nothing else about it changes.
-/

namespace VaultKern

/-! ## Taking out -/

section Take

variable (id : String)

def namedEntry (entry : Entry) : Bool := uuidToString entry.id = id

def namedGroup (group : Group) : Bool := uuidToString group.id = id

mutual
/-- `take_entry_from_group`: what is left, the entry, and the id of the group that held it. -/
def takeEntryFromGroup : Group → Option (Group × Entry × Uuid)
  | ⟨fields, entries, children⟩ =>
      match entries.find? (namedEntry id) with
      | some entry => some
          (Group.retargetEntries ⟨fields, entries.eraseP (namedEntry id), children⟩ (entries.map (·.id)),
            entry, fields.id)
      | none => (takeEntryFromChildren children).map fun (children, taken) =>
          (⟨fields, entries, children⟩, taken)

def takeEntryFromChildren : List Group → Option (List Group × Entry × Uuid)
  | [] => none
  | child :: rest =>
      match takeEntryFromGroup child with
      | some (child, taken) => some (child :: rest, taken)
      | none => (takeEntryFromChildren rest).map fun (rest, taken) => (child :: rest, taken)
end

mutual
/-- `take_group_from_group` looks at all children before it looks below them. -/
def takeGroupFromGroup : Group → Option (Group × Group)
  | ⟨fields, entries, children⟩ =>
      match children.find? (namedGroup id) with
      | some child => some
          (Group.retargetChildren ⟨fields, entries, children.eraseP (namedGroup id)⟩ (children.map (·.id)), child)
      | none => (takeGroupFromChildren children).map fun (children, taken) =>
          (⟨fields, entries, children⟩, taken)

def takeGroupFromChildren : List Group → Option (List Group × Group)
  | [] => none
  | child :: rest =>
      match takeGroupFromGroup child with
      | some (child, taken) => some (child :: rest, taken)
      | none => (takeGroupFromChildren rest).map fun (rest, taken) => (child :: rest, taken)
end

/-- `delete_entry_from_group`, which drops what `take_entry_from_group` returns. -/
def deleteEntryFromGroup (root : Group) : Option Group := (takeEntryFromGroup id root).map Prod.fst

/-- `delete_group_from_group`, which drops what `take_group_from_group` returns. -/
def deleteGroupFromGroup (root : Group) : Option Group := (takeGroupFromGroup id root).map Prod.fst

end Take

/-! ## What a tree holds -/

def entriesIn (root : Group) : List Entry := (subgroups root).flatMap (·.entries)

/-- Every group, without its members. -/
def shellsIn (root : Group) : List Group := (subgroups root).map Group.shell

theorem entriesIn_mk (fields : GroupFields) (entries : List Entry) (children : List Group) :
    entriesIn ⟨fields, entries, children⟩ = entries ++ children.flatMap entriesIn := by
  unfold entriesIn
  rw [subgroups_cons, List.flatMap_cons, List.flatMap_assoc]

theorem shellsIn_mk (fields : GroupFields) (entries : List Entry) (children : List Group) :
    shellsIn ⟨fields, entries, children⟩ = ⟨fields, [], []⟩ :: children.flatMap shellsIn := by
  unfold shellsIn
  rw [subgroups_cons, List.map_cons, List.map_flatMap]
  rfl

/-! ## Searches find what the tree holds -/

section Found

variable {id : String}

mutual
theorem findGroupById_some {found : Group} : ∀ root : Group, findGroupById id root = some found →
    found ∈ subgroups root ∧ uuidToString found.id = id
  | ⟨fields, entries, children⟩, result => by
      unfold findGroupById at result
      rw [subgroups]
      split at result
      · rename_i here
        cases result
        exact ⟨List.mem_cons_self .., here⟩
      · obtain ⟨inside, named⟩ := findGroupIn_some children result
        exact ⟨List.mem_cons_of_mem _ inside, named⟩

theorem findGroupIn_some {found : Group} : ∀ children : List Group, findGroupIn id children = some found →
    found ∈ subgroupsOf children ∧ uuidToString found.id = id
  | [], result => by cases result
  | child :: rest, result => by
      unfold findGroupIn at result
      rw [subgroupsOf]
      cases here : findGroupById id child with
      | some first =>
          rw [here, Option.some_or] at result
          cases result
          obtain ⟨inside, named⟩ := findGroupById_some child here
          exact ⟨List.mem_append_left _ inside, named⟩
      | none =>
          rw [here, Option.none_or] at result
          obtain ⟨inside, named⟩ := findGroupIn_some rest result
          exact ⟨List.mem_append_right _ inside, named⟩
end

mutual
theorem findGroupById_none : ∀ root : Group, findGroupById id root = none →
    ∀ group ∈ subgroups root, uuidToString group.id ≠ id
  | ⟨fields, entries, children⟩, result => by
      unfold findGroupById at result
      rw [subgroups]
      split at result
      · cases result
      · rename_i apart
        intro group inside
        rcases List.mem_cons.mp inside with rfl | below
        · exact apart
        · exact findGroupIn_none children result group below

theorem findGroupIn_none : ∀ children : List Group, findGroupIn id children = none →
    ∀ group ∈ subgroupsOf children, uuidToString group.id ≠ id
  | [], _ => by simp [subgroupsOf]
  | child :: rest, result => by
      unfold findGroupIn at result
      rw [subgroupsOf]
      intro group inside
      cases here : findGroupById id child with
      | some first => simp [here] at result
      | none =>
          rw [here, Option.none_or] at result
          rcases List.mem_append.mp inside with first | later
          · exact findGroupById_none child here group first
          · exact findGroupIn_none rest result group later
end

/-- A search for a group succeeds if the bag of groups has one of that id. -/
theorem findGroupById_isSome {root : Group} :
    (findGroupById id root).isSome ↔ id ∈ (shellsIn root).map fun group => uuidToString group.id := by
  have named (group : Group) : uuidToString group.shell.id = uuidToString group.id := rfl
  simp only [shellsIn, List.map_map, List.mem_map, Function.comp_def, named]
  constructor
  · intro found
    obtain ⟨group, result⟩ := Option.isSome_iff_exists.mp found
    exact ⟨group, findGroupById_some root result⟩
  · rintro ⟨group, inside, here⟩
    cases result : findGroupById id root with
    | some _ => rfl
    | none => exact absurd here (findGroupById_none root result group inside)

mutual
theorem findEntryById_none : ∀ root : Group, findEntryById id root = none →
    ∀ group ∈ subgroups root, ∀ entry ∈ group.entries, uuidToString entry.id ≠ id
  | ⟨fields, entries, children⟩, result => by
      unfold findEntryById at result
      obtain ⟨here, below⟩ := Option.or_eq_none_iff.mp result
      rw [subgroups]
      intro group inside entry member
      rcases List.mem_cons.mp inside with rfl | under
      · simpa using List.find?_eq_none.mp here entry member
      · exact findEntryIn_none children below group under entry member

theorem findEntryIn_none : ∀ children : List Group, findEntryIn id children = none →
    ∀ group ∈ subgroupsOf children, ∀ entry ∈ group.entries, uuidToString entry.id ≠ id
  | [], _ => by simp [subgroupsOf]
  | child :: rest, result => by
      unfold findEntryIn at result
      obtain ⟨here, below⟩ := Option.or_eq_none_iff.mp result
      rw [subgroupsOf]
      intro group inside
      rcases List.mem_append.mp inside with first | later
      · exact findEntryById_none child here group first
      · exact findEntryIn_none rest below group later
end

/-- A search for an entry succeeds if some group holds one of that id. -/
theorem findEntryById_of_mem {root group : Group} {entry : Entry} (inside : group ∈ subgroups root)
    (member : entry ∈ group.entries) (named : uuidToString entry.id = id) :
    ∃ found, findEntryById id root = some found := by
  cases result : findEntryById id root with
  | some found => exact ⟨found, rfl⟩
  | none => exact absurd named (findEntryById_none root result group inside entry member)

theorem findEntryIn_append (front back : List Group) :
    findEntryIn id (front ++ back) = (findEntryIn id front).or (findEntryIn id back) := by
  induction front with
  | nil => rfl
  | cons child rest ih => simp [findEntryIn, ih, Option.or_assoc]

mutual
/-- An entry is taken from the place where the search finds it. -/
theorem takeEntryFromGroup_entry (id : String) : ∀ root : Group,
    (takeEntryFromGroup id root).map (·.2.1) = findEntryById id root
  | ⟨fields, entries, children⟩ => by
      unfold takeEntryFromGroup findEntryById
      have below := takeEntryFromChildren_entry id children
      have search : entries.find? (namedEntry id) = entries.find? fun entry => uuidToString entry.id = id := rfl
      rw [← search]
      cases entries.find? (namedEntry id) with
      | some entry => rfl
      | none => simp [Function.comp_def, ← below]

theorem takeEntryFromChildren_entry (id : String) : ∀ children : List Group,
    (takeEntryFromChildren id children).map (·.2.1) = findEntryIn id children
  | [] => rfl
  | child :: rest => by
      unfold takeEntryFromChildren findEntryIn
      rw [← takeEntryFromGroup_entry id child, ← takeEntryFromChildren_entry id rest]
      cases takeEntryFromGroup id child with
      | some taken => rfl
      | none => simp [Function.comp_def]
end

end Found

/-! ## Bags after a write in place -/

section Put

open scoped List

variable {id : String} {A : Type}

/-- What the groups of a tree contribute, each by its fields and entries. -/
def gather (part : GroupFields → List Entry → List A) (root : Group) : List A :=
  (subgroups root).flatMap fun group => part group.toGroupFields group.entries

theorem gather_mk (part : GroupFields → List Entry → List A) (fields : GroupFields) (entries : List Entry)
    (children : List Group) :
    gather part ⟨fields, entries, children⟩ = part fields entries ++ children.flatMap (gather part) := by
  unfold gather
  rw [subgroups_cons, List.flatMap_cons, List.flatMap_assoc]

mutual
/-- The new subtree comes in place of the one that the search finds. -/
theorem gather_put (part : GroupFields → List Entry → List A) {found : Group} (group : Group) :
    ∀ root : Group, findGroupById id root = some found →
      (gather part (putGroupById id group root) ++ gather part found).Perm
        (gather part root ++ gather part group)
  | ⟨fields, entries, children⟩, result => by
      unfold findGroupById at result
      unfold putGroupById
      split at result
      · cases result
        simp only [*, if_true]
        exact List.perm_append_comm
      · rename_i apart
        rw [if_neg apart, gather_mk, gather_mk, List.append_assoc, List.append_assoc]
        exact (gather_putIn part group children result).append_left _

theorem gather_putIn (part : GroupFields → List Entry → List A) {found : Group} (group : Group) :
    ∀ children : List Group, findGroupIn id children = some found →
      ((putGroupIn id group children).flatMap (gather part) ++ gather part found).Perm
        (children.flatMap (gather part) ++ gather part group)
  | [], result => by cases result
  | child :: rest, result => by
      unfold findGroupIn at result
      unfold putGroupIn
      cases here : findGroupById id child with
      | some first =>
          rw [here, Option.some_or] at result
          cases result
          have inner := gather_put part group child here
          simp only [Option.isSome_some, if_true, List.flatMap_cons, List.append_assoc]
          calc _ ~ (gather part (putGroupById id group child) ++ gather part found) ++ rest.flatMap (gather part) := by
                rw [List.append_assoc]
                exact List.perm_append_comm.append_left _
            _ ~ (gather part child ++ gather part group) ++ rest.flatMap (gather part) := inner.append_right _
            _ ~ _ := by
                rw [List.append_assoc]
                exact List.perm_append_comm.append_left _
      | none =>
          rw [here, Option.none_or] at result
          simp only [Option.isSome_none, Bool.false_eq_true, if_false, List.flatMap_cons, List.append_assoc]
          exact (gather_putIn part group rest result).append_left _
end

end Put

theorem shellsIn_eq_gather (root : Group) : shellsIn root = gather (fun fields _ => [⟨fields, [], []⟩]) root := by
  unfold shellsIn gather
  rw [List.map_eq_flatMap]
  rfl

/-! ## Bags after something was taken out -/

/-- The second bag has other slots and anchors in the group of that id. -/
def Reslotted (place : Uuid) (before after : List Group) : Prop :=
  ∃ held held' others, held.id = place ∧ before.Perm (held :: others) ∧ after.Perm (held' :: others) ∧
    held'.withoutSlots = held.withoutSlots

namespace Reslotted

open scoped List

variable {place : Uuid} {before after : List Group}

theorem append_left (more : List Group) (reslotted : Reslotted place before after) :
    Reslotted place (more ++ before) (more ++ after) := by
  obtain ⟨held, held', others, here, first, second, same⟩ := reslotted
  refine ⟨held, held', more ++ others, here, ?_, ?_, same⟩
  · exact (first.append_left more).trans List.perm_middle
  · exact (second.append_left more).trans List.perm_middle

theorem perm {before' after' : List Group} (reslotted : Reslotted place before after)
    (first : before'.Perm before) (second : after'.Perm after) : Reslotted place before' after' := by
  obtain ⟨held, held', others, here, bag, bag', same⟩ := reslotted
  exact ⟨held, held', others, here, first.trans bag, second.trans bag', same⟩

theorem append_right (more : List Group) (reslotted : Reslotted place before after) :
    Reslotted place (before ++ more) (after ++ more) :=
  (reslotted.append_left more).perm List.perm_append_comm List.perm_append_comm

theorem ids (reslotted : Reslotted place before after) : (before.map (·.id)).Perm (after.map (·.id)) := by
  obtain ⟨held, held', others, -, first, second, same⟩ := reslotted
  have sameId : held'.withoutSlots.id = held.withoutSlots.id := by rw [same]
  have headed : (held :: others).map (·.id) = (held' :: others).map (·.id) := by
    rw [List.map_cons, List.map_cons]
    exact congrArg (· :: others.map (·.id)) sameId.symm
  exact (first.map _).trans (headed ▸ (second.map _).symm)

end Reslotted

theorem retargetEntries_withoutSlots (group : Group) (old : List Uuid) :
    (group.retargetEntries old).shell.withoutSlots = group.shell.withoutSlots := by
  simp [Group.retargetEntries, Group.shell, Group.withoutSlots, retargetKeyedKnownNodes]

theorem retargetChildren_withoutSlots (group : Group) (old : List Uuid) :
    (group.retargetChildren old).shell.withoutSlots = group.shell.withoutSlots := by
  simp [Group.retargetChildren, Group.shell, Group.withoutSlots, retargetKeyedKnownNodes]

theorem entriesIn_retargetEntries (group : Group) (old : List Uuid) :
    entriesIn (group.retargetEntries old) = group.entries ++ group.children.flatMap entriesIn :=
  entriesIn_mk _ _ _

theorem shellsIn_retargetEntries (group : Group) (old : List Uuid) :
    shellsIn (group.retargetEntries old) = (group.retargetEntries old).shell :: group.children.flatMap shellsIn :=
  shellsIn_mk _ _ _

theorem entriesIn_retargetChildren (group : Group) (old : List Uuid) :
    entriesIn (group.retargetChildren old) = group.entries ++ group.children.flatMap entriesIn :=
  entriesIn_mk _ _ _

theorem shellsIn_retargetChildren (group : Group) (old : List Uuid) :
    shellsIn (group.retargetChildren old) = (group.retargetChildren old).shell :: group.children.flatMap shellsIn :=
  shellsIn_mk _ _ _

/-- The first element that passes, and the others. -/
theorem perm_find_eraseP {A : Type} {p : A → Bool} {list : List A} {found : A}
    (result : list.find? p = some found) : list.Perm (found :: list.eraseP p) := by
  obtain ⟨passes, front, back, rfl, none⟩ := List.find?_eq_some_iff_append.mp result
  have front' : ∀ a ∈ front, ¬ p a := fun a member => by simpa using none a member
  rw [List.eraseP_append_right _ front', List.eraseP_cons_of_pos passes]
  exact List.perm_middle

section TakenEntry

variable {id : String} {entry : Entry} {parent : Uuid}

/-- What taking an entry out of its group does to the bags. -/
structure EntryTaken (id : String) (entry : Entry) (parent : Uuid) (entries entries' : List Entry)
    (groups groups' : List Group) : Prop where
  named : uuidToString entry.id = id
  entries : entries.Perm (entry :: entries')
  groups : Reslotted parent groups groups'

mutual
theorem takeEntryFromGroup_bags : ∀ {root left : Group}, takeEntryFromGroup id root = some (left, entry, parent) →
    EntryTaken id entry parent (entriesIn root) (entriesIn left) (shellsIn root) (shellsIn left) ∧ left.id = root.id
  | ⟨fields, entries, children⟩, left, result => by
      unfold takeEntryFromGroup at result
      split at result
      · rename_i found search
        cases result
        refine ⟨⟨?_, ?_, ?_⟩, rfl⟩
        · simpa [namedEntry] using List.find?_some search
        · rw [entriesIn_mk, entriesIn_retargetEntries, ← List.cons_append]
          exact (perm_find_eraseP search).append_right _
        · rw [shellsIn_mk, shellsIn_retargetEntries]
          exact ⟨_, _, _, rfl, .refl _, .refl _, retargetEntries_withoutSlots _ _⟩
      · obtain ⟨⟨children', taken⟩, below, same⟩ := Option.map_eq_some_iff.mp result
        cases same
        obtain ⟨named, entries, groups⟩ := takeEntryFromChildren_bags below
        refine ⟨⟨named, ?_, ?_⟩, rfl⟩
        · rw [entriesIn_mk, entriesIn_mk]
          exact (entries.append_left _).trans List.perm_middle
        · rw [shellsIn_mk, shellsIn_mk]
          exact groups.append_left [_]

theorem takeEntryFromChildren_bags : ∀ {children left : List Group},
    takeEntryFromChildren id children = some (left, entry, parent) →
    EntryTaken id entry parent (children.flatMap entriesIn) (left.flatMap entriesIn) (children.flatMap shellsIn)
      (left.flatMap shellsIn)
  | [], _, result => by cases result
  | child :: rest, left, result => by
      unfold takeEntryFromChildren at result
      split at result
      · rename_i child' taken here
        cases result
        obtain ⟨⟨named, entries, groups⟩, -⟩ := takeEntryFromGroup_bags here
        exact ⟨named, entries.append_right _, groups.append_right _⟩
      · obtain ⟨⟨rest', taken⟩, below, same⟩ := Option.map_eq_some_iff.mp result
        cases same
        obtain ⟨named, entries, groups⟩ := takeEntryFromChildren_bags below
        exact ⟨named, (entries.append_left _).trans List.perm_middle, groups.append_left _⟩
end

end TakenEntry

section TakenGroup

variable {id : String} {taken : Group}

/-- What taking a group out of its parent with everything below it does to the bags. -/
structure GroupTaken (id : String) (taken : Group) (parents : List Group) (entries entries' : List Entry)
    (groups groups' : List Group) : Prop where
  named : uuidToString taken.id = id
  entries : entries.Perm (entriesIn taken ++ entries')
  groups : ∃ parent ∈ parents, taken ∈ parent.children ∧ Reslotted parent.id groups (shellsIn taken ++ groups')

mutual
theorem takeGroupFromGroup_bags : ∀ {root left : Group}, takeGroupFromGroup id root = some (left, taken) →
    GroupTaken id taken (subgroups root) (entriesIn root) (entriesIn left) (shellsIn root) (shellsIn left) ∧
      left.id = root.id
  | ⟨fields, entries, children⟩, left, result => by
      unfold takeGroupFromGroup at result
      split at result
      · rename_i child search
        cases result
        have bag := perm_find_eraseP search
        refine ⟨⟨?_, ?_, ?_⟩, rfl⟩
        · simpa [namedGroup] using List.find?_some search
        · rw [entriesIn_mk, entriesIn_retargetChildren]
          exact ((bag.flatMap_right entriesIn).append_left entries).trans (List.perm_append_comm_assoc _ _ _)
        · refine ⟨⟨fields, entries, children⟩, ?_, List.mem_of_find?_eq_some search, ?_⟩
          · rw [subgroups_cons]
            exact List.mem_cons_self
          · rw [shellsIn_mk, shellsIn_retargetChildren]
            exact ⟨⟨fields, [], []⟩, _, _, rfl, (bag.flatMap_right shellsIn).cons _, List.perm_middle,
              retargetChildren_withoutSlots _ _⟩
      · obtain ⟨⟨children', taken⟩, below, same⟩ := Option.map_eq_some_iff.mp result
        cases same
        obtain ⟨named, entries, parent, inside, held, groups⟩ := takeGroupFromChildren_bags below
        refine ⟨⟨named, ?_, parent, ?_, held, ?_⟩, rfl⟩
        · rw [entriesIn_mk, entriesIn_mk]
          exact (entries.append_left _).trans (List.perm_append_comm_assoc _ _ _)
        · rw [subgroups_cons]
          exact List.mem_cons_of_mem _ inside
        · rw [shellsIn_mk, shellsIn_mk]
          exact (groups.append_left [_]).perm (.refl _) List.perm_middle

theorem takeGroupFromChildren_bags : ∀ {children left : List Group},
    takeGroupFromChildren id children = some (left, taken) →
    GroupTaken id taken (children.flatMap subgroups) (children.flatMap entriesIn) (left.flatMap entriesIn)
      (children.flatMap shellsIn) (left.flatMap shellsIn)
  | [], _, result => by cases result
  | child :: rest, left, result => by
      unfold takeGroupFromChildren at result
      split at result
      · rename_i child' taken' here
        cases result
        obtain ⟨⟨named, entries, parent, inside, held, groups⟩, -⟩ := takeGroupFromGroup_bags here
        refine ⟨named, ?_, parent, List.mem_append_left _ inside, held, ?_⟩
        · simpa only [List.flatMap_cons, List.append_assoc] using entries.append_right (rest.flatMap entriesIn)
        · simpa only [List.flatMap_cons, List.append_assoc] using groups.append_right (rest.flatMap shellsIn)
      · obtain ⟨⟨rest', taken'⟩, below, same⟩ := Option.map_eq_some_iff.mp result
        cases same
        obtain ⟨named, entries, parent, inside, held, groups⟩ := takeGroupFromChildren_bags below
        refine ⟨named, ?_, parent, List.mem_append_right _ inside, held, ?_⟩
        · exact (entries.append_left _).trans (List.perm_append_comm_assoc _ _ _)
        · exact (groups.append_left _).perm (.refl _) (List.perm_append_comm_assoc _ _ _)
end

mutual
/-- The first group of that id below a group, its children before what is below them. -/
def firstBelow (id : String) : Group → Option Group
  | ⟨_, _, children⟩ => (children.find? (namedGroup id)).or (firstBelowAny id children)

def firstBelowAny (id : String) : List Group → Option Group
  | [] => none
  | child :: rest => (firstBelow id child).or (firstBelowAny id rest)
end

mutual
theorem takeGroupFromGroup_taken (id : String) : ∀ root : Group, (takeGroupFromGroup id root).map Prod.snd = firstBelow id root
  | ⟨fields, entries, children⟩ => by
      unfold takeGroupFromGroup firstBelow
      rw [← takeGroupFromChildren_taken id children]
      cases children.find? (namedGroup id) with
      | some child => rfl
      | none => simp [Function.comp_def]

theorem takeGroupFromChildren_taken (id : String) : ∀ children : List Group,
    (takeGroupFromChildren id children).map Prod.snd = firstBelowAny id children
  | [] => rfl
  | child :: rest => by
      unfold takeGroupFromChildren firstBelowAny
      rw [← takeGroupFromGroup_taken id child, ← takeGroupFromChildren_taken id rest]
      cases takeGroupFromGroup id child with
      | some taken => rfl
      | none => simp [Function.comp_def]
end

mutual
theorem firstBelow_none : ∀ root : Group, firstBelow id root = none →
    ∀ group ∈ subgroupsOf root.children, uuidToString group.id ≠ id
  | ⟨fields, entries, children⟩, result => by
      unfold firstBelow at result
      obtain ⟨here, below⟩ := Option.or_eq_none_iff.mp result
      refine firstBelowAny_none children (fun child member => ?_) below
      simpa [namedGroup] using List.find?_eq_none.mp here child member

theorem firstBelowAny_none : ∀ children : List Group, (∀ child ∈ children, uuidToString child.id ≠ id) →
    firstBelowAny id children = none → ∀ group ∈ subgroupsOf children, uuidToString group.id ≠ id
  | [], _, _ => by simp [subgroupsOf]
  | child :: rest, apart, result => by
      unfold firstBelowAny at result
      obtain ⟨first, later⟩ := Option.or_eq_none_iff.mp result
      have below := firstBelow_none child first
      have after := firstBelowAny_none rest (fun other member => apart other (List.mem_cons_of_mem _ member)) later
      intro group inside
      rw [subgroupsOf, subgroups_cons, ← subgroupsOf_eq_flatMap] at inside
      rcases List.mem_append.mp inside with first | second
      · rcases List.mem_cons.mp first with rfl | under
        · exact apart _ (List.mem_cons_self ..)
        · exact below group under
      · exact after group second
end

mutual
theorem firstBelow_some : ∀ root : Group, firstBelow id root = some taken → taken ∈ subgroupsOf root.children
  | ⟨fields, entries, children⟩, result => by
      unfold firstBelow at result
      rcases Option.or_eq_some_iff.mp result with here | ⟨-, below⟩
      · rw [subgroupsOf_eq_flatMap]
        exact List.mem_flatMap.mpr ⟨taken, List.mem_of_find?_eq_some here, by rw [subgroups_cons]; exact List.mem_cons_self⟩
      · exact firstBelowAny_some children below

theorem firstBelowAny_some : ∀ children : List Group, firstBelowAny id children = some taken → taken ∈ subgroupsOf children
  | [], result => nomatch result
  | child :: rest, result => by
      unfold firstBelowAny at result
      rw [subgroupsOf, List.mem_append]
      rcases Option.or_eq_some_iff.mp result with first | ⟨-, later⟩
      · rw [subgroups_cons, ← subgroupsOf_eq_flatMap]
        exact .inl (List.mem_cons_of_mem _ (firstBelow_some child first))
      · exact .inr (firstBelowAny_some rest later)
end

end TakenGroup

end VaultKern
