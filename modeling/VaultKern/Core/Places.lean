import VaultKern.Core.Placement

/-! # Which group holds an entry

The bag of entries with the ids of their groups, and the tree of groups without entries. Taking
an entry out and putting one in change the bag by one place and leave the tree of groups alone.
-/

namespace VaultKern

/-- The entries of a tree, each with its group. -/
def placedEntries (root : Group) : List (Uuid × Entry) :=
  (subgroups root).flatMap fun group => group.entries.map fun entry => (group.id, entry)

theorem placedEntries_mk (fields : GroupFields) (entries : List Entry) (children : List Group) :
    placedEntries ⟨fields, entries, children⟩ = entries.map (fun entry => (fields.id, entry)) ++ children.flatMap placedEntries := by
  unfold placedEntries
  rw [subgroups_cons, List.flatMap_cons, List.flatMap_assoc]

theorem entriesIn_placed (root : Group) : entriesIn root = (placedEntries root).map Prod.snd := by
  simp [entriesIn, placedEntries, List.map_flatMap, Function.comp_def]

theorem mem_placedEntries {root : Group} {parent : Uuid} {entry : Entry} :
    (parent, entry) ∈ placedEntries root ↔ ∃ group ∈ subgroups root, group.id = parent ∧ entry ∈ group.entries := by
  simp only [placedEntries, List.mem_flatMap, List.mem_map, Prod.mk.injEq]
  constructor
  · rintro ⟨group, inside, held, member, same, rfl⟩
    exact ⟨group, inside, same, member⟩
  · rintro ⟨group, inside, same, member⟩
    exact ⟨group, inside, entry, member, same, rfl⟩

/-! ## Searching in the order of the list -/

mutual
theorem findEntryById_eq {id : String} : ∀ root : Group,
    findEntryById id root = (entriesIn root).find? fun entry => uuidToString entry.id = id
  | ⟨fields, entries, children⟩ => by rw [findEntryById, entriesIn_mk, List.find?_append, findEntryIn_eq children]

theorem findEntryIn_eq {id : String} : ∀ children : List Group,
    findEntryIn id children = (children.flatMap entriesIn).find? fun entry => uuidToString entry.id = id
  | [] => rfl
  | child :: rest => by
      rw [findEntryIn, List.flatMap_cons, List.find?_append, findEntryById_eq child, findEntryIn_eq rest]
end

theorem findEntryById_mem {id : String} {entry : Entry} (root : Group) (found : findEntryById id root = some entry) :
    entry ∈ entriesIn root := by
  rw [findEntryById_eq] at found
  exact List.mem_of_find?_eq_some found

mutual
/-- The groups and their other entries, the touched groups without slots and anchors. -/
def Group.apartFrom (id : String) (touched : List Uuid) : Group → Group
  | ⟨fields, entries, children⟩ =>
      { (if fields.id ∈ touched then (⟨fields, [], []⟩ : Group).withoutSlots else ⟨fields, [], []⟩) with
        entries := entries.filter fun entry => !namedEntry id entry
        children := allApartFrom id touched children }

def allApartFrom (id : String) (touched : List Uuid) : List Group → List Group
  | [] => []
  | child :: rest => child.apartFrom id touched :: allApartFrom id touched rest
end

/-! ## Taking out -/

theorem filter_eraseP {A : Type} {p : A → Bool} (list : List A) :
    (list.eraseP p).filter (fun a => !p a) = list.filter fun a => !p a := by
  induction list with
  | nil => rfl
  | cons a rest ih =>
      rw [List.eraseP_cons]
      cases passes : p a with
      | true => simp [passes]
      | false => simp [passes, ih]

theorem apartFrom_retargetEntries (id : String) (fields : GroupFields) (entries : List Entry) (children : List Group)
    (old : List Uuid) {touched : List Uuid} (inside : fields.id ∈ touched) :
    (Group.retargetEntries ⟨fields, entries.eraseP (namedEntry id), children⟩ old).apartFrom id touched =
      (⟨fields, entries, children⟩ : Group).apartFrom id touched := by
  simp [Group.retargetEntries, Group.apartFrom, Group.withoutSlots, retargetKeyedKnownNodes, filter_eraseP, inside]

theorem placedEntries_retargetEntries (fields : GroupFields) (entries : List Entry) (children : List Group)
    (old : List Uuid) : placedEntries (Group.retargetEntries ⟨fields, entries, children⟩ old) =
      entries.map (fun entry => (fields.id, entry)) ++ children.flatMap placedEntries :=
  placedEntries_mk _ entries children

section Taken

variable {id : String} {entry : Entry} {parent : Uuid}

mutual
theorem placedEntries_take : ∀ {root left : Group}, takeEntryFromGroup id root = some (left, entry, parent) →
    (placedEntries root).Perm ((parent, entry) :: placedEntries left) ∧
      ∀ touched, parent ∈ touched → left.apartFrom id touched = root.apartFrom id touched
  | ⟨fields, entries, children⟩, left, result => by
      unfold takeEntryFromGroup at result
      split at result
      · rename_i found search
        cases result
        constructor
        · have bag := (perm_find_eraseP search).map fun entry => (fields.id, entry)
          rw [placedEntries_mk, placedEntries_retargetEntries, ← List.cons_append]
          exact bag.append_right _
        · exact fun touched inside => apartFrom_retargetEntries _ _ _ _ _ inside
      · obtain ⟨⟨children', taken⟩, below, same⟩ := Option.map_eq_some_iff.mp result
        cases same
        obtain ⟨places, groups⟩ := placedEntriesIn_take below
        constructor
        · rw [placedEntries_mk, placedEntries_mk]
          exact (places.append_left _).trans List.perm_middle
        · intro touched inside
          rw [Group.apartFrom, Group.apartFrom, groups touched inside]

theorem placedEntriesIn_take : ∀ {children left : List Group},
    takeEntryFromChildren id children = some (left, entry, parent) →
    (children.flatMap placedEntries).Perm ((parent, entry) :: left.flatMap placedEntries) ∧
      ∀ touched, parent ∈ touched → allApartFrom id touched left = allApartFrom id touched children
  | [], _, result => by cases result
  | child :: rest, left, result => by
      unfold takeEntryFromChildren at result
      split at result
      · rename_i child' taken here
        cases result
        obtain ⟨places, groups⟩ := placedEntries_take here
        constructor
        · exact places.append_right _
        · intro touched inside
          rw [allApartFrom, allApartFrom, groups touched inside]
      · obtain ⟨⟨rest', taken⟩, below, same⟩ := Option.map_eq_some_iff.mp result
        cases same
        obtain ⟨places, groups⟩ := placedEntriesIn_take below
        constructor
        · exact (places.append_left _).trans List.perm_middle
        · intro touched inside
          rw [allApartFrom, allApartFrom, groups touched inside]
end

end Taken

/-! ## Putting in -/

section Put

variable {id target : String} {entry : Entry} {root after : Group} {touched : List Uuid}

mutual
theorem apartFrom_put {group group' : Group} (same : group'.apartFrom id touched = group.apartFrom id touched) :
    ∀ root : Group, findGroupById target root = some group →
      (putGroupById target group' root).apartFrom id touched = root.apartFrom id touched
  | ⟨fields, entries, children⟩, found => by
      unfold findGroupById at found
      unfold putGroupById
      split at found
      · rename_i here
        cases found
        rw [if_pos here]
        exact same
      · rename_i apart
        rw [if_neg apart, Group.apartFrom, Group.apartFrom, allApartFrom_put same children found]

theorem allApartFrom_put {group group' : Group} (same : group'.apartFrom id touched = group.apartFrom id touched) :
    ∀ children : List Group, findGroupIn target children = some group →
      allApartFrom id touched (putGroupIn target group' children) = allApartFrom id touched children
  | [], found => by cases found
  | child :: rest, found => by
      unfold findGroupIn at found
      unfold putGroupIn
      cases here : findGroupById target child with
      | some first =>
          rw [here, Option.some_or] at found
          cases found
          simp only [Option.isSome_some, if_true]
          rw [allApartFrom, allApartFrom, apartFrom_put same child here]
      | none =>
          rw [here, Option.none_or] at found
          simp only [Option.isSome_none, Bool.false_eq_true, if_false]
          rw [allApartFrom, allApartFrom, allApartFrom_put same rest found]
end

theorem placedEntries_addEntry (put : putInto target (·.addEntry entry) root = some after) :
    ∃ place, uuidToString place = target ∧ (placedEntries after).Perm ((place, entry) :: placedEntries root) := by
  obtain ⟨group, found, rfl⟩ := Option.map_eq_some_iff.mp put
  refine ⟨group.id, (findGroupById_some root found).2, ?_⟩
  have bags := gather_put (fun fields entries => entries.map fun entry => (fields.id, entry)) (group.addEntry entry)
    root found
  have grown : (placedEntries (group.addEntry entry)).Perm ((group.id, entry) :: placedEntries group) := by
    obtain ⟨fields, entries, children⟩ := group
    rw [Group.addEntry, placedEntries_mk, placedEntries_mk, List.map_append, List.append_assoc]
    exact List.perm_middle
  refine (List.perm_append_right_iff (placedEntries group)).mp (bags.trans ?_)
  exact (grown.append_left _).trans List.perm_middle

theorem apartFrom_addEntry (named : uuidToString entry.id = id) (put : putInto target (·.addEntry entry) root = some after) :
    after.apartFrom id touched = root.apartFrom id touched := by
  obtain ⟨group, found, rfl⟩ := Option.map_eq_some_iff.mp put
  apply apartFrom_put _ root found
  cases group
  simp [Group.addEntry, Group.apartFrom, namedEntry, named]

end Put

/-! ## With distinct ids -/

section Distinct

variable {root : Group}

/-- An entry stands in one group only. -/
theorem place_unique (distinct : ((entriesIn root).map (·.id)).Nodup) {place place' : Uuid} {entry entry' : Entry}
    (first : (place, entry) ∈ placedEntries root) (second : (place', entry') ∈ placedEntries root)
    (same : entry'.id = entry.id) : place' = place ∧ entry' = entry := by
  rw [entriesIn_placed, List.map_map] at distinct
  cases List.inj_on_of_nodup_map distinct second first same
  exact ⟨rfl, rfl⟩

theorem findEntryById_of_entry (distinct : ((entriesIn root).map (·.id)).Nodup) {entry : Entry}
    (member : entry ∈ entriesIn root) : findEntryById (uuidToString entry.id) root = some entry := by
  rw [findEntryById_eq]
  cases result : (entriesIn root).find? fun other => uuidToString other.id = uuidToString entry.id with
  | none => simpa using List.find?_eq_none.mp result entry member
  | some found =>
      have named : uuidToString found.id = uuidToString entry.id := by simpa using List.find?_some result
      rw [List.inj_on_of_nodup_map distinct (List.mem_of_find?_eq_some result) member (uuidToString_injective named)]

theorem findGroupById_of_group (distinct : ((subgroups root).map (·.id)).Nodup) {group : Group}
    (member : group ∈ subgroups root) : findGroupById (uuidToString group.id) root = some group := by
  cases result : findGroupById (uuidToString group.id) root with
  | none => exact absurd rfl (findGroupById_none root result group member)
  | some found =>
      obtain ⟨there, named⟩ := findGroupById_some root result
      rw [List.inj_on_of_nodup_map distinct there member (uuidToString_injective named)]

end Distinct

end VaultKern
