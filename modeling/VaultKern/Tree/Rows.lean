import VaultKern.Lib.Fallible
import VaultKern.Lib.LastWins
import VaultKern.Patch.Flat

/-! # The rows of a tree

Flattening succeeds exactly when no id repeats, and then the tables hold the rows
of the tree, listed here in preorder.
-/

namespace VaultKern

/-! ## Listing the rows -/

def memberRows (parent : Uuid) (order : Nat) : List Entry → List (Uuid × FlatEntry)
  | [] => []
  | entry :: rest => (entry.id, { value := entry, parent, order }) :: memberRows parent (order + 1) rest

mutual
def groupRows (parent : Option Uuid) (order : Nat) : Group → List (Uuid × FlatGroup)
  | ⟨fields, _, children⟩ =>
      (fields.id, { value := ⟨fields, [], []⟩, parent, order }) :: childRows fields.id 0 children

def childRows (parent : Uuid) (order : Nat) : List Group → List (Uuid × FlatGroup)
  | [] => []
  | child :: rest => groupRows (some parent) order child ++ childRows parent (order + 1) rest
end

mutual
def entryRows : Group → List (Uuid × FlatEntry)
  | ⟨fields, entries, children⟩ => memberRows fields.id 0 entries ++ childEntryRows children

def childEntryRows : List Group → List (Uuid × FlatEntry)
  | [] => []
  | child :: rest => entryRows child ++ childEntryRows rest
end

def groupIds (root : Group) : List Uuid := (groupRows none 0 root).map Prod.fst

def entryIds (root : Group) : List Uuid := (entryRows root).map Prod.fst

def Vault.flat (vault : Vault) : FlatVault :=
  { rootId := vault.root.id
    entries := BTreeMap.lastWins (entryRows vault.root)
    groups := BTreeMap.lastWins (groupRows none 0 vault.root) }

/-- No group and no entry occurs twice. -/
structure Vault.UniqueIds (vault : Vault) : Prop where
  groups : (groupIds vault.root).Nodup
  entries : (entryIds vault.root).Nodup

/-! ## Filling the tables -/

section Insert

variable {V : Type}

def insertRows (rows : List (Uuid × V)) (table : BTreeMap Uuid V) : BTreeMap Uuid V :=
  rows.foldl (fun table row => table.insert row.1 row.2) table

/-- The rows can be inserted without meeting a key twice. -/
structure Fresh (rows : List (Uuid × V)) (table : BTreeMap Uuid V) : Prop where
  nodup : (rows.map Prod.fst).Nodup
  new : ∀ id ∈ rows.map Prod.fst, id ∉ table

theorem mem_insertRows {rows : List (Uuid × V)} {table : BTreeMap Uuid V} {id : Uuid} :
    id ∈ insertRows rows table ↔ id ∈ rows.map Prod.fst ∨ id ∈ table := by
  induction rows generalizing table with
  | nil => simp [insertRows]
  | cons row rest ih =>
      have peel : insertRows (row :: rest) table = insertRows rest (table.insert row.1 row.2) := rfl
      rw [peel, ih, Std.ExtTreeMap.mem_insert, Std.compare_eq_iff_eq, List.map_cons, List.mem_cons]
      constructor
      · rintro (h | rfl | h)
        · exact .inl (.inr h)
        · exact .inl (.inl rfl)
        · exact .inr h
      · rintro ((rfl | h) | h)
        · exact .inr (.inl rfl)
        · exact .inl h
        · exact .inr (.inr h)

theorem insertRows_append (front back : List (Uuid × V)) (table : BTreeMap Uuid V) :
    insertRows (front ++ back) table = insertRows back (insertRows front table) := by
  simp [insertRows, List.foldl_append]

theorem fresh_append {front back : List (Uuid × V)} {table : BTreeMap Uuid V} :
    Fresh (front ++ back) table ↔ Fresh front table ∧ Fresh back (insertRows front table) := by
  constructor
  · rintro ⟨nodup, new⟩
    rw [List.map_append] at nodup new
    obtain ⟨left, right, apart⟩ := List.nodup_append'.mp nodup
    refine ⟨⟨left, fun id member => new id (List.mem_append_left _ member)⟩, right, ?_⟩
    intro id member
    rw [mem_insertRows]
    rintro (old | old)
    · exact apart old member
    · exact new id (List.mem_append_right _ member) old
  · rintro ⟨⟨left, leftNew⟩, right, rightNew⟩
    constructor
    · rw [List.map_append]
      refine List.nodup_append'.mpr ⟨left, right, ?_⟩
      intro id first second
      exact rightNew id second (mem_insertRows.mpr (.inl first))
    · intro id member
      rw [List.map_append] at member
      rcases List.mem_append.mp member with first | second
      · exact leftNew id first
      · exact fun old => rightNew id second (mem_insertRows.mpr (.inr old))

theorem fresh_nil (table : BTreeMap Uuid V) : Fresh [] table := ⟨by simp, by simp⟩

theorem fresh_cons {row : Uuid × V} {rest : List (Uuid × V)} {table : BTreeMap Uuid V} :
    Fresh (row :: rest) table ↔ row.1 ∉ table ∧ Fresh rest (table.insert row.1 row.2) := by
  have single : Fresh [row] table ↔ row.1 ∉ table :=
    ⟨fun fresh => fresh.new row.1 (by simp), fun new => ⟨by simp, by simpa using new⟩⟩
  rw [show row :: rest = [row] ++ rest from rfl, fresh_append, single]
  rfl

theorem fresh_empty {rows : List (Uuid × V)} : Fresh rows ∅ ↔ (rows.map Prod.fst).Nodup :=
  ⟨(·.nodup), fun nodup => ⟨nodup, by simp⟩⟩

end Insert

/-! ## Flattening -/

def FlatVault.addRows (flat : FlatVault) (groups : List (Uuid × FlatGroup))
    (entries : List (Uuid × FlatEntry)) : FlatVault :=
  { flat with
    groups := insertRows groups flat.groups
    entries := insertRows entries flat.entries }

theorem FlatVault.addRows_append (flat : FlatVault) (g h : List (Uuid × FlatGroup))
    (e f : List (Uuid × FlatEntry)) :
    (flat.addRows g e).addRows h f = flat.addRows (g ++ h) (e ++ f) := by
  simp [FlatVault.addRows, insertRows_append]

theorem flattenEntries_ok {parent : Uuid} {side : String} {entries : List Entry} {order : Nat}
    {flat flat' : FlatVault} :
    flattenEntries parent side entries order flat = .ok flat' ↔
      Fresh (memberRows parent order entries) flat.entries ∧
        flat' = flat.addRows [] (memberRows parent order entries) := by
  induction entries generalizing order flat with
  | nil =>
      simp only [flattenEntries, Except.ok.injEq, memberRows]
      exact ⟨fun same => ⟨fresh_nil _, same.symm⟩, fun h => h.2.symm⟩
  | cons entry rest ih =>
      simp only [flattenEntries, memberRows, fresh_cons]
      by_cases old : entry.id ∈ flat.entries
      · simp [old]
      · simp only [Std.ExtTreeMap.contains_iff_mem, old, not_false_eq_true, true_and, if_false, ih]
        rfl

mutual
theorem flattenGroup_ok {parent : Option Uuid} {order : Nat} {side : String} :
    ∀ (group : Group) {flat flat' : FlatVault},
      flattenGroup parent order side group flat = .ok flat' ↔
        Fresh (groupRows parent order group) flat.groups ∧ Fresh (entryRows group) flat.entries ∧
          flat' = flat.addRows (groupRows parent order group) (entryRows group)
  | ⟨fields, entries, children⟩, flat, flat' => by
      simp only [flattenGroup, groupRows, entryRows, fresh_cons, fresh_append]
      by_cases old : fields.id ∈ flat.groups
      · simp [old]
      · simp only [Std.ExtTreeMap.contains_iff_mem, old, not_false_eq_true, true_and, if_false,
          Fallible.bind_ok, flattenEntries_ok, flattenChildren_ok children]
        constructor
        · rintro ⟨_, ⟨members, rfl⟩, groups, below, rfl⟩
          exact ⟨groups, ⟨members, below⟩, by rw [FlatVault.addRows_append]; rfl⟩
        · rintro ⟨groups, ⟨members, below⟩, rfl⟩
          exact ⟨_, ⟨members, rfl⟩, groups, below, by rw [FlatVault.addRows_append]; rfl⟩

theorem flattenChildren_ok {parent : Uuid} {order : Nat} {side : String} :
    ∀ (children : List Group) {flat flat' : FlatVault},
      flattenChildren (some parent) order side children flat = .ok flat' ↔
        Fresh (childRows parent order children) flat.groups ∧ Fresh (childEntryRows children) flat.entries ∧
          flat' = flat.addRows (childRows parent order children) (childEntryRows children)
  | [], flat, flat' => by
      simp only [flattenChildren, Except.ok.injEq, childRows, childEntryRows]
      exact ⟨fun same => ⟨fresh_nil _, fresh_nil _, same.symm⟩, fun h => h.2.2.symm⟩
  | child :: rest, flat, flat' => by
      simp only [flattenChildren, childRows, childEntryRows, fresh_append, Fallible.bind_ok,
        flattenGroup_ok child, flattenChildren_ok rest]
      constructor
      · rintro ⟨_, ⟨groups, entries, rfl⟩, laterGroups, laterEntries, rfl⟩
        exact ⟨⟨groups, laterGroups⟩, ⟨entries, laterEntries⟩, by rw [FlatVault.addRows_append]⟩
      · rintro ⟨⟨groups, laterGroups⟩, ⟨entries, laterEntries⟩, rfl⟩
        exact ⟨_, ⟨groups, entries, rfl⟩, laterGroups, laterEntries, by rw [FlatVault.addRows_append]⟩
end

theorem flattenVault_ok {vault : Vault} {side : String} {flat : FlatVault} :
    flattenVault vault side = .ok flat ↔ vault.UniqueIds ∧ flat = vault.flat := by
  rw [flattenVault, flattenGroup_ok, fresh_empty, fresh_empty]
  constructor
  · rintro ⟨groups, entries, rfl⟩
    exact ⟨⟨groups, entries⟩, rfl⟩
  · rintro ⟨⟨groups, entries⟩, rfl⟩
    exact ⟨groups, entries, rfl⟩

end VaultKern
