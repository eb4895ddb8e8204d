import VaultKern.Model.Types

/-! # Flat vaults

The patch works on a vault as two tables, one row per entry and per group, each
with its parent and its place among its siblings. Flattening rejects repeated
ids; group rows hold the group without its members.
-/

namespace VaultKern

inductive ThreeWayPatchError where
  | rootLineageMismatch
  | duplicateEntry (side : String) (id : Uuid)
  | duplicateGroup (side : String) (id : Uuid)
  | duplicateCustomIcon (side : String) (id : Uuid)
  | duplicateDeletedObject (side : String) (id : Uuid)
  | concurrentObjectAddition (id : Uuid)
  | missingParent (id : Uuid)
  | groupCycle (id : Uuid)
  | fidelityConflict (object : String) (id : Option Uuid) (field : String)
  | siblingOrderChange (parent : Uuid) (object : String)
  deriving DecidableEq

structure FlatEntry where
  value : Entry
  parent : Uuid
  order : Nat
  deriving DecidableEq

structure FlatGroup where
  value : Group
  parent : Option Uuid
  order : Nat
  deriving DecidableEq

structure FlatVault where
  rootId : Uuid
  entries : BTreeMap Uuid FlatEntry := ∅
  groups : BTreeMap Uuid FlatGroup := ∅

/-- The group without its members. -/
def Group.shell (group : Group) : Group := { group with entries := [], children := [] }

/-! ## Flattening -/

def flattenEntries (parent : Uuid) (side : String) :
    List Entry → Nat → FlatVault → Except ThreeWayPatchError FlatVault
  | [], _, flat => .ok flat
  | entry :: rest, order, flat =>
      if flat.entries.contains entry.id then .error (.duplicateEntry side entry.id)
      else flattenEntries parent side rest (order + 1)
        { flat with entries := flat.entries.insert entry.id { value := entry, parent, order } }

mutual
def flattenGroup (parent : Option Uuid) (order : Nat) (side : String) :
    Group → FlatVault → Except ThreeWayPatchError FlatVault
  | ⟨fields, entries, children⟩, flat =>
      if flat.groups.contains fields.id then .error (.duplicateGroup side fields.id)
      else do
        let shell : Group := ⟨fields, [], []⟩
        let flat :=
          { flat with groups := flat.groups.insert fields.id { value := shell, parent, order } }
        let flat ← flattenEntries fields.id side entries 0 flat
        flattenChildren (some fields.id) 0 side children flat

def flattenChildren (parent : Option Uuid) (order : Nat) (side : String) :
    List Group → FlatVault → Except ThreeWayPatchError FlatVault
  | [], flat => .ok flat
  | child :: rest, flat => do
      let flat ← flattenGroup parent order side child flat
      flattenChildren parent (order + 1) side rest flat
end

def flattenVault (vault : Vault) (side : String) : Except ThreeWayPatchError FlatVault :=
  flattenGroup none 0 side vault.root { rootId := vault.root.id }

/-! ## Walking up -/

namespace FlatVault

variable (flat : FlatVault)

/-- The parent of a group that the table has. -/
def parentOf (id : Uuid) : Option Uuid := flat.groups[id]?.bind (·.parent)

/-- The loop of `group_is_below_or_same`. Every pass marks one more group as
    visited, so one pass more than there are groups is enough. -/
def climbTo (ancestor : Uuid) : Nat → BTreeSet Uuid → Uuid → Bool
  | 0, _, _ => false
  | fuel + 1, visited, candidate =>
      if candidate = ancestor then true
      else if visited.contains candidate then false
      else match flat.parentOf candidate with
        | none => false
        | some parent => climbTo ancestor fuel (visited.insert candidate) parent

def groupIsBelowOrSame (candidate ancestor : Uuid) : Bool :=
  flat.climbTo ancestor (flat.groups.size + 2) ∅ candidate

def groupIsBelow (candidate ancestor : Uuid) : Bool :=
  candidate ≠ ancestor && flat.groupIsBelowOrSame candidate ancestor

end FlatVault

/-! ## Comparing rows -/

def sameEntryRecord (left right : FlatEntry) : Bool :=
  left.parent = right.parent && left.value = right.value

def sameGroupRecord (left right : FlatGroup) : Bool :=
  left.parent = right.parent && left.value = right.value

/-- The row of `left` has an equal row under the same id in `right`. -/
def entryKeptIn (right : FlatVault) (id : Uuid) (entry : FlatEntry) : Bool :=
  right.entries[id]?.any (sameEntryRecord entry)

def groupKeptIn (right : FlatVault) (id : Uuid) (group : FlatGroup) : Bool :=
  right.groups[id]?.any (sameGroupRecord group)

/-- Whether anything at or below the group differs between the base and a side. -/
def subtreeChanged (base side : FlatVault) (root : Uuid) : Bool :=
  match base.groups[root]? with
  | none => true
  | some baseRoot =>
      !groupKeptIn side root baseRoot
        || base.groups.toList.any (fun (id, group) =>
          id ≠ root && base.groupIsBelow id root && !groupKeptIn side id group)
        || base.entries.toList.any (fun (id, entry) =>
          base.groupIsBelowOrSame entry.parent root && !entryKeptIn side id entry)
        || side.groups.toList.any (fun (id, group) =>
          side.groupIsBelowOrSame id root && !groupKeptIn base id group)
        || side.entries.toList.any (fun (id, entry) =>
          side.groupIsBelowOrSame entry.parent root && !entryKeptIn base id entry)

/-- Groups deleted on the other side whose subtree the survivor changed. -/
def changedSubtreesDeletedFromOther (base survivor other : FlatVault) : List Uuid :=
  base.groups.keys.filter fun id =>
    survivor.groups.contains id && !other.groups.contains id && subtreeChanged base survivor id

def belongsToPreservedSubtree (groupId : Uuid) (survivor : FlatVault) (preservedSubtrees : List Uuid) :
    Bool :=
  preservedSubtrees.any fun root => survivor.groupIsBelowOrSame groupId root

def subtreeGroups (flat : FlatVault) (root : Uuid) : List (Uuid × Option Uuid × Group) :=
  (flat.groups.toList.filter fun (id, _) => flat.groupIsBelowOrSame id root).map
    fun (id, group) => (id, group.parent, group.value)

def subtreeEntries (flat : FlatVault) (root : Uuid) : List (Uuid × Uuid × Entry) :=
  (flat.entries.toList.filter fun (_, entry) => flat.groupIsBelowOrSame entry.parent root).map
    fun (id, entry) => (id, entry.parent, entry.value)

def subtreesEqual (left right : FlatVault) (root : Uuid) : Bool :=
  subtreeGroups left root = subtreeGroups right root
    && subtreeEntries left root = subtreeEntries right root

end VaultKern
