import VaultKern.Lib.SiblingList
import VaultKern.Patch.MergeGroup

/-! # Sibling orders

A merge keeps the remote order of the siblings it shares with the remote side and
splices in the siblings whose place the local side decided. A local reordering of
siblings that all three sides share has no such reading and is refused.
-/

namespace VaultKern

open ThreeWayPatchError

/-- Rows that stand at some place below a parent. -/
class SiblingRow (R : Type) where
  parent? : R → Option Uuid
  order : R → Nat
  setOrder : Nat → R → R
  parent_setOrder : ∀ index row, parent? (setOrder index row) = parent? row
  order_setOrder : ∀ index row, order (setOrder index row) = index
  setOrder_setOrder : ∀ index earlier row, setOrder index (setOrder earlier row) = setOrder index row
  setOrder_order : ∀ row, setOrder (order row) row = row

attribute [simp] SiblingRow.parent_setOrder SiblingRow.order_setOrder SiblingRow.setOrder_setOrder
  SiblingRow.setOrder_order

instance : SiblingRow FlatEntry where
  parent? row := some row.parent
  order := FlatEntry.order
  setOrder index row := { row with order := index }
  parent_setOrder _ _ := rfl
  order_setOrder _ _ := rfl
  setOrder_setOrder _ _ _ := rfl
  setOrder_order _ := rfl

instance : SiblingRow FlatGroup where
  parent? := FlatGroup.parent
  order := FlatGroup.order
  setOrder index row := { row with order := index }
  parent_setOrder _ _ := rfl
  order_setOrder _ _ := rfl
  setOrder_setOrder _ _ _ := rfl
  setOrder_order _ := rfl

section Rows

variable {R : Type} [SiblingRow R]

open SiblingRow

/-- `ordered_entry_ids` and `ordered_group_ids`: the included rows below a parent, by
    their order and then by id. -/
def orderedIds (rows : BTreeMap Uuid R) (parent : Uuid) (included : Uuid → Bool) : List Uuid :=
  SiblingList.sortByOrder
    ((rows.toList.filter fun (id, row) => parent? row = some parent && included id).map
      fun (id, row) => (order row, id))

/-- The entry of `sibling_orders` for one parent. -/
def siblingOrder (rows : BTreeMap Uuid R) (parent : Uuid) : List Uuid :=
  orderedIds rows parent fun _ => true

/-- The ids below a parent, as a sorted list. -/
def siblingIds (rows : BTreeMap Uuid R) (parent : Uuid) : List Uuid :=
  (rows.toList.filter fun (_, row) => parent? row = some parent).map Prod.fst

end Rows

/-! ## The gate -/

def ensureLocalSiblingOrder (parent : Uuid) (object : String) (base local' remote : List Uuid) :
    Except ThreeWayPatchError Unit :=
  let shared := base.filter fun id => local'.contains id && remote.contains id
  let retainShared := fun order : List Uuid => order.filter shared.contains
  if retainShared local' ≠ retainShared base && retainShared local' ≠ retainShared remote then
    .error (siblingOrderChange parent object)
  else .ok ()

def ensureLocalSiblingOrderRepresentable (base local' remote : FlatVault) :
    Except ThreeWayPatchError Unit :=
  base.groups.keys.forM fun parent => do
    ensureLocalSiblingOrder parent "entry" (siblingOrder base.entries parent)
      (siblingOrder local'.entries parent) (siblingOrder remote.entries parent)
    ensureLocalSiblingOrder parent "group" (siblingOrder base.groups parent)
      (siblingOrder local'.groups parent) (siblingOrder remote.groups parent)

/-! ## Rebasing -/

def entryOrderPrefersLocal (id : Uuid) (base local' remote : FlatVault)
    (merged : BTreeMap Uuid FlatEntry) : Bool :=
  match local'.entries[id]?, merged[id]? with
  | some localEntry, some mergedEntry =>
      if localEntry.parent ≠ mergedEntry.parent then false
      else match remote.entries[id]? with
        | none => true
        | some remoteEntry =>
            match base.entries[id]? with
            | none => false
            | some baseEntry =>
                (mergeLocation baseEntry.parent localEntry.parent remoteEntry.parent
                  localEntry.value.locationChangedAt remoteEntry.value.locationChangedAt).prefersLocal
  | _, _ => false

def groupOrderPrefersLocal (id : Uuid) (base local' remote : FlatVault)
    (merged : BTreeMap Uuid FlatGroup) : Bool :=
  match local'.groups[id]?, merged[id]? with
  | some localGroup, some mergedGroup =>
      if localGroup.parent ≠ mergedGroup.parent then false
      else match remote.groups[id]? with
        | none => true
        | some remoteGroup =>
            match base.groups[id]? with
            | none => false
            | some baseGroup =>
                match baseGroup.parent, localGroup.parent, remoteGroup.parent with
                | some baseParent, some localParent, some remoteParent =>
                    (mergeLocation baseParent localParent remoteParent
                      (groupLocationChangedAt localGroup.value)
                      (groupLocationChangedAt remoteGroup.value)).prefersLocal
                | _, _, _ => false
  | _, _ => false

/-- Two neighbours of the local order, one of them placed by it, that end up out of order. -/
def placedOutOfOrder (order preferLocal : List Uuid) (first second : Uuid) : Bool :=
  (preferLocal.contains first || preferLocal.contains second) && order.idxOf first ≥ order.idxOf second

def rebaseSiblingOrder (parent : Uuid) (object : String) (finalIds localOrder remoteOrder preferLocal : List Uuid) :
    Except ThreeWayPatchError (List Uuid) :=
  let order := SiblingList.spliceInto preferLocal.contains localOrder
    (remoteOrder.filter fun id => !preferLocal.contains id) []
  if order.length ≠ finalIds.length || !(order.all finalIds.contains && finalIds.all order.contains) then
    .error (siblingOrderChange parent object)
  else if (localOrder.zip localOrder.tail).any fun (first, second) =>
      placedOutOfOrder order preferLocal first second then
    .error (siblingOrderChange parent object)
  else .ok order

section Reconcile

variable {R : Type} [SiblingRow R]

open SiblingRow

def setOrders (order : List Uuid) (rows : BTreeMap Uuid R) : BTreeMap Uuid R :=
  order.zipIdx.foldl (fun rows (id, index) => rows.modify id (setOrder index)) rows

/-- The rebased order below one parent of the merged rows. -/
def rebasedOrder (object : String) (prefersLocal : BTreeMap Uuid R → Uuid → Bool)
    (localRows remoteRows merged : BTreeMap Uuid R) (parent : Uuid) :
    Except ThreeWayPatchError (List Uuid) :=
  let finalIds := siblingIds merged parent
  rebaseSiblingOrder parent object finalIds (orderedIds localRows parent finalIds.contains)
    (orderedIds remoteRows parent finalIds.contains) (finalIds.filter (prefersLocal merged))

/-- The parents of the merged rows, sorted. -/
def rowParents (rows : BTreeMap Uuid R) : List Uuid :=
  (Std.ExtTreeSet.ofList (rows.toList.filterMap fun (_, row) => parent? row) compare).toList

/-- One parent of the loop. -/
def reconcileStep (object : String) (prefersLocal : BTreeMap Uuid R → Uuid → Bool)
    (localRows remoteRows merged : BTreeMap Uuid R) (parent : Uuid) :
    Except ThreeWayPatchError (BTreeMap Uuid R) := do
  let order ← rebasedOrder object prefersLocal localRows remoteRows merged parent
  return setOrders order merged

def reconcileSiblingOrders (object : String) (prefersLocal : BTreeMap Uuid R → Uuid → Bool)
    (localRows remoteRows merged : BTreeMap Uuid R) : Except ThreeWayPatchError (BTreeMap Uuid R) :=
  (rowParents merged).foldlM (reconcileStep object prefersLocal localRows remoteRows) merged

end Reconcile

def reconcileEntrySiblingOrders (base local' remote : FlatVault) (merged : BTreeMap Uuid FlatEntry) :
    Except ThreeWayPatchError (BTreeMap Uuid FlatEntry) :=
  reconcileSiblingOrders "entry" (fun merged id => entryOrderPrefersLocal id base local' remote merged)
    local'.entries remote.entries merged

def reconcileGroupSiblingOrders (base local' remote : FlatVault) (merged : BTreeMap Uuid FlatGroup) :
    Except ThreeWayPatchError (BTreeMap Uuid FlatGroup) :=
  reconcileSiblingOrders "group" (fun merged id => groupOrderPrefersLocal id base local' remote merged)
    local'.groups remote.groups merged

end VaultKern
