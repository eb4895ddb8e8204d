import VaultKern.Model.Credentials
import VaultKern.Model.History

/-! # Normalizing tracked slots

`node_order` remembers where the keyed children of an element stood, and a list of
identities says which child owns which slot. After a merge the slots whose owner
is gone are dropped, and anchors that pointed at them move to the node before.
-/

namespace VaultKern

section Slots

variable {T : Type} [DecidableEq T] [Ord T] [Std.TransOrd T]

/-- State of the walk: what is kept so far, and one replacement anchor per slot.
    The kept owners double as the set of owners already seen. -/
structure SlotScan (T : Type) where
  nodeOrder : List String := []
  tracked : List T := []
  replacements : List (Option OpaqueXmlAnchor) := []
  walk : NodeWalk := {}

def scanSlots (element : String) (current : BTreeSet T) :
    (nodes : List String) → (owners : List T) → SlotScan T → SlotScan T
  | [], _, scan => scan
  | name :: nodes, owners, scan =>
      if name = element then
        let keeps := owners.head?.filter fun owner =>
          current.contains owner && !scan.tracked.contains owner
        match keeps with
        | some owner =>
            let walk := scan.walk.keep name
            scanSlots element current nodes owners.tail
              { nodeOrder := scan.nodeOrder ++ [name]
                tracked := scan.tracked ++ [owner]
                replacements := scan.replacements ++ [walk.lastAnchor]
                walk }
        | none =>
            scanSlots element current nodes owners.tail
              { scan with replacements := scan.replacements ++ [scan.walk.lastAnchor] }
      else
        scanSlots element current nodes owners
          { scan with nodeOrder := scan.nodeOrder ++ [name], walk := scan.walk.keep name }

/-- The four fields `retain_tracked_slots` rewrites. -/
structure TrackedSlots (T : Type) where
  nodeOrder : List String
  tracked : List T
  opaqueXml : List OpaqueXmlFragment
  customDataBlocks : List CustomDataBlock

def retainTrackedSlots (element : String) (current : BTreeSet T) (slots : TrackedSlots T) :
    TrackedSlots T :=
  let scan := scanSlots element current slots.nodeOrder slots.tracked {}
  { nodeOrder := scan.nodeOrder
    tracked := scan.tracked
    opaqueXml := retargetOpaqueXml (replaceAnchor element scan.replacements) slots.opaqueXml
    customDataBlocks := retargetBlocks (replaceAnchor element scan.replacements) slots.customDataBlocks }

end Slots

/-! ## Entries -/

def standardEntryFieldNames : List String := ["Title", "UserName", "Password", "URL", "Notes"]

def entryStringKeys (entry : Entry) : BTreeSet String :=
  Std.ExtTreeSet.ofList
    (standardEntryFieldNames ++ (materializeEntryPersistentAttributes entry).keys) compare

def entryBinaryNames (entry : Entry) : BTreeSet String :=
  Std.ExtTreeSet.ofList entry.attachments.keys compare

def normalizeEntryStringSlots (entry : Entry) : Entry :=
  let slots := retainTrackedSlots "String" (entryStringKeys entry)
    { nodeOrder := entry.rawState.nodeOrder
      tracked := entry.rawState.stringOrder
      opaqueXml := entry.opaqueXml
      customDataBlocks := entry.customDataBlocks }
  { entry with
    rawState := { entry.rawState with nodeOrder := slots.nodeOrder, stringOrder := slots.tracked }
    opaqueXml := slots.opaqueXml
    customDataBlocks := slots.customDataBlocks }

def normalizeEntryBinarySlots (entry : Entry) : Entry :=
  let slots := retainTrackedSlots "Binary" (entryBinaryNames entry)
    { nodeOrder := entry.rawState.nodeOrder
      tracked := entry.rawState.binaryOrder
      opaqueXml := entry.opaqueXml
      customDataBlocks := entry.customDataBlocks }
  { entry with
    rawState := { entry.rawState with nodeOrder := slots.nodeOrder, binaryOrder := slots.tracked }
    opaqueXml := slots.opaqueXml
    customDataBlocks := slots.customDataBlocks }

def normalizeEntrySlots (entry : Entry) : Entry :=
  normalizeEntryBinarySlots (normalizeEntryStringSlots entry)

/-! ## Groups -/

def normalizeGroupEntrySlots (entryIds : BTreeSet Uuid) (group : Group) : Group :=
  let slots := retainTrackedSlots "Entry" entryIds
    { nodeOrder := group.rawState.nodeOrder
      tracked := group.rawState.entryOrder
      opaqueXml := group.opaqueXml
      customDataBlocks := group.customDataBlocks }
  { group with
    rawState := { group.rawState with nodeOrder := slots.nodeOrder, entryOrder := slots.tracked }
    opaqueXml := slots.opaqueXml
    customDataBlocks := slots.customDataBlocks }

def normalizeGroupChildSlots (groupIds : BTreeSet Uuid) (group : Group) : Group :=
  let slots := retainTrackedSlots "Group" groupIds
    { nodeOrder := group.rawState.nodeOrder
      tracked := group.rawState.groupOrder
      opaqueXml := group.opaqueXml
      customDataBlocks := group.customDataBlocks }
  { group with
    rawState := { group.rawState with nodeOrder := slots.nodeOrder, groupOrder := slots.tracked }
    opaqueXml := slots.opaqueXml
    customDataBlocks := slots.customDataBlocks }

/-- Normalize the slots of a group for given members. -/
def normalizeGroupSlotsFor (entryIds groupIds : BTreeSet Uuid) (group : Group) : Group :=
  normalizeGroupChildSlots groupIds (normalizeGroupEntrySlots entryIds group)

def normalizeGroupSlots (group : Group) : Group :=
  normalizeGroupSlotsFor (Std.ExtTreeSet.ofList (group.entries.map (·.id)) compare)
    (Std.ExtTreeSet.ofList (group.children.map (·.id)) compare) group

/-! ## What normalization leaves alone -/

/-- The record without slot lists and anchors. -/
def Entry.withoutSlots (entry : Entry) : Entry :=
  { entry with
    rawState := { entry.rawState with nodeOrder := [], stringOrder := [], binaryOrder := [] }
    opaqueXml := retargetOpaqueXml (fun _ => none) entry.opaqueXml
    customDataBlocks := retargetBlocks (fun _ => none) entry.customDataBlocks }

def Group.withoutSlots (group : Group) : Group :=
  { group with
    rawState := { group.rawState with nodeOrder := [], entryOrder := [], groupOrder := [] }
    opaqueXml := retargetOpaqueXml (fun _ => none) group.opaqueXml
    customDataBlocks := retargetBlocks (fun _ => none) group.customDataBlocks }

@[simp] theorem retargetOpaqueXml_comp (outer inner : Option OpaqueXmlAnchor → Option OpaqueXmlAnchor)
    (fragments : List OpaqueXmlFragment) :
    retargetOpaqueXml outer (retargetOpaqueXml inner fragments) =
      retargetOpaqueXml (fun anchor => outer (inner anchor)) fragments := by
  simp [retargetOpaqueXml, List.map_map, Function.comp_def]

@[simp] theorem retargetBlocks_comp (outer inner : Option OpaqueXmlAnchor → Option OpaqueXmlAnchor)
    (blocks : List CustomDataBlock) :
    retargetBlocks outer (retargetBlocks inner blocks) =
      retargetBlocks (fun anchor => outer (inner anchor)) blocks := by
  simp [retargetBlocks, List.map_map, Function.comp_def]

end VaultKern
