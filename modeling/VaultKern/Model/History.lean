import VaultKern.Model.Types

/-! # History snapshots

A snapshot is an entry without history of its own. Removing the `History` node
moves the anchors that pointed at it to the node before it.
-/

namespace VaultKern

/-- Running state of a walk over a node order that drops some nodes: how often
    each kept name occurred, and the anchor of the last kept node. -/
structure NodeWalk where
  counts : BTreeMap String Nat := ∅
  lastAnchor : Option OpaqueXmlAnchor := none

def NodeWalk.keep (walk : NodeWalk) (name : String) : NodeWalk :=
  let occurrence := walk.counts[name]?.getD 0 + 1
  { counts := walk.counts.insert name occurrence
    lastAnchor := some { elementName := name, occurrence } }

/-- For each occurrence of `elementName`, the anchor of the node kept before it. -/
def removedNodeReplacements (elementName : String) (walk : NodeWalk) :
    List String → List (Option OpaqueXmlAnchor)
  | [] => []
  | name :: rest =>
      if name = elementName then walk.lastAnchor :: removedNodeReplacements elementName walk rest
      else removedNodeReplacements elementName (walk.keep name) rest

/-- An anchor at `elementName` moves to its replacement; other anchors stay. -/
def replaceAnchor (elementName : String) (replacements : List (Option OpaqueXmlAnchor)) :
    Option OpaqueXmlAnchor → Option OpaqueXmlAnchor
  | none => none
  | some existing =>
      if existing.elementName ≠ elementName then some existing
      else if existing.occurrence = 0 then none
      else replacements[existing.occurrence - 1]?.join

def retargetOpaqueXml (retarget : Option OpaqueXmlAnchor → Option OpaqueXmlAnchor)
    (fragments : List OpaqueXmlFragment) : List OpaqueXmlFragment :=
  fragments.map fun fragment => { fragment with after := retarget fragment.after }

def retargetBlocks (retarget : Option OpaqueXmlAnchor → Option OpaqueXmlAnchor)
    (blocks : List CustomDataBlock) : List CustomDataBlock :=
  blocks.map fun block => { block with after := retarget block.after }

def retargetRemovedEntryKnownNodes (entry : Entry) (elementName : String) : Entry :=
  let replacements := removedNodeReplacements elementName {} entry.rawState.nodeOrder
  { entry with
    customDataBlocks := retargetBlocks (replaceAnchor elementName replacements) entry.customDataBlocks
    opaqueXml := retargetOpaqueXml (replaceAnchor elementName replacements) entry.opaqueXml
    rawState :=
      { entry.rawState with nodeOrder := entry.rawState.nodeOrder.filter (· ≠ elementName) } }

def prepareEntryHistorySnapshot (entry : Entry) : Entry :=
  let cleared := { entry with history := [] }
  let retargeted :=
    if cleared.rawState.hasHistoryNode || cleared.rawState.nodeOrder.contains "History" then
      retargetRemovedEntryKnownNodes cleared "History"
    else cleared
  { retargeted with rawState := { retargeted.rawState with hasHistoryNode := false } }

end VaultKern
