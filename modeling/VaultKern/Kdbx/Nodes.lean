import VaultKern.Kdbx.Text
import VaultKern.Lib.Fallible
import VaultKern.Lib.NamedNodes
import VaultKern.Lib.XmlTree
import VaultKern.Model.CustomData
import VaultKern.Core.KeyedNodes

/-! # The children of a scope

A scope of the document is an element with known children, CustomData blocks between
them and unknown fragments behind them. A block or a fragment says where it stands by
an anchor: the known child before it, by name and occurrence.

The writer makes a list of known elements, puts the blocks in, restores the recorded
order and puts the fragments back; the reader collects what it finds.
-/

namespace VaultKern.Kdbx

/-- The anchor of the last of the children met so far. -/
def lastAnchor (seen : List String) : Option OpaqueXmlAnchor :=
  seen.getLast?.map fun elementName => { elementName, occurrence := seen.count elementName }

/-! ## Known names -/

def metaKnownChildNames : List String :=
  ["Generator", "SettingsChanged", "DatabaseName", "DatabaseNameChanged", "HeaderHash", "Binaries",
    "DatabaseDescription", "DatabaseDescriptionChanged", "DefaultUserName", "DefaultUserNameChanged",
    "MaintenanceHistoryDays", "Color", "MemoryProtection", "CustomIcons", "RecycleBinEnabled", "RecycleBinUUID",
    "RecycleBinChanged", "EntryTemplatesGroup", "EntryTemplatesGroupChanged", "MasterKeyChanged",
    "MasterKeyChangeRec", "MasterKeyChangeForce", "MasterKeyChangeForceOnce", "LastSelectedGroup",
    "LastTopVisibleGroup", "HistoryMaxItems", "HistoryMaxSize", "CustomData"]

def rootKnownChildNames : List String := ["Group", "DeletedObjects"]

def groupKnownChildNames : List String :=
  ["UUID", "Name", "Notes", "IconID", "CustomIconUUID", "Tags", "Times", "IsExpanded", "DefaultAutoTypeSequence",
    "EnableAutoType", "EnableSearching", "LastTopVisibleEntry", "CustomData", "PreviousParentGroup", "Entry", "Group"]

def entryKnownChildNames : List String :=
  ["UUID", "IconID", "CustomIconUUID", "ForegroundColor", "BackgroundColor", "OverrideURL", "Tags",
    "PreviousParentGroup", "QualityCheck", "Times", "String", "Binary", "AutoType", "CustomData", "History"]

def knownChildNameForScope (parent child : String) : Bool :=
  match parent with
  | "Meta" => child ∈ metaKnownChildNames
  | "Root" => child ∈ rootKnownChildNames
  | "Group" => child ∈ groupKnownChildNames
  | "Entry" => child ∈ entryKnownChildNames
  | _ => false

/-! ## Writing CustomData blocks -/

/-- One child with a text for each field that has one. -/
def textFields (fields : List (String × Option String)) : List Element :=
  fields.filterMap fun (name, text) => text.map (Element.ofText name)

def customDataItemToXml (item : CustomDataItem) (version : KdbxVersion) : Element :=
  .ofElements "Item" (textFields [
    ("Key", some item.key),
    ("Value", some item.value),
    ("LastModificationTime", if version = .v4_1 then item.lastModified.map datetimeText else none)])

def customDataBlockToXml (block : CustomDataBlock) (version : KdbxVersion) : Element :=
  .ofElements "CustomData" (block.items.map (customDataItemToXml · version))

def customDataToXml (customData : BTreeMap String String) : Element :=
  .ofElements "CustomData" (customData.toList.map fun (key, value) =>
    .ofElements "Item" (textFields [("Key", some key), ("Value", some value)]))

def xmlAnchorIndex (children : List Element) (anchor : OpaqueXmlAnchor) : Option Nat :=
  nthOccurrence anchor.elementName anchor.occurrence (children.map Element.name)

/-- Where a block of that anchor goes. -/
def desiredIndex (children : List Element) (after : Option OpaqueXmlAnchor) : Except KdbxError Nat :=
  match after with
  | some anchor =>
      match xmlAnchorIndex children anchor with
      | some index => .ok (index + 1)
      | none => .error .invalidValue
  | none => .ok 0

def insertBlocks (version : KdbxVersion) : List CustomDataBlock → Nat → List Element →
    Except KdbxError (List Element)
  | [], _, children => .ok children
  | block :: blocks, minimumInsertionIndex, children => do
      let desired ← desiredIndex children block.after
      if desired < minimumInsertionIndex then .error .invalidValue
      else
        let insertionIndex := min desired children.length
        insertBlocks version blocks (insertionIndex + 1)
          (children.insertIdx insertionIndex (customDataBlockToXml block version))

def appendCustomDataBlocks (children : List Element) (blocks : List CustomDataBlock)
    (merged : BTreeMap String String) (version : KdbxVersion) : Except KdbxError (List Element) :=
  if version ≠ .v4_0 ∧ version ≠ .v4_1 then .ok children
  else if blocks.isEmpty then
    .ok (if merged.isEmpty then children else children ++ [customDataToXml merged])
  else if mergeCustomDataBlocks blocks ≠ merged then .error .invalidValue
  else insertBlocks version blocks 0 children

/-- The loop of `validate_custom_data_block_positions`. -/
def checkBlockPositions (seen : List String) : List Element → List CustomDataBlock → Except KdbxError Unit
  | [], blocks => if blocks.isEmpty then .ok () else .error .invalidValue
  | child :: rest, blocks =>
      if child.name = "CustomData" then
        match blocks with
        | [] => .error .invalidValue
        | block :: later =>
            if block.after ≠ lastAnchor seen then .error .invalidValue
            else checkBlockPositions (seen ++ [child.name]) rest later
      else checkBlockPositions (seen ++ [child.name]) rest blocks

def validateCustomDataBlockPositions (children : List Element) (blocks : List CustomDataBlock) :
    Except KdbxError Unit :=
  if blocks.isEmpty then .ok () else checkBlockPositions [] children blocks

def reorderKnownXmlNodes (children : List Element) (originalOrder : List String) : List Element :=
  NamedNodes.reorder Element.name originalOrder children

/-! ## Writing unknown fragments -/

section Fragments

variable (xml : XmlLibrary)

def parseXmlFragment (fragment : String) : Except KdbxError Element :=
  match xml.parse fragment.toUTF8.toList with
  | .ok element => .ok element
  | .error message => .error (.xml message)

def elementToXmlString (element : Element) : Except KdbxError String :=
  match xml.write element with
  | .error message => .error (.xml message)
  | .ok bytes =>
      match String.fromUTF8? ⟨bytes.toArray⟩ with
      | some text => .ok text
      | none => .error .invalidValue

/-- The fragments with their elements. A fragment must not pass for a known child. -/
def parseFragments (scope : String) : List OpaqueXmlFragment → Except KdbxError (List (Option OpaqueXmlAnchor × Element))
  | [] => .ok []
  | fragment :: rest => do
      let element ← parseXmlFragment xml fragment.xml
      if knownChildNameForScope scope element.name then .error .invalidValue
      else
        let later ← parseFragments scope rest
        .ok ((fragment.after, element) :: later)

/-- The children, each followed by the fragments anchored at it, and the fragments left. -/
def spliceAnchored (seen : List String) : List Element → List (Option OpaqueXmlAnchor × Element) →
    List Element × List (Option OpaqueXmlAnchor × Element)
  | [], anchored => ([], anchored)
  | child :: rest, anchored =>
      let here := anchored.filter fun fragment => fragment.1 = lastAnchor (seen ++ [child.name])
      let others := anchored.filter fun fragment => fragment.1 ≠ lastAnchor (seen ++ [child.name])
      let later := spliceAnchored (seen ++ [child.name]) rest others
      (child :: here.map Prod.snd ++ later.1, later.2)

def appendOpaqueXml (scope : String) (children : List Element) (opaqueXml : List OpaqueXmlFragment) :
    Except KdbxError (List Element) := do
  let fragments ← parseFragments xml scope opaqueXml
  let first := fragments.filter fun fragment => fragment.1.isNone
  let spliced := spliceAnchored [] children (fragments.filter fun fragment => fragment.1.isSome)
  if spliced.2.isEmpty then .ok (first.map Prod.snd ++ spliced.1) else .error .invalidValue

/-! ## Reading a scope -/

/-- The fragments of a scope: the children with no known name. -/
def collectOpaqueXml (known : List String) : List String → List Element → Except KdbxError (List OpaqueXmlFragment)
  | _, [] => .ok []
  | seen, child :: rest =>
      if child.name ∈ known then collectOpaqueXml known (seen ++ [child.name]) rest
      else do
        let text ← elementToXmlString xml child
        let later ← collectOpaqueXml known seen rest
        .ok ({ xml := text, after := lastAnchor seen } :: later)

end Fragments

def collectKnownNodeOrder (known : List String) (element : Element) : List String :=
  (element.elements.map Element.name).filter fun name => name ∈ known

def childText (element : Element) (name : String) : Option String :=
  (element.childOptional name).bind Element.getText

def childTextPreserveEmpty (element : Element) (name : String) : Option String :=
  (element.childOptional name).map fun child => child.getText.getD ""

def child (element : Element) (name : String) : Except KdbxError Element :=
  match element.childOptional name with
  | some found => .ok found
  | none => .error .invalidValue

section Items

variable (rfc3339 : String → Option Int)

def parseCustomDataItem (item : Element) : Option CustomDataItem :=
  if item.name ≠ "Item" then none
  else (childText item "Key").map fun key =>
    { key
      value := (childText item "Value").getD ""
      lastModified := (childText item "LastModificationTime").bind (parseOptionalDatetime rfc3339) }

def parseCustomDataItems (customData : Element) : List CustomDataItem :=
  customData.elements.filterMap (parseCustomDataItem rfc3339)

def parseCustomDataBlocks (known : List String) : List String → List Element → List CustomDataBlock
  | _, [] => []
  | seen, child :: rest =>
      if child.name = "CustomData" then
        { items := parseCustomDataItems rfc3339 child, after := lastAnchor seen } ::
          parseCustomDataBlocks known (seen ++ [child.name]) rest
      else if child.name ∈ known then parseCustomDataBlocks known (seen ++ [child.name]) rest
      else parseCustomDataBlocks known seen rest

/-- `parse_custom_data_blocks_with_known_children`. -/
def parseCustomDataBlocksWithKnownChildren (element : Element) (known : List String) :
    BTreeMap String String × List CustomDataBlock :=
  let blocks := parseCustomDataBlocks rfc3339 known [] element.elements
  (mergeCustomDataBlocks blocks, blocks)

end Items

/-! ## Nodes that the model does not keep -/

/-- The anchor of the node before the removed one. -/
def predecessorAnchor (nodeOrder : List String) (removed : OpaqueXmlAnchor) :
    Except KdbxError (Option OpaqueXmlAnchor) :=
  match nthOccurrence removed.elementName removed.occurrence nodeOrder with
  | none => .error .invalidValue
  | some index => .ok (lastAnchor (nodeOrder.take index))

/-- What the passes over a scope change. -/
structure ScopeNodes where
  customDataBlocks : List CustomDataBlock
  opaqueXml : List OpaqueXmlFragment
  nodeOrder : List String

/-- Move every anchor of a scope, the blocks' first. -/
def ScopeNodes.moveAnchors (move : Option OpaqueXmlAnchor → Except KdbxError (Option OpaqueXmlAnchor))
    (nodes : ScopeNodes) : Except KdbxError ScopeNodes := do
  let customDataBlocks ← nodes.customDataBlocks.mapM fun block => do
    let after ← move block.after
    .ok { block with after }
  let opaqueXml ← nodes.opaqueXml.mapM fun fragment => do
    let after ← move fragment.after
    .ok { fragment with after }
  .ok { nodes with customDataBlocks, opaqueXml }

/-- One name of `retarget_removed_scope_nodes`. -/
def retargetRemovedScopeNode (nodes : ScopeNodes) (removedName : String) : Except KdbxError ScopeNodes := do
  let moved ← nodes.moveAnchors fun after =>
    match after with
    | some anchor => if anchor.elementName = removedName then predecessorAnchor nodes.nodeOrder anchor else .ok after
    | none => .ok none
  .ok { moved with nodeOrder := nodes.nodeOrder.filter fun name => name ≠ removedName }

def retargetRemovedScopeNodes (nodes : ScopeNodes) (removedNames : List String) : Except KdbxError ScopeNodes :=
  removedNames.foldlM retargetRemovedScopeNode nodes

/-- The nearest anchor that is no repeat of the element. The fuel is the anchor's occurrence. -/
def firstOccurrenceAnchor (nodeOrder : List String) (elementName : String) : Nat → OpaqueXmlAnchor →
    Except KdbxError (Option OpaqueXmlAnchor)
  | 0, _ => .error .invalidValue
  | fuel + 1, current => do
      match ← predecessorAnchor nodeOrder current with
      | none => .ok none
      | some candidate =>
          if candidate.elementName = elementName ∧ 1 < candidate.occurrence then
            firstOccurrenceAnchor nodeOrder elementName fuel candidate
          else .ok (some candidate)

/-- The list without the repeats of a name. -/
def dropRepeats (elementName : String) (seen : Bool) : List String → List String
  | [] => []
  | name :: rest =>
      if name ≠ elementName then name :: dropRepeats elementName seen rest
      else if seen then dropRepeats elementName true rest
      else name :: dropRepeats elementName true rest

def collapseDuplicateNodeOccurrences (nodes : ScopeNodes) (elementName : String) : Except KdbxError ScopeNodes := do
  let moved ← nodes.moveAnchors fun after =>
    match after with
    | some anchor =>
        if anchor.elementName = elementName ∧ 1 < anchor.occurrence then
          firstOccurrenceAnchor nodes.nodeOrder elementName anchor.occurrence anchor
        else .ok after
    | none => .ok none
  .ok { moved with nodeOrder := dropRepeats elementName false nodes.nodeOrder }

end VaultKern.Kdbx
