import VaultKern.Patch.Slots

/-! # Slots of removed children

When a mutator removes or renames a keyed child element, its slot in the node order
goes with it. Anchors at a removed slot move to the node before it.
-/

namespace VaultKern

section Keyed

variable {T : Type} [DecidableEq T]

/-- The position of the `n`-th node of that name, counted from one. -/
def nthOccurrence (elementName : String) : Nat → List String → Option Nat
  | _, [] => none
  | n, name :: rest =>
      if name = elementName then
        if n = 1 then some 0 else (nthOccurrence elementName (n - 1) rest).map (· + 1)
      else (nthOccurrence elementName n rest).map (· + 1)

def keyedPredecessorAnchor (nodeOrder : List String) (elementName : String) (oldOccurrence : Nat)
    (replacementAnchors : List (Option OpaqueXmlAnchor)) : Option OpaqueXmlAnchor :=
  match nthOccurrence elementName oldOccurrence nodeOrder with
  | none =>
      if oldOccurrence < 2 then none else replacementAnchors[oldOccurrence - 2]?.join
  | some 0 => none
  | some (index + 1) =>
      match nodeOrder[index]? with
      | none => none
      | some name =>
          let occurrence := (nodeOrder.take (index + 1)).count name
          if name = elementName then replacementAnchors[occurrence - 1]?.join
          else some { elementName := name, occurrence }

/-- What an identity is called after the change. -/
def renamedIdentity (renamed : List (T × T)) (identity : T) : T :=
  ((renamed.find? fun pair => pair.1 = identity).map Prod.snd).getD identity

/-- The new name of each identity that is still present. -/
def mappedIdentities (renamed : List (T × T)) (present identities : List T) : List (Option T) :=
  identities.map fun old =>
    let identity := renamedIdentity renamed old
    if present.contains identity then some identity else none

/-- One replacement anchor for each old occurrence, the earlier ones at hand. -/
def keyedReplacements (elementName : String) (nodeOrder : List String) (present : List T) :
    List (Option T) → List (Option OpaqueXmlAnchor) → List (Option OpaqueXmlAnchor)
  | [], replacements => replacements
  | mapped :: rest, replacements =>
      let replacement := match mapped with
        | none => keyedPredecessorAnchor nodeOrder elementName (replacements.length + 1) replacements
        | some identity => some { elementName, occurrence := present.idxOf identity + 1 }
      keyedReplacements elementName nodeOrder present rest (replacements ++ [replacement])

/-- An anchor at a removed first node is cleared. -/
def retargetKeyedAnchor (elementName : String) (replacements : List (Option OpaqueXmlAnchor))
    (anchor : Option OpaqueXmlAnchor) : Option OpaqueXmlAnchor :=
  let moved := match anchor with
    | none => none
    | some anchor =>
        if anchor.elementName ≠ elementName || anchor.occurrence = 0 then some anchor
        else match replacements[anchor.occurrence - 1]? with
          | none => some anchor
          | some replacement => replacement
  moved.filter fun anchor => anchor.elementName ≠ ""

/-- Drop the slots of removed owners; `seen` counts the slots passed. -/
def retainKeyedNodes (elementName : String) (mapping : List (Option T)) (seen : Nat) :
    List String → List String
  | [] => []
  | name :: rest =>
      if name ≠ elementName then name :: retainKeyedNodes elementName mapping seen rest
      else if (mapping[seen]?.map Option.isSome).getD true then
        name :: retainKeyedNodes elementName mapping (seen + 1) rest
      else retainKeyedNodes elementName mapping (seen + 1) rest

def retargetKeyedKnownNodes (elementName : String) (oldIdentities newIdentities : List T)
    (renamed : List (T × T)) (slots : TrackedSlots T) : TrackedSlots T :=
  let trackedMapping := mappedIdentities renamed newIdentities slots.tracked
  let tracked := trackedMapping.filterMap id
  let present := tracked ++ newIdentities.filter fun identity => !tracked.contains identity
  let replacements := keyedReplacements elementName slots.nodeOrder present
    (mappedIdentities renamed present oldIdentities) []
  { nodeOrder := retainKeyedNodes elementName trackedMapping 0 slots.nodeOrder
    tracked
    opaqueXml := retargetOpaqueXml (retargetKeyedAnchor elementName replacements) slots.opaqueXml
    customDataBlocks := retargetBlocks (retargetKeyedAnchor elementName replacements) slots.customDataBlocks }

end Keyed

/-- An optional child that occurs once goes away. -/
def retargetRemovedKnownNode (elementName : String) (nodeOrder : List String)
    (opaqueXml : List OpaqueXmlFragment) (customDataBlocks : List CustomDataBlock) : TrackedSlots Unit :=
  retargetKeyedKnownNodes elementName [()] [] []
    { nodeOrder, tracked := (nodeOrder.filter (· = elementName)).map fun _ => ()
      opaqueXml, customDataBlocks }

/-! ## In the scopes of a vault -/

def Entry.removeNode (entry : Entry) (elementName : String) : Entry :=
  let slots := retargetRemovedKnownNode elementName entry.rawState.nodeOrder entry.opaqueXml
    entry.customDataBlocks
  { entry with
    rawState := { entry.rawState with nodeOrder := slots.nodeOrder }
    opaqueXml := slots.opaqueXml
    customDataBlocks := slots.customDataBlocks }

def Group.removeNode (group : Group) (elementName : String) : Group :=
  let slots := retargetRemovedKnownNode elementName group.rawState.nodeOrder group.opaqueXml
    group.customDataBlocks
  { group with
    rawState := { group.rawState with nodeOrder := slots.nodeOrder }
    opaqueXml := slots.opaqueXml
    customDataBlocks := slots.customDataBlocks }

/-- `retarget_removed_meta_node`. -/
def Vault.removeNode (vault : Vault) (elementName : String) : Vault :=
  let slots := retargetRemovedKnownNode elementName vault.metaRawState.nodeOrder vault.metaOpaqueXml
    vault.metaCustomDataBlocks
  { vault with
    metaRawState := { vault.metaRawState with nodeOrder := slots.nodeOrder }
    metaOpaqueXml := slots.opaqueXml
    metaCustomDataBlocks := slots.customDataBlocks }

/-! ## What a removed child leaves behind -/

/-- The anchor stays, unless it stands at a node of that name or of none. -/
def KeepsAnchor (elementName : String) (old new : Option OpaqueXmlAnchor) : Prop :=
  new = old ∨ ∃ anchor, old = some anchor ∧ (anchor.elementName = elementName ∨ anchor.elementName = "")

theorem retargetKeyedAnchor_keeps (elementName : String) (replacements : List (Option OpaqueXmlAnchor))
    (anchor : Option OpaqueXmlAnchor) :
    KeepsAnchor elementName anchor (retargetKeyedAnchor elementName replacements anchor) := by
  cases anchor with
  | none => exact .inl rfl
  | some anchor =>
      by_cases here : anchor.elementName = elementName
      · exact .inr ⟨anchor, rfl, .inl here⟩
      · by_cases unnamed : anchor.elementName = ""
        · exact .inr ⟨anchor, rfl, .inr unnamed⟩
        · exact .inl (by simp [retargetKeyedAnchor, here, unnamed])

/-- The entry without its nodes of that name. Only anchors at these may move. -/
structure LosesNode (elementName : String) (before after : Entry) : Prop where
  nodes : after.rawState =
    { before.rawState with nodeOrder := before.rawState.nodeOrder.filter fun name => name ≠ elementName }
  fragments : List.Forall₂ (fun old new : OpaqueXmlFragment =>
    new.xml = old.xml ∧ KeepsAnchor elementName old.after new.after) before.opaqueXml after.opaqueXml
  blocks : List.Forall₂ (fun old new : CustomDataBlock =>
    new.items = old.items ∧ KeepsAnchor elementName old.after new.after) before.customDataBlocks after.customDataBlocks
  rest : after.withoutSlots = before.withoutSlots

/-- As many identities as slots are gone. -/
theorem retainKeyedNodes_none {T : Type} (elementName : String) (nodes : List String) (seen : Nat) :
    retainKeyedNodes elementName (List.replicate (seen + nodes.count elementName) (none : Option T)) seen nodes =
      nodes.filter fun name => name ≠ elementName := by
  induction nodes generalizing seen with
  | nil => rfl
  | cons name rest ih =>
      by_cases here : name = elementName
      · subst here
        have more : seen + (name :: rest).count name = seen + 1 + rest.count name := by
          rw [List.count_cons_self]
          omega
        have here : seen < seen + 1 + rest.count name := by omega
        rw [more, List.filter_cons_of_neg (by simp), ← ih (seen + 1)]
        simp [retainKeyedNodes, here]
      · rw [List.count_cons_of_ne here, List.filter_cons_of_pos (by simpa using here), ← ih seen]
        simp [retainKeyedNodes, here]

theorem Entry.removeNode_loses (entry : Entry) (elementName : String) :
    LosesNode elementName entry (entry.removeNode elementName) where
  nodes := by
    have gone : mappedIdentities ([] : List (Unit × Unit)) []
        ((entry.rawState.nodeOrder.filter (· = elementName)).map fun _ => ()) =
          List.replicate (0 + entry.rawState.nodeOrder.count elementName) none := by
      refine List.eq_replicate_iff.mpr ⟨?_, fun mapped inside => ?_⟩
      · rw [mappedIdentities, List.length_map, List.length_map, Nat.zero_add, List.count_eq_length_filter]
        rfl
      · obtain ⟨_, _, rfl⟩ := List.mem_map.mp inside
        rfl
    simp only [Entry.removeNode, retargetRemovedKnownNode, retargetKeyedKnownNodes, gone, retainKeyedNodes_none]
  fragments := by
    simp only [Entry.removeNode, retargetRemovedKnownNode, retargetKeyedKnownNodes, retargetOpaqueXml]
    exact List.forall₂_map_right_iff.mpr (List.forall₂_same.mpr fun fragment _ =>
      ⟨rfl, retargetKeyedAnchor_keeps _ _ fragment.after⟩)
  blocks := by
    simp only [Entry.removeNode, retargetRemovedKnownNode, retargetKeyedKnownNodes, retargetBlocks]
    exact List.forall₂_map_right_iff.mpr (List.forall₂_same.mpr fun block _ =>
      ⟨rfl, retargetKeyedAnchor_keeps _ _ block.after⟩)
  rest := by
    simp [Entry.removeNode, Entry.withoutSlots, retargetRemovedKnownNode, retargetKeyedKnownNodes]

/-- Tracked owners that are still there, in their slots, and then the others in key order. -/
def orderedIdentities (tracked : List String) (remaining : BTreeSet String) : List String :=
  let kept := tracked.foldl
    (fun kept key => if remaining.contains key && !kept.contains key then kept ++ [key] else kept) []
  kept ++ remaining.toList.filter fun key => !kept.contains key

def entryStringIdentities (entry : Entry) : List String :=
  orderedIdentities entry.rawState.stringOrder (entryStringKeys entry)

def entryBinaryIdentities (entry : Entry) : List String :=
  orderedIdentities entry.rawState.binaryOrder (entryBinaryNames entry)

/-- Slots of the `String` children after a change of the attributes. -/
def Entry.retargetStrings (entry : Entry) (oldIdentities : List String) : Entry :=
  let slots := retargetKeyedKnownNodes "String" oldIdentities (entryStringIdentities entry) []
    { nodeOrder := entry.rawState.nodeOrder
      tracked := entry.rawState.stringOrder
      opaqueXml := entry.opaqueXml
      customDataBlocks := entry.customDataBlocks }
  { entry with
    rawState := { entry.rawState with nodeOrder := slots.nodeOrder, stringOrder := slots.tracked }
    opaqueXml := slots.opaqueXml
    customDataBlocks := slots.customDataBlocks }

def Entry.retargetBinaries (entry : Entry) (oldIdentities : List String) (renamed : List (String × String)) :
    Entry :=
  let slots := retargetKeyedKnownNodes "Binary" oldIdentities (entryBinaryIdentities entry) renamed
    { nodeOrder := entry.rawState.nodeOrder
      tracked := entry.rawState.binaryOrder
      opaqueXml := entry.opaqueXml
      customDataBlocks := entry.customDataBlocks }
  { entry with
    rawState := { entry.rawState with nodeOrder := slots.nodeOrder, binaryOrder := slots.tracked }
    opaqueXml := slots.opaqueXml
    customDataBlocks := slots.customDataBlocks }

/-- Slots of the `Entry` children after an entry was taken out. -/
def Group.retargetEntries (group : Group) (oldIdentities : List Uuid) : Group :=
  let slots := retargetKeyedKnownNodes "Entry" oldIdentities (group.entries.map (·.id)) []
    { nodeOrder := group.rawState.nodeOrder
      tracked := group.rawState.entryOrder
      opaqueXml := group.opaqueXml
      customDataBlocks := group.customDataBlocks }
  { group with
    rawState := { group.rawState with nodeOrder := slots.nodeOrder, entryOrder := slots.tracked }
    opaqueXml := slots.opaqueXml
    customDataBlocks := slots.customDataBlocks }

def Group.retargetChildren (group : Group) (oldIdentities : List Uuid) : Group :=
  let slots := retargetKeyedKnownNodes "Group" oldIdentities (group.children.map (·.id)) []
    { nodeOrder := group.rawState.nodeOrder
      tracked := group.rawState.groupOrder
      opaqueXml := group.opaqueXml
      customDataBlocks := group.customDataBlocks }
  { group with
    rawState := { group.rawState with nodeOrder := slots.nodeOrder, groupOrder := slots.tracked }
    opaqueXml := slots.opaqueXml
    customDataBlocks := slots.customDataBlocks }

end VaultKern
