import VaultKern.Kdbx.Validate
import VaultKern.Core.KeyedNodes
import VaultKern.Lib.Anchors

/-! # Anchors when keyed nodes go away

Both the mutators and the merge drop the slots of removed children. A surviving node keeps its place among
the others, and every anchor follows its node or goes to the nearest survivor before it.
-/

namespace VaultKern

open Anchors

section Keyed

variable {T : Type} [DecidableEq T]

/-! ## Nodes and their owners -/

/-- The nodes, the keyed ones with their owners. A slot behind the tracked owners has none. -/
def ownedNodes (element : String) : List String → List T → List (String × Option T)
  | [], _ => []
  | name :: nodes, owners =>
      if name = element then (name, owners.head?) :: ownedNodes element nodes owners.tail
      else (name, none) :: ownedNodes element nodes owners

def OpaqueXmlAnchor.place (anchor : OpaqueXmlAnchor) : String × Nat := (anchor.elementName, anchor.occurrence)

/-- The names of nodes with their marks. -/
def marksOf (marked : List ((String × Option T) × Bool)) : Marked String := marked.map fun m => (m.1.1, m.2)

/-- Anchors at other elements stay, and an anchor at a node leads where the marks say. -/
structure AnchorLeads (element : String) (marks : Marked String) (old new : Option OpaqueXmlAnchor) : Prop where
  none : old = none → new = none
  others : ∀ anchor ∈ old, anchor.elementName ≠ element → new = some anchor
  leads : ∀ anchor ∈ old, ∀ index, StandsAt (names marks) anchor.place index →
    Leads marks index (new.map OpaqueXmlAnchor.place)

/-- The marked nodes survive in their order, a slot for each owner, and the anchors follow. -/
structure SlotsKept (element : String) (rename : T → T) (marked : List ((String × Option T) × Bool))
    (before after : TrackedSlots T) : Prop where
  marks : marked.map Prod.fst = ownedNodes element before.nodeOrder before.tracked
  nodes : ownedNodes element after.nodeOrder after.tracked =
    ((marked.filter Prod.snd).map Prod.fst).map fun node => (node.1, node.2.map rename)
  slots : after.nodeOrder.count element = after.tracked.length
  once : after.tracked.Nodup
  fragments : List.Forall₂ (fun old new : OpaqueXmlFragment =>
    new.xml = old.xml ∧ AnchorLeads element (marksOf marked) old.after new.after) before.opaqueXml after.opaqueXml
  blocks : List.Forall₂ (fun old new : CustomDataBlock =>
    new.items = old.items ∧ AnchorLeads element (marksOf marked) old.after new.after)
    before.customDataBlocks after.customDataBlocks

omit [DecidableEq T] in
@[simp] theorem ownedNodes_names (element : String) (nodes : List String) (owners : List T) :
    (ownedNodes element nodes owners).map Prod.fst = nodes := by
  induction nodes generalizing owners with
  | nil => rfl
  | cons name nodes ih =>
      rw [ownedNodes]
      split <;> rw [List.map_cons, ih]

omit [DecidableEq T] in
@[simp] theorem ownedNodes_length (element : String) (nodes : List String) (owners : List T) :
    (ownedNodes element nodes owners).length = nodes.length := by
  rw [← List.length_map Prod.fst, ownedNodes_names]

omit [DecidableEq T] in
theorem ownedNodes_keyed {element : String} {nodes : List String} {owners : List T}
    (slots : nodes.count element = owners.length) (owner : T) :
    ownedNodes element (nodes ++ [element]) (owners ++ [owner]) =
      ownedNodes element nodes owners ++ [(element, some owner)] := by
  induction nodes generalizing owners with
  | nil =>
      have none : owners = [] := List.length_eq_zero_iff.mp slots.symm
      subst none
      simp [ownedNodes]
  | cons name nodes ih =>
      by_cases own : name = element
      · cases owners with
        | nil => simp [own] at slots
        | cons first owners =>
            have later : nodes.count element = owners.length := by simpa [own] using slots
            simp [ownedNodes, own, ih later]
      · have later : nodes.count element = owners.length := by
          rwa [List.count_cons_of_ne (by simpa using own)] at slots
        simp [ownedNodes, own, ih later]

omit [DecidableEq T] in
theorem ownedNodes_other {element name : String} (other : name ≠ element) (nodes : List String) (owners : List T) :
    ownedNodes element (nodes ++ [name]) owners = ownedNodes element nodes owners ++ [(name, none)] := by
  induction nodes generalizing owners with
  | nil => simp [ownedNodes, other]
  | cons first nodes ih =>
      rw [List.cons_append, ownedNodes, ownedNodes, ih, ih]
      split <;> rfl

/-! ## Anchors under marks -/

/-- Nodes of other elements stay. -/
def OthersStay (element : String) (marks : Marked String) : Prop := ∀ m ∈ marks, m.1 ≠ element → m.2 = true

theorem count_survivors {element name : String} {marks : Marked String} (others : OthersStay element marks)
    (other : name ≠ element) : (survivors marks).count name = (names marks).count name := by
  induction marks with
  | nil => rfl
  | cons m marks ih =>
      have rest := ih fun m' member => others m' (List.mem_cons_of_mem _ member)
      obtain ⟨first, stays⟩ := m
      cases stays with
      | true => rw [survivors_stays, names, List.map_cons, List.count_cons, List.count_cons, rest, names]
      | false =>
          have own : first = element := by
            by_contra foreign
            cases others _ List.mem_cons_self foreign
          rw [survivors_removed, rest, names, names, List.map_cons]
          exact (List.count_cons_of_ne (by simpa [own] using other.symm)).symm

/-- A survivor up to an index that is the node at the index. -/
theorem lastAnchor_survivor {marks : Marked String} {index : Nat} {name : String}
    (here : marks[index]? = some (name, true)) :
    lastAnchor (survivors (marks.take (index + 1))) = some (name, (survivors (marks.take index)).count name + 1) := by
  have split : marks.take (index + 1) = marks.take index ++ [(name, true)] := take_succ here
  rw [split, survivors_append, survivors_stays, survivors_nil, lastAnchor_append]

theorem lastAnchor_removed {marks : Marked String} {index : Nat} {name : String}
    (here : marks[index]? = some (name, false)) :
    lastAnchor (survivors (marks.take (index + 1))) = lastAnchor (survivors (marks.take index)) := by
  have split : marks.take (index + 1) = marks.take index ++ [(name, false)] := take_succ here
  rw [split, survivors_append, survivors_removed, survivors_nil, List.append_nil]

theorem OthersStay.lastAnchor {element : String} {marks : Marked String} {index : Nat} {place : String × Nat}
    (others : OthersStay element marks) (other : place.1 ≠ element) (stands : StandsAt (names marks) place index) :
    lastAnchor (survivors (marks.take (index + 1))) = some place := by
  obtain ⟨here, counted⟩ := stands
  rw [names, List.getElem?_map, Option.map_eq_some_iff] at here
  obtain ⟨⟨name, stays⟩, here, rfl⟩ := here
  obtain ⟨name', occurrence⟩ := place
  have kept : stays = true := others _ (List.mem_of_getElem? here) other
  subst kept
  have same : (names marks).take (index + 1) = names (marks.take (index + 1)) := List.map_take.symm
  have split : marks.take (index + 1) = marks.take index ++ [(name', true)] := take_succ here
  have before : OthersStay element (marks.take index) := fun m member => others m (List.mem_of_mem_take member)
  rw [lastAnchor_survivor here, count_survivors before other]
  rw [same, split, names_append, names, names, List.count_append] at counted
  simp only [List.map_cons, List.map_nil, List.count_singleton_self] at counted
  rw [← counted, names]

/-- What a retargeting function has to do for the anchors to follow. -/
theorem anchorLeads {element : String} {marks : Marked String}
    {retarget : Option OpaqueXmlAnchor → Option OpaqueXmlAnchor} (others : OthersStay element marks)
    (nothing : retarget none = none) {old : Option OpaqueXmlAnchor}
    (other : ∀ anchor ∈ old, anchor.elementName ≠ element → retarget (some anchor) = some anchor)
    (own : ∀ occurrence index, StandsAt (names marks) (element, occurrence) index →
      (retarget (some ⟨element, occurrence⟩)).map OpaqueXmlAnchor.place =
        lastAnchor (survivors (marks.take (index + 1)))) :
    AnchorLeads element marks old (retarget old) where
  none := by
    rintro rfl
    exact nothing
  others := by
    intro anchor held foreign
    rw [Option.mem_def.mp held]
    exact other anchor held foreign
  leads := by
    intro anchor held index stands
    have inside : index < marks.length := by simpa [names] using stands.index_lt
    have leads := leads_lastAnchor marks inside
    rw [Option.mem_def.mp held]
    obtain ⟨elementName, occurrence⟩ := anchor
    by_cases foreign : elementName = element
    · subst foreign
      rw [own occurrence index stands]
      exact leads
    · rw [other _ held foreign]
      rw [others.lastAnchor foreign stands] at leads
      exact leads

theorem retargetOpaqueXml_leads {element : String} {marks : Marked String}
    {retarget : Option OpaqueXmlAnchor → Option OpaqueXmlAnchor} {fragments : List OpaqueXmlFragment}
    (leads : ∀ fragment ∈ fragments, AnchorLeads element marks fragment.after (retarget fragment.after)) :
    List.Forall₂ (fun old new : OpaqueXmlFragment => new.xml = old.xml ∧ AnchorLeads element marks old.after new.after)
      fragments (retargetOpaqueXml retarget fragments) := by
  rw [retargetOpaqueXml, List.forall₂_map_right_iff]
  exact List.forall₂_same.mpr fun fragment member => ⟨rfl, leads fragment member⟩

theorem retargetBlocks_leads {element : String} {marks : Marked String}
    {retarget : Option OpaqueXmlAnchor → Option OpaqueXmlAnchor} {blocks : List CustomDataBlock}
    (leads : ∀ block ∈ blocks, AnchorLeads element marks block.after (retarget block.after)) :
    List.Forall₂ (fun old new : CustomDataBlock => new.items = old.items ∧ AnchorLeads element marks old.after new.after)
      blocks (retargetBlocks retarget blocks) := by
  rw [retargetBlocks, List.forall₂_map_right_iff]
  exact List.forall₂_same.mpr fun block member => ⟨rfl, leads block member⟩

/-! ## The merge -/

/-- A keyed node stays when it is the first one of an owner that is still there. -/
def staysMerged (element : String) (current : T → Bool) (before : List (String × Option T))
    (node : String × Option T) : Bool :=
  node.1 ≠ element || (node.2.any current && !before.contains node)

/-- Each node with whether it stays, given the nodes before it. -/
def markMerged (element : String) (current : T → Bool) (before : List (String × Option T)) :
    List (String × Option T) → List ((String × Option T) × Bool)
  | [] => []
  | node :: rest =>
      (node, staysMerged element current before node) :: markMerged element current (before ++ [node]) rest

theorem markMerged_nodes (element : String) (current : T → Bool) (before nodes : List (String × Option T)) :
    (markMerged element current before nodes).map Prod.fst = nodes := by
  induction nodes generalizing before with
  | nil => rfl
  | cons node rest ih => rw [markMerged, List.map_cons, ih]

theorem markMerged_others (element : String) (current : T → Bool) (before nodes : List (String × Option T)) :
    OthersStay element (marksOf (markMerged element current before nodes)) := by
  induction nodes generalizing before with
  | nil => nofun
  | cons node rest ih =>
      rintro m member other
      rw [markMerged, marksOf, List.map_cons] at member
      rcases List.mem_cons.mp member with rfl | later
      · simp [staysMerged, other]
      · exact ih _ m later other

variable [Ord T] [Std.TransOrd T]

/-- What the walk has made of the nodes it passed. -/
structure ScanOf (element : String) (current : BTreeSet T) (passed : List ((String × Option T) × Bool))
    (scan : SlotScan T) : Prop where
  nodes : ownedNodes element scan.nodeOrder scan.tracked = (passed.filter Prod.snd).map Prod.fst
  slots : scan.nodeOrder.count element = scan.tracked.length
  once : scan.tracked.Nodup
  known : ∀ owner, current.contains owner = true →
    (owner ∈ scan.tracked ↔ (element, some owner) ∈ passed.map Prod.fst)
  counts : ∀ name, scan.walk.counts[name]?.getD 0 = (survivors (marksOf passed)).count name
  last : scan.walk.lastAnchor.map OpaqueXmlAnchor.place = lastAnchor (survivors (marksOf passed))
  length : scan.replacements.length = (names (marksOf passed)).count element
  replaced : ∀ occurrence index, StandsAt (names (marksOf passed)) (element, occurrence) index →
    scan.replacements[occurrence - 1]?.join.map OpaqueXmlAnchor.place =
      lastAnchor (survivors ((marksOf passed).take (index + 1)))

omit [DecidableEq T] [Ord T] [Std.TransOrd T] in
@[simp] theorem marksOf_snoc (passed : List ((String × Option T) × Bool)) (node : String × Option T) (stays : Bool) :
    marksOf (passed ++ [(node, stays)]) = marksOf passed ++ [(node.1, stays)] := by
  simp [marksOf]

theorem NodeWalk.keep_counts (walk : NodeWalk) (name other : String) :
    (walk.keep name).counts[other]?.getD 0 = walk.counts[other]?.getD 0 + if name = other then 1 else 0 := by
  by_cases same : name = other
  · subst same
    simp [NodeWalk.keep]
  · simp [NodeWalk.keep, same, BTreeMap.insert_lookup]

omit [DecidableEq T] [Ord T] [Std.TransOrd T] in
/-- One more node: what the anchors at the nodes before it and at the node itself become. -/
theorem replaced_snoc {element : String} {passed : List ((String × Option T) × Bool)}
    {replacements : List (Option OpaqueXmlAnchor)} (node : String × Option T) (stays : Bool)
    (more : List (Option OpaqueXmlAnchor))
    (length : replacements.length = (names (marksOf passed)).count element)
    (replaced : ∀ occurrence index, StandsAt (names (marksOf passed)) (element, occurrence) index →
      replacements[occurrence - 1]?.join.map OpaqueXmlAnchor.place =
        lastAnchor (survivors ((marksOf passed).take (index + 1))))
    (own : node.1 = element → ∃ new, more = [new] ∧
      new.map OpaqueXmlAnchor.place = lastAnchor (survivors (marksOf (passed ++ [(node, stays)])))) :
    ∀ occurrence index, StandsAt (names (marksOf (passed ++ [(node, stays)]))) (element, occurrence) index →
      (replacements ++ more)[occurrence - 1]?.join.map OpaqueXmlAnchor.place =
        lastAnchor (survivors ((marksOf (passed ++ [(node, stays)])).take (index + 1))) := by
  intro occurrence index stands
  rw [marksOf_snoc] at stands ⊢
  have nodes : names (marksOf passed ++ [(node.1, stays)]) = names (marksOf passed) ++ [node.1] := by simp [names]
  rw [nodes, standsAt_snoc] at stands
  rcases stands with ⟨before, stands⟩ | ⟨last, same⟩
  · have positive := stands.positive
    have counted : ((names (marksOf passed)).take (index + 1)).count element = occurrence := stands.2
    have most : occurrence ≤ replacements.length := by
      rw [length, ← counted]
      exact (List.take_sublist _ _).count_le element
    have inside : index + 1 ≤ (marksOf passed).length := by
      rw [names, List.length_map] at before
      exact before
    rw [List.getElem?_append_left (by simp only at positive; omega), replaced occurrence index stands,
      List.take_append_of_le_length inside]
  · obtain ⟨named, number⟩ := Prod.ext_iff.mp same
    obtain ⟨new, rfl, leads⟩ := own named.symm
    have here : occurrence - 1 = replacements.length := by
      simp only at named number
      rw [number, length, ← named]
      rfl
    have whole : (marksOf passed ++ [(node.1, stays)]).take (index + 1) = marksOf passed ++ [(node.1, stays)] := by
      apply List.take_of_length_le
      rw [last]
      simp [names]
    rw [here, List.getElem?_concat_length, whole, ← marksOf_snoc, ← leads]
    rfl

omit [DecidableEq T] in
theorem ScanOf.other {element name : String} {current : BTreeSet T} {passed : List ((String × Option T) × Bool)}
    {scan : SlotScan T} (scanned : ScanOf element current passed scan) (foreign : name ≠ element) :
    ScanOf element current (passed ++ [((name, none), true)])
      { scan with nodeOrder := scan.nodeOrder ++ [name], walk := scan.walk.keep name } where
  nodes := by
    rw [ownedNodes_other foreign, scanned.nodes]
    simp
  slots := by
    rw [List.count_append, List.count_singleton, scanned.slots]
    simp [foreign]
  once := scanned.once
  known := by
    intro owner held
    rw [scanned.known owner held]
    simp [foreign.symm]
  counts := by
    intro other
    rw [NodeWalk.keep_counts, scanned.counts other]
    simp [List.count_singleton]
  last := by
    have counted := scanned.counts name
    simp [NodeWalk.keep, OpaqueXmlAnchor.place, counted]
  length := by
    rw [scanned.length]
    simp [names, foreign]
  replaced := by
    have more := replaced_snoc (name, none) true [] scanned.length scanned.replaced fun own => absurd own foreign
    simpa using more

omit [DecidableEq T] in
theorem ScanOf.kept {element : String} {owner : T} {current : BTreeSet T}
    {passed : List ((String × Option T) × Bool)} {scan : SlotScan T} (scanned : ScanOf element current passed scan)
    (first : owner ∉ scan.tracked) :
    ScanOf element current (passed ++ [((element, some owner), true)])
      { nodeOrder := scan.nodeOrder ++ [element]
        tracked := scan.tracked ++ [owner]
        replacements := scan.replacements ++ [(scan.walk.keep element).lastAnchor]
        walk := scan.walk.keep element } where
  nodes := by
    rw [ownedNodes_keyed scanned.slots, scanned.nodes]
    simp
  slots := by
    rw [List.count_append, List.count_singleton_self, scanned.slots, List.length_append, List.length_singleton]
  once := List.nodup_append.mpr ⟨scanned.once, List.nodup_singleton owner, by
    intro a member b single same
    rw [List.mem_singleton.mp single] at same
    exact first (same ▸ member)⟩
  known := by
    intro other here
    rw [List.mem_append, scanned.known other here]
    simp
  counts := by
    intro other
    rw [NodeWalk.keep_counts, scanned.counts other]
    simp [List.count_singleton]
  last := by
    have counted := scanned.counts element
    simp [NodeWalk.keep, OpaqueXmlAnchor.place, counted]
  length := by
    rw [List.length_append, scanned.length]
    simp [names]
  replaced := by
    refine replaced_snoc (element, some owner) true _ scanned.length scanned.replaced fun _ => ⟨_, rfl, ?_⟩
    have counted := scanned.counts element
    simp [NodeWalk.keep, OpaqueXmlAnchor.place, counted]

omit [DecidableEq T] in
theorem ScanOf.removed {element : String} {owner : Option T} {current : BTreeSet T}
    {passed : List ((String × Option T) × Bool)} {scan : SlotScan T} (scanned : ScanOf element current passed scan)
    (gone : ∀ key ∈ owner, current.contains key = true → key ∈ scan.tracked) :
    ScanOf element current (passed ++ [((element, owner), false)])
      { scan with replacements := scan.replacements ++ [scan.walk.lastAnchor] } where
  nodes := by
    rw [scanned.nodes]
    simp
  slots := scanned.slots
  once := scanned.once
  known := by
    intro other here
    rw [scanned.known other here, List.map_append, List.mem_append]
    constructor
    · exact .inl
    · rintro (member | last)
      · exact member
      · have same : some other = owner := by simpa using last
        exact (scanned.known other here).mp (gone other same.symm here)
  counts := by
    intro other
    rw [scanned.counts other]
    simp
  last := by
    rw [scanned.last]
    simp
  length := by
    rw [List.length_append, scanned.length]
    simp [names]
  replaced := by
    refine replaced_snoc (element, owner) false _ scanned.length scanned.replaced fun _ => ⟨_, rfl, ?_⟩
    rw [scanned.last]
    simp

/-- The walk over the rest of the nodes. -/
theorem ScanOf.scan {element : String} {current : BTreeSet T} {nodes : List String} {owners : List T}
    {passed : List ((String × Option T) × Bool)} {scan : SlotScan T} (scanned : ScanOf element current passed scan) :
    ScanOf element current
      (passed ++ markMerged element (current.contains ·) (passed.map Prod.fst) (ownedNodes element nodes owners))
      (scanSlots element current nodes owners scan) := by
  induction nodes generalizing owners passed scan with
  | nil => simpa [ownedNodes, markMerged, scanSlots] using scanned
  | cons name nodes ih =>
      have next : ∀ (owners : List T) (node : String × Option T) (stays : Bool) (scan' : SlotScan T),
          staysMerged element (current.contains ·) (passed.map Prod.fst) node = stays →
          ScanOf element current (passed ++ [(node, stays)]) scan' →
          ScanOf element current
            (passed ++ markMerged element (current.contains ·) (passed.map Prod.fst)
              (node :: ownedNodes element nodes owners)) (scanSlots element current nodes owners scan') := by
        intro owners node stays scan' stay scanned'
        have rest := @ih owners _ _ scanned'
        rw [List.append_assoc, List.map_append] at rest
        rw [markMerged, stay]
        exact rest
      rw [scanSlots, ownedNodes]
      by_cases own : name = element
      · subst own
        rw [if_pos rfl, if_pos rfl]
        cases keeps : owners.head?.filter fun owner => current.contains owner && !scan.tracked.contains owner with
        | some owner =>
            obtain ⟨isHead, fits⟩ := Option.filter_eq_some_iff.mp keeps
            rw [Bool.and_eq_true, Bool.not_eq_true', List.contains_eq_mem, decide_eq_false_iff_not] at fits
            have before := mt (scanned.known owner fits.1).mpr fits.2
            rw [isHead]
            refine next _ _ true _ ?_ (scanned.kept fits.2)
            simp [staysMerged, fits.1, before]
        | none =>
            have gone : ∀ key ∈ owners.head?, current.contains key = true → key ∈ scan.tracked := by
              intro key isHead here
              have refused := Option.filter_eq_none_iff.mp keeps key isHead
              simpa [here] using refused
            refine next _ _ false _ ?_ (scanned.removed gone)
            cases head : owners.head? with
            | none => simp [staysMerged]
            | some key =>
                by_cases here : current.contains key = true
                · have seen := (scanned.known key here).mp (gone key head here)
                  simp [staysMerged, here, seen]
                · simp [staysMerged, here]
      · rw [if_neg own, if_neg own]
        exact next _ _ true _ (by simp [staysMerged, own]) (scanned.other own)

/-- Which nodes the merge keeps. -/
def mergedNodes (element : String) (current : BTreeSet T) (slots : TrackedSlots T) : List ((String × Option T) × Bool) :=
  markMerged element (current.contains ·) [] (ownedNodes element slots.nodeOrder slots.tracked)

theorem retainTrackedSlots_kept (element : String) (current : BTreeSet T) (slots : TrackedSlots T) :
    SlotsKept element id (mergedNodes element current slots) slots (retainTrackedSlots element current slots) := by
  have start : ScanOf element current [] ({} : SlotScan T) := by
    constructor <;> simp [ownedNodes, marksOf, names, StandsAt]
  have scanned : ScanOf element current (mergedNodes element current slots)
      (scanSlots element current slots.nodeOrder slots.tracked {}) := start.scan
  have leads : ∀ old, AnchorLeads element (marksOf (mergedNodes element current slots)) old
      (replaceAnchor element (scanSlots element current slots.nodeOrder slots.tracked {}).replacements old) := by
    intro old
    apply anchorLeads (markMerged_others _ _ _ _) rfl
    · intro anchor _ foreign
      rw [replaceAnchor, if_pos foreign]
    · intro occurrence index stands
      have positive : occurrence ≠ 0 := Nat.ne_of_gt stands.positive
      have replaced := scanned.replaced occurrence index stands
      rw [replaceAnchor, if_neg (not_not_intro rfl), if_neg positive]
      exact replaced
  exact {
    marks := markMerged_nodes _ _ _ _
    nodes := by
      have same : (fun node : String × Option T => (node.1, node.2.map id)) = id := by
        funext node
        simp
      rw [same, List.map_id]
      exact scanned.nodes
    slots := scanned.slots
    once := scanned.once
    fragments := retargetOpaqueXml_leads fun fragment _ => leads fragment.after
    blocks := retargetBlocks_leads fun block _ => leads block.after }

end Keyed

/-! ## The mutators -/

section Mutators

variable {T : Type} [DecidableEq T]

/-- A keyed node stays when its owner is still there, perhaps under another name. -/
def staysRenamed (element : String) (renamed : List (T × T)) (present : List T) (node : String × Option T) : Bool :=
  node.1 ≠ element || node.2.any fun owner => present.contains (renamedIdentity renamed owner)

def markRenamed (element : String) (renamed : List (T × T)) (present : List T) (nodes : List (String × Option T)) :
    List ((String × Option T) × Bool) :=
  nodes.map fun node => (node, staysRenamed element renamed present node)

/-- Which nodes the mutators keep. -/
def retargetedNodes (element : String) (newIdentities : List T) (renamed : List (T × T)) (slots : TrackedSlots T) :
    List ((String × Option T) × Bool) :=
  markRenamed element renamed newIdentities (ownedNodes element slots.nodeOrder slots.tracked)

def IsNamed (anchor : Option OpaqueXmlAnchor) : Prop := ∀ a ∈ anchor, a.elementName ≠ ""

/-- The slots as a validated file has them: an owner for each slot, none twice, and the owners are the first
    of the identities. Elements have names. -/
structure SlotsTracked (element : String) (oldIdentities : List T) (renamed : List (T × T)) (slots : TrackedSlots T) :
    Prop where
  counted : slots.nodeOrder.count element = slots.tracked.length
  distinct : (slots.tracked.map (renamedIdentity renamed)).Nodup
  first : slots.tracked <+: oldIdentities
  named : element ≠ ""
  nodes : "" ∉ slots.nodeOrder
  fragments : ∀ fragment ∈ slots.opaqueXml, IsNamed fragment.after
  blocks : ∀ block ∈ slots.customDataBlocks, IsNamed block.after

theorem markRenamed_others (element : String) (renamed : List (T × T)) (present : List T)
    (nodes : List (String × Option T)) : OthersStay element (marksOf (markRenamed element renamed present nodes)) := by
  intro m member other
  simp only [marksOf, markRenamed, List.map_map, List.mem_map, Function.comp_apply] at member
  obtain ⟨node, _, rfl⟩ := member
  simp only at other
  simp [staysRenamed, other]

/-- The new names of the owners that are still there. -/
def stillThere (renamed : List (T × T)) (present owners : List T) : List T :=
  (owners.map (renamedIdentity renamed)).filter (present.contains ·)

theorem stillThere_cons (renamed : List (T × T)) (present : List T) (owner : T) (owners : List T) :
    stillThere renamed present (owner :: owners) =
      if present.contains (renamedIdentity renamed owner) then
        renamedIdentity renamed owner :: stillThere renamed present owners
      else stillThere renamed present owners := by
  rw [stillThere, List.map_cons, List.filter_cons]
  rfl

theorem mapped_stillThere (renamed : List (T × T)) (present owners : List T) :
    (mappedIdentities renamed present owners).filterMap id = stillThere renamed present owners := by
  induction owners with
  | nil => rfl
  | cons owner owners ih =>
      have rest : mappedIdentities renamed present (owner :: owners) =
          (if present.contains (renamedIdentity renamed owner) then some (renamedIdentity renamed owner) else none) ::
            mappedIdentities renamed present owners := rfl
      rw [rest, stillThere_cons]
      split
      · exact congrArg (renamedIdentity renamed owner :: ·) ih
      · exact ih

/-- The nodes that stay, with the new names of their owners. -/
def keptRenamed (element : String) (renamed : List (T × T)) (present : List T) (nodes : List (String × Option T)) :
    List (String × Option T) :=
  (((markRenamed element renamed present nodes).filter Prod.snd).map Prod.fst).map
    fun node => (node.1, node.2.map (renamedIdentity renamed))

theorem keptRenamed_cons (element : String) (renamed : List (T × T)) (present : List T) (node : String × Option T)
    (nodes : List (String × Option T)) :
    keptRenamed element renamed present (node :: nodes) =
      if staysRenamed element renamed present node then
        (node.1, node.2.map (renamedIdentity renamed)) :: keptRenamed element renamed present nodes
      else keptRenamed element renamed present nodes := by
  rw [keptRenamed, markRenamed, List.map_cons, List.filter_cons]
  split <;> rfl

theorem staysRenamed_owned (element : String) (renamed : List (T × T)) (present : List T) (owner : T) :
    staysRenamed element renamed present (element, some owner) =
      present.contains (renamedIdentity renamed owner) := by
  simp [staysRenamed]

theorem staysRenamed_other {element name : String} (other : name ≠ element) (renamed : List (T × T))
    (present : List T) (owner : Option T) : staysRenamed element renamed present (name, owner) = true := by
  simp [staysRenamed, other]

/-- The slots that stay and the owners that are still there. -/
theorem retainKeyedNodes_owned {element : String} {renamed : List (T × T)} {present : List T}
    {mapping : List (Option T)} {nodes : List String} {owners : List T} {seen : Nat}
    (rest : mapping.drop seen = mappedIdentities renamed present owners)
    (counted : nodes.count element = owners.length) :
    ownedNodes element (retainKeyedNodes element mapping seen nodes) (stillThere renamed present owners) =
        keptRenamed element renamed present (ownedNodes element nodes owners) ∧
      (retainKeyedNodes element mapping seen nodes).count element = (stillThere renamed present owners).length := by
  induction nodes generalizing owners seen with
  | nil =>
      have none : owners = [] := List.length_eq_zero_iff.mp counted.symm
      subst none
      exact ⟨rfl, rfl⟩
  | cons name nodes ih =>
      by_cases own : name = element
      · subst own
        cases owners with
        | nil => simp at counted
        | cons owner owners =>
            have later : nodes.count name = owners.length := by simpa using counted
            have here : mapping[seen]? = some (if present.contains (renamedIdentity renamed owner) then
                some (renamedIdentity renamed owner) else none) := by
              have first := congrArg List.head? rest
              rwa [List.head?_drop] at first
            have tail : mapping.drop (seen + 1) = mappedIdentities renamed present owners := by
              rw [← List.drop_drop, rest]
              rfl
            obtain ⟨nodesKept, slotsKept⟩ := ih tail later
            rw [retainKeyedNodes, if_neg (not_not_intro rfl), here, stillThere_cons, ownedNodes, if_pos rfl,
              List.head?_cons, List.tail_cons, keptRenamed_cons, staysRenamed_owned]
            by_cases there : present.contains (renamedIdentity renamed owner) = true
            · simp only [if_pos there, Option.map_some, Option.isSome_some, Option.getD_some, if_true]
              rw [ownedNodes, if_pos rfl, List.head?_cons, List.tail_cons, nodesKept, List.count_cons_self, slotsKept]
              exact ⟨rfl, rfl⟩
            · simp only [if_neg there, Option.map_some, Option.isSome_none, Option.getD_some, Bool.false_eq_true,
                if_false]
              exact ⟨nodesKept, slotsKept⟩
      · have later : nodes.count element = owners.length := by
          rwa [List.count_cons_of_ne (by simpa using own)] at counted
        obtain ⟨nodesKept, slotsKept⟩ := ih rest later
        rw [retainKeyedNodes, if_pos own, ownedNodes, if_neg own, nodesKept, ownedNodes, if_neg own, keptRenamed_cons,
          if_pos (staysRenamed_other own renamed present none), List.count_cons_of_ne (by simpa using own)]
        exact ⟨rfl, slotsKept⟩

/-! ## The replacement anchors -/

omit [DecidableEq T] in
/-- The owner of a keyed node is found by counting the nodes before it. -/
theorem ownedNodes_get {element : String} {nodes : List String} {index : Nat} (here : nodes[index]? = some element)
    (owners : List T) :
    (ownedNodes element nodes owners)[index]? = some (element, owners[(nodes.take index).count element]?) := by
  induction nodes generalizing owners index with
  | nil => simp at here
  | cons name nodes ih =>
      rw [ownedNodes]
      cases index with
      | zero =>
          have own : name = element := by simpa using here
          simp [own, List.head?_eq_getElem?]
      | succ index =>
          rw [List.getElem?_cons_succ] at here
          split
          · rename_i own
            rw [List.getElem?_cons_succ, ih here, List.take_succ_cons, own, List.count_cons_self,
              List.getElem?_tail]
          · rename_i other
            rw [List.getElem?_cons_succ, ih here, List.take_succ_cons,
              List.count_cons_of_ne (by simpa using other)]

/-- As many keyed nodes survive before an index as owners are still there. -/
theorem survivors_stillThere {element : String} {renamed : List (T × T)} {present : List T} {nodes : List String}
    {owners : List T} (counted : nodes.count element ≤ owners.length) (index : Nat) :
    (survivors ((marksOf (markRenamed element renamed present (ownedNodes element nodes owners))).take index)).count
        element = (stillThere renamed present (owners.take ((nodes.take index).count element))).length := by
  induction nodes generalizing owners index with
  | nil => simp [ownedNodes, markRenamed, marksOf, stillThere]
  | cons name nodes ih =>
      cases index with
      | zero => simp [stillThere]
      | succ index =>
          by_cases own : name = element
          · subst own
            cases owners with
            | nil => simp at counted
            | cons owner owners =>
                have later : nodes.count name ≤ owners.length := by simpa using counted
                have rest := ih later index
                rw [List.take_succ_cons, List.count_cons_self, List.take_succ_cons, stillThere_cons, ownedNodes,
                  if_pos rfl, List.head?_cons, List.tail_cons, markRenamed, List.map_cons, staysRenamed_owned, marksOf,
                  List.map_cons, List.take_succ_cons]
                cases there : present.contains (renamedIdentity renamed owner) with
                | true =>
                    rw [survivors_stays, List.count_cons_self, if_pos rfl, List.length_cons]
                    exact congrArg (· + 1) rest
                | false =>
                    rw [survivors_removed, if_neg Bool.false_ne_true]
                    exact rest
          · have later : nodes.count element ≤ owners.length := by
              rwa [List.count_cons_of_ne (by simpa using own)] at counted
            have rest := ih later index
            rw [List.take_succ_cons, List.count_cons_of_ne (by simpa using own), ownedNodes, if_neg own, markRenamed,
              List.map_cons, staysRenamed_other own, marksOf, List.map_cons, List.take_succ_cons, survivors_stays,
              List.count_cons_of_ne (by simpa using own)]
            exact rest

theorem nthOccurrence_standsAt {element : String} {nodes : List String} {occurrence index : Nat}
    (stands : StandsAt nodes (element, occurrence) index) : nthOccurrence element occurrence nodes = some index := by
  induction nodes generalizing occurrence index with
  | nil => simp [StandsAt] at stands
  | cons name nodes ih =>
      obtain ⟨here, counted⟩ := stands
      simp only at here counted
      rw [nthOccurrence]
      cases index with
      | zero =>
          have own : name = element := by simpa using here
          have first : occurrence = 1 := by simpa [own] using counted.symm
          rw [if_pos own, if_pos first]
      | succ index =>
          rw [List.getElem?_cons_succ] at here
          rw [List.take_succ_cons] at counted
          by_cases own : name = element
          · rw [own, List.count_cons_self] at counted
            have later : StandsAt nodes (element, occurrence - 1) index := ⟨here, by simp only; omega⟩
            have positive : 0 < occurrence - 1 := later.positive
            rw [if_pos own, if_neg (by omega), ih later]
            rfl
          · rw [List.count_cons_of_ne (by simpa using own)] at counted
            rw [if_neg own, ih ⟨here, counted⟩]
            rfl

section Replacements

variable {element : String} {oldIdentities newIdentities : List T} {renamed : List (T × T)} {slots : TrackedSlots T}

/-- The tracked owners that are still there and the identities without a slot. -/
def presentIdentities (newIdentities : List T) (renamed : List (T × T)) (tracked : List T) : List T :=
  stillThere renamed newIdentities tracked ++
    newIdentities.filter fun identity => !(stillThere renamed newIdentities tracked).contains identity

theorem mem_presentIdentities {tracked : List T} {identity : T} :
    identity ∈ presentIdentities newIdentities renamed tracked ↔ identity ∈ newIdentities := by
  rw [presentIdentities, List.mem_append, List.mem_filter]
  constructor
  · rintro (member | member)
    · exact List.contains_iff_mem.mp (List.mem_filter.mp member).2
    · exact member.1
  · intro member
    by_cases own : identity ∈ stillThere renamed newIdentities tracked
    · exact .inl own
    · exact .inr ⟨member, by simpa using own⟩

theorem SlotsTracked.idxOf (valid : SlotsTracked element oldIdentities renamed slots) {k : Nat} {owner : T}
    (here : slots.tracked[k]? = some owner) (there : renamedIdentity renamed owner ∈ newIdentities) :
    (presentIdentities newIdentities renamed slots.tracked).idxOf (renamedIdentity renamed owner) =
      (stillThere renamed newIdentities (slots.tracked.take k)).length := by
  have split : slots.tracked = slots.tracked.take k ++ owner :: slots.tracked.drop (k + 1) := by
    conv_lhs => rw [← List.take_append_drop (k + 1) slots.tracked, take_succ here]
    simp
  have distinct := valid.distinct
  rw [split, List.map_append, List.map_cons, List.nodup_append] at distinct
  have before : renamedIdentity renamed owner ∉ stillThere renamed newIdentities (slots.tracked.take k) := by
    intro member
    exact distinct.2.2 _ (List.mem_filter.mp member).1 _ List.mem_cons_self rfl
  have found : stillThere renamed newIdentities slots.tracked =
      stillThere renamed newIdentities (slots.tracked.take k) ++
        renamedIdentity renamed owner :: stillThere renamed newIdentities (slots.tracked.drop (k + 1)) := by
    conv_lhs => rw [split]
    rw [stillThere, List.map_append, List.filter_append, List.map_cons,
      List.filter_cons_of_pos (List.contains_iff_mem.mpr there)]
    rfl
  rw [presentIdentities, found, List.append_assoc, List.idxOf_append_of_notMem before, List.cons_append,
    List.idxOf_cons_self, Nat.add_zero]

/-- The replacements so far lead to the last survivors. -/
def Replaced (element : String) (marks : Marked String) (replacements : List (Option OpaqueXmlAnchor)) : Prop :=
  ∀ occurrence index, StandsAt (names marks) (element, occurrence) index → occurrence ≤ replacements.length →
    replacements[occurrence - 1]?.join.map OpaqueXmlAnchor.place = lastAnchor (survivors (marks.take (index + 1)))

theorem retargetedNodes_names (element : String) (newIdentities : List T) (renamed : List (T × T))
    (slots : TrackedSlots T) : names (marksOf (retargetedNodes element newIdentities renamed slots)) = slots.nodeOrder := by
  rw [names, marksOf, List.map_map, retargetedNodes, markRenamed, List.map_map]
  exact ownedNodes_names element slots.nodeOrder slots.tracked

/-- A keyed node with the owner of its slot. -/
theorem SlotsTracked.node (valid : SlotsTracked element oldIdentities renamed slots) {occurrence index : Nat}
    (stands : StandsAt slots.nodeOrder (element, occurrence) index) :
    ∃ owner, slots.tracked[occurrence - 1]? = some owner ∧
      (slots.nodeOrder.take index).count element = occurrence - 1 ∧
      (marksOf (retargetedNodes element newIdentities renamed slots))[index]? =
        some (element, newIdentities.contains (renamedIdentity renamed owner)) := by
  have here : slots.nodeOrder[index]? = some element := stands.1
  have counted : (slots.nodeOrder.take (index + 1)).count element = occurrence := stands.2
  have within : occurrence ≤ slots.nodeOrder.count element := by
    rw [← counted]
    exact (List.take_sublist _ _).count_le element
  have before : (slots.nodeOrder.take index).count element = occurrence - 1 := by
    rw [take_succ here, List.count_append, List.count_singleton_self] at counted
    omega
  have inside : occurrence - 1 < slots.tracked.length := by
    have positive : 0 < occurrence := stands.positive
    rw [valid.counted] at within
    omega
  refine ⟨slots.tracked[occurrence - 1], List.getElem?_eq_getElem inside, before, ?_⟩
  rw [marksOf, List.getElem?_map, retargetedNodes, markRenamed, List.getElem?_map, ownedNodes_get here, before,
    List.getElem?_eq_getElem inside]
  simp [staysRenamed_owned]

/-- One more replacement. -/
theorem SlotsTracked.replacement (valid : SlotsTracked element oldIdentities renamed slots)
    {replacements : List (Option OpaqueXmlAnchor)}
    (replaced : Replaced element (marksOf (retargetedNodes element newIdentities renamed slots)) replacements)
    {owner : T} (isOwner : oldIdentities[replacements.length]? = some owner) (replacement : Option OpaqueXmlAnchor)
    (isReplacement : replacement =
      if (presentIdentities newIdentities renamed slots.tracked).contains (renamedIdentity renamed owner) then
        some { elementName := element,
               occurrence := (presentIdentities newIdentities renamed slots.tracked).idxOf
                 (renamedIdentity renamed owner) + 1 }
      else keyedPredecessorAnchor slots.nodeOrder element (replacements.length + 1) replacements) :
    Replaced element (marksOf (retargetedNodes element newIdentities renamed slots)) (replacements ++ [replacement]) := by
  intro occurrence index stands within
  by_cases last : occurrence = replacements.length + 1
  · subst last
    rw [retargetedNodes_names] at stands
    obtain ⟨owner', isOwner', before, here⟩ :=
      @SlotsTracked.node T _ element oldIdentities newIdentities renamed slots valid _ _ stands
    rw [Nat.add_sub_cancel] at isOwner' before
    have same : owner' = owner := by
      obtain ⟨behind, split⟩ := valid.first
      have inside := (List.getElem?_eq_some_iff.mp isOwner').1
      rw [← split, List.getElem?_append_left inside, isOwner'] at isOwner
      exact Option.some.inj isOwner
    subst same
    rw [Nat.add_sub_cancel, List.getElem?_concat_length]
    by_cases there : renamedIdentity renamed owner' ∈ newIdentities
    · rw [if_pos (List.contains_iff_mem.mpr (mem_presentIdentities.mpr there)), valid.idxOf isOwner' there]
        at isReplacement
      rw [List.contains_iff_mem.mpr there] at here
      have many : slots.nodeOrder.count element ≤ slots.tracked.length := Nat.le_of_eq valid.counted
      have counted := @survivors_stillThere T _ element renamed newIdentities _ _ many index
      rw [lastAnchor_survivor here, isReplacement]
      rw [before] at counted
      simp only [Option.join_some, Option.map_some, OpaqueXmlAnchor.place]
      rw [← counted]
      rfl
    · rw [if_neg (mt List.contains_iff_mem.mp (mt mem_presentIdentities.mp there))] at isReplacement
      have absent : newIdentities.contains (renamedIdentity renamed owner') = false := by simpa using there
      rw [absent] at here
      rw [lastAnchor_removed here, isReplacement, keyedPredecessorAnchor, nthOccurrence_standsAt stands]
      cases index with
      | zero => simp
      | succ index =>
          have inside : index + 1 < slots.nodeOrder.length := stands.index_lt
          obtain ⟨name, earlier⟩ : ∃ name, slots.nodeOrder[index]? = some name :=
            ⟨_, List.getElem?_eq_getElem (Nat.lt_of_succ_lt inside)⟩
          have standsBefore : StandsAt (names (marksOf (retargetedNodes element newIdentities renamed slots)))
              (name, (slots.nodeOrder.take (index + 1)).count name) index := by
            rw [retargetedNodes_names]
            exact ⟨earlier, rfl⟩
          simp only [earlier]
          by_cases own : name = element
          · rw [if_pos own]
            rw [own, before] at standsBefore
            rw [own, before]
            exact replaced _ _ standsBefore (Nat.le_refl _)
          · rw [if_neg own]
            have others := markRenamed_others element renamed newIdentities
              (ownedNodes element slots.nodeOrder slots.tracked)
            exact (others.lastAnchor own standsBefore).symm
  · rw [List.length_append, List.length_singleton] at within
    have positive : 0 < occurrence := stands.positive
    rw [List.getElem?_append_left (by omega)]
    exact replaced occurrence index stands (by omega)

theorem SlotsTracked.replacements (valid : SlotsTracked element oldIdentities renamed slots) {rest : List T}
    {replacements : List (Option OpaqueXmlAnchor)}
    (replaced : Replaced element (marksOf (retargetedNodes element newIdentities renamed slots)) replacements)
    (left : oldIdentities.drop replacements.length = rest) :
    Replaced element (marksOf (retargetedNodes element newIdentities renamed slots))
        (keyedReplacements element slots.nodeOrder (presentIdentities newIdentities renamed slots.tracked)
          (mappedIdentities renamed (presentIdentities newIdentities renamed slots.tracked) rest) replacements) ∧
      (keyedReplacements element slots.nodeOrder (presentIdentities newIdentities renamed slots.tracked)
          (mappedIdentities renamed (presentIdentities newIdentities renamed slots.tracked) rest) replacements).length =
        replacements.length + rest.length := by
  induction rest generalizing replacements with
  | nil => exact ⟨replaced, rfl⟩
  | cons owner rest ih =>
      have isOwner : oldIdentities[replacements.length]? = some owner := by
        rw [← List.head?_drop, left]
        rfl
      have next := valid.replacement replaced isOwner _ rfl
      have behind : oldIdentities.drop (replacements.length + 1) = rest := by
        rw [← List.drop_drop, left]
        rfl
      have later := ih next (by rw [List.length_append, List.length_singleton]; exact behind)
      rw [List.length_append, List.length_singleton] at later
      have step : keyedReplacements element slots.nodeOrder (presentIdentities newIdentities renamed slots.tracked)
          (mappedIdentities renamed (presentIdentities newIdentities renamed slots.tracked) (owner :: rest)) replacements =
          keyedReplacements element slots.nodeOrder (presentIdentities newIdentities renamed slots.tracked)
            (mappedIdentities renamed (presentIdentities newIdentities renamed slots.tracked) rest)
            (replacements ++ [if (presentIdentities newIdentities renamed slots.tracked).contains
                (renamedIdentity renamed owner) then
              some { elementName := element,
                     occurrence := (presentIdentities newIdentities renamed slots.tracked).idxOf
                       (renamedIdentity renamed owner) + 1 }
              else keyedPredecessorAnchor slots.nodeOrder element (replacements.length + 1) replacements]) := by
        have mapped : mappedIdentities renamed (presentIdentities newIdentities renamed slots.tracked) (owner :: rest) =
            (if (presentIdentities newIdentities renamed slots.tracked).contains (renamedIdentity renamed owner) then
              some (renamedIdentity renamed owner) else none) ::
            mappedIdentities renamed (presentIdentities newIdentities renamed slots.tracked) rest := rfl
        rw [mapped]
        split <;> rfl
      rw [step, List.length_cons]
      exact ⟨later.1, by omega⟩

theorem retargetKeyedKnownNodes_kept (valid : SlotsTracked element oldIdentities renamed slots)
    (newIdentities : List T) :
    SlotsKept element (renamedIdentity renamed) (retargetedNodes element newIdentities renamed slots) slots
      (retargetKeyedKnownNodes element oldIdentities newIdentities renamed slots) := by
  obtain ⟨replacements, isReplacements⟩ : ∃ replacements, replacements =
      keyedReplacements element slots.nodeOrder (presentIdentities newIdentities renamed slots.tracked)
        (mappedIdentities renamed (presentIdentities newIdentities renamed slots.tracked) oldIdentities) [] := ⟨_, rfl⟩
  have start : Replaced element (marksOf (retargetedNodes element newIdentities renamed slots)) [] := by
    intro occurrence index stands within
    exact absurd stands.positive (Nat.not_lt_of_le within)
  obtain ⟨replaced, many⟩ := @SlotsTracked.replacements T _ element oldIdentities newIdentities renamed slots valid
    oldIdentities [] start rfl
  rw [← isReplacements] at replaced many
  rw [List.length_nil, Nat.zero_add] at many
  have result : retargetKeyedKnownNodes element oldIdentities newIdentities renamed slots =
      { nodeOrder := retainKeyedNodes element (mappedIdentities renamed newIdentities slots.tracked) 0 slots.nodeOrder
        tracked := stillThere renamed newIdentities slots.tracked
        opaqueXml := retargetOpaqueXml (retargetKeyedAnchor element replacements) slots.opaqueXml
        customDataBlocks := retargetBlocks (retargetKeyedAnchor element replacements) slots.customDataBlocks } := by
    rw [isReplacements, presentIdentities, ← mapped_stillThere]
    rfl
  have others : OthersStay element (marksOf (retargetedNodes element newIdentities renamed slots)) :=
    markRenamed_others element renamed newIdentities (ownedNodes element slots.nodeOrder slots.tracked)
  have leads : ∀ old, IsNamed old →
      AnchorLeads element (marksOf (retargetedNodes element newIdentities renamed slots)) old
        (retargetKeyedAnchor element replacements old) := by
    intro old isNamed
    apply anchorLeads others rfl
    · intro anchor held foreign
      have hasName := isNamed anchor held
      simp [retargetKeyedAnchor, foreign, hasName]
    · intro occurrence index stands
      have within : occurrence ≤ replacements.length := by
        rw [many]
        have stands' := stands
        rw [retargetedNodes_names] at stands'
        obtain ⟨owner, isOwner, -⟩ :=
          @SlotsTracked.node T _ element oldIdentities newIdentities renamed slots valid _ _ stands'
        have inside := (List.getElem?_eq_some_iff.mp isOwner).1
        have most := valid.first.length_le
        omega
      have leads := replaced occurrence index stands within
      have positive : 0 < occurrence := stands.positive
      obtain ⟨replacement, here⟩ : ∃ replacement, replacements[occurrence - 1]? = some replacement :=
        ⟨_, List.getElem?_eq_getElem (by omega)⟩
      rw [here, Option.join_some] at leads
      have moved : retargetKeyedAnchor element replacements (some ⟨element, occurrence⟩) =
          replacement.filter fun anchor => anchor.elementName ≠ "" := by
        simp [retargetKeyedAnchor, Nat.ne_of_gt positive, here]
      have unnamed : replacement.filter (fun anchor => anchor.elementName ≠ "") = replacement := by
        cases replacement with
        | none => rfl
        | some anchor =>
            have last : lastAnchor (survivors ((marksOf (retargetedNodes element newIdentities renamed slots)).take
                (index + 1))) = some anchor.place := leads.symm
            rw [lastAnchor, Option.map_eq_some_iff] at last
            obtain ⟨name, isLast, same⟩ := last
            have among := (survivors_sublist _).mem (List.mem_of_getLast? isLast)
            rw [names, List.map_take] at among
            have inside := List.mem_of_mem_take among
            have nodes := retargetedNodes_names element newIdentities renamed slots
            rw [names] at nodes
            rw [nodes] at inside
            have isName : name = anchor.elementName := congrArg Prod.fst same
            have hasName : anchor.elementName ≠ "" := by
              rintro empty
              rw [isName, empty] at inside
              exact valid.nodes inside
            simp [hasName]
      rw [moved, unnamed, leads]
  obtain ⟨nodesKept, slotsKept⟩ := @retainKeyedNodes_owned T _ element renamed newIdentities
    (mappedIdentities renamed newIdentities slots.tracked) slots.nodeOrder slots.tracked 0 rfl valid.counted
  rw [result]
  exact {
    marks := by
      rw [retargetedNodes, markRenamed, List.map_map]
      exact List.map_id _
    nodes := nodesKept
    slots := slotsKept
    once := valid.distinct.filter _
    fragments := retargetOpaqueXml_leads fun fragment member => leads fragment.after (valid.fragments fragment member)
    blocks := retargetBlocks_leads fun block member => leads block.after (valid.blocks block member) }

end Replacements

end Mutators

/-! ## Both together -/

section Both

variable {T : Type} [DecidableEq T] {element : String}

omit [DecidableEq T] in
theorem ownedNodes_owners {nodes : List String} {owners : List T} (counted : nodes.count element = owners.length) :
    (ownedNodes element nodes owners).filterMap Prod.snd = owners := by
  induction nodes generalizing owners with
  | nil =>
      rw [List.count_nil] at counted
      rw [List.length_eq_zero_iff.mp counted.symm]
      rfl
  | cons name nodes ih =>
      rw [ownedNodes]
      by_cases own : name = element
      · cases owners with
        | nil => simp [own] at counted
        | cons owner owners =>
            have later : nodes.count element = owners.length := by simpa [own] using counted
            rw [if_pos own]
            exact congrArg (owner :: ·) (ih later)
      · have later : nodes.count element = owners.length := by
          rwa [List.count_cons_of_ne (by simpa using own)] at counted
        rw [if_neg own]
        exact ih later

/-- Every anchor at a keyed node has its node. -/
structure AnchorsPlaced (element : String) (slots : TrackedSlots T) : Prop where
  fragments : ∀ fragment ∈ slots.opaqueXml, ∀ anchor ∈ fragment.after, anchor.elementName = element →
    ∃ index, StandsAt slots.nodeOrder anchor.place index
  blocks : ∀ block ∈ slots.customDataBlocks, ∀ anchor ∈ block.after, anchor.elementName = element →
    ∃ index, StandsAt slots.nodeOrder anchor.place index

theorem OpaqueXmlAnchor.ext_place {one other : OpaqueXmlAnchor} (same : one.place = other.place) : one = other := by
  cases one
  cases other
  simp_all [OpaqueXmlAnchor.place]

theorem AnchorLeads.unique {marks : Marked String} {old one other : Option OpaqueXmlAnchor}
    (placed : ∀ anchor ∈ old, anchor.elementName = element → ∃ index, StandsAt (names marks) anchor.place index)
    (first : AnchorLeads element marks old one) (second : AnchorLeads element marks old other) : one = other := by
  cases old with
  | none => rw [first.none rfl, second.none rfl]
  | some anchor =>
      by_cases own : anchor.elementName = element
      · obtain ⟨index, stands⟩ := placed anchor rfl own
        have same := (first.leads anchor rfl index stands).unique (second.leads anchor rfl index stands)
        exact Option.map_injective (fun _ _ => OpaqueXmlAnchor.ext_place) same
      · rw [first.others anchor rfl own, second.others anchor rfl own]

omit [DecidableEq T] in
/-- Lists that a relation gives one by one from the same list are the same. -/
theorem forall₂_unique {A B : Type} {R : A → B → Prop} {source : List A} {one other : List B}
    (unique : ∀ a ∈ source, ∀ b b', R a b → R a b' → b = b') (first : List.Forall₂ R source one)
    (second : List.Forall₂ R source other) : one = other := by
  induction first generalizing other with
  | nil =>
      cases second
      rfl
  | cons head _ ih =>
      cases second with
      | cons head' tail' =>
          rw [unique _ List.mem_cons_self _ _ head head',
            ih (fun a member => unique a (List.mem_cons_of_mem _ member)) tail']

omit [DecidableEq T] in
/-- What is kept of marked nodes is settled by the marks. -/
theorem SlotsKept.unique {rename : T → T} {marked : List ((String × Option T) × Bool)}
    {before one other : TrackedSlots T} (placed : AnchorsPlaced element before)
    (first : SlotsKept element rename marked before one) (second : SlotsKept element rename marked before other) :
    one = other := by
  have nodes := first.nodes.trans second.nodes.symm
  have nodeOrder := congrArg (List.map Prod.fst) nodes
  rw [ownedNodes_names, ownedNodes_names] at nodeOrder
  have tracked := congrArg (List.filterMap Prod.snd) nodes
  rw [ownedNodes_owners first.slots, ownedNodes_owners second.slots] at tracked
  have isNodes : names (marksOf marked) = before.nodeOrder := by
    have marks := congrArg (List.map Prod.fst) first.marks
    rw [ownedNodes_names, List.map_map] at marks
    rw [names, marksOf, List.map_map]
    exact marks
  have opaqueXml : one.opaqueXml = other.opaqueXml := by
    refine forall₂_unique (fun old member new new' kept kept' => ?_) first.fragments second.fragments
    have after : new.after = new'.after := by
      apply AnchorLeads.unique _ kept.2 kept'.2
      rw [isNodes]
      exact placed.fragments old member
    cases new
    cases new'
    simp_all
  have customDataBlocks : one.customDataBlocks = other.customDataBlocks := by
    refine forall₂_unique (fun old member new new' kept kept' => ?_) first.blocks second.blocks
    have after : new.after = new'.after := by
      apply AnchorLeads.unique _ kept.2 kept'.2
      rw [isNodes]
      exact placed.blocks old member
    cases new
    cases new'
    simp_all
  cases one
  cases other
  simp_all

/-- Where no owner has two slots, the merge marks the nodes as the mutators do. -/
theorem markMerged_eq {current : T → Bool} {present : List T} (same : ∀ owner, current owner = present.contains owner)
    {nodes : List String} {owners : List T} {before : List (String × Option T)}
    (once : owners.Nodup) (new : ∀ owner ∈ owners, (element, some owner) ∉ before) :
    markMerged element current before (ownedNodes element nodes owners) =
      markRenamed element [] present (ownedNodes element nodes owners) := by
  induction nodes generalizing owners before with
  | nil => rfl
  | cons name nodes ih =>
      rw [ownedNodes]
      by_cases own : name = element
      · subst own
        rw [if_pos rfl, markMerged, markRenamed, List.map_cons]
        cases owners with
        | nil =>
            rw [List.head?_nil, List.tail_nil, ih List.nodup_nil (by simp)]
            simp [staysMerged, staysRenamed, markRenamed]
        | cons owner owners =>
            obtain ⟨first, rest⟩ := List.nodup_cons.mp once
            have later : ∀ other ∈ owners, (name, some other) ∉ before ++ [(name, some owner)] := by
              intro other member
              have apart : other ≠ owner := fun same => first (same ▸ member)
              simp [new other (List.mem_cons_of_mem _ member), apart]
            have stays : staysMerged name current before (name, some owner) =
                staysRenamed name [] present (name, some owner) := by
              simp [staysMerged, staysRenamed, same owner, new owner List.mem_cons_self, renamedIdentity]
            rw [List.head?_cons, List.tail_cons, ih rest later, stays]
            rfl
      · have later : ∀ owner ∈ owners, (element, some owner) ∉ before ++ [(name, none)] := by
          intro owner member
          simp [new owner member]
        rw [if_neg own, markMerged, markRenamed, List.map_cons, ih once later, staysRenamed_other own]
        simp [staysMerged, own, markRenamed]

variable [Ord T] [Std.TransOrd T]

/-- The merge and the mutators drop the same slots in the same way. -/
theorem retargetKeyedKnownNodes_eq {oldIdentities newIdentities : List T} {current : BTreeSet T}
    {slots : TrackedSlots T} (valid : SlotsTracked element oldIdentities [] slots)
    (same : ∀ owner, current.contains owner = newIdentities.contains owner) (placed : AnchorsPlaced element slots) :
    retargetKeyedKnownNodes element oldIdentities newIdentities [] slots = retainTrackedSlots element current slots := by
  have noRenames : renamedIdentity ([] : List (T × T)) = id := rfl
  have once : slots.tracked.Nodup := by
    have distinct := valid.distinct
    rwa [noRenames, List.map_id] at distinct
  have marks : mergedNodes element current slots = retargetedNodes element newIdentities [] slots :=
    markMerged_eq same once (by simp)
  have merged := retainTrackedSlots_kept element current slots
  have mutated := retargetKeyedKnownNodes_kept valid newIdentities
  rw [marks] at merged
  rw [noRenames] at mutated
  exact mutated.unique placed merged

end Both

/-! ## The slots of a valid vault -/

/-! ## Removing a keyed slot -/

section Removal

variable {T : Type} [DecidableEq T] [Ord T] [Std.TransOrd T]

/-- The merge keeps the anchors whatever it is given, and a mutator where the slots are tracked. Without a
    rename both come to the same. -/
theorem keyedSlots_keepAnchors (element : String) (slots : TrackedSlots T) :
    (∀ current : BTreeSet T,
      SlotsKept element id (mergedNodes element current slots) slots (retainTrackedSlots element current slots)) ∧
    (∀ oldIdentities newIdentities renamed, SlotsTracked element oldIdentities renamed slots →
      SlotsKept element (renamedIdentity renamed) (retargetedNodes element newIdentities renamed slots) slots
        (retargetKeyedKnownNodes element oldIdentities newIdentities renamed slots)) ∧
    (∀ (current : BTreeSet T) oldIdentities newIdentities, SlotsTracked element oldIdentities [] slots →
      (∀ owner, current.contains owner = newIdentities.contains owner) → AnchorsPlaced element slots →
      retargetKeyedKnownNodes element oldIdentities newIdentities [] slots =
        retainTrackedSlots element current slots) :=
  ⟨fun current => retainTrackedSlots_kept element current slots,
    fun _ newIdentities _ valid => retargetKeyedKnownNodes_kept valid newIdentities,
    fun _ _ _ valid same placed => retargetKeyedKnownNodes_eq valid same placed⟩

end Removal

def threeStrings : TrackedSlots String :=
  { nodeOrder := ["String", "Times", "String", "String"]
    tracked := ["Title", "alpha", "beta"]
    opaqueXml := [{ xml := "<A/>", after := some { elementName := "String", occurrence := 2 } },
      { xml := "<B/>", after := some { elementName := "String", occurrence := 3 } }]
    customDataBlocks := [] }

/-- The fragment of the removed field goes to the node before it, the other one follows its field. -/
example : retargetKeyedKnownNodes "String" ["Title", "alpha", "beta"] ["Title", "beta"] [] threeStrings =
    { nodeOrder := ["String", "Times", "String"]
      tracked := ["Title", "beta"]
      opaqueXml := [{ xml := "<A/>", after := some { elementName := "Times", occurrence := 1 } },
        { xml := "<B/>", after := some { elementName := "String", occurrence := 2 } }]
      customDataBlocks := [] } := rfl

theorem threeStrings_tracked : SlotsTracked "String" ["Title", "alpha", "beta"] [] threeStrings where
  counted := by decide
  distinct := by decide
  first := by decide
  named := by decide
  nodes := by decide
  fragments := by simp [threeStrings, IsNamed]
  blocks := by simp [threeStrings]

theorem threeStrings_placed : AnchorsPlaced "String" threeStrings where
  fragments := by
    simp only [threeStrings, List.mem_cons, List.not_mem_nil, or_false, forall_eq_or_imp, forall_eq,
      Option.mem_def, Option.some.injEq, forall_eq', OpaqueXmlAnchor.place, forall_const]
    exact ⟨⟨2, by decide⟩, 3, by decide⟩
  blocks := by simp [threeStrings]

theorem keyedSlots_keepAnchors_threeStrings :
    SlotsKept "String" id
        (mergedNodes "String" (Std.ExtTreeSet.ofList ["Title", "beta"] compare) threeStrings) threeStrings
        (retainTrackedSlots "String" (Std.ExtTreeSet.ofList ["Title", "beta"] compare) threeStrings) ∧
      SlotsKept "String" (renamedIdentity []) (retargetedNodes "String" ["Title", "beta"] [] threeStrings) threeStrings
        (retargetKeyedKnownNodes "String" ["Title", "alpha", "beta"] ["Title", "beta"] [] threeStrings) ∧
      retargetKeyedKnownNodes "String" ["Title", "alpha", "beta"] ["Title", "beta"] [] threeStrings =
        retainTrackedSlots "String" (Std.ExtTreeSet.ofList ["Title", "beta"] compare) threeStrings :=
  have keeps := keyedSlots_keepAnchors "String" threeStrings
  ⟨keeps.1 _, keeps.2.1 _ _ _ threeStrings_tracked,
    keeps.2.2 _ _ _ threeStrings_tracked (fun _ => Std.ExtTreeSet.contains_ofList) threeStrings_placed⟩

/-- A key with two slots and a slot of a key that goes away. -/
def repeatedString : TrackedSlots String :=
  { nodeOrder := ["String", "String", "String"]
    tracked := ["alpha", "alpha", "beta"]
    opaqueXml := [{ xml := "<A/>", after := some { elementName := "String", occurrence := 3 } }]
    customDataBlocks := [] }

/-- The mutator keeps both slots of the key, and the anchor at the removed slot points at no node. -/
theorem repeatedString_not_kept :
    (¬ ∃ rename marked, SlotsKept "String" rename marked repeatedString
      (retargetKeyedKnownNodes "String" ["alpha", "beta"] ["alpha"] [] repeatedString)) ∧
    (retargetKeyedKnownNodes "String" ["alpha", "beta"] ["alpha"] [] repeatedString).opaqueXml =
      repeatedString.opaqueXml ∧
    (retargetKeyedKnownNodes "String" ["alpha", "beta"] ["alpha"] [] repeatedString).nodeOrder =
      ["String", "String"] := by
  refine ⟨?_, by decide, by decide⟩
  rintro ⟨rename, marked, kept⟩
  have once := kept.once
  revert once
  decide

end VaultKern
