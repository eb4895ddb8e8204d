import Mathlib.Data.List.Dedup
import Mathlib.Tactic.Common

/-! # Putting named nodes back into a recorded order

A list of nodes is rearranged after a list of names. Each name of the list takes the
first node of that name that is still there. The nodes that no name takes follow the
last taken node of their own name, or keep to a taken neighbour.

However the nodes move, those of one name keep their order among themselves. The nodes
that take a slot stand in slot order.
-/

namespace NamedNodes

variable {A N : Type} [DecidableEq N]

section Definitions

variable (name : A → N)

/-- The nodes the slots take, in slot order, and the nodes left. -/
def takeSlots : List N → List (A × Nat) → List (A × Nat) × List (A × Nat)
  | [], nodes => ([], nodes)
  | slot :: slots, nodes =>
      match nodes.find? (fun node => name node.1 = slot) with
      | none => takeSlots slots nodes
      | some node =>
          let rest := takeSlots slots (nodes.eraseP fun node => name node.1 = slot)
          (node :: rest.1, rest.2)

/-- Where in the taken list the node of that index stands. -/
def basePosition (taken : List (A × Nat)) (index : Nat) : Option Nat :=
  taken.findIdx? fun node => node.2 = index

/-- The place behind the last taken node of that name. -/
def afterLast (label : N) : List (A × Nat) → Option Nat
  | [] => none
  | node :: rest =>
      match afterLast label rest with
      | some position => some (position + 1)
      | none => if name node.1 = label then some 1 else none

/-- The gap of the taken list that the left nodes of a name go into. `first` is the index of
    the first of them, `count` the number of all nodes. -/
def gapOf (taken : List (A × Nat)) (count : Nat) (label : N) (first : Nat) : Nat :=
  match afterLast name label taken with
  | some position => position
  | none =>
      match (List.range first).reverse.findSome? (basePosition taken) with
      | some position => position + 1
      | none => ((List.range' (first + 1) (count - (first + 1))).findSome? (basePosition taken)).getD 0

/-- Every element once, at its first place. -/
def distinct (labels : List N) : List N := labels.reverse.dedup.reverse

/-- The left nodes of a name. -/
def leftOf (left : List (A × Nat)) (label : N) : List (A × Nat) := left.filter fun node => name node.1 = label

def reorder (order : List N) (nodes : List A) : List A :=
  if order.isEmpty then nodes
  else
    let (taken, left) := takeSlots name order nodes.zipIdx
    let labels := distinct (left.map fun node => name node.1)
    let gap (label : N) := gapOf name taken nodes.length label (((leftOf name left label).head?.map Prod.snd).getD 0)
    (List.range (taken.length + 1)).flatMap fun position =>
      ((labels.filter fun label => gap label = position).flatMap fun label =>
        (leftOf name left label).map Prod.fst) ++ (taken[position]?.map Prod.fst).toList

end Definitions

section Laws

variable {name : A → N}

theorem takeSlots_filter (label : N) : ∀ (order : List N) (nodes : List (A × Nat)),
    ((takeSlots name order nodes).1.filter fun node => name node.1 = label) ++
      (takeSlots name order nodes).2.filter (fun node => name node.1 = label) =
      nodes.filter fun node => name node.1 = label
  | [], nodes => rfl
  | slot :: slots, nodes => by
      unfold takeSlots
      cases found : nodes.find? (fun node => name node.1 = slot) with
      | none => exact takeSlots_filter label slots nodes
      | some node =>
          have later := takeSlots_filter label slots (nodes.eraseP fun node => name node.1 = slot)
          have owner : name node.1 = slot := by simpa using List.find?_some found
          obtain ⟨_, before, after, rfl, clean⟩ := List.find?_eq_some_iff_append.mp found
          have skipped : ∀ a ∈ before, name a.1 ≠ slot := by simpa using clean
          have erased : (before ++ node :: after).eraseP (fun node => name node.1 = slot) = before ++ after := by
            rw [List.eraseP_append_right _ (by simpa using skipped), List.eraseP_cons_of_pos (by simpa using owner)]
          rw [erased] at later ⊢
          simp only [List.filter_append, List.filter_cons] at later ⊢
          by_cases same : name node.1 = label
          · have none : before.filter (fun node => decide (name node.1 = label)) = [] := by
              rw [List.filter_eq_nil_iff]
              intro a member
              simpa [← same, owner] using skipped a member
            rw [none, List.nil_append] at later ⊢
            simp only [same, decide_true, if_true, List.cons_append, later]
          · simp only [same, decide_false, Bool.false_eq_true, if_false, later]

theorem mem_distinct {labels : List N} {label : N} : label ∈ distinct labels ↔ label ∈ labels := by
  simp [distinct]

theorem distinct_nodup (labels : List N) : (distinct labels).Nodup :=
  List.nodup_reverse.mpr (List.nodup_dedup _)

/-- Weaving one group into the gaps of a list whose later nodes are of another kind. -/
theorem weave_filter (keep : A → Bool) (group : List A) : ∀ (list : List A) (gap : Nat), gap ≤ list.length →
    (∀ position a, gap ≤ position → list[position]? = some a → keep a = false) →
    ((List.range (list.length + 1)).flatMap fun position =>
      (if position = gap then group else []) ++ (list[position]?).toList.filter keep) = list.filter keep ++ group
  | [], gap, bound, _ => by
      have zero : gap = 0 := by simpa using bound
      simp [zero]
  | a :: rest, gap, bound, later => by
      rw [List.length_cons, List.range_succ_eq_map, List.flatMap_cons, List.flatMap_map]
      cases gap with
      | zero =>
          have none : (a :: rest).filter keep = [] := by
            rw [List.filter_eq_nil_iff]
            intro b member
            obtain ⟨position, inside, rfl⟩ := List.getElem_of_mem member
            simpa using later position _ (Nat.zero_le _) (List.getElem?_eq_getElem inside)
          have head : keep a = false := later 0 a (Nat.zero_le _) rfl
          have tail : (List.range (rest.length + 1)).flatMap (fun position =>
              (if position.succ = 0 then group else []) ++ ((a :: rest)[position.succ]?).toList.filter keep) = [] := by
            rw [List.flatMap_eq_nil_iff]
            intro position _
            cases found : rest[position]? with
            | none => simp [found]
            | some b =>
                have dropped : keep b = false := later (position + 1) b (Nat.zero_le _) (by simpa using found)
                simp [found, dropped]
          rw [none, tail]
          simp [head]
      | succ gap =>
          have step := weave_filter keep group rest gap (by simpa using bound) (fun position b low found =>
            later (position + 1) b (by omega) (by simpa using found))
          have tail : (List.range (rest.length + 1)).flatMap (fun position =>
              (if position.succ = gap + 1 then group else []) ++ ((a :: rest)[position.succ]?).toList.filter keep) =
              rest.filter keep ++ group := by
            rw [← step]
            refine List.flatMap_congr fun position _ => ?_
            simp
          rw [tail]
          cases kept : keep a <;> simp [kept]

theorem basePosition_lt {taken : List (A × Nat)} {index position : Nat}
    (found : basePosition taken index = some position) : position < taken.length :=
  (List.findIdx?_eq_some_iff_getElem.mp found).1

theorem findSome_basePosition_lt {taken : List (A × Nat)} {indices : List Nat} {position : Nat}
    (found : indices.findSome? (basePosition taken) = some position) : position < taken.length := by
  obtain ⟨_, _, here⟩ := List.exists_of_findSome?_eq_some found
  exact basePosition_lt here

theorem afterLast_le {label : N} : ∀ {taken : List (A × Nat)} {position : Nat},
    afterLast name label taken = some position → position ≤ taken.length
  | [], _, found => by cases found
  | node :: rest, position, found => by
      unfold afterLast at found
      split at found
      · rename_i later here
        cases found
        exact Nat.succ_le_succ (afterLast_le here)
      · split at found
        · cases found
          exact Nat.succ_le_succ (Nat.zero_le _)
        · cases found

theorem afterLast_none {label : N} : ∀ {taken : List (A × Nat)}, afterLast name label taken = none →
    ∀ node ∈ taken, name node.1 ≠ label
  | [], _, _, member => by cases member
  | node :: rest, missing, other, member => by
      unfold afterLast at missing
      split at missing
      · cases missing
      · rename_i later
        split at missing
        · cases missing
        · rename_i different
          rcases List.mem_cons.mp member with rfl | tail
          · exact different
          · exact afterLast_none later other tail

/-- No node of that name stands behind its last place. -/
theorem afterLast_last {label : N} : ∀ {taken : List (A × Nat)} {position : Nat},
    afterLast name label taken = some position →
    ∀ (later : Nat) (node : A × Nat), position ≤ later → taken[later]? = some node → name node.1 ≠ label
  | [], _, found => by cases found
  | first :: rest, position, found => by
      intro later node behind here
      unfold afterLast at found
      split at found
      · rename_i position' tail
        cases found
        cases later with
        | zero => omega
        | succ later => exact afterLast_last tail later node (by omega) (by simpa using here)
      · rename_i tail
        split at found
        · cases found
          cases later with
          | zero => omega
          | succ later =>
              have inside : rest[later]? = some node := by simpa using here
              exact afterLast_none tail node (List.mem_of_getElem? inside)
        · cases found

theorem gapOf_le (taken : List (A × Nat)) (count : Nat) (label : N) (first : Nat) :
    gapOf name taken count label first ≤ taken.length := by
  unfold gapOf
  split
  · rename_i found
    exact afterLast_le found
  · split
    · rename_i found
      exact findSome_basePosition_lt found
    · cases found : (List.range' (first + 1) (count - (first + 1))).findSome? (basePosition taken) with
      | none => exact Nat.zero_le _
      | some position => exact Nat.le_of_lt (findSome_basePosition_lt found)

theorem gapOf_behind {taken : List (A × Nat)} {count : Nat} {label : N} {first later : Nat} {node : A × Nat}
    (behind : gapOf name taken count label first ≤ later) (here : taken[later]? = some node) :
    name node.1 ≠ label := by
  unfold gapOf at behind
  split at behind
  · rename_i found
    exact afterLast_last found later node behind here
  · rename_i missing
    exact afterLast_none missing node (List.mem_of_getElem? here)

theorem leftOf_other {left : List (A × Nat)} {label other : N} (different : other ≠ label) :
    ((leftOf name left other).map Prod.fst).filter (fun a => name a = label) = [] := by
  rw [List.filter_eq_nil_iff]
  intro a member
  obtain ⟨node, inside, rfl⟩ := List.mem_map.mp member
  have own : name node.1 = other := by simpa using (List.mem_filter.mp inside).2
  simpa [own] using different

theorem leftOf_own (left : List (A × Nat)) (label : N) :
    ((leftOf name left label).map Prod.fst).filter (fun a => name a = label) = (leftOf name left label).map Prod.fst := by
  rw [List.filter_eq_self]
  intro a member
  obtain ⟨node, inside, rfl⟩ := List.mem_map.mp member
  exact (List.mem_filter.mp inside).2

/-- The part of one gap that has the name. -/
theorem groups_filter {left : List (A × Nat)} {label : N} {position : Nat} (gap : N → Nat) : ∀ {labels : List N},
    labels.Nodup →
    ((labels.filter fun l => gap l = position).flatMap fun l => (leftOf name left l).map Prod.fst).filter
      (fun a => name a = label) =
      if label ∈ labels ∧ gap label = position then (leftOf name left label).map Prod.fst else []
  | [], _ => by simp
  | l :: rest, nodup => by
      have ⟨fresh, later⟩ := List.nodup_cons.mp nodup
      have tail : ((rest.filter fun l => gap l = position).flatMap fun l => (leftOf name left l).map Prod.fst).filter
          (fun a => name a = label) =
          if label ∈ rest ∧ gap label = position then (leftOf name left label).map Prod.fst else [] :=
        groups_filter gap later
      by_cases same : l = label
      · subst same
        rw [if_neg (fun both => fresh both.1)] at tail
        by_cases here : gap l = position
        · simp [here, List.filter_append, tail, leftOf_own]
        · simp [here, tail]
      · by_cases here : gap l = position
        · simp only [List.filter_cons, here, decide_true, if_true, List.flatMap_cons, List.filter_append, tail,
            leftOf_other same, List.nil_append, List.mem_cons, Ne.symm same, false_or]
        · simp only [List.filter_cons, here, decide_false, Bool.false_eq_true, if_false, tail, List.mem_cons,
            Ne.symm same, false_or]

theorem leftOf_nil {left : List (A × Nat)} {label : N} (missing : label ∉ distinct (left.map fun node => name node.1)) :
    leftOf name left label = [] := by
  rw [mem_distinct] at missing
  rw [leftOf, List.filter_eq_nil_iff]
  intro node inside same
  exact missing (List.mem_map.mpr ⟨node, inside, by simpa using same⟩)

theorem zipIdx_filter (nodes : List A) (keep : A → Bool) :
    (nodes.zipIdx.filter fun node => keep node.1).map Prod.fst = nodes.filter keep := by
  have mapped : nodes.filter keep = (nodes.zipIdx.map Prod.fst).filter keep := by rw [List.zipIdx_map_fst]
  rw [mapped, List.filter_map]
  rfl

/-- Nodes of one name keep their order. -/
theorem reorder_filter (order : List N) (nodes : List A) (label : N) :
    ((reorder name order nodes).filter fun a => name a = label) = nodes.filter fun a => name a = label := by
  unfold reorder
  split
  · rfl
  have parts : ((takeSlots name order nodes.zipIdx).1.filter fun node => name node.1 = label) ++
      (takeSlots name order nodes.zipIdx).2.filter (fun node => name node.1 = label) =
      nodes.zipIdx.filter fun node => name node.1 = label := takeSlots_filter label order nodes.zipIdx
  generalize takeSlots name order nodes.zipIdx = split at parts
  obtain ⟨taken, left⟩ := split
  dsimp only at parts ⊢
  let gap (l : N) := gapOf name taken nodes.length l (((leftOf name left l).head?.map Prod.snd).getD 0)
  have bound : gap label ≤ (taken.map Prod.fst).length := by
    rw [List.length_map]
    exact gapOf_le taken nodes.length label _
  have behind : ∀ position a, gap label ≤ position → (taken.map Prod.fst)[position]? = some a →
      decide (name a = label) = false := by
    intro position a low here
    rw [List.getElem?_map] at here
    obtain ⟨node, found, rfl⟩ := Option.map_eq_some_iff.mp here
    simpa using gapOf_behind low found
  have woven := weave_filter (fun a => decide (name a = label)) ((leftOf name left label).map Prod.fst)
    (taken.map Prod.fst) (gap label) bound behind
  rw [List.filter_flatMap, ← zipIdx_filter nodes, ← parts, List.map_append]
  rw [List.filter_map, List.length_map] at woven
  refine Eq.trans (List.flatMap_congr fun position _ => ?_) woven
  rw [List.filter_append, groups_filter gap (distinct_nodup _), List.getElem?_map]
  congr 1
  by_cases known : label ∈ distinct (left.map fun node => name node.1)
  · simp [known, eq_comm]
  · simp [known, leftOf_nil known]

end Laws

section Slots

variable {name : A → N}

/-- The nodes that the slots of an order ask for, slot by slot: each slot asks for the node of
    its name that has as many of that name before it as the slot has. -/
def slotted (name : A → N) (order : List N) (nodes : List A) : List A :=
  order.zipIdx.filterMap fun slot =>
    (nodes.filter fun node => name node = slot.1)[(order.take slot.2).count slot.1]?

theorem slotted_cons (slot : N) (slots : List N) (nodes : List A) :
    slotted name (slot :: slots) nodes =
      ((nodes.filter fun node => name node = slot)[0]?).toList ++
        slots.zipIdx.filterMap fun later =>
          (nodes.filter fun node => name node = later.1)[(slots.take later.2).count later.1 + (if slot = later.1 then 1 else 0)]? := by
  unfold slotted
  rw [List.zipIdx_cons, List.filterMap_cons, List.zipIdx_succ, List.filterMap_map]
  simp only [List.take_zero, List.count_nil, Function.comp_def, List.take_succ_cons, List.count_cons, beq_iff_eq]
  cases (nodes.filter fun node => name node = slot)[0]? <;> rfl

/-- A slot that finds its node uses it up. -/
theorem slotted_found {slot : N} {slots : List N} {before after : List A} {node : A} (owner : name node = slot)
    (skipped : ∀ other ∈ before, name other ≠ slot) :
    slotted name (slot :: slots) (before ++ node :: after) = node :: slotted name slots (before ++ after) := by
  have none : before.filter (fun other => decide (name other = slot)) = [] :=
    List.filter_eq_nil_iff.mpr fun other inside => by simpa using skipped other inside
  rw [slotted_cons]
  simp only [List.filter_append, List.filter_cons, owner, none, decide_true, if_true, List.nil_append,
    List.getElem?_cons_zero, Option.toList_some, List.singleton_append, List.cons.injEq, true_and]
  refine List.filterMap_congr fun later _ => ?_
  by_cases same : slot = later.1
  · subst same
    simp [none]
  · simp [same]

/-- A slot whose name no node has changes nothing. -/
theorem slotted_missing {slot : N} {slots : List N} {nodes : List A} (missing : ∀ node ∈ nodes, name node ≠ slot) :
    slotted name (slot :: slots) nodes = slotted name slots nodes := by
  have none : nodes.filter (fun node => decide (name node = slot)) = [] :=
    List.filter_eq_nil_iff.mpr fun node inside => by simpa using missing node inside
  rw [slotted_cons, none]
  refine List.filterMap_congr fun later _ => ?_
  by_cases same : slot = later.1
  · rw [← same, none]
    rfl
  · rw [if_neg same]
    rfl

theorem takeSlots_slotted : ∀ (order : List N) (nodes : List (A × Nat)),
    (takeSlots name order nodes).1.map Prod.fst = slotted name order (nodes.map Prod.fst)
  | [], _ => rfl
  | slot :: slots, nodes => by
      unfold takeSlots
      cases found : nodes.find? (fun node => name node.1 = slot) with
      | none =>
          have missing : ∀ node ∈ nodes.map Prod.fst, name node ≠ slot := by
            intro node inside
            obtain ⟨pair, member, rfl⟩ := List.mem_map.mp inside
            simpa using List.find?_eq_none.mp found pair member
          rw [slotted_missing missing]
          exact takeSlots_slotted slots nodes
      | some node =>
          have owner : name node.1 = slot := by simpa using List.find?_some found
          obtain ⟨_, before, after, rfl, clean⟩ := List.find?_eq_some_iff_append.mp found
          have skipped : ∀ a ∈ before, name a.1 ≠ slot := by simpa using clean
          have erased : (before ++ node :: after).eraseP (fun node => name node.1 = slot) = before ++ after := by
            rw [List.eraseP_append_right _ (by simpa using skipped), List.eraseP_cons_of_pos (by simpa using owner)]
          have skippedNodes : ∀ a ∈ before.map Prod.fst, name a ≠ slot := by
            intro a inside
            obtain ⟨pair, member, rfl⟩ := List.mem_map.mp inside
            exact skipped pair member
          have taken : slotted name (slot :: slots) (before.map Prod.fst ++ node.1 :: after.map Prod.fst) =
              node.1 :: slotted name slots (before.map Prod.fst ++ after.map Prod.fst) := slotted_found owner skippedNodes
          simp only [List.map_append, List.map_cons]
          rw [taken, erased, takeSlots_slotted slots (before ++ after), List.map_append]

theorem weave_sublist (groups : Nat → List A) : ∀ list : List A,
    list.Sublist ((List.range (list.length + 1)).flatMap fun position => groups position ++ list[position]?.toList)
  | [] => List.nil_sublist _
  | a :: rest => by
      rw [List.length_cons, List.range_succ_eq_map, List.flatMap_cons, List.flatMap_map]
      have later := weave_sublist (fun position => groups (position + 1)) rest
      have head : [a].Sublist (groups 0 ++ (a :: rest)[0]?.toList) := List.sublist_append_right (groups 0) [a]
      exact head.append (by simpa using later)

/-- The nodes that take the slots stand in slot order. -/
theorem slotted_sublist (order : List N) (nodes : List A) : (slotted name order nodes).Sublist (reorder name order nodes) := by
  unfold reorder
  split
  next empty =>
    obtain rfl : order = [] := by simpa using empty
    exact List.nil_sublist _
  have taken : (takeSlots name order nodes.zipIdx).1.map Prod.fst = slotted name order nodes := by
    rw [takeSlots_slotted, List.zipIdx_map_fst]
  rw [← taken]
  dsimp only
  simp only [← List.getElem?_map]
  conv =>
    arg 2; arg 2; arg 1
    rw [← @List.length_map _ _ (takeSlots name order nodes.zipIdx).1 Prod.fst]
  exact weave_sublist _ _

/-- Two lists with the same nodes of each name have the same nodes. -/
theorem perm_of_filter : ∀ {first second : List A},
    (∀ label, first.filter (fun a => name a = label) = second.filter fun a => name a = label) → first.Perm second
  | [], second, same => by
      cases second with
      | nil => exact .refl []
      | cons a rest => simpa using same (name a)
  | a :: rest, second, same => by
      have own := same (name a)
      rw [List.filter_cons_of_pos (by simp)] at own
      obtain ⟨before, after, rfl, skipped, _, tail⟩ := List.filter_eq_cons_iff.mp own.symm
      have none : before.filter (fun b => decide (name b = name a)) = [] :=
        List.filter_eq_nil_iff.mpr skipped
      refine .trans (.cons a (perm_of_filter fun label => ?_)) List.perm_middle.symm
      have here := same label
      by_cases this : name a = label
      · subst this
        simpa [none] using here
      · simpa [this] using here

theorem reorder_perm (order : List N) (nodes : List A) : (reorder name order nodes).Perm nodes :=
  perm_of_filter fun label => reorder_filter order nodes label

/-- Nodes of a name before a place, and the node there. -/
theorem filter_getElem_count {file : List A} {position : Nat} {node : A} (here : file[position]? = some node) :
    (file.filter fun a => name a = name node)[((file.map name).take position).count (name node)]? = some node := by
  obtain ⟨before, after, rfl, rfl⟩ : ∃ before after, file = before ++ node :: after ∧ before.length = position := by
    obtain ⟨inside, rfl⟩ := List.getElem?_eq_some_iff.mp here
    refine ⟨file.take position, file.drop (position + 1), ?_, List.length_take_of_le (Nat.le_of_lt inside)⟩
    rw [← List.drop_eq_getElem_cons inside, List.take_append_drop]
  have counted : (before.map name).count (name node) = (before.filter fun a => name a = name node).length := by
    rw [List.count, List.countP_map, List.countP_eq_length_filter]
    rfl
  rw [← List.map_take, List.take_left, counted, List.filter_append, List.getElem?_append_right (Nat.le_refl _),
    Nat.sub_self, List.filter_cons_of_pos (by simp), List.getElem?_cons_zero]

theorem slotted_self (file : List A) : slotted name (file.map name) file = file := by
  unfold slotted
  rw [List.zipIdx_map, List.filterMap_map]
  have each : ∀ pair ∈ file.zipIdx, ((fun slot : N × Nat =>
      (file.filter fun node => name node = slot.1)[((file.map name).take slot.2).count slot.1]?) ∘
        Prod.map name id) pair = some pair.1 := by
    rintro ⟨node, position⟩ member
    exact filter_getElem_count (List.mem_zipIdx_iff_getElem?.mp member)
  rw [List.filterMap_congr each, ← Function.comp_def, List.filterMap_eq_map, List.zipIdx_map_fst]

/-- Nodes in the order they were recorded in come back in that order. -/
theorem reorder_recorded {file nodes : List A}
    (same : ∀ label, nodes.filter (fun a => name a = label) = file.filter fun a => name a = label) :
    reorder name (file.map name) nodes = file := by
  have slots : slotted name (file.map name) nodes = file := by
    have own : slotted name (file.map name) file = file := slotted_self file
    unfold slotted at own ⊢
    simp only [same]
    exact own
  have inside : file.Sublist (reorder name (file.map name) nodes) := by
    conv => lhs; rw [← slots]
    exact slotted_sublist (file.map name) nodes
  have lengths : file.length = (reorder name (file.map name) nodes).length :=
    ((reorder_perm (file.map name) nodes).trans (perm_of_filter same)).length_eq.symm
  exact (inside.eq_of_length lengths).symm

end Slots

end NamedNodes
