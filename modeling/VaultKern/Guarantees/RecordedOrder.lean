import VaultKern.Kdbx.Scope

/-! # The recorded order of a scope

The writer puts the children of a scope back into the order the reader recorded. Nothing is
lost or doubled, whatever was added or removed in between.
-/

namespace VaultKern.Kdbx

/-- The children that have a place in the recorded order, in that order. -/
def recordedChildren (children : List Element) (originalOrder : List String) : List Element :=
  NamedNodes.slotted Element.name originalOrder children

/-- The children without a place: as many of their name as were recorded come before them. -/
def surplusChildren (children : List Element) (originalOrder : List String) : List Element :=
  (children.zipIdx.filter fun (child, index) =>
    originalOrder.count child.name ≤ (named child.name (children.take index)).length).map Prod.fst

theorem surplusChildren_concat (children : List Element) (child : Element) (originalOrder : List String) :
    surplusChildren (children ++ [child]) originalOrder = surplusChildren children originalOrder ++
      if originalOrder.count child.name ≤ (named child.name children).length then [child] else [] := by
  have before : ∀ pair ∈ children.zipIdx,
      decide (originalOrder.count pair.1.name ≤ (named pair.1.name ((children ++ [child]).take pair.2)).length) =
        decide (originalOrder.count pair.1.name ≤ (named pair.1.name (children.take pair.2)).length) := by
    rintro ⟨other, index⟩ member
    obtain ⟨inside, _⟩ := List.getElem?_eq_some_iff.mp (List.mem_zipIdx_iff_getElem?.mp member)
    rw [List.take_append_of_le_length (Nat.le_of_lt inside)]
  unfold surplusChildren
  rw [List.zipIdx_append, List.filter_append, List.map_append, List.filter_congr before]
  congr 1
  by_cases behind : originalOrder.count child.name ≤ (named child.name children).length
  · simp [behind]
  · simp [behind]

/-- The children of one name without a place are those behind as many as have one. -/
theorem named_surplusChildren (label : String) (originalOrder : List String) (children : List Element) :
    named label (surplusChildren children originalOrder) = (named label children).drop (originalOrder.count label) := by
  induction children using List.reverseRecOn with
  | nil => simp [surplusChildren]
  | append_singleton children child ih =>
      rw [surplusChildren_concat, named_append, named_append, ih]
      by_cases same : child.name = label
      · subst same
        have own : named child.name [child] = [child] := named_of_all (by simp)
        rw [own]
        split
        next behind => rw [List.drop_append_of_le_length behind, own]
        next inside =>
          rw [named_nil, List.append_nil, List.drop_of_length_le (by omega), List.drop_of_length_le]
          rw [List.length_append]
          simp only [List.length_singleton]
          omega
      · rw [named_of_none (show ∀ c ∈ [child], c.name ≠ label by simpa using same), List.append_nil]
        split
        · rw [named_of_none (show ∀ c ∈ [child], c.name ≠ label by simpa using same), List.append_nil]
        · rw [named_nil, List.append_nil]

/-- What the result keeps of the children and of the recorded order. -/
structure KeepsRecordedOrder (children : List Element) (originalOrder : List String) (result : List Element) : Prop where
  sameNodes : result.Perm children
  recorded : (recordedChildren children originalOrder).Sublist result
  ofOneName : ∀ label, named label result = named label children
  surplus : ∀ label, (named label (surplusChildren children originalOrder)).Sublist result

theorem reorderKnownXmlNodes_keeps (children : List Element) (originalOrder : List String) :
    KeepsRecordedOrder children originalOrder (reorderKnownXmlNodes children originalOrder) where
  sameNodes := NamedNodes.reorder_perm originalOrder children
  recorded := NamedNodes.slotted_sublist originalOrder children
  ofOneName := reorderKnownXmlNodes_named children originalOrder
  surplus label := by
    rw [named_surplusChildren, ← reorderKnownXmlNodes_named children originalOrder]
    exact (List.drop_sublist _ _).trans List.filter_sublist

/-- The known children of a scope, as the file has them. -/
def knownChildren (known : List String) (element : Element) : List Element :=
  element.elements.filter fun child => child.name ∈ known

theorem collectKnownNodeOrder_names (known : List String) (element : Element) :
    collectKnownNodeOrder known element = (knownChildren known element).map Element.name := by
  unfold collectKnownNodeOrder knownChildren
  rw [List.filter_map]
  rfl

/-- The writer keeps every child and the recorded order. Children that are those of the file,
    name by name, come back as the file has them. -/
theorem recordedOrder_kept :
    (∀ (children : List Element) (originalOrder : List String),
      KeepsRecordedOrder children originalOrder (reorderKnownXmlNodes children originalOrder)) ∧
    ∀ (known : List String) (element : Element) (children : List Element),
      (∀ label, named label children = named label (knownChildren known element)) →
        reorderKnownXmlNodes children (collectKnownNodeOrder known element) = knownChildren known element := by
  constructor
  · exact reorderKnownXmlNodes_keeps
  · intro known element children same
    rw [collectKnownNodeOrder_names]
    exact NamedNodes.reorder_recorded same

/-! ## A group before an entry -/

def orderedGroup : Element :=
  .ofElements "Group" [.ofText "Name" "Mail", .ofElements "Group" [.ofText "Name" "Old"], .ofElements "Entry" []]

theorem recordedOrder_kept_group :
    reorderKnownXmlNodes [.ofText "Name" "Mail", .ofElements "Entry" [], .ofElements "Group" [.ofText "Name" "Old"]]
        (collectKnownNodeOrder ["Name", "Entry", "Group"] orderedGroup) =
      knownChildren ["Name", "Entry", "Group"] orderedGroup := by
  apply recordedOrder_kept.2
  intro label
  have known : knownChildren ["Name", "Entry", "Group"] orderedGroup =
      [.ofText "Name" "Mail", .ofElements "Group" [.ofText "Name" "Old"], .ofElements "Entry" []] := rfl
  rw [known]
  simp only [named, List.filter_cons, List.filter_nil, Element.name_ofText, Element.name_ofElements]
  grind

/-- An added entry follows the recorded entry, behind the added group. -/
theorem surplus_reordered : ¬ ∀ (children : List Element) (originalOrder : List String),
    (surplusChildren children originalOrder).Sublist (reorderKnownXmlNodes children originalOrder) := by
  intro keeps
  have names := (keeps [.ofElements "Entry" [], .ofElements "Entry" [], .ofElements "Group" [], .ofElements "Group" []]
    ["Group", "Entry"]).map Element.name
  revert names
  decide

end VaultKern.Kdbx
