import VaultKern.Guarantees.Deletion

/-! # Where merged objects stand

The parent is merged three ways and the location clock follows it. A clock alone moves nothing:
a side whose object stands below the parent of the base counts as untouched.
-/

namespace VaultKern

/-- A parent and the time of the move below it. -/
abbrev Placement := Uuid × Option Nat

/-- The placements of two sides merged over the parent of the base. -/
structure PlacedThreeWay (base : Uuid) (left right merged : Placement) : Prop where
  localUnmoved : left.1 = base → merged = right
  remoteUnmoved : left.1 ≠ base → right.1 = base → merged = left
  movedAlike : left.1 ≠ base → left.1 = right.1 → merged = (right.1, some (max (left.2.getD 0) (right.2.getD 0)))
  localLater : left.1 ≠ base → right.1 ≠ base → left.1 ≠ right.1 → left.2.getD 0 > right.2.getD 0 → merged = left
  remoteLater : left.1 ≠ base → right.1 ≠ base → left.1 ≠ right.1 → left.2.getD 0 ≤ right.2.getD 0 → merged = right

def LocationMerge.placement (merged : LocationMerge) : Placement := (merged.parent, merged.changedAt)

theorem mergeLocation_placement (base : Uuid) (left right : Placement) :
    PlacedThreeWay base left right (mergeLocation base left.1 right.1 left.2 right.2).placement := by
  unfold mergeLocation
  constructor
  · intro unmoved
    rw [if_pos unmoved]
    rfl
  · intro moved unmoved
    rw [if_neg moved, if_pos unmoved]
    rfl
  · intro moved alike
    rw [if_neg moved, if_neg (alike ▸ moved), if_pos alike]
    rfl
  · intro moved moved' apart later
    rw [if_neg moved, if_neg moved', if_neg apart, if_pos later]
    rfl
  · intro moved moved' apart later
    rw [if_neg moved, if_neg moved', if_neg apart, if_neg (Nat.not_lt.mpr later)]
    rfl

/-- The side whose place among the siblings is kept is a side with the merged parent. -/
theorem mergeLocation_prefers (base left right : Uuid) (leftAt rightAt : Option Nat) :
    (mergeLocation base left right leftAt rightAt).parent =
      if (mergeLocation base left right leftAt rightAt).prefersLocal then left else right := by
  unfold mergeLocation
  split
  · rfl
  · split
    · rfl
    · split
      · rename_i alike
        simp [alike]
      · split <;> rfl

def FlatEntry.placement (row : FlatEntry) : Placement := (row.parent, row.value.locationChangedAt)

theorem mergedEntryRow_placement (base left right : FlatEntry) :
    PlacedThreeWay base.parent left.placement right.placement (mergedEntryRow base left right).placement := by
  have placed := mergeLocation_placement base.parent left.placement right.placement
  exact placed

/-- A merged group stands where the placements of the two sides put it, and says since when if it has times. -/
theorem mergedGroup_placement {id : Uuid} {base left right merged : FlatGroup} (merge : SharedGroup id base left right merged)
    {baseParent : Uuid} (below : base.parent = some baseParent) :
    ∃ leftParent rightParent placed, left.parent = some leftParent ∧ right.parent = some rightParent ∧
      PlacedThreeWay baseParent (leftParent, groupLocationChangedAt left.value)
        (rightParent, groupLocationChangedAt right.value) placed ∧ merged.parent = some placed.1 ∧
      (merged.value.times.isSome → groupLocationChangedAt merged.value = placed.2) := by
  obtain ⟨changed, merge⟩ := merge
  obtain ⟨⟨value, flag⟩, -, rest⟩ := Fallible.bind_ok.mp merge
  obtain ⟨⟨parent, changedAt, prefers⟩, located, result⟩ := Fallible.bind_ok.mp rest
  cases result
  unfold mergeGroupLocation at located
  rw [below] at located
  cases leftParent : left.parent with
  | none =>
      rw [leftParent] at located
      cases located
  | some leftParent' =>
      cases rightParent : right.parent with
      | none =>
          rw [leftParent, rightParent] at located
          cases located
      | some rightParent' =>
          rw [leftParent, rightParent] at located
          cases located
          refine ⟨leftParent', rightParent', _, rfl, rfl, mergeLocation_placement baseParent (leftParent', _)
            (rightParent', _), rfl, ?_⟩
          intro timed
          simp only [setGroupLocationChangedAt, Option.isSome_map] at timed
          obtain ⟨times, held⟩ := Option.isSome_iff_exists.mp timed
          simp only [groupLocationChangedAt, setGroupLocationChangedAt, held]
          rfl

theorem Chosen.both_kept {R : Type} {agree keepLocal keepRemote : R → R → Prop} {shared : R → R → R → R → Prop}
    {b l r : R} {m : Option R} (chosen : Chosen agree keepLocal keepRemote shared (some b) (some l) (some r) m) :
    ∃ merged, m = some merged ∧ shared b l r merged := by
  cases chosen with
  | shared merge => exact ⟨_, rfl, merge⟩

/-- Locations of single objects, and of the objects that all sides of a patch have. -/
theorem locations_threeWay (base local' remote : Vault) :
    (∀ (baseParent : Uuid) (left right : Placement),
      PlacedThreeWay baseParent left right (mergeLocation baseParent left.1 right.1 left.2 right.2).placement) ∧
    ∀ result, threeWayFieldPatch base local' remote = .ok result →
      (∀ (id : Uuid) (b l r : FlatEntry), base.flat.entries[id]? = some b → local'.flat.entries[id]? = some l →
        remote.flat.entries[id]? = some r → ∃ m, result.vault.flat.entries[id]? = some m ∧
          PlacedThreeWay b.parent l.placement r.placement m.placement) ∧
      ∀ (id baseParent : Uuid) (b l r : FlatGroup), base.flat.groups[id]? = some b → local'.flat.groups[id]? = some l →
        remote.flat.groups[id]? = some r → b.parent = some baseParent →
        ∃ leftParent rightParent placed m, l.parent = some leftParent ∧ r.parent = some rightParent ∧
          result.vault.flat.groups[id]? = some m ∧
          PlacedThreeWay baseParent (leftParent, groupLocationChangedAt l.value)
            (rightParent, groupLocationChangedAt r.value) placed ∧
          m.parent = some placed.1 ∧ (m.value.times.isSome → groupLocationChangedAt m.value = placed.2) := by
  refine ⟨mergeLocation_placement, ?_⟩
  intro result patched
  obtain ⟨run⟩ := threeWayFieldPatch_ok.mp patched
  constructor
  · intro id b l r inBase inLocal inRemote
    have chosen := run.entry_chosen id
    rw [inBase, inLocal, inRemote] at chosen
    obtain ⟨merged, here, rfl⟩ := chosen.both_kept
    obtain ⟨row, there, parent, value⟩ := run.entry_holds here
    refine ⟨row, there, ?_⟩
    have same : row.placement = (mergedEntryRow b l r).placement := by
      rw [FlatEntry.placement, parent, value]
      rfl
    rw [same]
    exact mergedEntryRow_placement b l r
  · intro id baseParent b l r inBase inLocal inRemote below
    have chosen := run.group_chosen id
    rw [inBase, inLocal, inRemote] at chosen
    obtain ⟨merged, here, merge⟩ := chosen.both_kept
    obtain ⟨leftParent, rightParent, placed, atLeft, atRight, location, parent, clock⟩ := mergedGroup_placement merge below
    obtain ⟨row, there, sameParent, sameValue⟩ := run.group_holds here
    refine ⟨leftParent, rightParent, placed, row, atLeft, atRight, there, location, sameParent.trans parent, ?_⟩
    have times : row.value.times = merged.value.times := by
      rw [sameValue]
      rfl
    unfold groupLocationChangedAt at clock ⊢
    rw [times]
    exact clock

/-- A note in the root, or in the folder since the time given. -/
def notedVault (movedAt : Option Nat) : Vault :=
  { name := "Notes"
    root :=
      { id := 1, title := "Root"
        entries := if movedAt.isNone then [{ id := 2, title := "Note", locationChangedAt := some 5 }] else []
        children := [{ id := 3, title := "Folder", entries := movedAt.toList.map fun movedAt =>
          { id := 2, title := "Note", locationChangedAt := some movedAt } }] } }

def notedRow (movedAt : Option Nat) : FlatEntry :=
  { value := { id := 2, title := "Note", locationChangedAt := some (movedAt.getD 5) }
    parent := if movedAt.isNone then 1 else 3
    order := 0 }

theorem locations_threeWay_moved : ∃ result m, threeWayFieldPatch (notedVault none) (notedVault (some 9)) (notedVault none) =
    .ok result ∧ result.vault.flat.entries[(2 : Uuid)]? = some m ∧ m.placement = (3, some 9) := by
  cases run : threeWayFieldPatch (notedVault none) (notedVault (some 9)) (notedVault none) with
  | error e =>
      have success : (threeWayFieldPatch (notedVault none) (notedVault (some 9)) (notedVault none)).toBool = true := by
        decide +kernel
      rw [run] at success
      cases success
  | ok result =>
      have here : (notedVault none).flat.entries[(2 : Uuid)]? = some (notedRow none) := by decide +kernel
      have there : (notedVault (some 9)).flat.entries[(2 : Uuid)]? = some (notedRow (some 9)) := by decide +kernel
      obtain ⟨m, held, placed⟩ := ((locations_threeWay _ _ _).2 result run).1 2 _ _ _ here there here
      exact ⟨result, m, rfl, held, placed.remoteUnmoved (by decide) rfl⟩

/-- The newer clock of the side that moved the object away and back is lost. -/
theorem awayAndBack_clockLost : ¬ ∀ base left right : Placement,
    let merged := (mergeLocation base.1 left.1 right.1 left.2 right.2).placement
    (left = base → merged = right) ∧ (right = base → merged = left) ∧ (left = right → merged = right) ∧
      (left ≠ base → right ≠ base → left ≠ right →
        (left.2.getD 0 > right.2.getD 0 → merged = left) ∧ (left.2.getD 0 ≤ right.2.getD 0 → merged = right)) := by
  intro threeWay
  have kept := (threeWay (1, some 5) (1, some 9) (1, some 5)).2.1 rfl
  exact absurd kept (by decide)

end VaultKern
