import VaultKern.Outcome.Choice
import VaultKern.Tree.Rebuild

/-! # Parents of kept rows are kept

The chosen parent of a row is a group of the side it comes from. If the other side
deleted that group, the row under it is new, moved there or changed, so the
subtree of the parent changed too and the group is kept.
-/

namespace VaultKern

open ParentForest FlatVault

variable {base local' remote survivor other : FlatVault} {id parent : Uuid}

/-! ## Untouched subtrees below untouched subtrees -/

theorem Untouched.below (untouched : Untouched base survivor parent)
    (inBase : Reaches base.parentOf id parent) (inSurvivor : Reaches survivor.parentOf id parent) :
    Untouched base survivor id where
  kept :=
    { groups := fun here climb => untouched.kept.groups here (climb.trans inBase)
      entries := fun here climb => untouched.kept.entries here (climb.trans inBase) }
  added :=
    { groups := fun here climb => untouched.added.groups here (climb.trans inSurvivor)
      entries := fun here climb => untouched.added.entries here (climb.trans inSurvivor) }

/-- A row that stands below a group of the survivor, but not in the base, changes its subtree. -/
theorem preserved_of_new_child (wf : survivor.WellFormed) {row : FlatGroup}
    (here : survivor.groups[id]? = some row) (up : row.parent = some parent) (inBase : parent ∈ base.groups)
    (gone : parent ∉ other.groups)
    (new : ∀ old, base.groups[id]? = some old → old.parent ≠ some parent) :
    Preserved base survivor other parent := by
  refine ⟨parent, inBase, wf.parent_mem here up, gone, ?_, .refl parent⟩
  intro untouched
  have link : survivor.parentOf id = some parent := parentOf_eq_some.mpr ⟨row, here, up⟩
  obtain ⟨old, there, same, _⟩ := untouched.added.groups here (.step link)
  exact new old there (same.symm.trans up)

theorem preserved_of_new_member (wf : survivor.WellFormed) {row : FlatEntry}
    (here : survivor.entries[id]? = some row) (inBase : row.parent ∈ base.groups)
    (gone : row.parent ∉ other.groups)
    (new : ∀ old, base.entries[id]? = some old → ¬ SameEntry old row) :
    Preserved base survivor other row.parent := by
  refine ⟨row.parent, inBase, wf.member here, gone, ?_, .refl _⟩
  intro untouched
  obtain ⟨old, there, up, value⟩ := untouched.added.entries here (.refl _)
  exact new old there ⟨up.symm, value.symm⟩

/-- The group above a preserved group is preserved, or still present on the other side. -/
theorem Preserved.parent_preserved (wf : survivor.WellFormed) {row : FlatGroup} (preserved : Preserved base survivor other id)
    (here : survivor.groups[id]? = some row) (up : row.parent = some parent) (inBase : parent ∈ base.groups)
    (gone : parent ∉ other.groups) : Preserved base survivor other parent := by
  obtain ⟨root, rootBase, rootSurvivor, rootGone, changed, climb⟩ := preserved
  have link : survivor.parentOf id = some parent := parentOf_eq_some.mpr ⟨row, here, up⟩
  rcases climb.cases with rfl | ⟨above, link', rest⟩
  · refine ⟨parent, inBase, wf.parent_mem here up, gone, ?_, .refl parent⟩
    intro untouched
    obtain ⟨old, there, same, _⟩ := untouched.added.groups here (.step link)
    have baseLink : base.parentOf id = some parent := parentOf_eq_some.mpr ⟨old, there, same.symm.trans up⟩
    exact changed (untouched.below (.step baseLink) (.step link))
  · cases Option.some.inj (link.symm.trans link')
    exact ⟨root, rootBase, rootSurvivor, rootGone, changed, rest⟩

/-! ## Which groups are kept -/

/-- The groups of a merge are those both sides have, those new on one side, and the
    preserved ones. -/
structure KeepsGroups (base local' remote : FlatVault) (merged : BTreeMap Uuid FlatGroup) : Prop where
  both : ∀ {id : Uuid}, id ∈ local'.groups → id ∈ remote.groups → id ∈ merged
  localNew : ∀ {id : Uuid}, id ∈ local'.groups → id ∉ base.groups → id ∈ merged
  remoteNew : ∀ {id : Uuid}, id ∈ remote.groups → id ∉ base.groups → id ∈ merged
  localPreserved : ∀ {id : Uuid}, id ∈ local'.groups → Preserved base local' remote id → id ∈ merged
  remotePreserved : ∀ {id : Uuid}, id ∈ remote.groups → Preserved base remote local' id → id ∈ merged

theorem keepsGroups_of_chosen {merged : BTreeMap Uuid FlatGroup}
    (chosen : ∀ id : Uuid, GroupChosen base local' remote id base.groups[id]? local'.groups[id]?
      remote.groups[id]? merged[id]?) : KeepsGroups base local' remote merged := by
  have decide' (id : Uuid) : (id ∈ local'.groups → id ∈ remote.groups → id ∈ merged) ∧
      (id ∈ local'.groups → id ∉ base.groups → id ∈ merged) ∧
      (id ∈ remote.groups → id ∉ base.groups → id ∈ merged) ∧
      (id ∈ local'.groups → Preserved base local' remote id → id ∈ merged) ∧
      (id ∈ remote.groups → Preserved base remote local' id → id ∈ merged) := by
    have choice := chosen id
    simp only [← Std.ExtTreeMap.isSome_getElem?_iff_mem]
    generalize base.groups[id]? = b at choice ⊢
    generalize local'.groups[id]? = l at choice ⊢
    generalize remote.groups[id]? = r at choice ⊢
    generalize merged[id]? = m at choice ⊢
    cases choice <;> simp_all
  exact ⟨fun {id} => (decide' id).1, fun {id} => (decide' id).2.1, fun {id} => (decide' id).2.2.1,
    fun {id} => (decide' id).2.2.2.1, fun {id} => (decide' id).2.2.2.2⟩

section Parents

variable {merged : BTreeMap Uuid FlatGroup} (keeps : KeepsGroups base local' remote merged)

include keeps

theorem KeepsGroups.of_local (inLocal : parent ∈ local'.groups)
    (why : parent ∈ base.groups → parent ∉ remote.groups → Preserved base local' remote parent) :
    parent ∈ merged := by
  by_cases inRemote : parent ∈ remote.groups
  · exact keeps.both inLocal inRemote
  · by_cases inBase : parent ∈ base.groups
    · exact keeps.localPreserved inLocal (why inBase inRemote)
    · exact keeps.localNew inLocal inBase

theorem KeepsGroups.of_remote (inRemote : parent ∈ remote.groups)
    (why : parent ∈ base.groups → parent ∉ local'.groups → Preserved base remote local' parent) :
    parent ∈ merged := by
  by_cases inLocal : parent ∈ local'.groups
  · exact keeps.both inLocal inRemote
  · by_cases inBase : parent ∈ base.groups
    · exact keeps.remotePreserved inRemote (why inBase inLocal)
    · exact keeps.remoteNew inRemote inBase

end Parents

/-- The parent of a merged group is picked from the three parents, if it has one. -/
theorem mergeSharedGroup_parent {b l r m : FlatGroup} (merge : SharedGroup id b l r m) :
    (b.parent = none ∧ l.parent = none ∧ r.parent = none ∧ m.parent = none) ∨
      ∃ bp lp rp preferLocal, b.parent = some bp ∧ l.parent = some lp ∧ r.parent = some rp ∧
        m.parent = some (ThreeWay.pick bp lp rp preferLocal) := by
  obtain ⟨changed, merge⟩ := merge
  obtain ⟨⟨value, _⟩, _, rest⟩ := Fallible.bind_ok.mp merge
  obtain ⟨⟨parent, changedAt, prefers⟩, located, result⟩ := Fallible.bind_ok.mp rest
  cases result
  simp only [mergeGroupLocation] at located
  split at located
  · rename_i hb hl hr
    cases located
    exact .inl ⟨hb, hl, hr, rfl⟩
  · rename_i bp lp rp hb hl hr
    cases located
    exact .inr ⟨bp, lp, rp, _, hb, hl, hr, by rw [mergeLocation_parent]⟩
  · cases located

/-- The group that one of two sides alone has as parent is not the base parent. -/
theorem pick_parent_cases (bp lp rp : Uuid) (preferLocal : Bool) :
    (ThreeWay.pick bp lp rp preferLocal = lp ∧ (lp = rp ∨ bp ≠ lp)) ∨
      (ThreeWay.pick bp lp rp preferLocal = rp ∧ (lp = rp ∨ bp ≠ rp)) := by
  by_cases same : lp = rp
  · subst same
    simp
  · rcases ThreeWay.pick_eq_or bp lp rp preferLocal with picked | picked
    · refine .inl ⟨picked, .inr ?_⟩
      rintro rfl
      obtain ⟨_, theirs⟩ := ThreeWay.pick_eq_base picked
      exact same theirs.symm
    · refine .inr ⟨picked, .inr ?_⟩
      rintro rfl
      obtain ⟨ours, _⟩ := ThreeWay.pick_eq_base picked
      exact same ours

section Closed

variable (wfBase : base.WellFormed) (wfLocal : local'.WellFormed) (wfRemote : remote.WellFormed)
  (localRoot : local'.rootId = base.rootId) (remoteRoot : remote.rootId = base.rootId)
  {groups : BTreeMap Uuid FlatGroup}
  (chosen : ∀ id : Uuid, GroupChosen base local' remote id base.groups[id]? local'.groups[id]?
    remote.groups[id]? groups[id]?)

include wfBase wfLocal wfRemote localRoot remoteRoot chosen

/-- Every chosen group but the root stands below a chosen group. -/
theorem groups_parentClosed : ParentClosed base.rootId groups := by
  have keeps := keepsGroups_of_chosen chosen
  constructor
  · obtain ⟨b, hb, topB⟩ := wfBase.root
    obtain ⟨l, hl, topL⟩ := wfLocal.root
    obtain ⟨r, hr, topR⟩ := wfRemote.root
    rw [localRoot] at hl
    rw [remoteRoot] at hr
    have choice := chosen base.rootId
    rw [hb, hl, hr] at choice
    generalize hm : groups[base.rootId]? = m at choice
    cases choice with
    | shared merge =>
        rename_i merged
        refine ⟨merged, rfl, ?_⟩
        rcases mergeSharedGroup_parent merge with ⟨_, _, _, top⟩ | ⟨_, _, _, _, up, _⟩
        · exact top
        · rw [topB] at up
          cases up
  · intro id row here apart
    have choice := chosen id
    rw [here] at choice
    generalize hb : base.groups[id]? = b at choice
    generalize hl : local'.groups[id]? = l at choice
    generalize hr : remote.groups[id]? = r at choice
    cases choice with
    | remoteAdded =>
        obtain ⟨parent, up, inside⟩ := wfRemote.up hr (remoteRoot ▸ apart)
        refine ⟨parent, up, keeps.of_remote inside fun inBase gone => ?_⟩
        exact preserved_of_new_child wfRemote hr up inBase gone (by simp [hb])
    | localAdded =>
        obtain ⟨parent, up, inside⟩ := wfLocal.up hl (localRoot ▸ apart)
        refine ⟨parent, up, keeps.of_local inside fun inBase gone => ?_⟩
        exact preserved_of_new_child wfLocal hl up inBase gone (by simp [hb])
    | bothAdded same =>
        obtain ⟨parent, up, inside⟩ := wfRemote.up hr (remoteRoot ▸ apart)
        refine ⟨parent, up, keeps.of_remote inside fun inBase gone => ?_⟩
        exact preserved_of_new_child wfRemote hr up inBase gone (by simp [hb])
    | localKept keep =>
        obtain ⟨parent, up, inside⟩ := wfLocal.up hl (localRoot ▸ apart)
        exact ⟨parent, up, keeps.of_local inside (keep.parent_preserved wfLocal hl up)⟩
    | remoteKept keep =>
        obtain ⟨parent, up, inside⟩ := wfRemote.up hr (remoteRoot ▸ apart)
        exact ⟨parent, up, keeps.of_remote inside (keep.parent_preserved wfRemote hr up)⟩
    | shared merge =>
        rename_i b l r
        rcases mergeSharedGroup_parent merge with ⟨top, _⟩ | ⟨bp, lp, rp, preferLocal, upB, upL, upR, up⟩
        · exact absurd (wfBase.eq_root hb top) apart
        refine ⟨_, up, ?_⟩
        rcases pick_parent_cases bp lp rp preferLocal with
          ⟨picked, why⟩ | ⟨picked, why⟩
        · rw [picked]
          refine keeps.of_local (wfLocal.parent_mem hl upL) fun inBase gone => ?_
          refine preserved_of_new_child wfLocal hl upL inBase gone fun old there same => ?_
          cases Option.some.inj (hb.symm.trans there)
          rcases why with sameSides | moved
          · exact gone (sameSides ▸ wfRemote.parent_mem hr upR)
          · exact moved (Option.some.inj (upB.symm.trans same))
        · rw [picked]
          refine keeps.of_remote (wfRemote.parent_mem hr upR) fun inBase gone => ?_
          refine preserved_of_new_child wfRemote hr upR inBase gone fun old there same => ?_
          cases Option.some.inj (hb.symm.trans there)
          rcases why with sameSides | moved
          · exact gone (sameSides ▸ wfLocal.parent_mem hl upL)
          · exact moved (Option.some.inj (upB.symm.trans same))

omit wfBase localRoot remoteRoot in
/-- The parent of every chosen entry is a chosen group. -/
theorem entry_parent_kept {row : Option FlatEntry}
    (choice : EntryChosen base local' remote base.entries[id]? local'.entries[id]? remote.entries[id]? row)
    {entry : FlatEntry} (here : row = some entry) : entry.parent ∈ groups := by
  have keeps := keepsGroups_of_chosen chosen
  subst here
  generalize hb : base.entries[id]? = b at choice
  generalize hl : local'.entries[id]? = l at choice
  generalize hr : remote.entries[id]? = r at choice
  cases choice with
  | remoteAdded =>
      exact keeps.of_remote (wfRemote.member hr) fun inBase gone =>
        preserved_of_new_member wfRemote hr inBase gone (by simp [hb])
  | localAdded =>
      exact keeps.of_local (wfLocal.member hl) fun inBase gone =>
        preserved_of_new_member wfLocal hl inBase gone (by simp [hb])
  | bothAdded same =>
      exact keeps.of_remote (wfRemote.member hr) fun inBase gone =>
        preserved_of_new_member wfRemote hr inBase gone (by simp [hb])
  | localKept keep =>
      refine keeps.of_local (wfLocal.member hl) fun inBase gone => ?_
      rcases keep with changed | preserved
      · refine preserved_of_new_member wfLocal hl inBase gone fun old there => ?_
        cases Option.some.inj (hb.symm.trans there)
        exact changed
      · exact preserved
  | remoteKept keep =>
      refine keeps.of_remote (wfRemote.member hr) fun inBase gone => ?_
      rcases keep with changed | preserved
      · refine preserved_of_new_member wfRemote hr inBase gone fun old there => ?_
        cases Option.some.inj (hb.symm.trans there)
        exact changed
      · exact preserved
  | shared merge =>
      rename_i b l r
      subst merge
      have up : (mergedEntryRow b l r).parent = ThreeWay.pick b.parent l.parent r.parent
          (l.value.locationChangedAt.getD 0 > r.value.locationChangedAt.getD 0) :=
        mergeLocation_parent _ _ _ _ _
      rw [up]
      rcases pick_parent_cases b.parent l.parent r.parent _ with
        ⟨picked, why⟩ | ⟨picked, why⟩
      · rw [picked]
        refine keeps.of_local (wfLocal.member hl) fun inBase gone => ?_
        refine preserved_of_new_member wfLocal hl inBase gone fun old there same => ?_
        cases Option.some.inj (hb.symm.trans there)
        rcases why with sameSides | moved
        · exact gone (sameSides ▸ wfRemote.member hr)
        · exact moved same.1
      · rw [picked]
        refine keeps.of_remote (wfRemote.member hr) fun inBase gone => ?_
        refine preserved_of_new_member wfRemote hr inBase gone fun old there same => ?_
        cases Option.some.inj (hb.symm.trans there)
        rcases why with sameSides | moved
        · exact gone (sameSides ▸ wfLocal.member hl)
        · exact moved same.1

end Closed

end VaultKern
