import VaultKern.Outcome.SharedEntry
import VaultKern.Tree.Subtrees

/-! # Which rows a merge chooses

One row per id, by which of the three sides have it. The choice does not depend on
the log that is threaded through the merge, so every row of the merged tables can
be read off the three rows it came from.
-/

namespace VaultKern

open ThreeWayPatchError

/-- The chosen row for one id, from the rows of base, local and remote. -/
inductive Chosen {R : Type} (agree keepLocal keepRemote : R → R → Prop) (shared : R → R → R → R → Prop) :
    Option R → Option R → Option R → Option R → Prop
  | absent : Chosen agree keepLocal keepRemote shared none none none none
  | remoteAdded (r : R) : Chosen agree keepLocal keepRemote shared none none (some r) (some r)
  | localAdded (l : R) : Chosen agree keepLocal keepRemote shared none (some l) none (some l)
  | bothAdded {l r : R} (same : agree l r) :
      Chosen agree keepLocal keepRemote shared none (some l) (some r) (some r)
  | bothDeleted (b : R) : Chosen agree keepLocal keepRemote shared (some b) none none none
  | localKept {b l : R} (keep : keepLocal b l) :
      Chosen agree keepLocal keepRemote shared (some b) (some l) none (some l)
  | remoteDeleted {b l : R} (untouched : ¬ keepLocal b l) :
      Chosen agree keepLocal keepRemote shared (some b) (some l) none none
  | remoteKept {b r : R} (keep : keepRemote b r) :
      Chosen agree keepLocal keepRemote shared (some b) none (some r) (some r)
  | localDeleted {b r : R} (untouched : ¬ keepRemote b r) :
      Chosen agree keepLocal keepRemote shared (some b) none (some r) none
  | shared {b l r m : R} (merge : shared b l r m) :
      Chosen agree keepLocal keepRemote shared (some b) (some l) (some r) (some m)

/-- What holds of the rows of both sides and of every shared merge holds of the chosen row. -/
theorem Chosen.holds {R : Type} {agree keepLocal keepRemote : R → R → Prop} {shared : R → R → R → R → Prop}
    {b l r m : Option R} (chosen : Chosen agree keepLocal keepRemote shared b l r m) {P : R → Prop}
    (ours : ∀ row, l = some row → P row) (theirs : ∀ row, r = some row → P row)
    (merges : ∀ {b' l' r' m'}, b = some b' → l = some l' → r = some r' → shared b' l' r' m' → P m') :
    ∀ row, m = some row → P row := by
  intro row here
  cases chosen with
  | absent | bothDeleted | remoteDeleted | localDeleted => cases here
  | remoteAdded | bothAdded | remoteKept => exact theirs row here
  | localAdded | localKept => exact ours row here
  | shared merge => exact Option.some.inj here ▸ merges rfl rfl rfl merge

variable {base local' remote : FlatVault} {id : Uuid}

/-! ## Groups -/

def SharedGroup (id : Uuid) (base local' remote merged : FlatGroup) : Prop :=
  ∃ changed, mergeSharedGroup id base local' remote = .ok (merged, changed)

def GroupChosen (base local' remote : FlatVault) (id : Uuid) :
    Option FlatGroup → Option FlatGroup → Option FlatGroup → Option FlatGroup → Prop :=
  Chosen (fun _ _ => subtreesEqual local' remote id = true) (fun _ _ => Preserved base local' remote id)
    (fun _ _ => Preserved base remote local' id) (SharedGroup id)

/-- What `mergeGroupRow` selects, without its report. -/
def groupSelection (base local' remote : FlatVault) (locallyPreserved remotelyPreserved : List Uuid)
    (id : Uuid) : Except ThreeWayPatchError (Option FlatGroup) :=
  Prod.fst <$> mergeGroupRow base local' remote locallyPreserved remotelyPreserved id {}

theorem mergeGroupRow_steady (base local' remote : FlatVault) (lp rp : List Uuid) :
    BTreeMap.Steady (mergeGroupRow base local' remote lp rp) (groupSelection base local' remote lp rp) := by
  intro id report
  simp only [groupSelection, mergeGroupRow]
  cases base.groups[id]? with
  | none =>
      cases local'.groups[id]? with
      | none => cases remote.groups[id]? <;> rfl
      | some l =>
          cases remote.groups[id]? with
          | none => rfl
          | some r => simp only; split <;> rfl
  | some b =>
      cases local'.groups[id]? with
      | none => cases remote.groups[id]? <;> rfl
      | some l =>
          cases remote.groups[id]? with
          | none => rfl
          | some r => simp only; cases mergeSharedGroup id b l r <;> rfl

theorem groupSelection_ok (wfBase : base.WellFormed) (wfLocal : local'.WellFormed)
    (wfRemote : remote.WellFormed) {row : Option FlatGroup}
    (selected : groupSelection base local' remote (changedSubtreesDeletedFromOther base local' remote)
      (changedSubtreesDeletedFromOther base remote local') id = .ok row) :
    GroupChosen base local' remote id base.groups[id]? local'.groups[id]? remote.groups[id]? row := by
  have keepsLocal : _ ↔ Preserved base local' remote id := belongsToPreserved_iff wfBase wfLocal
  have keepsRemote : _ ↔ Preserved base remote local' id := belongsToPreserved_iff wfBase wfRemote
  simp only [groupSelection, mergeGroupRow] at selected
  generalize base.groups[id]? = b at selected ⊢
  generalize local'.groups[id]? = l at selected ⊢
  generalize remote.groups[id]? = r at selected ⊢
  cases b with
  | none =>
      cases l with
      | none =>
          cases r with
          | none =>
              cases selected
              exact .absent
          | some r =>
              cases selected
              exact .remoteAdded r
      | some l =>
          cases r with
          | none =>
              cases selected
              exact .localAdded l
          | some r =>
              dsimp only at selected
              split at selected
              · rename_i equal
                cases selected
                exact .bothAdded equal
              · cases selected
  | some b =>
      cases l with
      | none =>
          cases r with
          | none =>
              cases selected
              exact .bothDeleted b
          | some r =>
              cases selected
              split
              · rename_i keep
                exact .remoteKept (keepsRemote.mp keep)
              · rename_i untouched
                exact .localDeleted (untouched ∘ keepsRemote.mpr)
      | some l =>
          cases r with
          | none =>
              cases selected
              split
              · rename_i keep
                exact .localKept (keepsLocal.mp keep)
              · rename_i untouched
                exact .remoteDeleted (untouched ∘ keepsLocal.mpr)
          | some r =>
              dsimp only at selected
              cases merged : mergeSharedGroup id b l r with
              | error e => rw [merged] at selected; cases selected
              | ok pair =>
                  rw [merged] at selected
                  cases selected
                  exact .shared ⟨pair.2, merged⟩

theorem orphanedGroup_none {groups : BTreeMap Uuid FlatGroup} :
    orphanedGroup groups = none ↔
      ∀ {id : Uuid} {row : FlatGroup} {parent : Uuid}, groups[id]? = some row → row.parent = some parent →
        parent ∈ groups := by
  simp only [orphanedGroup, Option.map_eq_none_iff, List.find?_eq_none, Prod.forall,
    Std.ExtTreeMap.mem_toList_iff_getElem?_eq_some, Option.any_eq_true, Bool.not_eq_true', not_exists, not_and,
    Bool.not_eq_false, Std.ExtTreeMap.contains_iff_mem]
  exact ⟨fun closed {id row parent} here up => closed id row here parent up,
    fun closed id row here parent up => closed here up⟩

/-- The collected groups, before their parents are looked up. -/
def collectGroups (base local' remote : FlatVault) (report : ThreeWayPatchReport) :
    Except ThreeWayPatchError (BTreeMap Uuid FlatGroup × ThreeWayPatchReport) :=
  BTreeMap.collectM
    (mergeGroupRow base local' remote (changedSubtreesDeletedFromOther base local' remote)
      (changedSubtreesDeletedFromOther base remote local'))
    (BTreeMap.unionKeys3 base.groups local'.groups remote.groups) ∅ report

theorem collectGroups_chosen (wfBase : base.WellFormed) (wfLocal : local'.WellFormed)
    (wfRemote : remote.WellFormed) {report report' : ThreeWayPatchReport} {merged : BTreeMap Uuid FlatGroup}
    (run : collectGroups base local' remote report = .ok (merged, report')) (id : Uuid) :
    GroupChosen base local' remote id base.groups[id]? local'.groups[id]? remote.groups[id]? merged[id]? := by
  by_cases listed : id ∈ BTreeMap.unionKeys3 base.groups local'.groups remote.groups
  · have selected := BTreeMap.collectM_select (mergeGroupRow_steady base local' remote _ _)
      (BTreeMap.unionKeys3_nodup _ _ _) run listed
    exact groupSelection_ok wfBase wfLocal wfRemote selected
  · obtain ⟨b, l, r⟩ := pick_absent base.groups local'.groups remote.groups listed
    have outside : merged[id]? = none := by
      rw [BTreeMap.collectM_frame run listed]
      simp
    rw [b, l, r, outside]
    exact .absent

/-! ## Entries -/

def EntryChosen (base local' remote : FlatVault) :
    Option FlatEntry → Option FlatEntry → Option FlatEntry → Option FlatEntry → Prop :=
  Chosen SameEntry (fun b l => ¬ SameEntry b l ∨ Preserved base local' remote l.parent)
    (fun b r => ¬ SameEntry b r ∨ Preserved base remote local' r.parent)
    (fun b l r m => m = mergedEntryRow b l r)

/-- What `selectEntryRow` selects, without its log. -/
def entrySelection (base local' remote : FlatVault) (locallyPreserved remotelyPreserved : List Uuid)
    (id : Uuid) : Except ThreeWayPatchError (Option FlatEntry) :=
  Prod.fst <$> selectEntryRow base local' remote locallyPreserved remotelyPreserved id {}

theorem selectEntryRow_steady (base local' remote : FlatVault) (lp rp : List Uuid) :
    BTreeMap.Steady (selectEntryRow base local' remote lp rp) (entrySelection base local' remote lp rp) := by
  intro id log
  simp only [entrySelection, selectEntryRow]
  cases base.entries[id]? with
  | none =>
      cases local'.entries[id]? with
      | none => cases remote.entries[id]? <;> rfl
      | some l =>
          cases remote.entries[id]? with
          | none => rfl
          | some r => simp only; split <;> rfl
  | some b =>
      cases local'.entries[id]? with
      | none => cases remote.entries[id]? <;> rfl
      | some l =>
          cases remote.entries[id]? with
          | none => rfl
          | some r => exact congrArg (Except.ok ∘ some) ((mergeSharedEntry_row b l r log).trans
              (mergeSharedEntry_row b l r {}).symm)

theorem entrySelection_ok (wfBase : base.WellFormed) (wfLocal : local'.WellFormed)
    (wfRemote : remote.WellFormed) {row : Option FlatEntry}
    (selected : entrySelection base local' remote (changedSubtreesDeletedFromOther base local' remote)
      (changedSubtreesDeletedFromOther base remote local') id = .ok row) :
    EntryChosen base local' remote base.entries[id]? local'.entries[id]? remote.entries[id]? row := by
  simp only [entrySelection, selectEntryRow] at selected
  generalize base.entries[id]? = b at selected ⊢
  generalize local'.entries[id]? = l at selected ⊢
  generalize remote.entries[id]? = r at selected ⊢
  cases b with
  | none =>
      cases l with
      | none =>
          cases r with
          | none =>
              cases selected
              exact .absent
          | some r =>
              cases selected
              exact .remoteAdded r
      | some l =>
          cases r with
          | none =>
              cases selected
              exact .localAdded l
          | some r =>
              dsimp only at selected
              split at selected
              · rename_i same
                cases selected
                exact .bothAdded (sameEntryRecord_iff.mp same)
              · cases selected
  | some b =>
      cases l with
      | none =>
          cases r with
          | none =>
              cases selected
              exact .bothDeleted b
          | some r =>
              have keeps : (!sameEntryRecord b r || belongsToPreservedSubtree r.parent remote
                  (changedSubtreesDeletedFromOther base remote local')) = true ↔
                  ¬ SameEntry b r ∨ Preserved base remote local' r.parent := by
                rw [Bool.or_eq_true, Bool.not_eq_true', ← Bool.not_eq_true, sameEntryRecord_iff,
                  belongsToPreserved_iff wfBase wfRemote]
              cases selected
              split
              · rename_i keep
                exact .remoteKept (keeps.mp keep)
              · rename_i untouched
                exact .localDeleted (untouched ∘ keeps.mpr)
      | some l =>
          cases r with
          | none =>
              have keeps : (!sameEntryRecord b l || belongsToPreservedSubtree l.parent local'
                  (changedSubtreesDeletedFromOther base local' remote)) = true ↔
                  ¬ SameEntry b l ∨ Preserved base local' remote l.parent := by
                rw [Bool.or_eq_true, Bool.not_eq_true', ← Bool.not_eq_true, sameEntryRecord_iff,
                  belongsToPreserved_iff wfBase wfLocal]
              cases selected
              split
              · rename_i keep
                exact .localKept (keeps.mp keep)
              · rename_i untouched
                exact .remoteDeleted (untouched ∘ keeps.mpr)
          | some r =>
              cases selected
              exact .shared (mergeSharedEntry_row b l r {})

theorem mergeEntryRow_ok {groups : BTreeMap Uuid FlatGroup} {lp rp : List Uuid} {log log' : PatchLog}
    {row : Option FlatEntry} :
    mergeEntryRow base local' remote groups lp rp id log = .ok (row, log') ↔
      selectEntryRow base local' remote lp rp id log = .ok (row, log') ∧
        ∀ entry, row = some entry → entry.parent ∈ groups := by
  rw [mergeEntryRow, Fallible.bind_ok]
  constructor
  · rintro ⟨⟨selected, log''⟩, select, checked⟩
    cases selected with
    | none =>
        cases checked
        exact ⟨select, nofun⟩
    | some entry =>
        simp only [Std.ExtTreeMap.contains_iff_mem] at checked
        split at checked
        · rename_i inside
          cases checked
          exact ⟨select, fun _ same => Option.some.inj same ▸ inside⟩
        · cases checked
  · rintro ⟨select, inside⟩
    refine ⟨(row, log'), select, ?_⟩
    cases row with
    | none => rfl
    | some entry => simp [inside entry rfl, pure, Except.pure]

theorem selectEntryRow_error {lp rp : List Uuid} {log : PatchLog} {e : ThreeWayPatchError}
    (failed : selectEntryRow base local' remote lp rp id log = .error e) : e = .concurrentObjectAddition id := by
  simp only [selectEntryRow] at failed
  split at failed <;> try cases failed
  split at failed <;> cases failed
  rfl

theorem mergeEntryRow_error {groups : BTreeMap Uuid FlatGroup} {lp rp : List Uuid} {log : PatchLog}
    {e : ThreeWayPatchError} (failed : mergeEntryRow base local' remote groups lp rp id log = .error e) :
    e = .concurrentObjectAddition id ∨ ∃ entry, entrySelection base local' remote lp rp id = .ok (some entry) ∧
      entry.parent ∉ groups ∧ e = .missingParent entry.parent := by
  rw [mergeEntryRow] at failed
  rcases Fallible.bind_error.mp failed with select | ⟨⟨row, log'⟩, select, checked⟩
  · exact .inl (selectEntryRow_error select)
  · cases row with
    | none => cases checked
    | some entry =>
        simp only [Std.ExtTreeMap.contains_iff_mem] at checked
        split at checked
        · cases checked
        · rename_i outside
          cases checked
          exact .inr ⟨entry, (selectEntryRow_steady _ _ _ _ _).ok select, outside, rfl⟩

theorem mergeEntries_chosen (wfBase : base.WellFormed) (wfLocal : local'.WellFormed)
    (wfRemote : remote.WellFormed) {groups : BTreeMap Uuid FlatGroup} {log log' : PatchLog}
    {merged : BTreeMap Uuid FlatEntry}
    (run : mergeEntries base local' remote groups (changedSubtreesDeletedFromOther base local' remote)
      (changedSubtreesDeletedFromOther base remote local') log = .ok (merged, log')) (id : Uuid) :
    EntryChosen base local' remote base.entries[id]? local'.entries[id]? remote.entries[id]? merged[id]? ∧
      ∀ entry, merged[id]? = some entry → entry.parent ∈ groups := by
  by_cases listed : id ∈ BTreeMap.unionKeys3 base.entries local'.entries remote.entries
  · obtain ⟨_, visits⟩ := BTreeMap.collectM_trace (fun _ _ => True) (fun _ => trivial)
      (fun _ _ => trivial) (fun _ => trivial) (BTreeMap.unionKeys3_nodup _ _ _) (by simp) run
    obtain ⟨before, after, visited, _⟩ := visits id listed
    obtain ⟨select, inside⟩ := mergeEntryRow_ok.mp visited
    exact ⟨entrySelection_ok wfBase wfLocal wfRemote ((selectEntryRow_steady _ _ _ _ _).ok select), inside⟩
  · obtain ⟨b, l, r⟩ := pick_absent base.entries local'.entries remote.entries listed
    have outside : merged[id]? = none := by
      rw [BTreeMap.collectM_frame run listed]
      simp
    rw [b, l, r, outside]
    refine ⟨.absent, ?_⟩
    rintro _ ⟨⟩

end VaultKern
