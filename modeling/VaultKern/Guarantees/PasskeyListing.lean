import VaultKern.Autofill.FillCandidates
import VaultKern.Guarantees.UserVerification
import VaultKern.Passkey.Platform

/-! # Listed, filled and signed

Passkeys and logins are listed, filled and signed with only outside of the recycle bin, and a
passkey is signed with only if no other has its relying party and credential id. What a
listing offers is found again, but for the platform listing, which does not count the
passkeys it cannot offer.
-/

namespace VaultKern

open Attempt

/-! ## Outside of the recycle bin -/

/-- The entry is in the tree with no recycle bin above it. -/
inductive OutsideBin (isRecycleBin : Uuid → Bool) : Group → Entry → Prop
  | here {fields : GroupFields} {entries : List Entry} {children : List Group} {entry : Entry}
      (live : isRecycleBin fields.id = false) (member : entry ∈ entries) :
      OutsideBin isRecycleBin ⟨fields, entries, children⟩ entry
  | nested {fields : GroupFields} {entries : List Entry} {children : List Group} {child : Group} {entry : Entry}
      (live : isRecycleBin fields.id = false) (member : child ∈ children) (outside : OutsideBin isRecycleBin child entry) :
      OutsideBin isRecycleBin ⟨fields, entries, children⟩ entry

mutual
/-- All of them, in the order of the tree. -/
def unbinnedEntries (isRecycleBin : Uuid → Bool) : Group → List Entry
  | ⟨fields, entries, children⟩ =>
      if isRecycleBin fields.id then [] else entries ++ unbinnedEntriesOf isRecycleBin children

def unbinnedEntriesOf (isRecycleBin : Uuid → Bool) : List Group → List Entry
  | [] => []
  | child :: rest => unbinnedEntries isRecycleBin child ++ unbinnedEntriesOf isRecycleBin rest
end

section Walks

variable {isRecycleBin : Uuid → Bool} {parseUrl : String → Option Url} {url : String}

mutual
theorem mem_unbinnedEntries {entry : Entry} : ∀ group : Group,
    entry ∈ unbinnedEntries isRecycleBin group ↔ OutsideBin isRecycleBin group entry
  | ⟨fields, entries, children⟩ => by
      rw [unbinnedEntries]
      cases bin : isRecycleBin fields.id with
      | true =>
          constructor
          · intro member
            simp at member
          · intro outside
            cases outside with
            | here live | nested live => simp [bin] at live
      | false =>
          rw [if_neg (by simp), List.mem_append, mem_unbinnedEntriesOf children]
          constructor
          · rintro (here | ⟨child, member, outside⟩)
            · exact .here bin here
            · exact .nested bin member outside
          · intro outside
            cases outside with
            | here _ member => exact .inl member
            | nested _ member outside => exact .inr ⟨_, member, outside⟩

theorem mem_unbinnedEntriesOf {entry : Entry} : ∀ children : List Group,
    entry ∈ unbinnedEntriesOf isRecycleBin children ↔ ∃ child ∈ children, OutsideBin isRecycleBin child entry
  | [] => by simp [unbinnedEntriesOf]
  | child :: rest => by
      rw [unbinnedEntriesOf, List.mem_append, mem_unbinnedEntries child, mem_unbinnedEntriesOf rest, List.exists_mem_cons_iff]
end

def withPasskey (entry : Entry) : Option (Entry × PasskeyRecord) := entry.passkey.map fun passkey => (entry, passkey)

mutual
theorem visit_recycled : ∀ group : Group, visitPasskeyEntriesInGroup isRecycleBin true group = []
  | ⟨fields, entries, children⟩ => by
      rw [visitPasskeyEntriesInGroup]
      simp [visitChildren_recycled children]

theorem visitChildren_recycled : ∀ children : List Group, visitPasskeyEntriesInChildren isRecycleBin true children = []
  | [] => by rw [visitPasskeyEntriesInChildren]
  | child :: rest => by
      rw [visitPasskeyEntriesInChildren, visit_recycled child, visitChildren_recycled rest, List.append_nil]
end

mutual
/-- The visitor sees the passkeys outside of the recycle bin. -/
theorem visit_unbinned : ∀ group : Group,
    visitPasskeyEntriesInGroup isRecycleBin false group = (unbinnedEntries isRecycleBin group).filterMap withPasskey
  | ⟨fields, entries, children⟩ => by
      rw [visitPasskeyEntriesInGroup, unbinnedEntries]
      cases bin : isRecycleBin fields.id with
      | true => simp [visitChildren_recycled children]
      | false =>
          simp only [Bool.or_false, Bool.false_eq_true, if_false, List.filterMap_append]
          rw [visitChildren_unbinned children]
          rfl

theorem visitChildren_unbinned : ∀ children : List Group, visitPasskeyEntriesInChildren isRecycleBin false children =
    (unbinnedEntriesOf isRecycleBin children).filterMap withPasskey
  | [] => by rw [visitPasskeyEntriesInChildren, unbinnedEntriesOf, List.filterMap_nil]
  | child :: rest => by
      rw [visitPasskeyEntriesInChildren, unbinnedEntriesOf, visit_unbinned child, visitChildren_unbinned rest,
        List.filterMap_append]
end

/-! ## Candidates -/

/-- The entry is a login for the page. -/
def IsLoginFor (parseUrl : String → Option Url) (url : String) (entry : Entry) : Prop :=
  (entry.password.isEmpty && entry.passkey.isSome) = false ∧ (scoreOriginScopedEntryMatch parseUrl url entry.url).isSome

theorem rankedFillCandidate_isSome {groupId : Uuid} {index : Nat} {entry : Entry} :
    (rankedFillCandidate parseUrl url groupId index entry).isSome ↔ IsLoginFor parseUrl url entry := by
  unfold rankedFillCandidate IsLoginFor
  split
  · rename_i keyOnly
    simp [keyOnly]
  · rename_i login
    simp [login]

theorem rankedFillCandidate_entry {groupId : Uuid} {index : Nat} {entry : Entry} {candidate : RankedFillCandidate}
    (ranked : rankedFillCandidate parseUrl url groupId index entry = some candidate) :
    candidate.entry = entrySummary groupId entry := by
  unfold rankedFillCandidate at ranked
  split at ranked
  · cases ranked
  · obtain ⟨_, _, rfl⟩ := Option.map_eq_some_iff.mp ranked
    rfl

theorem collectFromEntries_recycled {groupId : Uuid} (entries : List Entry) (nextIndex : Nat) :
    collectFromEntries parseUrl url groupId true entries nextIndex = ([], nextIndex) := by
  induction entries with
  | nil => rfl
  | cons entry rest ih => rw [collectFromEntries, if_pos rfl, ih]

/-- The candidates stand for the logins among the entries. -/
structure Ranks (parseUrl : String → Option Url) (url : String) (candidates : List RankedFillCandidate)
    (entries : List Entry) : Prop where
  sound : ∀ candidate ∈ candidates, ∃ entry ∈ entries, ∃ groupId, IsLoginFor parseUrl url entry ∧
    candidate.entry = entrySummary groupId entry
  complete : ∀ entry ∈ entries, IsLoginFor parseUrl url entry → ∃ candidate ∈ candidates, ∃ groupId,
    candidate.entry = entrySummary groupId entry

theorem Ranks.nil : Ranks parseUrl url [] [] := ⟨by simp, by simp⟩

theorem Ranks.append {candidates later : List RankedFillCandidate} {entries rest : List Entry}
    (first : Ranks parseUrl url candidates entries) (second : Ranks parseUrl url later rest) :
    Ranks parseUrl url (candidates ++ later) (entries ++ rest) where
  sound candidate member := by
    rcases List.mem_append.mp member with here | there
    · obtain ⟨entry, held, ranked⟩ := first.sound candidate here
      exact ⟨entry, List.mem_append_left _ held, ranked⟩
    · obtain ⟨entry, held, ranked⟩ := second.sound candidate there
      exact ⟨entry, List.mem_append_right _ held, ranked⟩
  complete entry member login := by
    rcases List.mem_append.mp member with here | there
    · obtain ⟨candidate, held, ranked⟩ := first.complete entry here login
      exact ⟨candidate, List.mem_append_left _ held, ranked⟩
    · obtain ⟨candidate, held, ranked⟩ := second.complete entry there login
      exact ⟨candidate, List.mem_append_right _ held, ranked⟩

theorem Ranks.one (groupId : Uuid) (index : Nat) (entry : Entry) :
    Ranks parseUrl url (rankedFillCandidate parseUrl url groupId index entry).toList [entry] where
  sound candidate member := by
    have ranked : rankedFillCandidate parseUrl url groupId index entry = some candidate := by simpa using member
    exact ⟨entry, List.mem_singleton_self entry, groupId,
      rankedFillCandidate_isSome.mp (Option.isSome_of_eq_some ranked), rankedFillCandidate_entry ranked⟩
  complete other member login := by
    obtain rfl := List.mem_singleton.mp member
    have shown : (rankedFillCandidate parseUrl url groupId index other).isSome := rankedFillCandidate_isSome.mpr login
    obtain ⟨candidate, ranked⟩ := Option.isSome_iff_exists.mp shown
    exact ⟨candidate, by simp [ranked], groupId, rankedFillCandidate_entry ranked⟩

theorem collectFromEntries_ranks {groupId : Uuid} (entries : List Entry) (nextIndex : Nat) :
    Ranks parseUrl url (collectFromEntries parseUrl url groupId false entries nextIndex).1 entries := by
  induction entries generalizing nextIndex with
  | nil => exact .nil
  | cons entry rest ih =>
      rw [collectFromEntries, if_neg (by simp)]
      exact (Ranks.one groupId nextIndex entry).append (ih (nextIndex + 1))

mutual
theorem collect_recycled : ∀ (group : Group) (nextIndex : Nat),
    (collectFillCandidates parseUrl isRecycleBin url true group nextIndex).1 = []
  | ⟨fields, entries, children⟩, nextIndex => by
      rw [collectFillCandidates]
      simp [collectFromEntries_recycled, collectChildren_recycled children]

theorem collectChildren_recycled : ∀ (children : List Group) (nextIndex : Nat),
    (collectFromChildren parseUrl isRecycleBin url true children nextIndex).1 = []
  | [], nextIndex => by rw [collectFromChildren]
  | child :: rest, nextIndex => by
      rw [collectFromChildren]
      simp [collect_recycled child, collectChildren_recycled rest]
end

mutual
theorem collect_ranks : ∀ (group : Group) (nextIndex : Nat),
    Ranks parseUrl url (collectFillCandidates parseUrl isRecycleBin url false group nextIndex).1
      (unbinnedEntries isRecycleBin group)
  | ⟨fields, entries, children⟩, nextIndex => by
      rw [collectFillCandidates, unbinnedEntries]
      cases bin : isRecycleBin fields.id with
      | true =>
          simp only [Bool.or_true, if_true, collectFromEntries_recycled, collectChildren_recycled children, List.append_nil]
          exact .nil
      | false =>
          simp only [Bool.or_false, Bool.false_eq_true, if_false]
          exact (collectFromEntries_ranks entries nextIndex).append (collectChildren_ranks children _)

theorem collectChildren_ranks : ∀ (children : List Group) (nextIndex : Nat),
    Ranks parseUrl url (collectFromChildren parseUrl isRecycleBin url false children nextIndex).1
      (unbinnedEntriesOf isRecycleBin children)
  | [], nextIndex => by
      rw [collectFromChildren, unbinnedEntriesOf]
      exact .nil
  | child :: rest, nextIndex => by
      rw [collectFromChildren, unbinnedEntriesOf]
      exact (collect_ranks child nextIndex).append (collectChildren_ranks rest _)
end

end Walks

/-! ## Lookups -/

section Lookups

variable {vault : Vault} {credentialId relyingParty : String}

/-- The entries outside of the recycle bin that hold the credential. -/
def holders (vault : Vault) (credentialId relyingParty : String) : List Entry :=
  (unbinnedEntries vault.isRecycleBin vault.root).filter fun entry =>
    entry.passkey.any (hasCredential credentialId relyingParty)

theorem visitPasskeyEntries_unbinned (vault : Vault) :
    visitPasskeyEntries vault = (unbinnedEntries vault.isRecycleBin vault.root).filterMap withPasskey :=
  visit_unbinned vault.root

theorem visitPasskeys_unbinned (vault : Vault) :
    visitPasskeys vault = (unbinnedEntries vault.isRecycleBin vault.root).filterMap (·.passkey) := by
  rw [visitPasskeys, visitPasskeyEntries_unbinned, List.map_filterMap]
  congr 1
  funext entry
  cases passkey : entry.passkey <;> simp [withPasskey, passkey]

theorem holders_passkeys (vault : Vault) (credentialId relyingParty : String) :
    (visitPasskeys vault).filter (hasCredential credentialId relyingParty) =
      (holders vault credentialId relyingParty).filterMap (·.passkey) := by
  rw [visitPasskeys_unbinned, holders, List.filter_filterMap, List.filterMap_filter]
  congr 1
  funext entry
  cases entry.passkey with
  | none => rfl
  | some passkey => simp [Option.filter]

theorem holders_length (vault : Vault) (credentialId relyingParty : String) :
    ((visitPasskeys vault).filter (hasCredential credentialId relyingParty)).length =
      (holders vault credentialId relyingParty).length := by
  rw [holders_passkeys]
  apply List.filterMap_length_eq_length.mpr
  intro entry member
  have held := (List.mem_filter.mp member).2
  exact Option.isSome_of_any held

/-- The one entry outside of the recycle bin with the credential, which the lookup finds. -/
structure SoleHolder (vault : Vault) (credentialId relyingParty : String) (entry : Entry) (passkey : PasskeyRecord) :
    Prop where
  outside : OutsideBin vault.isRecycleBin vault.root entry
  held : entry.passkey = some passkey
  alone : holders vault credentialId relyingParty = [entry]
  found : findUniquePasskey vault credentialId relyingParty = .ok passkey

theorem SoleHolder.credential {entry : Entry} {passkey : PasskeyRecord}
    (sole : SoleHolder vault credentialId relyingParty entry passkey) :
    passkey.credentialId = credentialId ∧ passkey.relyingParty = relyingParty := by
  have member : entry ∈ holders vault credentialId relyingParty := by simp [sole.alone]
  have held := (List.mem_filter.mp member).2
  simpa [sole.held, hasCredential] using held

theorem SoleHolder.of_found {passkey : PasskeyRecord}
    (found : findUniquePasskey vault credentialId relyingParty = .ok passkey) :
    ∃ entry, SoleHolder vault credentialId relyingParty entry passkey := by
  have one : (visitPasskeys vault).filter (hasCredential credentialId relyingParty) = [passkey] := by
    unfold findUniquePasskey at found
    split at found
    · cases found
    · rename_i other same
      cases found
      exact same
    · cases found
  have count := holders_length vault credentialId relyingParty
  rw [one] at count
  obtain ⟨entry, alone⟩ := List.length_eq_one_iff.mp count.symm
  have member : entry ∈ holders vault credentialId relyingParty := by simp [alone]
  rw [holders_passkeys, alone] at one
  have held : entry.passkey = some passkey := by
    cases passkey' : entry.passkey with
    | none => simp [passkey'] at one
    | some _ => simpa [passkey'] using one
  exact ⟨entry, mem_unbinnedEntries vault.root |>.mp (List.mem_filter.mp member).1, held, alone, found⟩

/-- A passkey whose credential nothing else holds is found. -/
theorem SoleHolder.of_count {entry : Entry} {passkey : PasskeyRecord}
    (member : entry ∈ unbinnedEntries vault.isRecycleBin vault.root) (held : entry.passkey = some passkey)
    (count : (holders vault passkey.credentialId passkey.relyingParty).length = 1) :
    SoleHolder vault passkey.credentialId passkey.relyingParty entry passkey := by
  have here : entry ∈ holders vault passkey.credentialId passkey.relyingParty :=
    List.mem_filter.mpr ⟨member, by simp [held, hasCredential]⟩
  obtain ⟨other, alone⟩ := List.length_eq_one_iff.mp count
  obtain rfl : entry = other := by simpa [alone] using here
  refine ⟨(mem_unbinnedEntries vault.root).mp member, held, alone, ?_⟩
  unfold findUniquePasskey
  rw [holders_passkeys, alone]
  simp [held]

/-! ## The browser -/

theorem count_credential (vault : Vault) (credentialId relyingParty : String) :
    (((visitPasskeys vault).filter fun passkey => passkey.relyingParty = relyingParty).map (·.credentialId)).count
        credentialId = (holders vault credentialId relyingParty).length := by
  rw [← holders_length, List.count_eq_countP, List.countP_map, List.countP_filter, ← List.countP_eq_length_filter]
  congr 1

/-- What the browser listing offers. -/
theorem listed_sole {passkey : PasskeyRecord} (member : passkey ∈ visitPasskeys vault)
    (party : passkey.relyingParty = relyingParty)
    (once : (((visitPasskeys vault).filter fun passkey => passkey.relyingParty = relyingParty).map
      (·.credentialId)).count passkey.credentialId = 1) :
    ∃ entry, SoleHolder vault passkey.credentialId relyingParty entry passkey := by
  rw [visitPasskeys_unbinned] at member
  obtain ⟨entry, held, same⟩ := List.mem_filterMap.mp member
  subst party
  rw [count_credential] at once
  exact ⟨entry, .of_count held same once⟩

section Browser

variable (services : PasskeyServices)

theorem listPasskeyCredentials_sole {token vaultId : String} {expectedPhase : PasskeyCeremonyPhase}
    {runtime after : PasskeyRuntime} {credentials : List PasskeyCredentialCandidate}
    (opened : runtime.session.vault vaultId = .ok vault)
    (listed : listPasskeyCredentials services token expectedPhase vaultId relyingParty runtime = (.ok credentials, after))
    {candidate : PasskeyCredentialCandidate} (member : candidate ∈ credentials) :
    ∃ entry passkey, SoleHolder vault candidate.credentialId relyingParty entry passkey ∧
      candidate = ⟨passkey.credentialId, passkey.username, passkey.userHandle⟩ := by
  obtain ⟨read, mid, found, listed⟩ := bind_ok.mp listed
  have idle := passkeyVaultForS3_idle services token expectedPhase .get vaultId relyingParty runtime
  obtain ⟨_, _, found⟩ := (validatePasskeyCeremonyForS3Read_readOnly services token expectedPhase .get vaultId
    relyingParty).bind_ok.mp found
  obtain ⟨_, _, found⟩ := (loadedVault_readOnly vaultId).bind_ok.mp found
  obtain ⟨_, bound, binds, found⟩ := bind_ok.mp found
  have same := (bindAfterLookup_idle token vaultId runtime).session
  rw [binds] at same
  have here := loadedVault_ok found
  rw [same, opened] at here
  cases here
  cases listed
  obtain ⟨passkey, held, rfl⟩ := List.mem_map.mp member
  obtain ⟨held, once⟩ := List.mem_filter.mp held
  obtain ⟨held, party⟩ := List.mem_filter.mp held
  obtain ⟨entry, sole⟩ := listed_sole held (of_decide_eq_true party) (of_decide_eq_true once)
  exact ⟨entry, passkey, sole, rfl⟩

/-- A signature of the browser is made with the passkey of a sole holder. -/
theorem createPasskeyAssertion_sole {token : String} {expectedPhase : PasskeyCeremonyPhase}
    {request : CreatePasskeyAssertionRequest} {runtime after : PasskeyRuntime} {assertion : PasskeyAssertion}
    (opened : runtime.session.vault request.vaultId = .ok vault)
    (done : createPasskeyAssertion services token expectedPhase request runtime = (.ok assertion, after)) :
    ∃ entry passkey, ∃ asked : PasskeyAssertionRequest, ∃ expectations,
      request.credentialId = some asked.credentialId ∧
      SoleHolder vault asked.credentialId request.relyingParty entry passkey ∧
      createAssertion services.toSigningLibrary passkey asked expectations = .ok assertion := by
  obtain ⟨expectations, _, _, read, passkey, _, _, _, _, _, here, asked, found, made⟩ :=
    createPasskeyAssertion_ok services done
  rw [opened] at here
  cases here
  obtain ⟨entry, sole⟩ := SoleHolder.of_found found
  exact ⟨entry, passkey, _, expectations, asked, sole, made⟩

end Browser

/-! ## The platform -/

section Platform

variable (services : PlatformServices)

/-- The listing of the platform can show it. -/
def canBeOffered (passkey : PasskeyRecord) : Bool :=
  (platformPasskeyCredential services passkey passkey.relyingParty passkey.username).toBool

theorem failed_toBool {E A B : Type} (e : E) (next next' : A → Except E B) :
    (Except.error e >>= next).toBool = (Except.error e >>= next').toBool := rfl

/-- The labels do not matter for that. -/
theorem platformPasskeyCredential_offered (passkey : PasskeyRecord) (relyingPartyName userDisplayName : String) :
    (platformPasskeyCredential services passkey relyingPartyName userDisplayName).toBool =
      canBeOffered services passkey := by
  unfold canBeOffered platformPasskeyCredential demand
  generalize decodeStored services passkey.credentialId _ = credentialId
  cases credentialId with
  | error e => exact failed_toBool e _ _
  | ok bytes =>
      simp only [Fallible.ok_bind]
      generalize (!bytes.isEmpty) = given
      cases given with
      | false =>
          simp only [Bool.false_eq_true, if_false]
          exact failed_toBool _ _ _
      | true =>
          cases passkey.userHandle with
          | none => simp only [if_true, Except.toBool]
          | some userHandle =>
              simp only [if_true, Fallible.ok_bind]
              generalize decodeStored services userHandle _ = handle
              cases handle with
              | error e => exact failed_toBool e _ _
              | ok handle =>
                  simp only [Fallible.ok_bind]
                  generalize (!handle.isEmpty && decide (handle.length ≤ 64)) = fits
                  cases fits <;> simp only [Except.toBool, if_true, Bool.false_eq_true, if_false]

/-- What the listing of the platform makes of an entry. -/
def offerOf (entry : Entry) (passkey : PasskeyRecord) : Except RuntimeError PlatformPasskeyCredential :=
  platformPasskeyCredential services passkey (entry.customData[platformRelyingPartyNameKey]?.getD entry.title)
    (entry.customData[platformUserDisplayNameKey]?.getD entry.username)

/-- The number of holders that the listing can show. -/
def offerCount (vault : Vault) (credentialId relyingParty : String) : Nat :=
  (holders vault credentialId relyingParty).countP fun entry => entry.passkey.any (canBeOffered services)

def keyedOffer (entry : Entry) : Option ((String × String) × PlatformPasskeyCredential) :=
  match entry.passkey with
  | none => none
  | some passkey => (offerOf services entry passkey).toOption.map fun credential =>
      ((passkey.relyingParty, passkey.credentialId), credential)

theorem platformCredentials_eq (vault : Vault) :
    platformCredentials services vault =
      let candidates := (unbinnedEntries vault.isRecycleBin vault.root).filterMap (keyedOffer services)
      (candidates.filter fun (key, _) => (candidates.map Prod.fst).count key = 1).map Prod.snd := by
  unfold platformCredentials
  rw [visitPasskeyEntries_unbinned, List.filterMap_filterMap]
  apply congrArg fun candidates : List ((String × String) × PlatformPasskeyCredential) =>
    (candidates.filter fun (key, _) => (candidates.map Prod.fst).count key = 1).map Prod.snd
  apply List.filterMap_congr
  intro entry _
  unfold withPasskey keyedOffer offerOf
  cases entry.passkey with
  | none => rfl
  | some passkey =>
      simp only [Option.map_some, Option.bind_some]
      cases platformPasskeyCredential services passkey _ _ <;> rfl

theorem count_offers (vault : Vault) (credentialId relyingParty : String) :
    (((unbinnedEntries vault.isRecycleBin vault.root).filterMap (keyedOffer services)).map Prod.fst).count
        (relyingParty, credentialId) = offerCount services vault credentialId relyingParty := by
  rw [offerCount, holders, List.countP_filter, List.count_eq_countP, List.countP_map, List.countP_filterMap]
  congr 1
  funext entry
  unfold keyedOffer
  cases entry.passkey with
  | none => rfl
  | some passkey =>
      have shown := platformPasskeyCredential_offered services passkey
        (entry.customData[platformRelyingPartyNameKey]?.getD entry.title)
        (entry.customData[platformUserDisplayNameKey]?.getD entry.username)
      rw [Option.any_some, Option.any_some, ← shown]
      change _ = ((offerOf services entry passkey).toBool && _)
      dsimp only
      cases offerOf services entry passkey with
      | error e => rfl
      | ok credential =>
          simp only [Except.toOption, Except.toBool, Option.map_some, Option.getD_some, Function.comp, Bool.true_and,
            hasCredential, beq_eq_decide, Prod.mk.injEq, Bool.decide_and]
          exact Bool.and_comm _ _

theorem mem_platformCredentials {credential : PlatformPasskeyCredential} :
    credential ∈ platformCredentials services vault ↔
      ∃ entry ∈ unbinnedEntries vault.isRecycleBin vault.root, ∃ passkey, entry.passkey = some passkey ∧
        offerOf services entry passkey = .ok credential ∧
        offerCount services vault passkey.credentialId passkey.relyingParty = 1 := by
  rw [platformCredentials_eq]
  simp only [List.mem_map, List.mem_filter, List.mem_filterMap, decide_eq_true_eq, Prod.exists]
  constructor
  · rintro ⟨party, id, _, ⟨⟨entry, member, offer⟩, once⟩, rfl⟩
    rw [count_offers] at once
    unfold keyedOffer at offer
    cases held : entry.passkey with
    | none => simp [held] at offer
    | some passkey =>
        rw [held] at offer
        obtain ⟨_, made, same⟩ := Option.map_eq_some_iff.mp offer
        cases same
        exact ⟨entry, member, passkey, held, Fallible.toOption_some made, once⟩
  · rintro ⟨entry, member, passkey, held, offer, once⟩
    refine ⟨passkey.relyingParty, passkey.credentialId, credential, ⟨⟨entry, member, ?_⟩, ?_⟩, rfl⟩
    · simp [keyedOffer, held, offer, Except.toOption]
    · rw [count_offers]
      exact once

theorem offerOf_ok {entry : Entry} {passkey : PasskeyRecord} {credential : PlatformPasskeyCredential}
    (made : offerOf services entry passkey = .ok credential) :
    services.decodeBase64Url passkey.credentialId = some credential.credentialId ∧
      credential.relyingParty = passkey.relyingParty := by
  unfold offerOf platformPasskeyCredential demand at made
  obtain ⟨bytes, decoded, made⟩ := Fallible.bind_ok.mp made
  obtain ⟨_, _, made⟩ := Fallible.bind_ok.mp made
  have stored : services.decodeBase64Url passkey.credentialId = some bytes := by
    unfold decodeStored at decoded
    split at decoded
    · cases decoded
    · rename_i held
      cases decoded
      exact held
  split at made
  · cases made
  · obtain ⟨_, _, made⟩ := Fallible.bind_ok.mp made
    split at made
    · cases made
      exact ⟨stored, rfl⟩
    · cases made

/-- A signature of the platform is made with the passkey of a sole holder. -/
theorem platformAssertion_sole {input : PlatformPasskeyAssertionInput} {output : PlatformPasskeyAssertionOutput}
    (done : platformAssertion services vault input = .ok output) :
    ∃ entry passkey bytes, SoleHolder vault passkey.credentialId input.relyingParty entry passkey ∧
      createPlatformAssertion services passkey input bytes = .ok output := by
  unfold platformAssertion at done
  dsimp only at done
  split at done
  · cases done
  · rename_i selected _
    obtain ⟨passkey, found, done⟩ := Fallible.bind_ok.mp done
    obtain ⟨bytes, _, done⟩ := Fallible.bind_ok.mp done
    obtain ⟨entry, sole⟩ := SoleHolder.of_found found
    rw [← sole.credential.1] at sole
    exact ⟨entry, passkey, bytes, sole, done⟩

end Platform

/-! ## Filling -/

section Filling

variable (parseUrl : String → Option Url) (totpCode : TotpSpec → Nat → Option String)

theorem fillCandidates_ranks (vault : Vault) (url : String) :
    (∀ summary ∈ fillCandidates parseUrl vault url, ∃ entry groupId,
      OutsideBin vault.isRecycleBin vault.root entry ∧ IsLoginFor parseUrl url entry ∧
        summary = entrySummary groupId entry) ∧
      ∀ entry, OutsideBin vault.isRecycleBin vault.root entry → IsLoginFor parseUrl url entry →
        ∃ summary ∈ fillCandidates parseUrl vault url, summary.id = uuidToString entry.id := by
  have ranks : Ranks parseUrl url (collectFillCandidates parseUrl vault.isRecycleBin url false vault.root 0).1
      (unbinnedEntries vault.isRecycleBin vault.root) := collect_ranks vault.root 0
  unfold fillCandidates
  constructor
  · intro summary member
    obtain ⟨candidate, held, rfl⟩ := List.mem_map.mp member
    obtain ⟨entry, live, groupId, login, same⟩ := ranks.sound candidate (List.mem_mergeSort.mp held)
    exact ⟨entry, groupId, (mem_unbinnedEntries vault.root).mp live, login, same⟩
  · intro entry outside login
    obtain ⟨candidate, held, groupId, same⟩ :=
      ranks.complete entry ((mem_unbinnedEntries vault.root).mpr outside) login
    exact ⟨candidate.entry, List.mem_map_of_mem (List.mem_mergeSort.mpr held), by rw [same]; rfl⟩

def filledCredential (now : Nat) (entry : Entry) : AutofillCredentialDto :=
  { id := uuidToString entry.id
    username := entry.username
    password := entry.password
    totp := entry.totp.bind fun totp => totpCode totp now }

variable {parseUrl totpCode} {session : Session} {vaultId entryId url : String}

theorem findFillCandidates_run (opened : session.vault vaultId = .ok vault) :
    findFillCandidates parseUrl vaultId url session = (.ok (fillCandidates parseUrl vault url), session) := by
  unfold findFillCandidates
  rw [bind_run, get_run]
  dsimp only
  rw [bind_run, opened, lift_ok]
  rfl

/-- What goes on after the check of the candidates is reached for a candidate. -/
theorem offered_ok {A : Type} {goesOn : Runtime A} {result : A} (opened : session.vault vaultId = .ok vault) :
    ((do
      let candidates ← findFillCandidates parseUrl vaultId url
      ensure (candidates.any fun candidate => candidate.id = entryId) notFillCandidate
      goesOn : Runtime A) session).1 = .ok result ↔
      (∃ summary ∈ fillCandidates parseUrl vault url, summary.id = entryId) ∧ (goesOn session).1 = .ok result := by
  rw [bind_run, findFillCandidates_run opened]
  dsimp only
  rw [bind_run]
  cases offered : (fillCandidates parseUrl vault url).any fun candidate => candidate.id = entryId with
  | false =>
      have none' : ¬ ∃ summary ∈ fillCandidates parseUrl vault url, summary.id = entryId := by simpa using offered
      simp [none']
  | true =>
      have some' : ∃ summary ∈ fillCandidates parseUrl vault url, summary.id = entryId := by simpa using offered
      rw [ensure_true]
      exact (and_iff_right some').symm

theorem getAutofillCredential_ok {credential : AutofillCredentialDto} (opened : session.vault vaultId = .ok vault) :
    (getAutofillCredential parseUrl totpCode vaultId entryId url session).1 = .ok credential ↔
      (∃ summary ∈ fillCandidates parseUrl vault url, summary.id = entryId) ∧
        ∃ entry, findEntryById entryId vault.root = some entry ∧
          credential = filledCredential totpCode session.now entry := by
  rw [getAutofillCredential, offered_ok opened]
  refine and_congr_right fun _ => ?_
  unfold getEntryDetail
  cases found : findEntryById entryId vault.root with
  | none => simp only [bind_run, get_run, opened, lift_ok, found, require_none, reduceCtorEq, false_and, exists_false]
  | some entry =>
      simp only [bind_run, get_run, opened, lift_ok, found, require_some, pure_run, Except.ok.injEq, Option.some.injEq,
        exists_eq_left']
      exact eq_comm

def filledFields (entryId : String) (entry : Entry) : AutofillEntryFieldsDto :=
  { id := entryId
    fields := { username := entry.username, password := entry.password, url := entry.url } }

theorem getAutofillEntryFields_ok {filled : AutofillEntryFieldsDto} (opened : session.vault vaultId = .ok vault) :
    (getAutofillEntryFields parseUrl vaultId entryId url session).1 = .ok filled ↔
      (∃ summary ∈ fillCandidates parseUrl vault url, summary.id = entryId) ∧
        ∃ entry, findEntryById entryId vault.root = some entry ∧ filled = filledFields entryId entry := by
  rw [getAutofillEntryFields, offered_ok opened]
  refine and_congr_right fun _ => ?_
  unfold autofillUpdateFieldsForVault entryFieldsForVault
  cases found : findEntryById entryId vault.root with
  | none =>
      simp only [bind_run, get_run, opened, lift_ok, found, Option.map_none, require_none, reduceCtorEq, false_and,
        exists_false]
  | some entry =>
      simp only [bind_run, get_run, opened, lift_ok, found, Option.map_some, require_some, pure_run, Except.ok.injEq,
        Option.some.injEq, exists_eq_left']
      exact eq_comm

end Filling

end Lookups

/-! ## Agreement -/

/-- What is listed is found again, and nothing of the recycle bin is listed, filled or signed with. -/
structure ListingsAgree (browser : PasskeyServices) (platform : PlatformServices) (parseUrl : String → Option Url)
    (totpCode : TotpSpec → Nat → Option String) (vault : Vault) : Prop where
  listed : ∀ (token : String) (phase : PasskeyCeremonyPhase) (vaultId relyingParty : String)
    (runtime after : PasskeyRuntime) (credentials : List PasskeyCredentialCandidate),
    runtime.session.vault vaultId = .ok vault →
    listPasskeyCredentials browser token phase vaultId relyingParty runtime = (.ok credentials, after) →
    ∀ candidate ∈ credentials, ∃ entry passkey, SoleHolder vault candidate.credentialId relyingParty entry passkey ∧
      candidate = ⟨passkey.credentialId, passkey.username, passkey.userHandle⟩
  offered : ∀ credential ∈ platformCredentials platform vault, ∃ entry passkey,
    SoleHolder vault passkey.credentialId credential.relyingParty entry passkey ∧
      offerOf platform entry passkey = .ok credential
  signed : ∀ (token : String) (phase : PasskeyCeremonyPhase) (request : CreatePasskeyAssertionRequest)
    (runtime after : PasskeyRuntime) (assertion : PasskeyAssertion),
    runtime.session.vault request.vaultId = .ok vault →
    createPasskeyAssertion browser token phase request runtime = (.ok assertion, after) →
    ∃ entry passkey, ∃ asked : PasskeyAssertionRequest, ∃ expectations,
      request.credentialId = some asked.credentialId ∧
      SoleHolder vault asked.credentialId request.relyingParty entry passkey ∧
      createAssertion browser.toSigningLibrary passkey asked expectations = .ok assertion
  platformSigned : ∀ (input : PlatformPasskeyAssertionInput) (output : PlatformPasskeyAssertionOutput),
    platformAssertion platform vault input = .ok output →
    ∃ entry passkey bytes, SoleHolder vault passkey.credentialId input.relyingParty entry passkey ∧
      createPlatformAssertion platform passkey input bytes = .ok output
  logins : ∀ (url : String), ∀ summary ∈ fillCandidates parseUrl vault url, ∃ entry groupId,
    OutsideBin vault.isRecycleBin vault.root entry ∧ summary = entrySummary groupId entry
  filled : ∀ (session : Session) (vaultId entryId url : String) (credential : AutofillCredentialDto),
    session.vault vaultId = .ok vault →
    (getAutofillCredential parseUrl totpCode vaultId entryId url session).1 = .ok credential →
    ∃ entry, OutsideBin vault.isRecycleBin vault.root entry ∧ findEntryById entryId vault.root = some entry ∧
      credential = filledCredential totpCode session.now entry
  filledFields : ∀ (session : Session) (vaultId entryId url : String) (fields : AutofillEntryFieldsDto),
    session.vault vaultId = .ok vault →
    (getAutofillEntryFields parseUrl vaultId entryId url session).1 = .ok fields →
    ∃ entry, OutsideBin vault.isRecycleBin vault.root entry ∧ findEntryById entryId vault.root = some entry ∧
      fields = VaultKern.filledFields entryId entry

/-- No passkey that the platform can list has a twin that it cannot. -/
def OffersResolve (platform : PlatformServices) (vault : Vault) : Prop :=
  ∀ credentialId relyingParty : String, offerCount platform vault credentialId relyingParty = 1 →
    (holders vault credentialId relyingParty).length = 1

/-- The first entry with the id of a login is outside of the recycle bin, too. -/
def FillsOutside (parseUrl : String → Option Url) (vault : Vault) : Prop :=
  ∀ (url : String) (entry found : Entry), OutsideBin vault.isRecycleBin vault.root entry →
    IsLoginFor parseUrl url entry → findEntryById (uuidToString entry.id) vault.root = some found →
    OutsideBin vault.isRecycleBin vault.root found

section Agreement

variable {browser : PasskeyServices} {platform : PlatformServices} {parseUrl : String → Option Url}
  {totpCode : TotpSpec → Nat → Option String} {vault : Vault}

theorem ListingsAgree.resolve (agree : ListingsAgree browser platform parseUrl totpCode vault)
    (strict : ∀ text text' bytes, platform.decodeBase64Url text = some bytes →
      platform.decodeBase64Url text' = some bytes → text = text') : OffersResolve platform vault := by
  intro credentialId relyingParty once
  obtain ⟨entry, member, shown⟩ := List.countP_pos_iff.mp (by rw [← offerCount, once]; exact Nat.one_pos)
  obtain ⟨live, holds⟩ := List.mem_filter.mp member
  cases held : entry.passkey with
  | none => simp [held] at shown
  | some passkey =>
      simp only [held, Option.any_some, hasCredential, Bool.and_eq_true, decide_eq_true_eq] at holds shown
      obtain ⟨rfl, rfl⟩ := holds
      rw [← platformPasskeyCredential_offered platform passkey
        (entry.customData[platformRelyingPartyNameKey]?.getD entry.title)
        (entry.customData[platformUserDisplayNameKey]?.getD entry.username)] at shown
      cases made : offerOf platform entry passkey with
      | error e =>
          change (offerOf platform entry passkey).toBool = true at shown
          simp [made, Except.toBool] at shown
      | ok credential =>
          have listed := (mem_platformCredentials platform).mpr ⟨entry, live, passkey, held, made, once⟩
          obtain ⟨entry', passkey', sole, made'⟩ := agree.offered credential listed
          obtain ⟨stored, party⟩ := offerOf_ok platform made
          obtain ⟨stored', _⟩ := offerOf_ok platform made'
          rw [strict _ _ _ stored stored', ← party, sole.alone]
          rfl

/-- A session that has nothing but the vault. -/
def sessionOf (vault : Vault) : Session :=
  { loaded := (∅ : BTreeMap String (Option Vault)).insert "vault" (some vault), activeVaultId := none, now := 0 }

theorem sessionOf_vault (vault : Vault) : (sessionOf vault).vault "vault" = .ok vault := by
  simp [sessionOf, Session.vault]

theorem ListingsAgree.fills (agree : ListingsAgree browser platform parseUrl totpCode vault) :
    FillsOutside parseUrl vault := by
  intro url entry found outside login first
  have offered := (fillCandidates_ranks parseUrl vault url).2 entry outside login
  obtain ⟨filled, live, same, _⟩ := agree.filled (sessionOf vault) "vault" (uuidToString entry.id) url _
    (sessionOf_vault vault) ((getAutofillCredential_ok (sessionOf_vault vault)).mpr ⟨offered, found, first, rfl⟩)
  rw [first] at same
  cases same
  exact live

theorem FillsOutside.of_candidate (fills : FillsOutside parseUrl vault) {url entryId : String} {found : Entry}
    (offered : ∃ summary ∈ fillCandidates parseUrl vault url, summary.id = entryId)
    (first : findEntryById entryId vault.root = some found) : OutsideBin vault.isRecycleBin vault.root found := by
  obtain ⟨summary, member, rfl⟩ := offered
  obtain ⟨entry, groupId, outside, login, rfl⟩ := (fillCandidates_ranks parseUrl vault url).1 summary member
  exact fills url entry found outside login first

/-- Listings, lookups and fills agree exactly if the platform listing hides no twin and the ids of logins
    are not in the recycle bin before. -/
theorem listingsAgree_iff (browser : PasskeyServices) (platform : PlatformServices) (parseUrl : String → Option Url)
    (totpCode : TotpSpec → Nat → Option String) (vault : Vault)
    (strict : ∀ text text' bytes, platform.decodeBase64Url text = some bytes →
      platform.decodeBase64Url text' = some bytes → text = text') :
    ListingsAgree browser platform parseUrl totpCode vault ↔ OffersResolve platform vault ∧ FillsOutside parseUrl vault := by
  constructor
  · exact fun agree => ⟨agree.resolve strict, agree.fills⟩
  · rintro ⟨resolve, fills⟩
    constructor
    · intro token phase vaultId relyingParty runtime after credentials opened listed candidate member
      exact listPasskeyCredentials_sole browser opened listed member
    · intro credential member
      obtain ⟨entry, live, passkey, held, made, once⟩ := (mem_platformCredentials platform).mp member
      obtain ⟨_, party⟩ := offerOf_ok platform made
      have sole := SoleHolder.of_count live held (resolve _ _ once)
      exact ⟨entry, passkey, party ▸ sole, made⟩
    · intro token phase request runtime after assertion opened done
      exact createPasskeyAssertion_sole browser opened done
    · intro input output done
      exact platformAssertion_sole platform done
    · intro url summary member
      obtain ⟨entry, groupId, outside, _, same⟩ := (fillCandidates_ranks parseUrl vault url).1 summary member
      exact ⟨entry, groupId, outside, same⟩
    · intro session vaultId entryId url credential opened done
      obtain ⟨offered, entry, first, same⟩ := (getAutofillCredential_ok opened).mp done
      exact ⟨entry, fills.of_candidate offered first, first, same⟩
    · intro session vaultId entryId url fields opened done
      obtain ⟨offered, entry, first, same⟩ := (getAutofillEntryFields_ok opened).mp done
      exact ⟨entry, fills.of_candidate offered first, first, same⟩

end Agreement

/-! ## A passkey without a user handle -/

def signingPasskey : PasskeyRecord :=
  { username := "user"
    credentialId := "Y3JlZA"
    generatedUserId := none
    privateKeyPem := "key"
    relyingParty := "example.com"
    userHandle := some "dXNlcg"
    backupEligible := false
    backupState := false }

def signingEntry : Entry :=
  { id := 2
    title := "Discoverable"
    password := "secret"
    url := "https://example.com"
    passkey := some signingPasskey }

/-- Two entries with one credential, of which one has no user handle. -/
def twinVault : Vault :=
  { name := "vault"
    root :=
      ⟨{ id := 1, title := "Root" },
        [signingEntry, { id := 3, title := "Old", passkey := some { signingPasskey with userHandle := none } }], []⟩ }

def signingPlatform : PlatformServices where
  toSigningLibrary := { exampleLibrary with
    decodeBase64Url := fun text =>
      if text = "dXNlcg" then some [117, 115, 101, 114] else if text = "Y3JlZA" then some [99, 114, 101, 100] else none }
  encodeBase64Url _ := "Y3JlZA"
  saveVault _ := pure { status := .saved, conflictCopyPath := none }

theorem signingPlatform_strict (text text' : String) (bytes : List UInt8)
    (decoded : signingPlatform.decodeBase64Url text = some bytes)
    (decoded' : signingPlatform.decodeBase64Url text' = some bytes) : text = text' := by
  simp only [signingPlatform] at decoded decoded'
  grind

/-- The platform offers a credential that the lookup finds twice. -/
theorem twinVault_disagrees :
    ¬ ListingsAgree exampleServices signingPlatform exampleLibrary.parseUrl (fun _ _ => none) twinVault := by
  intro agree
  have counts : offerCount signingPlatform twinVault "Y3JlZA" "example.com" = 1 ∧
      (holders twinVault "Y3JlZA" "example.com").length = 2 := by decide +kernel
  have resolves := agree.resolve signingPlatform_strict "Y3JlZA" "example.com" counts.1
  rw [counts.2] at resolves
  cases resolves

/-- The twin is in the recycle bin. -/
def binnedTwinVault : Vault :=
  { name := "vault"
    root :=
      ⟨{ id := 1, title := "Root" }, [signingEntry],
        [⟨{ id := 9, title := "Recycle Bin" }, [{ signingEntry with id := 4 }], []⟩]⟩
    recycleBinGroup := some 9 }

theorem listingsAgree_binnedTwin :
    ListingsAgree exampleServices signingPlatform exampleLibrary.parseUrl (fun _ _ => none) binnedTwinVault := by
  have live : unbinnedEntries binnedTwinVault.isRecycleBin binnedTwinVault.root = [signingEntry] := by decide +kernel
  apply (listingsAgree_iff exampleServices signingPlatform exampleLibrary.parseUrl (fun _ _ => none) binnedTwinVault
    signingPlatform_strict).mpr
  constructor
  · intro credentialId relyingParty once
    have most : (holders binnedTwinVault credentialId relyingParty).length ≤ 1 := by
      unfold holders
      rw [live]
      exact List.length_filter_le _ _
    have least := List.countP_le_length (p := fun entry => entry.passkey.any (canBeOffered signingPlatform))
      (l := holders binnedTwinVault credentialId relyingParty)
    rw [← offerCount, once] at least
    exact le_antisymm most least
  · intro url entry found outside _ first
    rw [← mem_unbinnedEntries, live, List.mem_singleton] at outside
    rw [← mem_unbinnedEntries, live, List.mem_singleton]
    subst outside
    have named : findEntryById (uuidToString signingEntry.id) binnedTwinVault.root = some signingEntry := by decide +kernel
    exact Option.some.inj (first.symm.trans named)

end VaultKern
