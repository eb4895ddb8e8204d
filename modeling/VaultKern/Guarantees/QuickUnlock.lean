import VaultKern.Guarantees.HeaderCodecs
import VaultKern.Guarantees.KdfGate
import VaultKern.Guarantees.UnlockBlobs
import VaultKern.Runtime.QuickUnlock

/-! # Quick unlock keeps a valid enrolment

A record is deleted only for a reason, what is stored over it has its master credential, and what is
reported unlocked was opened with the key that is reported.
-/

namespace VaultKern.Unlock

open Kdbx (KdbxError KdfLibrary KdfProfile Deriving ExternalKdfPolicy ExternalKdfConfirmation
  deriveTransformedKeyWithPolicy loadKdbx)

section Rules

variable {S A B : Type} {provider : SecureStorageProvider S}

/-! ## What a computation may do -/

def StorageCall.perform (provider : SecureStorageProvider S) (storage : S) : StorageCall → S
  | .delete => (provider.delete storage).2
  | .store value => (provider.store value storage).2

/-- The calls that are made, the derivations that are started and the result are each of a kind, and
nothing but the calls changes the storage. -/
structure Does (provider : SecureStorageProvider S) (calls : StorageCall → Prop) (starts : KdfProfile → Prop)
    (returns : A → Prop) (m : Unlocking S A) : Prop where
  calls : ∀ session, ∃ made, (m session).2.calls = session.calls ++ made ∧ (∀ call ∈ made, calls call) ∧
    (m session).2.storage = made.foldl (StorageCall.perform provider) session.storage
  starts : ∀ session, ∀ profile ∈ (m session).2.started, profile ∈ session.started ∨ starts profile
  returns : ∀ session a, (m session).1 = .ok a → returns a

namespace Does

variable {calls : StorageCall → Prop} {starts : KdfProfile → Prop} {returns : A → Prop}

theorem pure {a : A} (good : returns a) : Does provider calls starts returns (pure a : Unlocking S A) where
  calls session := ⟨[], (List.append_nil _).symm, nofun, rfl⟩
  starts _ _ started := .inl started
  returns _ _ same := by
    cases same
    exact good

theorem fail (e : UnlockError) : Does provider calls starts returns (Attempt.fail e : Unlocking S A) where
  calls session := ⟨[], (List.append_nil _).symm, nofun, rfl⟩
  starts _ _ started := .inl started
  returns _ _ same := by cases same

theorem lift {check : Except UnlockError A} (good : ∀ a, check = .ok a → returns a) :
    Does provider calls starts returns (Attempt.lift check : Unlocking S A) := by
  cases check with
  | error e => exact fail e
  | ok a => exact pure (good a rfl)

theorem bind {returns' : B → Prop} {m : Unlocking S A} {next : A → Unlocking S B}
    (first : Does provider calls starts returns m)
    (rest : ∀ a, returns a → Does provider calls starts returns' (next a)) :
    Does provider calls starts returns' (m >>= next) := by
  have split : ∀ session, (∃ e, (m >>= next) session = (.error e, (m session).2)) ∨
      ∃ a, (m session).1 = .ok a ∧ (m >>= next) session = next a (m session).2 := by
    intro session
    rw [Attempt.bind_run]
    cases m session with
    | mk result left =>
        cases result with
        | error e => exact .inl ⟨e, rfl⟩
        | ok a => exact .inr ⟨a, rfl, rfl⟩
  constructor
  · intro session
    obtain ⟨made, logged, each, stored⟩ := first.calls session
    rcases split session with ⟨e, same⟩ | ⟨a, ok, same⟩
    · rw [same]
      exact ⟨made, logged, each, stored⟩
    · obtain ⟨made', logged', each', stored'⟩ := (rest a (first.returns session a ok)).calls (m session).2
      rw [same]
      refine ⟨made ++ made', ?_, ?_, ?_⟩
      · rw [logged', logged, List.append_assoc]
      · intro call member
        exact (List.mem_append.mp member).elim (each call) (each' call)
      · rw [stored', stored, List.foldl_append]
  · intro session profile started
    rcases split session with ⟨e, same⟩ | ⟨a, ok, same⟩
    · rw [same] at started
      exact first.starts session profile started
    · rw [same] at started
      rcases (rest a (first.returns session a ok)).starts _ profile started with earlier | now
      · exact first.starts session profile earlier
      · exact .inr now
  · intro session b done
    rcases split session with ⟨e, same⟩ | ⟨a, ok, same⟩
    · rw [same] at done
      cases done
    · rw [same] at done
      exact (rest a (first.returns session a ok)).returns _ b done

theorem deleteRecord {context : String} (allowed : calls .delete) :
    Does provider calls starts (fun _ => True) (deleteRecord provider context) where
  calls session := by
    refine ⟨[.delete], rfl, ?_, rfl⟩
    intro call made
    rw [List.mem_singleton.mp made]
    exact allowed
  starts _ _ started := .inl started
  returns _ _ _ := trivial

theorem tryStore {value : List UInt8} (allowed : calls (.store value)) :
    Does provider calls starts (fun _ => True) (tryStore provider value) where
  calls session := by
    refine ⟨[.store value], rfl, ?_, rfl⟩
    intro call made
    rw [List.mem_singleton.mp made]
    exact allowed
  starts _ _ started := .inl started
  returns _ _ _ := trivial

theorem runDeriving {computation : Deriving A}
    (started : ∀ log, ∀ profile ∈ (computation log).2, profile ∈ log ∨ starts profile) :
    Does provider calls starts (fun a => ∃ log, (computation log).1 = .ok a)
      (runDeriving computation : Unlocking S A) where
  calls session := ⟨[], (List.append_nil _).symm, nofun, rfl⟩
  starts session := started session.started
  returns session a done := by
    refine ⟨session.started, ?_⟩
    change (computation session.started).1.mapError UnlockError.kdbx = .ok a at done
    cases result : (computation session.started).1 with
    | error e => rw [result] at done; cases done
    | ok key =>
        rw [result] at done
        cases done
        rfl

end Does

end Rules

/-! ## What an attempt may do -/

section Attempts

variable (library : KdfLibrary)

/-- The answer is a value that is no blob. -/
def Malformed (answer : LoadAnswer) : Prop :=
  ∃ encoded, answer = .ok (some encoded) ∧ ∀ blob, UnlockBlob.decode encoded ≠ .ok blob

def Invalidated (answer : LoadAnswer) : Prop :=
  ∃ error, answer = .error error ∧ isSecureStorageInvalidated error = true

/-- The answer is the blob. -/
def Holds (answer : LoadAnswer) (blob : UnlockBlob) : Prop :=
  ∃ encoded, answer = .ok (some encoded) ∧ UnlockBlob.decode encoded = .ok blob

/-- A key was derived of the credential, and it did not open the file. -/
def ShownWrong (request : UnlockRequest) (credential : MasterCredential) : Prop :=
  ∃ started key, (deriveTransformedKeyWithPolicy library request.fileBytes credential.toCompositeKey
      request.policy.evaluate request.confirmation started).1 = .ok key ∧
    loadKdbx library.toFileLibrary request.fileBytes key.bytes = .error .headerHmacMismatch

/-- The calls that are justified. -/
def Justified (request : UnlockRequest) (answer : LoadAnswer) : StorageCall → Prop
  | .delete => Malformed answer ∨ Invalidated answer ∨
      request.target = .current ∧ request.policy ≠ .extension ∧
        ∃ blob, Holds answer blob ∧ ShownWrong library request blob.masterCredential
  | .store value => request.target = .current ∧ request.policy ≠ .extension ∧
      ∃ blob key vault, Holds answer blob ∧ UnlockBlob.decode value = .ok ⟨blob.masterCredential, key⟩ ∧
        loadKdbx library.toFileLibrary request.fileBytes key.bytes = .ok vault

def Started (request : UnlockRequest) (profile : KdfProfile) : Prop :=
  request.policy ≠ .extension ∧ Kdbx.Covered request.fileBytes request.policy.evaluate request.confirmation profile

/-- What is unlocked was opened with the key that comes with it. -/
def Opened (request : UnlockRequest) (attempt : UnlockAttempt) : Prop :=
  ∀ unlocked, attempt = .unlocked unlocked →
    loadKdbx library.toFileLibrary request.fileBytes unlocked.transformedKey.bytes = .ok unlocked.vault

structure Safe (attempted : Attempted) : Prop where
  calls : ∀ call ∈ attempted.calls, Justified library attempted.request attempted.answer call
  started : ∀ profile ∈ attempted.started, Started attempted.request profile
  opened : ∀ attempt, attempted.result = .ok attempt → Opened library attempted.request attempt

variable {library} {S : Type} {provider : SecureStorageProvider S} {request : UnlockRequest} {answer : LoadAnswer}

theorem derivation_started {credential : MasterCredential} {log : List KdfProfile} {profile : KdfProfile}
    (started : profile ∈ (deriveTransformedKeyWithPolicy library request.fileBytes credential.toCompositeKey
      request.policy.evaluate request.confirmation log).2) : profile ∈ log ∨ Started request profile := by
  have gated : Kdbx.Gated request.fileBytes request.policy.evaluate request.confirmation
      (deriveTransformedKeyWithPolicy library request.fileBytes credential.toCompositeKey request.policy.evaluate
        request.confirmation) := Kdbx.deriveTransformedKeyWithPolicy_gated
  rcases gated log with none | ⟨only, one, covered⟩
  · rw [none] at started
    exact .inl started
  · rw [one] at started
    rcases List.mem_append.mp started with earlier | now
    · exact .inl earlier
    · rw [List.mem_singleton.mp now]
      obtain ⟨_, _, permits⟩ := covered.permitted
      exact .inr ⟨(Kdbx.permits_within permits).1, covered⟩

def UnlockAttempt.isUnlocked : UnlockAttempt → Bool
  | .unlocked _ => true
  | _ => false

/-- Nothing is unlocked. -/
theorem quiet_does {attempt : UnlockAttempt} {calls : StorageCall → Prop} {starts : KdfProfile → Prop}
    (other : attempt.isUnlocked = false) :
    Does provider calls starts (Opened library request) (pure attempt : Unlocking S UnlockAttempt) := by
  apply Does.pure
  intro unlocked same
  rw [same] at other
  cases other

theorem encode_does {calls : StorageCall → Prop} {starts : KdfProfile → Prop} (blob : UnlockBlob) :
    Does provider calls starts (fun encoded => UnlockBlob.decode encoded = .ok blob)
      (Attempt.lift (blob.encode.mapError .blob) : Unlocking S (List UInt8)) := by
  apply Does.lift
  intro encoded written
  cases result : blob.encode with
  | error e =>
      rw [result] at written
      cases written
  | ok bytes =>
      rw [result] at written
      cases written
      exact encode_decode result

theorem unlockWithCredential_does {blob : UnlockBlob} (holds : Holds answer blob)
    {refresh : Bool} (current : refresh = true → request.target = .current) :
    Does provider (Justified library request answer) (Started request) (Opened library request)
      (unlockWithCredential provider library request.fileBytes request.policy request.confirmation refresh blob) := by
  unfold unlockWithCredential
  split
  · exact quiet_does rfl
  · rename_i derives
    apply Does.bind (.runDeriving fun _ _ started => derivation_started started)
    intro refreshed ⟨log, derived⟩
    split
    · rename_i vault loaded
      have opened : Opened library request
          (.unlocked { vault, transformedKey := refreshed, credentialShape := blob.masterCredential.shape }) := by
        intro unlocked same
        cases same
        exact loaded
      split
      · rename_i refreshes
        apply Does.bind (encode_does _)
        intro encoded decoded
        apply Does.bind (.tryStore _)
        · intro _ _
          exact .pure opened
        · exact ⟨current refreshes, derives, blob, refreshed, vault, holds, decoded, loaded⟩
      · exact .pure opened
    · rename_i mismatch
      split
      · rename_i refreshes
        apply Does.bind (.deleteRecord _)
        · intro _ _
          exact quiet_does rfl
        · exact .inr (.inr ⟨current refreshes, derives, blob, holds, log, refreshed, derived, mismatch⟩)
      · exact quiet_does rfl
    · exact .fail _

theorem unlockWithBlob_does {blob : UnlockBlob} (holds : Holds answer blob)
    {refresh : Bool} (current : refresh = true → request.target = .current) :
    Does provider (Justified library request answer) (Started request) (Opened library request)
      (unlockWithBlob provider library request.fileBytes request.policy request.confirmation refresh blob) := by
  unfold unlockWithBlob
  split
  · rename_i vault loaded
    apply Does.pure
    intro unlocked same
    cases same
    exact loaded
  · exact unlockWithCredential_does holds current
  · exact .fail _

theorem decode_empty (blob : UnlockBlob) : UnlockBlob.decode [] ≠ .ok blob := by
  have refused : UnlockBlob.decode [] = .error (.message "unlock blob is truncated") := rfl
  rw [refused]
  nofun

theorem unlockWithAnswer_does {refresh : Bool}
    (current : refresh = true → request.target = .current) :
    Does provider (Justified library request answer) (Started request) (Opened library request)
      (unlockWithAnswer provider library request.fileBytes request.policy request.confirmation refresh answer) := by
  have deletes : ∀ context, Justified library request answer .delete →
      Does provider (Justified library request answer) (Started request) (Opened library request)
        (deleteRecord provider context >>= fun _ => pure UnlockAttempt.notEnrolled) := by
    intro context allowed
    apply Does.bind (.deleteRecord allowed)
    intro _ _
    exact quiet_does rfl
  unfold unlockWithAnswer
  split
  · exact quiet_does rfl
  · rename_i encoded
    split
    · rename_i empty
      apply deletes
      rw [empty]
      exact .inl ⟨[], rfl, decode_empty⟩
    · split
      · rename_i blob decoded
        exact unlockWithBlob_does ⟨encoded, rfl, decoded⟩ current
      · rename_i error failed
        apply deletes
        refine .inl ⟨encoded, rfl, ?_⟩
        intro blob decoded
        rw [failed] at decoded
        cases decoded
  · rename_i error
    split
    · exact quiet_does rfl
    · split
      · rename_i invalidated
        exact deletes _ (.inr (.inl ⟨error, rfl, invalidated⟩))
      · exact .fail _

/-- One attempt is safe, and its calls are all that changes the storage after the load. -/
theorem attempt_safe (request : UnlockRequest) (storage : S) :
    Safe library (attempt provider library request storage).1 ∧
      (attempt provider library request storage).2 = (attempt provider library request storage).1.calls.foldl
        (StorageCall.perform provider) (provider.load storage).2 := by
  obtain ⟨refresh, current, same⟩ : ∃ refresh, (refresh = true → request.target = .current) ∧
      request.run provider library = unlockFromBlobWithCachePolicy provider library request.fileBytes request.policy
        request.confirmation refresh := by
    cases target : request.target with
    | current => exact ⟨true, fun _ => rfl, by rw [UnlockRequest.run, target]; rfl⟩
    | historicalSnapshot => exact ⟨false, nofun, by rw [UnlockRequest.run, target]; rfl⟩
  have does : Does provider (Justified library request (provider.load storage).1) (Started request)
      (Opened library request) (unlockWithAnswer provider library request.fileBytes request.policy request.confirmation
        refresh (provider.load storage).1) := unlockWithAnswer_does current
  obtain ⟨made, logged, each, stored⟩ := does.calls { storage := (provider.load storage).2 }
  rw [List.nil_append] at logged
  unfold attempt
  rw [same]
  refine ⟨⟨?_, ?_, ?_⟩, ?_⟩
  · intro call called
    apply each
    rw [← logged]
    exact called
  · intro profile started
    exact (does.starts { storage := (provider.load storage).2 } profile started).resolve_left List.not_mem_nil
  · intro result done
    exact does.returns { storage := (provider.load storage).2 } result done
  · rw [← logged] at stored
    exact stored

end Attempts

/-! ## Sequences of attempts -/

section Sequences

variable {S : Type}

/-- The record is what the storage answers, and only the calls change it. Each of them may fail. -/
structure Keeps (provider : SecureStorageProvider S) (content : S → Option (List UInt8)) : Prop where
  load_answer : ∀ storage value, (provider.load storage).1 = .ok value → value = content storage
  load_keeps : ∀ storage, content (provider.load storage).2 = content storage
  delete_record : ∀ storage, content (provider.delete storage).2 = none ∨
    content (provider.delete storage).2 = content storage
  store_record : ∀ value storage, content (provider.store value storage).2 = some value ∨
    content (provider.store value storage).2 = content storage

/-- What is recorded, if anything, is a blob of the credential. -/
def EnrolledAs (credential : MasterCredential) (record : Option (List UInt8)) : Prop :=
  ∀ encoded, record = some encoded → ∃ key, UnlockBlob.decode encoded = .ok ⟨credential, key⟩

/-- The calls that may be made while the credential is enrolled. -/
def Warranted (library : KdfLibrary) (credential : MasterCredential) (attempted : Attempted) : StorageCall → Prop
  | .delete => Invalidated attempted.answer ∨ attempted.request.target = .current ∧
      attempted.request.policy ≠ .extension ∧ ShownWrong library attempted.request credential
  | .store value => attempted.request.target = .current ∧ attempted.request.policy ≠ .extension ∧
      ∃ key vault, UnlockBlob.decode value = .ok ⟨credential, key⟩ ∧
        loadKdbx library.toFileLibrary attempted.request.fileBytes key.bytes = .ok vault

variable {provider : SecureStorageProvider S} {library : KdfLibrary} {content : S → Option (List UInt8)}
  {credential : MasterCredential}

theorem warranted_of_justified {attempted : Attempted} {call : StorageCall}
    (enrolled : ∀ encoded, attempted.answer = .ok (some encoded) →
      ∃ key, UnlockBlob.decode encoded = .ok ⟨credential, key⟩)
    (justified : Justified library attempted.request attempted.answer call) :
    Warranted library credential attempted call := by
  have same : ∀ blob, Holds attempted.answer blob → blob.masterCredential = credential := by
    intro blob ⟨encoded, answered, decoded⟩
    obtain ⟨key, decoded'⟩ := enrolled encoded answered
    rw [decoded] at decoded'
    cases decoded'
    rfl
  cases call with
  | delete =>
      rcases justified with ⟨encoded, answered, malformed⟩ | invalidated | ⟨current, derives, blob, holds, wrong⟩
      · obtain ⟨key, decoded⟩ := enrolled encoded answered
        exact absurd decoded (malformed _)
      · exact .inl invalidated
      · rw [same blob holds] at wrong
        exact .inr ⟨current, derives, wrong⟩
  | store value =>
      obtain ⟨current, derives, blob, key, vault, holds, decoded, loaded⟩ := justified
      rw [same blob holds] at decoded
      exact ⟨current, derives, key, vault, decoded, loaded⟩

/-- The record after the calls is that before them, nothing after a deletion, or one that was stored. -/
theorem calls_record (keeps : Keeps provider content) (calls : List StorageCall) (storage : S) :
    content (calls.foldl (StorageCall.perform provider) storage) = content storage ∨
      (content (calls.foldl (StorageCall.perform provider) storage) = none ∧ .delete ∈ calls) ∨
      ∃ value, content (calls.foldl (StorageCall.perform provider) storage) = some value ∧ .store value ∈ calls := by
  induction calls generalizing storage with
  | nil => exact .inl rfl
  | cons call rest ih =>
      rw [List.foldl_cons]
      rcases ih (call.perform provider storage) with same | ⟨gone, deletes⟩ | ⟨value, stored, stores⟩
      · rw [same]
        cases call with
        | delete =>
            rcases keeps.delete_record storage with gone | kept
            · exact .inr (.inl ⟨gone, List.mem_cons_self⟩)
            · exact .inl kept
        | store value =>
            rcases keeps.store_record value storage with stored | kept
            · exact .inr (.inr ⟨value, stored, List.mem_cons_self⟩)
            · exact .inl kept
      · exact .inr (.inl ⟨gone, List.mem_cons_of_mem _ deletes⟩)
      · exact .inr (.inr ⟨value, stored, List.mem_cons_of_mem _ stores⟩)

/-- The credential stays enrolled: each call is warranted, the record is still of the credential, and it
is gone only where it was deleted. -/
structure Stays (library : KdfLibrary) (credential : MasterCredential) (record : Option (List UInt8))
    (attempted : List Attempted) (record' : Option (List UInt8)) : Prop where
  warranted : ∀ one ∈ attempted, ∀ call ∈ one.calls, Warranted library credential one call
  enrolled : EnrolledAs credential record'
  gone : record' = none → record = none ∨ ∃ one ∈ attempted, .delete ∈ one.calls

theorem attempt_stays (keeps : Keeps provider content) (request : UnlockRequest) {storage : S}
    (enrolled : EnrolledAs credential (content storage)) :
    Stays library credential (content storage) [(attempt provider library request storage).1]
      (content (attempt provider library request storage).2) := by
  obtain ⟨safe, performed⟩ := @attempt_safe library S provider request storage
  have warranted : ∀ call ∈ (attempt provider library request storage).1.calls,
      Warranted library credential (attempt provider library request storage).1 call := by
    intro call called
    apply warranted_of_justified _ (safe.calls call called)
    intro encoded answered
    exact enrolled encoded (keeps.load_answer storage _ answered).symm
  have record := calls_record keeps (attempt provider library request storage).1.calls (provider.load storage).2
  rw [← performed, keeps.load_keeps] at record
  refine ⟨?_, ?_, ?_⟩
  · intro one member
    rw [List.mem_singleton.mp member]
    exact warranted
  · intro encoded recorded
    rcases record with same | ⟨gone, _⟩ | ⟨value, stored, stores⟩
    · rw [same] at recorded
      exact enrolled encoded recorded
    · rw [gone] at recorded
      cases recorded
    · rw [stored] at recorded
      cases recorded
      obtain ⟨_, _, key, _, decoded, _⟩ := warranted _ stores
      exact ⟨key, decoded⟩
  · intro none
    rcases record with same | ⟨_, deletes⟩ | ⟨value, stored, _⟩
    · rw [same] at none
      exact .inl none
    · exact .inr ⟨_, List.mem_singleton_self _, deletes⟩
    · rw [stored] at none
      cases none

/-- Each attempt of a sequence is safe, and the credential that was enrolled stays enrolled. -/
theorem quickUnlock_keeps (provider : SecureStorageProvider S) (library : KdfLibrary) (requests : List UnlockRequest)
    (storage : S) :
    (∀ one ∈ (attempts provider library requests storage).1, Safe library one) ∧
      ∀ content credential, Keeps provider content → EnrolledAs credential (content storage) →
        Stays library credential (content storage) (attempts provider library requests storage).1
          (content (attempts provider library requests storage).2) := by
  induction requests generalizing storage with
  | nil =>
      have empty : attempts provider library [] storage = ([], storage) := rfl
      rw [empty]
      refine ⟨fun one member => absurd member List.not_mem_nil, ?_⟩
      intro content credential keeps enrolled
      exact ⟨fun one member => absurd member List.not_mem_nil, enrolled, .inl⟩
  | cons request rest ih =>
      obtain ⟨safe, stay⟩ := ih (attempt provider library request storage).2
      have split : attempts provider library (request :: rest) storage =
          ((attempt provider library request storage).1 ::
              (attempts provider library rest (attempt provider library request storage).2).1,
            (attempts provider library rest (attempt provider library request storage).2).2) := rfl
      rw [split]
      refine ⟨?_, ?_⟩
      · intro one member
        rcases List.mem_cons.mp member with first | later
        · rw [first]
          exact (attempt_safe request storage).1
        · exact safe one later
      · intro content credential keeps enrolled
        have first : Stays library credential (content storage) [(attempt provider library request storage).1]
            (content (attempt provider library request storage).2) := attempt_stays keeps request enrolled
        have others := stay content credential keeps first.enrolled
        refine ⟨?_, others.enrolled, ?_⟩
        · intro one member
          rcases List.mem_cons.mp member with here | later
          · exact first.warranted one (List.mem_singleton.mpr here)
          · exact others.warranted one later
        · intro none
          rcases others.gone none with before | ⟨one, member, deletes⟩
          · rcases first.gone before with start | ⟨one, member, deletes⟩
            · exact .inl start
            · exact .inr ⟨one, List.mem_cons.mpr (.inl (List.mem_singleton.mp member)), deletes⟩
          · exact .inr ⟨one, List.mem_cons_of_mem _ member, deletes⟩

end Sequences

/-! ## A storage in memory -/

def memoryProvider : SecureStorageProvider (Option (List UInt8)) where
  load record := (.ok record, record)
  store value _ := (.ok (), some value)
  delete _ := (.ok (), none)

theorem memoryProvider_keeps : Keeps memoryProvider id where
  load_answer _ _ answered := by
    cases answered
    rfl
  load_keeps _ := rfl
  delete_record _ := .inl rfl
  store_record _ _ := .inl rfl

/-- The password `s`. -/
def shortCredential : MasterCredential where
  password := some [115]
  keyFileContribution := none
  present := by decide
  small := by decide

/-- A library that gives every password one key. -/
def oneKeyLibrary : KdfLibrary :=
  { Kdbx.oneHashLibrary with deriveKey := fun _ _ => .ok ⟨List.replicate 32 5, rfl⟩ }

/-- A file that the credential does not open. -/
def strangeFile : List UInt8 := Kdbx.storedBytes ++ List.replicate 32 0 ++ List.replicate 32 1

/-- The file is opened as it is, and then as a snapshot. -/
def strangeRequests : List UnlockRequest :=
  [⟨.current, strangeFile, .desktop, .confirmed⟩, ⟨.historicalSnapshot, strangeFile, .extension, .unconfirmed⟩]

def nineBlob : UnlockBlob := ⟨shortCredential, ⟨List.replicate 32 9, rfl⟩⟩

/-- The first attempt derives a key and deletes the record. -/
theorem strangeRequests_called (encoded : List UInt8) (written : nineBlob.encode = .ok encoded) :
    (attempts memoryProvider oneKeyLibrary strangeRequests (some encoded)).1.map (fun one => (one.calls, one.started)) =
      [([.delete], [.aesKdbx4 60000 (List.replicate 32 5)]), ([], [])] := by
  obtain rfl := Except.ok.inj ((encode_ok.mpr rfl).symm.trans written)
  decide +kernel

theorem quickUnlock_keeps_memory :
    ∃ encoded, nineBlob.encode = .ok encoded ∧
      Stays oneKeyLibrary shortCredential (some encoded)
        (attempts memoryProvider oneKeyLibrary strangeRequests (some encoded)).1
        (attempts memoryProvider oneKeyLibrary strangeRequests (some encoded)).2 ∧
      (attempts memoryProvider oneKeyLibrary strangeRequests (some encoded)).1.map (fun one => (one.calls, one.started)) =
        [([.delete], [.aesKdbx4 60000 (List.replicate 32 5)]), ([], [])] := by
  obtain ⟨encoded, written⟩ : ∃ encoded, nineBlob.encode = .ok encoded := ⟨_, encode_ok.mpr rfl⟩
  refine ⟨encoded, written, ?_, strangeRequests_called encoded written⟩
  apply (quickUnlock_keeps memoryProvider oneKeyLibrary strangeRequests (some encoded)).2 id shortCredential
    memoryProvider_keeps
  intro bytes recorded
  cases recorded
  exact ⟨_, encode_decode written⟩

end VaultKern.Unlock
