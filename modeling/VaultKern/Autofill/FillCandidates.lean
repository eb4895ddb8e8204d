import VaultKern.Autofill.Pending

/-! # Fill candidates

The logins of a vault that may be filled into a page, the best match first. URLs are parsed
by a library.
-/

namespace VaultKern

open Attempt

structure FillMatchScore where
  exactPath : Bool
  sharedPathPrefixLen : Nat
  deriving DecidableEq

structure EntrySummaryDto where
  id : String
  title : String
  username : String
  url : String
  groupId : String
  hasTotp : Bool
  deriving DecidableEq

structure RankedFillCandidate where
  index : Nat
  entry : EntrySummaryDto
  score : FillMatchScore

section Matching

variable (parseUrl : String → Option Url)

/-- A text without a scheme is taken for a host and what follows it. -/
def parseFillUrl (value : String) : Option Url :=
  (parseUrl (trimText value)).or (parseUrl ("https://" ++ trimText value))

def isHttpScheme (scheme : String) : Bool := scheme = "http" || scheme = "https"

def portOrKnownDefault (url : Url) : Option Nat :=
  url.port.or (if url.scheme = "http" then some 80 else if url.scheme = "https" then some 443 else none)

def sameHttpOrigin (page entry : Url) : Bool :=
  isHttpScheme page.scheme && isHttpScheme entry.scheme && page.scheme = entry.scheme && page.host = entry.host
    && portOrKnownDefault page = portOrKnownDefault entry

def normalizedPathSegments (url : Url) : List (List Char) :=
  match url.path.toList with
  | '/' :: rest => (splitAll '/' rest).filter fun segment => !segment.isEmpty
  | _ => []

def sharedPathPrefixLen (pageSegments entrySegments : List (List Char)) : Nat :=
  ((pageSegments.zip entrySegments).takeWhile fun (page, entry) => page = entry).length

def scoreOriginScopedEntryMatch (pageUrl entryUrl : String) : Option FillMatchScore :=
  match parseFillUrl parseUrl pageUrl, parseFillUrl parseUrl entryUrl with
  | some page, some entry =>
      if sameHttpOrigin page entry then
        let pageSegments := normalizedPathSegments page
        let entrySegments := normalizedPathSegments entry
        some {
          exactPath := pageSegments = entrySegments
          sharedPathPrefixLen := sharedPathPrefixLen pageSegments entrySegments }
      else none
  | _, _ => none

/-! ## Collecting -/

def entrySummary (groupId : Uuid) (entry : Entry) : EntrySummaryDto :=
  { id := uuidToString entry.id
    title := entry.title
    username := entry.username
    url := entry.url
    groupId := uuidToString groupId
    hasTotp := entry.totp.isSome }

/-- An entry that holds nothing but a passkey is no login. -/
def rankedFillCandidate (url : String) (groupId : Uuid) (index : Nat) (entry : Entry) : Option RankedFillCandidate :=
  if entry.password.isEmpty && entry.passkey.isSome then none
  else (scoreOriginScopedEntryMatch parseUrl url entry.url).map fun score =>
    { index, entry := entrySummary groupId entry, score }

/-- The candidates among the entries of a group, and the next index. -/
def collectFromEntries (url : String) (groupId : Uuid) (groupRecycled : Bool) :
    List Entry → Nat → List RankedFillCandidate × Nat
  | [], nextIndex => ([], nextIndex)
  | entry :: rest, nextIndex =>
      if groupRecycled then collectFromEntries url groupId groupRecycled rest nextIndex
      else
        let later := collectFromEntries url groupId groupRecycled rest (nextIndex + 1)
        ((rankedFillCandidate parseUrl url groupId nextIndex entry).toList ++ later.1, later.2)

mutual
def collectFillCandidates (isRecycleBin : Uuid → Bool) (url : String) (ancestorRecycled : Bool) :
    Group → Nat → List RankedFillCandidate × Nat
  | ⟨fields, entries, children⟩, nextIndex =>
      let groupRecycled := ancestorRecycled || isRecycleBin fields.id
      let here := collectFromEntries parseUrl url fields.id groupRecycled entries nextIndex
      let below := collectFromChildren isRecycleBin url groupRecycled children here.2
      (here.1 ++ below.1, below.2)

def collectFromChildren (isRecycleBin : Uuid → Bool) (url : String) (ancestorRecycled : Bool) :
    List Group → Nat → List RankedFillCandidate × Nat
  | [], nextIndex => ([], nextIndex)
  | child :: rest, nextIndex =>
      let here := collectFillCandidates isRecycleBin url ancestorRecycled child nextIndex
      let later := collectFromChildren isRecycleBin url ancestorRecycled rest here.2
      (here.1 ++ later.1, later.2)
end

/-- A better match comes first, and of equal ones the one that was found first. -/
def ranksBefore (left right : RankedFillCandidate) : Bool :=
  if left.score.exactPath ≠ right.score.exactPath then left.score.exactPath
  else if left.score.sharedPathPrefixLen ≠ right.score.sharedPathPrefixLen then
    right.score.sharedPathPrefixLen < left.score.sharedPathPrefixLen
  else left.index ≤ right.index

/-- `group_is_recycle_bin`. -/
def Vault.isRecycleBin (vault : Vault) (id : Uuid) : Bool :=
  vault.recycleBinEnabled.getD true && vault.recycleBinGroup = some id

def fillCandidates (vault : Vault) (url : String) : List EntrySummaryDto :=
  ((collectFillCandidates parseUrl vault.isRecycleBin url false vault.root 0).1.mergeSort ranksBefore).map (·.entry)

/-! ## Requests -/

def findFillCandidates (vaultId url : String) : Runtime (List EntrySummaryDto) := do
  return fillCandidates parseUrl (← lift ((← get).vault vaultId)) url

structure AutofillCredentialDto where
  id : String
  username : String
  password : String
  totp : Option String

def notFillCandidate : RuntimeError := .message "entry is not a fill candidate for the requested URL"

def getAutofillCredential (totpCode : TotpSpec → Nat → Option String) (vaultId entryId url : String) :
    Runtime AutofillCredentialDto := do
  let candidates ← findFillCandidates parseUrl vaultId url
  ensure (candidates.any fun candidate => candidate.id = entryId) notFillCandidate
  let detail ← getEntryDetail totpCode vaultId entryId
  return { id := detail.id, username := detail.username, password := detail.password, totp := detail.totp }

structure AutofillEntryFieldsDto where
  id : String
  fields : AutofillUpdateFieldsDto

def getAutofillEntryFields (vaultId entryId url : String) : Runtime AutofillEntryFieldsDto := do
  let candidates ← findFillCandidates parseUrl vaultId url
  ensure (candidates.any fun candidate => candidate.id = entryId) notFillCandidate
  let vault ← lift ((← get).vault vaultId)
  let fields ← require (.mutation (.entryNotFound entryId)) (autofillUpdateFieldsForVault vault entryId)
  return { id := entryId, fields }

end Matching

end VaultKern
