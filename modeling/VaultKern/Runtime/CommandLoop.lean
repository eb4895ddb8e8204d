import VaultKern.Lib.Attempt
import VaultKern.Lib.Json

/-! # Native responses

A response is written as one frame, or as chunks when it is large. A frame is told by its JSON value; its
text is what is written after the length.
-/

namespace VaultKern.CommandLoop

open Utf8 (size slice isBoundary)

def maxNativeResponseBytes : Nat := 1024 * 1024

def maxChunkedNativeResponseBytes : Nat := 64 * 1024 * 1024

def nativeResponseChunkBytes : Nat := 384 * 1024

def maxNativeRequestIdBytes : Nat := 256

/-! ## Responses -/

def runtimeResponseTypes : List String :=
  ["handshake", "session_state", "browser_integration_settings", "vault_reference_list", "vault_reference",
    "one_drive_auth_session", "one_drive_auth_status", "one_drive_item_list", "vault_source_status", "vault_opened",
    "group_tree", "entry_list", "entry_detail", "entry_history_list", "entry_history_detail",
    "entry_attachment_content", "fill_candidates", "autofill_credential", "autofill_entry_fields",
    "autofill_create_context", "entry_id_list", "passkey_assertion", "passkey_registration",
    "passkey_credential_status", "passkey_credential_status_batch", "passkey_credential_list",
    "passkey_user_verification_capability", "passkey_user_verified", "passkey_ceremony_registered",
    "passkey_ceremony_advanced", "passkey_ceremony_vault_bound", "passkey_ceremony_ledger",
    "passkey_ceremony_reconciliation", "database_settings", "database_settings_commit_result", "saved",
    "save_vault_result", "autofill_persist_result", "resident_app_activated", "error"]

/-- A response has the tag of a variant, and no field of a variant is named like the tag or the request id. -/
structure RuntimeResponse where
  type : String
  fields : List (String × Json)
  tagged : type ∈ runtimeResponseTypes
  named : ∀ f ∈ fields, f.1 ≠ "type" ∧ f.1 ≠ "requestId"

def errorResponse (code message : String) : RuntimeResponse where
  type := "error"
  fields := [("code", .string code), ("message", .string message)]
  tagged := by decide
  named := by simp

def encodeNativeResponse (response : RuntimeResponse) : Option String → Json
  | some requestId => .object (("type", .string response.type) :: response.fields ++ [("requestId", .string requestId)])
  | none => .object (("type", .string response.type) :: response.fields)

/-! ## Frames -/

inductive WriteError where
  | message (text : String)
  | io (context : String)
  deriving DecidableEq

inductive DeviceAnswer where
  | written | lengthFailed | payloadFailed | flushFailed

abbrev Writing := Attempt WriteError (List Json)

def tryU32 (value : Nat) (context : String) : Except WriteError Nat :=
  if value < 2 ^ 32 then .ok value else .error (.message context)

section Writers

-- The device answers by the frames that it has.
variable (device : List Json → DeviceAnswer)

def writeNativePayload (payload : Json) : Writing Unit := fun written =>
  match tryU32 (size (Json.render payload)) "native response exceeds the framing limit" with
  | .error error => (.error error, written)
  | .ok _ =>
      match device written with
      | .written => (.ok (), written ++ [payload])
      | .lengthFailed => (.error (.io "failed to write message length"), written)
      | .payloadFailed => (.error (.io "failed to write message payload"), written)
      | .flushFailed => (.error (.io "failed to flush native message"), written ++ [payload])

def writeNativeMessage (response : RuntimeResponse) (requestId : Option String) : Writing Unit :=
  let payload := encodeNativeResponse response requestId
  if size (Json.render payload) > maxNativeResponseBytes then
    let oversized := errorResponse "response_too_large" "native response exceeds Chrome's 1 MiB limit"
    let payload := encodeNativeResponse oversized requestId
    if size (Json.render payload) > maxNativeResponseBytes then
      writeNativePayload device (encodeNativeResponse oversized none)
    else writeNativePayload device payload
  else writeNativePayload device payload

/-! ## Chunks -/

/-- The end goes back to a boundary, but not before the start. -/
def boundaryBefore (payloadText : List Char) (start : Nat) : Nat → Nat
  | 0 => 0
  | stop + 1 =>
      if stop + 1 > start && !isBoundary payloadText (stop + 1) then boundaryBefore payloadText start stop else stop + 1

theorem boundaryBefore_ge (payloadText : List Char) {start stop : Nat} (behind : start ≤ stop) :
    start ≤ boundaryBefore payloadText start stop := by
  induction stop with
  | zero => exact behind
  | succ stop ih =>
      rw [boundaryBefore]
      split
      · rename_i back
        rw [Bool.and_eq_true, decide_eq_true_eq] at back
        exact ih (by omega)
      · exact behind

def chunkEnd (payloadText : List Char) (start : Nat) : Nat :=
  boundaryBefore payloadText start (min (start + nativeResponseChunkBytes) (size payloadText))

def chunkRanges (payloadText : List Char) (start : Nat) : Except WriteError (List (Nat × Nat)) :=
  if _more : start < size payloadText then
    if _stuck : chunkEnd payloadText start = start then
      .error (.message "native response chunk boundary did not advance")
    else do
      let rest ← chunkRanges payloadText (chunkEnd payloadText start)
      .ok ((start, chunkEnd payloadText start) :: rest)
  else .ok []
termination_by size payloadText - start
decreasing_by
  have forward : start ≤ chunkEnd payloadText start := boundaryBefore_ge payloadText (by omega)
  omega

def chunkJson (requestId : String) (chunkIndex chunkCount : Nat) (data : List Char) : Json :=
  .object [("type", .string "native_response_chunk"), ("requestId", .string requestId),
    ("chunkIndex", .number chunkIndex 0), ("chunkCount", .number chunkCount 0), ("data", .string (String.ofList data))]

def writeChunks (payloadText : List Char) (requestId : String) (chunkCount : Nat) :
    Nat → List (Nat × Nat) → Writing Unit
  | _, [] => pure ()
  | index, (start, stop) :: rest => do
      let chunkIndex ← Attempt.lift (tryU32 index "native response chunk index overflow")
      let chunk := chunkJson requestId chunkIndex chunkCount (slice payloadText start stop)
      Attempt.ensure (size (Json.render chunk) ≤ maxNativeResponseBytes)
        (.message "encoded native response chunk exceeds Chrome's 1 MiB limit")
      writeNativePayload device chunk
      writeChunks payloadText requestId chunkCount (index + 1) rest

def writeChunkedNativeMessage (response : RuntimeResponse) (requestId : String) : Writing Unit :=
  let payload := encodeNativeResponse response (some requestId)
  let payloadText := Json.render payload
  if size payloadText ≤ maxNativeResponseBytes then writeNativePayload device payload
  else if size payloadText > maxChunkedNativeResponseBytes then
    writeNativeMessage device
      (errorResponse "response_too_large" "native response exceeds the 64 MiB chunked transport limit") (some requestId)
  else do
    let ranges ← Attempt.lift (chunkRanges payloadText 0)
    let chunkCount ← Attempt.lift (tryU32 ranges.length "native response chunk count overflow")
    writeChunks device payloadText requestId chunkCount 0 ranges

end Writers

end VaultKern.CommandLoop
