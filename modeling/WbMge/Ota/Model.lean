import Mathlib.Data.List.Infix
import WbMge.Modbus.Helpers
import WbMge.ToMathlib.Json
import WbMge.ToMathlib.Machine

/-!
# Firmware updates

The model of `ota_handler.c`: `POST /update` receives a firmware image, checks on its first chunk
that the image is for this device, writes it into the other partition and boots from there.

A request comes with what the calls underneath it answer: the results of `httpd_req_recv`, in their
order, and the outcomes of the `esp_ota_…` functions. When the results are used up the connection is
lost.

The calls into the update library are recorded with their outcomes. `esp_ota_end` validates the
image and refuses one to which nothing was written.
-/

namespace WbMge.Ota

open Json (Text)

/-- `esp_err_t`, as far as the module returns it. -/
inductive EspErr where
  | ok
  | fail
  | notSupported
deriving Repr, DecidableEq

/-! ## The descriptor of an image -/

/-- Behind the header of the image, that of its first segment and the descriptor of the framework.
-/
def wbAppDescOffset : Nat := 24 + 8 + 256

/-- `sizeof(wb_app_desc_t)`. -/
def wbAppDescSize : Nat := 192

def wbAppDescMagicWord : Nat := 0xDACBBCAB

def deviceSignatureLen : Nat := 12

def leNat (bytes : Bytes) : Nat := bytes.foldr (fun b n => b.toNat + 256 * n) 0

/-- The fields of `wb_app_desc_t` that are checked. -/
structure AppDesc where
  magicWord : Nat
  signature : Bytes
deriving Repr, DecidableEq

def appDesc (image : Bytes) : AppDesc :=
  let desc := image.drop wbAppDescOffset
  { magicWord := leNat (desc.take 4)
    signature := (desc.drop 4).take deviceSignatureLen }

def wbAppDescGetStrField (field : Bytes) (fieldLen : Nat) : Bytes :=
  (field.take fieldLen).takeWhile (· != 0)

/-- `ota_validate_fw_desc`; `signature` is `sys_info.device_signature`. -/
def otaValidateFwDesc (signature : Bytes) (desc : AppDesc) : EspErr :=
  if signature.isEmpty then .notSupported
  else if desc.magicWord ≠ wbAppDescMagicWord then .notSupported
  else if wbAppDescGetStrField desc.signature deviceSignatureLen ≠ signature then .notSupported
  else .ok

/-! ## Receiving -/

/-- The conversion of a `size_t` to an `int`. -/
@[irreducible] def toInt (n : Nat) : Int := Int.bmod n (2 ^ 32)

def jsonUtilsReqRecvBufSize : Nat := 4096

def httpRecvWaitTimeoutS : Nat := 5

def otaRecvStallTimeoutMs : Nat := 30000

def otaRecvMaxStallTimeouts : Nat := otaRecvStallTimeoutMs / (httpRecvWaitTimeoutS * 1000)

/-- A result of `httpd_req_recv`. -/
inductive Recv where
  /-- `HTTPD_SOCK_ERR_TIMEOUT`. -/
  | timeout
  | error
  | data (len : Nat)
deriving Repr, DecidableEq

/-- The local variables of `ota_receive_and_write`, the part of the body that the socket has not
delivered, and the calls of `esp_ota_write`. -/
structure Rx where
  remaining : Int
  totalReceived : Int
  appDescValidated : Bool
  stallTimeouts : Nat
  unread : Bytes
  writes : List (Bytes × Bool)
deriving Repr, DecidableEq

namespace Rx

variable (signature : Bytes) (writeOk : Nat → Bool) (rx : Rx)

def requested : Nat := min rx.remaining.toNat jsonUtilsReqRecvBufSize

def checkFirst (chunk : Bytes) : EspErr :=
  if wbAppDescOffset + wbAppDescSize ≤ chunk.length then otaValidateFwDesc signature (appDesc chunk)
  else .fail

def write (chunk : Bytes) : Rx × Option EspErr :=
  let ok := writeOk rx.writes.length
  let rx := { rx with writes := rx.writes ++ [(chunk, ok)] }
  if ok then
    ({ rx with
        remaining := rx.remaining - chunk.length
        totalReceived := rx.totalReceived + chunk.length }, none)
  else (rx, some .fail)

/-- One turn of the loop of `ota_receive_and_write`, with what is returned if the loop is left. -/
def turn : Recv → Rx × Option EspErr
  | .timeout =>
    let rx := { rx with stallTimeouts := rx.stallTimeouts + 1 }
    (rx, if otaRecvMaxStallTimeouts ≤ rx.stallTimeouts then some .fail else none)
  | .error => (rx, some .fail)
  | .data len =>
    let recvLen := min len rx.requested
    if recvLen = 0 then (rx, some .fail)
    else
      let chunk := rx.unread.take recvLen
      let rx := { rx with stallTimeouts := 0, unread := rx.unread.drop recvLen }
      if rx.appDescValidated then rx.write writeOk chunk
      else if checkFirst signature chunk ≠ .ok then (rx, some (checkFirst signature chunk))
      else { rx with appDescValidated := true }.write writeOk chunk

/-- The loop of `ota_receive_and_write`. -/
def receiveLoop : List Recv → Rx → Rx × EspErr
  | [], rx => (rx, if rx.remaining ≤ 0 then .ok else .fail)
  | r :: rs, rx =>
    if rx.remaining ≤ 0 then (rx, .ok)
    else
      match rx.turn signature writeOk r with
      | (rx, none) => receiveLoop rs rx
      | (rx, some err) => (rx, err)

end Rx

/-! ## Requests -/

structure OtaEnv where
  /-- `esp_ota_get_next_update_partition` finds one. -/
  partitionOk : Bool
  /-- `esp_ota_begin` succeeds. -/
  beginOk : Bool
  bufferOk : Bool
  writeOk : Nat → Bool
  /-- `esp_ota_end` accepts the image, if anything was written. -/
  endOk : Bool
  /-- `esp_ota_set_boot_partition` succeeds. -/
  setBootOk : Bool
  responseOk : Bool
  errorResponseOk : Bool

/-- A request to `POST /update`. -/
structure Request where
  /-- `auth_middleware_check` accepts the session. -/
  authorized : Bool
  /-- The header `Content-Type`. -/
  contentType : Option Text
  /-- The `content_len` bytes of the request. -/
  body : Bytes
  /-- `content_len` is a `size_t`. -/
  length_lt : body.length < 2 ^ 32
  /-- The results of `httpd_req_recv`. -/
  recvs : List Recv
  env : OtaEnv

inductive OtaState where
  | idle
  | inProgress
  | pendingReboot
deriving Repr, DecidableEq

/-- The calls that an update makes, with their results. -/
inductive Call where
  | otaBegin (ok : Bool)
  | otaWrite (data : Bytes) (ok : Bool)
  | otaEnd (ok : Bool)
  | otaAbort
  | setBootPartition (ok : Bool)
  | reboot
deriving Repr, DecidableEq

inductive Response where
  /-- The answer of `auth_middleware_check`. -/
  | unauthorized
  | error (status message : Text)
  | internalError
  | success (bytesWritten : Int)
deriving Repr, DecidableEq

structure Outcome where
  state : OtaState
  calls : List Call
  response : Response
  ret : EspErr
deriving Repr, DecidableEq

namespace Request

variable (signature : Bytes) (req : Request)

def otaIsValidContentType (contentType : Text) : Bool :=
  decide ("application/octet-stream".toList <:+: contentType) ||
    decide ("application/macbinary".toList <:+: contentType)

/-- A header that is missing, or too long for the buffer, is no reason to refuse. -/
def otaValidateContentType : EspErr :=
  match req.contentType.filter fun contentType => decide (contentType.length < 64) with
  | some contentType => if otaIsValidContentType contentType then .ok else .fail
  | none => .ok

/-- The local variables of `ota_receive_and_write` before the loop. -/
def rxInit : Rx where
  remaining := toInt req.body.length
  totalReceived := 0
  appDescValidated := false
  stallTimeouts := 0
  unread := req.body
  writes := []

def otaReceiveAndWrite : Rx × EspErr :=
  if req.env.bufferOk then Rx.receiveLoop signature req.env.writeOk req.recvs req.rxInit
  else (req.rxInit, .fail)

def otaBeginUpdate : EspErr × List Call :=
  if req.env.partitionOk then
    (if req.env.beginOk then .ok else .fail, [.otaBegin req.env.beginOk])
  else (.fail, [])

/-- `ota_finalize_update`, with what `esp_ota_write` was given before. -/
def otaFinalizeUpdate (writes : List (Bytes × Bool)) : EspErr × List Call :=
  let endOk := req.env.endOk && !writes.isEmpty
  if endOk then
    (if req.env.setBootOk then .ok else .fail,
      [.otaEnd true, .setBootPartition req.env.setBootOk])
  else (.fail, [.otaEnd false])

/-- `ota_update_from_http` once the update has begun: the state it leaves, its calls, and the number
of bytes or the message of the error. -/
def otaReceiveAndFinalize : OtaState × List Call × Except Text Int :=
  let received := req.otaReceiveAndWrite signature
  let calls := received.1.writes.map fun w => .otaWrite w.1 w.2
  if received.2 ≠ .ok then
    (.idle, calls ++ [.otaAbort],
      .error (if received.2 = .notSupported then "Invalid OTA firmware".toList
        else "Network timeout during upload".toList))
  else
    let finalized := req.otaFinalizeUpdate received.1.writes
    if finalized.1 ≠ .ok then
      (.idle, calls ++ finalized.2, .error "Firmware validation failed".toList)
    else (.pendingReboot, calls ++ finalized.2, .ok received.1.totalReceived)

def otaUpdateFromHttp : OtaState × List Call × Except Text Int :=
  if req.otaValidateContentType ≠ .ok then (.idle, [], .error "Invalid content type".toList)
  else
    let begun := req.otaBeginUpdate
    if begun.1 ≠ .ok then (.idle, begun.2, .error "Failed to begin OTA update".toList)
    else
      let r := req.otaReceiveAndFinalize signature
      (r.1, begun.2 ++ r.2.1, r.2.2)

def jsonUtilsSendErrorStatus (status message : Text) : Response × EspErr :=
  if req.env.errorResponseOk then (.error status message, .ok) else (.internalError, .fail)

def jsonUtilsSendError (message : Text) : Response × EspErr :=
  req.jsonUtilsSendErrorStatus "400 Bad Request".toList message

def otaUpdatePostHandler (state : OtaState) : Outcome :=
  if !req.authorized then ⟨state, [], .unauthorized, .ok⟩
  else if state ≠ .idle then
    let sent := req.jsonUtilsSendErrorStatus "409 Conflict".toList
      "OTA update already in progress".toList
    -- the error closes the connection, so that the body is not read
    ⟨state, [], sent.1, .fail⟩
  else
    -- `ota_update_from_http` runs in the state `inProgress`, and sets another one at its end
    match req.otaUpdateFromHttp signature with
    | (state, calls, .error message) =>
      let sent := req.jsonUtilsSendError message
      ⟨state, calls, sent.1, sent.2⟩
    | (state, calls, .ok bytesWritten) =>
      -- the reboot does not wait for a response that cannot be allocated
      let sent :=
        if req.env.responseOk then (.success bytesWritten, .ok)
        else req.jsonUtilsSendError "Failed to create response".toList
      ⟨state, calls ++ [.reboot], sent.1, sent.2⟩

end Request

/-! ## The machine -/

/-- A request, the state it came in and what became of it. -/
structure Served where
  request : Request
  before : OtaState
  outcome : Outcome

/-- Requests, one after the other. -/
def machine (signature : Bytes) : Machine OtaState Request Served where
  init := .idle
  step state req :=
    let outcome := req.otaUpdatePostHandler signature state
    some (outcome.state, [⟨req, state, outcome⟩])

end WbMge.Ota
