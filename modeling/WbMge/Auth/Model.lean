import WbMge.Device.Model
import WbMge.Settings.Items
import WbMge.ToMathlib.Machine
import WbMge.ToMathlib.SlotRing

/-!
# Sessions of the web interface

The model of `auth.c`. A session is a random number other than zero in one of the slots of
`session_buffer`, a ring whose oldest entry makes room when all slots are taken. `auth_init` fills
the ring on its first call after a reset only: after a software reset from the backup in RTC memory,
which every login and every effective logout writes.

RTC memory outlives every reset, but after power-on its contents are arbitrary: the reset is an
event that brings them along.

The cookie of a request is the number `get_session_id_from_cookie` makes of it, 0 without one. The
handlers hold `session_mutex`, so each of them is one step.
-/

namespace WbMge.Auth

open CText (strncmpEq)
open Device (ResetReason)
open Json (Text)
open Settings (Factory Nvs settingItemsRead settingItemMaxStrLen)

def maxSessions : Nat := 10

/-- `session_buffer_t`, the slots `session_ids` and the index `current_index`. A free slot
holds 0. -/
abbrev SessionBuffer := SlotRing UInt32 maxSessions

/-- `session_buffer` as the startup code initialises it. -/
def SessionBuffer.init : SessionBuffer := ⟨Vector.replicate maxSessions 0, ⟨0, by decide⟩⟩

/-- The sessions in RTC memory. -/
structure Backup where
  /-- `backup_session_ids`. -/
  sessionIds : Vector UInt32 maxSessions
  /-- `backup_current_index`. -/
  currentIndex : Int
deriving Repr, DecidableEq

/-- What `auth.c` keeps. -/
structure State where
  sessionBuffer : SessionBuffer
  /-- `session_mutex` is not NULL. -/
  sessionMutex : Bool
  backup : Backup
  resetReason : ResetReason
deriving Repr, DecidableEq

namespace State

variable (s : State)

/-! ## The ring and its backup -/

def defragSessionBuf (buffer : SessionBuffer) : SessionBuffer := buffer.defrag 0

def loadSessionBuf : State :=
  { s with
    sessionBuffer :=
      { slots := s.backup.sessionIds
        -- RTC memory may hold any number
        next :=
          if h : 0 ≤ s.backup.currentIndex ∧ s.backup.currentIndex < maxSessions then
            ⟨s.backup.currentIndex.toNat, (Int.toNat_lt h.1).2 h.2⟩
          else ⟨0, by decide⟩ } }

def saveSessionBuf : State :=
  { s with backup := ⟨s.sessionBuffer.slots, s.sessionBuffer.next.val⟩ }

def addSessionId (sessionId : UInt32) : State :=
  saveSessionBuf { s with sessionBuffer := s.sessionBuffer.push sessionId }

def sessionIdExists (sessionId : UInt32) : Bool := decide (sessionId ∈ s.sessionBuffer.slots)

def findAndRemoveSessionId (sessionId : UInt32) : State :=
  if sessionId ∈ s.sessionBuffer.slots then
    let i := s.sessionBuffer.slots.toList.idxOf sessionId
    let slots := s.sessionBuffer.slots.setIfInBounds i 0
    saveSessionBuf { s with sessionBuffer := defragSessionBuf { s.sessionBuffer with slots } }
  else s

/-- `generate_unique_session_id`; `random` is what `esp_random` returns, and there is no result as
long as the loop goes on. -/
def generateUniqueSessionId (random : List UInt32) : Option UInt32 :=
  random.find? fun sessionId => decide (sessionId ≠ 0) && !s.sessionIdExists sessionId

/-! ## The interface -/

/-- `authorization`, with the session that is issued, 0 for a refusal. -/
def authorization (f : Factory) (nvs : Nvs) (loginReq passReq : Text) (random : List UInt32) :
    Option (State × UInt32) :=
  if strncmpEq settingItemMaxStrLen loginReq (settingItemsRead f nvs .login) &&
      strncmpEq settingItemMaxStrLen passReq (settingItemsRead f nvs .pass) then
    (s.generateUniqueSessionId random).map fun sessionId => (s.addSessionId sessionId, sessionId)
  else some (s, 0)

def authInit : State :=
  -- the web server is started again without a reset in between
  if s.sessionMutex then s
  else
    let s := if s.resetReason = .sw then s.loadSessionBuf else s
    { s with sessionMutex := true }

/-- `auth_middleware_check`, on the session of the cookie. -/
def authMiddlewareCheck (sessionId : UInt32) : Bool :=
  decide (sessionId ≠ 0) && s.sessionIdExists sessionId

/-- `auth_logout_handler`, on the session of the cookie. -/
def authLogoutHandler (sessionId : UInt32) : State :=
  if sessionId ≠ 0 then s.findAndRemoveSessionId sessionId else s

/-- A reset: RAM is initialised, RTC memory is not. `rtc` is what power-on leaves in it. -/
def reset (reason : ResetReason) (rtc : Backup) : State where
  sessionBuffer := .init
  sessionMutex := false
  backup := if reason = .poweron then rtc else s.backup
  resetReason := reason

/-! ## The machine -/

/-- What a history of the module shows: resets, the sessions that logins issue, and the sessions
that are logged out. -/
inductive Obs where
  | reset (reason : ResetReason)
  | issued (sessionId : UInt32)
  | loggedOut (sessionId : UInt32)
deriving Repr, DecidableEq

inductive Event where
  | reset (reason : ResetReason) (rtc : Backup)
  | init
  | login (f : Factory) (nvs : Nvs) (loginReq passReq : Text) (random : List UInt32)
  | logout (sessionId : UInt32)

/-- One step. There are no requests before the web server has called `auth_init`. -/
def step : Event → Option (State × List Obs)
  | .reset reason rtc => some (s.reset reason rtc, [.reset reason])
  | .init => some (s.authInit, [])
  | .login f nvs loginReq passReq random =>
    if s.sessionMutex then
      (s.authorization f nvs loginReq passReq random).map fun r =>
        (r.1, if r.2 ≠ 0 then [.issued r.2] else [])
    else none
  | .logout sessionId =>
    if s.sessionMutex then
      some (s.authLogoutHandler sessionId, if sessionId ≠ 0 then [.loggedOut sessionId] else [])
    else none

end State

open State (Obs Event)

/-- The module from power-on on, which leaves `rtc` in RTC memory. -/
def machine (rtc : Backup) : Machine State Event Obs where
  init :=
    { sessionBuffer := .init
      sessionMutex := false
      backup := rtc
      resetReason := .poweron }
  step := State.step

/-! ## What a step does -/

section Steps

variable {s s' : State} {out : List Obs}

variable {sessionId : UInt32}

lemma State.authMiddlewareCheck_iff :
    s.authMiddlewareCheck sessionId = true ↔
      sessionId ∈ s.sessionBuffer.slots ∧ sessionId ≠ 0 := by
  rw [authMiddlewareCheck, sessionIdExists, Bool.and_eq_true, decide_eq_true_iff,
    decide_eq_true_iff, and_comm]

lemma State.sessionBuffer_findAndRemoveSessionId (s : State) (sessionId : UInt32) :
    (s.findAndRemoveSessionId sessionId).sessionBuffer = s.sessionBuffer.remove 0 sessionId := by
  rw [findAndRemoveSessionId, SlotRing.remove]
  split <;> rfl

lemma State.frame_findAndRemoveSessionId (s : State) (sessionId : UInt32) :
    (s.findAndRemoveSessionId sessionId).sessionMutex = s.sessionMutex ∧
      (s.findAndRemoveSessionId sessionId).resetReason = s.resetReason := by
  rw [findAndRemoveSessionId]
  split
  · simp only [saveSessionBuf, and_self]
  · exact ⟨rfl, rfl⟩

/-- The steps of the machine. A login issues a session that is new, and leaves it in the ring and in
the backup. -/
inductive Step (s : State) : Event → State → List Obs → Prop
  | reset (reason : ResetReason) (rtc : Backup) :
      Step s (.reset reason rtc) (s.reset reason rtc) [.reset reason]
  | init : Step s .init s.authInit []
  | refused {f : Factory} {nvs : Nvs} {loginReq passReq : Text} {random : List UInt32} :
      Step s (.login f nvs loginReq passReq random) s []
  | login {f : Factory} {nvs : Nvs} {loginReq passReq : Text} {random : List UInt32}
      (sessionId : UInt32) :
      s.sessionMutex = true → sessionId ≠ 0 → sessionId ∉ s.sessionBuffer.slots →
      Step s (.login f nvs loginReq passReq random) (s.addSessionId sessionId) [.issued sessionId]
  | noCookie : Step s (.logout 0) s []
  | logout (sessionId : UInt32) :
      s.sessionMutex = true → sessionId ≠ 0 →
      Step s (.logout sessionId) (s.findAndRemoveSessionId sessionId) [.loggedOut sessionId]

lemma Step.of_step {e : Event} (h : s.step e = some (s', out)) : Step s e s' out := by
  cases e with
  | reset reason rtc =>
    cases h
    exact .reset reason rtc
  | init =>
    cases h
    exact .init
  | login f nvs loginReq passReq random =>
    simp only [State.step, State.authorization] at h
    split at h
    · rename_i hmutex
      split at h
      · -- the credentials are right
        rw [Option.map_map, Option.map_eq_some_iff] at h
        obtain ⟨sessionId, hfind, heq⟩ := h
        have hnew := List.find?_some hfind
        rw [Bool.and_eq_true, decide_eq_true_iff, Bool.not_eq_true', State.sessionIdExists,
          decide_eq_false_iff_not] at hnew
        simp only [Function.comp_apply, if_pos hnew.1, Prod.mk.injEq] at heq
        obtain ⟨rfl, rfl⟩ := heq
        exact .login sessionId hmutex hnew.1 hnew.2
      · cases h
        exact .refused
    · cases h
  | logout sessionId =>
    simp only [State.step] at h
    split at h
    · rename_i hmutex
      by_cases hzero : sessionId ≠ 0
      · rw [State.authLogoutHandler, if_pos hzero, if_pos hzero] at h
        cases h
        exact .logout sessionId hmutex hzero
      · rw [State.authLogoutHandler, if_neg hzero, if_neg hzero] at h
        cases h
        rw [not_not.1 hzero]
        exact .noCookie
    · cases h

end Steps

end WbMge.Auth
