import WbMge.ToMathlib.Machine

/-!
# Connecting and scanning

The Wi-Fi driver cannot connect and scan at once, so `wifi_sta_connect_task` and `wifi_scan_task`
take `connect_scan_mutex` before they ask it for one of the two. The mutex is given back when the
event that ends the connecting or the scanning has come. A task that waits for such an event after a
call that the driver has rejected waits for ever, and so does whoever needs the mutex next.

The model runs both tasks, the handler of a scan request, of which the HTTP server runs one at a
time, and the driver. Of the state of `wifi_scan.c` it keeps `scan_in_progress`. What is done in a
section of `wifi_scan_mutex` is done by the last operation of the section that others can notice.
-/

namespace WbMge.Wifi

/-! ## The model -/

/-- The tasks that take `connect_scan_mutex`. -/
inductive Task where
  | connect
  | scan
deriving Repr, DecidableEq

/-- The bits of `sta_event_group` that `wifi_sta_connect_task` waits for. -/
structure StaBits where
  connectReady : Bool
  connected : Bool
  disconnected : Bool
  exitReq : Bool
deriving Repr, DecidableEq

def StaBits.none : StaBits := ⟨false, false, false, false⟩

/-- The bits of `wifi_scan_event_group`. -/
@[ext]
structure ScanBits where
  start : Bool
  done : Bool
deriving Repr, DecidableEq

def ScanBits.none : ScanBits := ⟨false, false⟩

/-- Where `wifi_sta_connect_task` is. -/
inductive ConnectPc where
  | waitBits
  /-- `WIFI_STA_CONNECT_READY_BIT`. -/
  | readyLock
  | readyConnect
  | readyUnlock
  /-- `WIFI_STA_CONNECTED_BIT`. -/
  | connectedUnlock
  /-- `WIFI_STA_DISCONNECTED_BIT`, without a connection. -/
  | failedUnlock
  | reconnectLock
  | reconnectConnect
  /-- `WIFI_STA_CONN_TASK_EXIT_REQ_BIT`. -/
  | safeUnlock
  | finished
deriving Repr, DecidableEq

/-- `wifi_sta_connect_task`, with its variables. -/
structure Connect where
  pc : ConnectPc
  bits : StaBits
  connected : Bool
deriving Repr, DecidableEq

/-- Where `wifi_scan_task` is. -/
inductive ScanPc where
  | waitBits
  /-- `WIFI_SCAN_START_BIT`. -/
  | lock
  | startScan
  | failTake
  | failGive
  | failUnlock
  /-- `WIFI_SCAN_DONE_BIT`. -/
  | doneTake
  | doneUnlock
  | doneGive
deriving Repr, DecidableEq

/-- `wifi_scan_task`, with its variable. -/
structure Scan where
  pc : ScanPc
  bits : ScanBits
deriving Repr, DecidableEq

/-- Where `wifi_scan_start` is. -/
inductive HttpPc where
  | idle
  /-- `wifi_scan_is_in_progress`. -/
  | checkTake
  | checkGive
  /-- `wifi_scan_prepare_for_start`. -/
  | prepareTake
  | prepareGive
  | setStart
deriving Repr, DecidableEq

/-- Who has `wifi_scan_mutex`. -/
inductive Party where
  | scanTask
  | httpd
deriving Repr, DecidableEq

/-- The driver, as far as connecting goes: `WIFI_EVENT_STA_START` has been, a call is outstanding,
there is a connection. -/
structure Driver where
  started : Bool
  connecting : Bool
  link : Bool
deriving Repr, DecidableEq

/-- The two tasks, the request handler and the driver. -/
structure State where
  connectScanMutex : Option Task
  connect : Connect
  staBits : StaBits
  scan : Scan
  scanBits : ScanBits
  scanInProgress : Bool
  wifiScanMutex : Option Party
  http : HttpPc
  driver : Driver
  scanning : Bool
deriving Repr, DecidableEq

namespace Connect

variable (staEnabled : Bool) (c : Connect)

/-! The checks of the bits, from the last one to the first one. Each ends at the next operation that
other tasks can notice. -/

def checkExitReq : Connect :=
  { c with pc := if c.bits.exitReq then .safeUnlock else .waitBits }

/-- The end of the branch of `WIFI_STA_DISCONNECTED_BIT`. -/
def reconnect : Connect :=
  let c := { c with connected := false }
  if staEnabled then { c with pc := .reconnectLock } else c.checkExitReq

def checkDisconnected : Connect :=
  if c.bits.disconnected then
    if !c.connected then { c with pc := .failedUnlock } else c.reconnect staEnabled
  else c.checkExitReq

def checkConnected : Connect :=
  if c.bits.connected then { c with pc := .connectedUnlock } else c.checkDisconnected staEnabled

def checkConnectReady : Connect :=
  if c.bits.connectReady && staEnabled then { c with pc := .readyLock }
  else c.checkConnected staEnabled

end Connect

namespace Scan

def checkDone (t : Scan) : Scan := { t with pc := if t.bits.done then .doneTake else .waitBits }

def checkStart (t : Scan) : Scan := if t.bits.start then { t with pc := .lock } else t.checkDone

end Scan

namespace State

/-- `wifi_sta_connect_scan_lock`. It blocks while the mutex is taken, by whomever. -/
def connectScanLock (s : State) (t : Task) : Option State :=
  if s.connectScanMutex = none then some { s with connectScanMutex := some t } else none

def connectScanUnlock (s : State) : State := { s with connectScanMutex := none }

def connectScanMutexSafeUnlock (s : State) (t : Task) : State :=
  if s.connectScanMutex = some t then s.connectScanUnlock else s

/-- `xSemaphoreTake` of `wifi_scan_mutex`. -/
def wifiScanTake (s : State) (p : Party) : Option State :=
  if s.wifiScanMutex = none then some { s with wifiScanMutex := some p } else none

/-- `xSemaphoreGive` of `wifi_scan_mutex`. -/
def wifiScanGive (s : State) : State := { s with wifiScanMutex := none }

/-- The next operation of `wifi_sta_connect_task`, with the answer of `esp_wifi_connect`. -/
def wifiStaConnectTask (staEnabled accepted : Bool) (s : State) : Option State :=
  let c := s.connect
  match c.pc with
  | .waitBits =>
    if s.staBits = .none then none
    else some { s with
      staBits := .none
      connect := ({ c with bits := s.staBits } : Connect).checkConnectReady staEnabled }
  | .readyLock =>
    (s.connectScanLock .connect).map fun s => { s with connect := { c with pc := .readyConnect } }
  | .readyConnect =>
    some <|
      if accepted then
        { s with
          driver := { s.driver with connecting := true }
          connect := c.checkConnected staEnabled }
      else { s with connect := { c with pc := .readyUnlock } }
  | .readyUnlock => some { s.connectScanUnlock with connect := c.checkConnected staEnabled }
  | .connectedUnlock =>
    some { s.connectScanUnlock with
      connect := ({ c with connected := true } : Connect).checkDisconnected staEnabled }
  | .failedUnlock => some { s.connectScanUnlock with connect := c.reconnect staEnabled }
  | .reconnectLock =>
    (s.connectScanLock .connect).map fun s =>
      { s with connect := { c with pc := .reconnectConnect } }
  | .reconnectConnect =>
    -- nothing looks at the answer
    some { s with
      driver := { s.driver with connecting := s.driver.connecting || accepted }
      connect := c.checkExitReq }
  | .safeUnlock =>
    some { s.connectScanMutexSafeUnlock .connect with connect := { c with pc := .finished } }
  | .finished => none

/-- The next operation of `wifi_scan_task`, with the answer of `esp_wifi_scan_start`. -/
def wifiScanTask (accepted : Bool) (s : State) : Option State :=
  let t := s.scan
  match t.pc with
  | .waitBits =>
    if s.scanBits = .none then none
    else some { s with
      scanBits := .none
      scan := ({ t with bits := s.scanBits } : Scan).checkStart }
  | .lock => (s.connectScanLock .scan).map fun s => { s with scan := { t with pc := .startScan } }
  | .startScan =>
    some <|
      if accepted then
        { s with scanning := true, scan := t.checkDone }
      else { s with scan := { t with pc := .failTake } }
  | .failTake =>
    (s.wifiScanTake .scanTask).map fun s => { s with scan := { t with pc := .failGive } }
  | .failGive =>
    -- `wifi_scan_handle_start_failure`
    some { s.wifiScanGive with scanInProgress := false, scan := { t with pc := .failUnlock } }
  | .failUnlock => some { s.connectScanUnlock with scan := t.checkDone }
  | .doneTake =>
    (s.wifiScanTake .scanTask).map fun s => { s with scan := { t with pc := .doneUnlock } }
  | .doneUnlock =>
    -- `wifi_scan_handle_completion`
    some { s.connectScanUnlock with scanInProgress := false, scan := { t with pc := .doneGive } }
  | .doneGive => some { s.wifiScanGive with scan := { t with pc := .waitBits } }

/-- The next operation of `wifi_scan_start`. -/
def wifiScanStart (s : State) : Option State :=
  match s.http with
  | .idle => some { s with http := .checkTake }
  | .checkTake => (s.wifiScanTake .httpd).map fun s => { s with http := .checkGive }
  | .checkGive =>
    some { s.wifiScanGive with http := if s.scanInProgress then .idle else .prepareTake }
  | .prepareTake => (s.wifiScanTake .httpd).map fun s => { s with http := .prepareGive }
  | .prepareGive =>
    -- `wifi_scan_prepare_for_start`
    some { s.wifiScanGive with scanInProgress := true, http := .setStart }
  | .setStart => some { s with scanBits := { s.scanBits with start := true }, http := .idle }

end State

inductive Event where
  | connectTask (accepted : Bool)
  | scanTask (accepted : Bool)
  | scanRequest
  /-- `WIFI_EVENT_STA_START`. -/
  | staStart
  /-- `WIFI_EVENT_STA_CONNECTED` or `WIFI_EVENT_STA_DISCONNECTED`, after a call. -/
  | connectEnd (connected : Bool)
  /-- `WIFI_EVENT_STA_DISCONNECTED`, after a connection. -/
  | connectionLost
  /-- `WIFI_EVENT_SCAN_DONE`. -/
  | scanDone
  /-- `stop_sta_connect_task`. -/
  | stop
deriving Repr, DecidableEq

namespace State

/-- `sta_event_handler`, `wifi_scan_event_handler` and the request of `stop_sta_connect_task`, at
the events that the driver can make. -/
def step (staEnabled : Bool) (s : State) : Event → Option State
  | .connectTask accepted => s.wifiStaConnectTask staEnabled accepted
  | .scanTask accepted => s.wifiScanTask accepted
  | .scanRequest => s.wifiScanStart
  | .staStart =>
    if s.driver.started then none
    else some { s with
      driver := { s.driver with started := true }
      staBits := { s.staBits with connectReady := true } }
  | .connectEnd connected =>
    if !s.driver.connecting then none
    else if connected then some { s with
      driver := { s.driver with connecting := false, link := true }
      staBits := { s.staBits with connected := true } }
    else some { s with
      driver := { s.driver with connecting := false }
      staBits := { s.staBits with disconnected := true } }
  | .connectionLost =>
    if !s.driver.link then none
    else some { s with
      driver := { s.driver with link := false }
      staBits := { s.staBits with disconnected := true } }
  | .scanDone =>
    if !s.scanning then none
    else some { s with scanning := false, scanBits := { s.scanBits with done := true } }
  | .stop => some { s with staBits := { s.staBits with exitReq := true } }

end State

/-- The tasks from where `wifi_init_apsta` and `wifi_scan_init` have started them. `staEnabled` is
what `config_mode` says; it does not change while the task runs. -/
def machine (staEnabled : Bool) : Machine State Event Empty where
  init :=
    { connectScanMutex := none
      connect := ⟨.waitBits, .none, false⟩
      staBits := .none
      scan := ⟨.waitBits, .none⟩
      scanBits := .none
      scanInProgress := false
      wifiScanMutex := none
      http := .idle
      driver := ⟨false, false, false⟩
      scanning := false }
  step s e := (s.step staEnabled e).map (·, [])

namespace State

/-- The task waits for bits of its event group, and none is set. -/
def Blocked (s : State) : Task → Prop
  | .connect => s.connect.pc = .waitBits ∧ s.staBits = .none
  | .scan => s.scan.pc = .waitBits ∧ s.scanBits = .none

/-- The driver has accepted a call of the task, and the event that ends it has not come. -/
def Outstanding (s : State) : Task → Prop
  | .connect => s.driver.connecting = true
  | .scan => s.scanning = true

/-- The next operation of the task is to take `connect_scan_mutex`. -/
def AtLock (s : State) : Task → Prop
  | .connect => s.connect.pc = .readyLock ∨ s.connect.pc = .reconnectLock
  | .scan => s.scan.pc = .lock

end State

/-- The driver accepts the call of `esp_wifi_connect` with which a reconnection begins. -/
def ReconnectAccepted (_ : List Empty) (s : State) (e : Event) : Prop :=
  s.connect.pc = .reconnectConnect → e ≠ .connectTask false

instance (log : List Empty) (s : State) (e : Event) : Decidable (ReconnectAccepted log s e) :=
  inferInstanceAs (Decidable (s.connect.pc = .reconnectConnect → e ≠ .connectTask false))

/-! ## The connection -/

/-- Nothing is connecting or connected. -/
structure Quiet (bits : StaBits) (d : Driver) : Prop where
  connecting : d.connecting = false
  link : d.link = false
  bitConnected : bits.connected = false
  bitDisconnected : bits.disconnected = false

/-- What the driver did, the bits `c` and `l` for a connection and its loss that the task has not
seen yet, and what it knows. -/
structure Coherent (d : Driver) (c l connected : Bool) : Prop where
  connecting : d.connecting = true → d.link = false ∧ c = false ∧ l = false ∧ connected = false
  link : d.link = true → l = false ∧ c = !connected
  down : d.connecting = false → d.link = false → (c || connected) = true → l = true
  once : c = true → connected = false

section Coherent

variable {d d' : Driver} {c l connected : Bool}

variable {bits : StaBits}

lemma Quiet.congr {bits' : StaBits} (h : Quiet bits d) (hc : bits'.connected = bits.connected)
    (hl : bits'.disconnected = bits.disconnected) (hconnecting : d'.connecting = d.connecting)
    (hlink : d'.link = d.link) : Quiet bits' d' :=
  ⟨hconnecting.trans h.connecting, hlink.trans h.link, hc.trans h.bitConnected,
    hl.trans h.bitDisconnected⟩

lemma Coherent.congr (h : Coherent d c l connected) (hconnecting : d'.connecting = d.connecting)
    (hlink : d'.link = d.link) : Coherent d' c l connected :=
  ⟨hconnecting ▸ hlink ▸ h.connecting, hlink ▸ h.link, hconnecting ▸ hlink ▸ h.down, h.once⟩

lemma Coherent.connectOk (h : Coherent d c l connected) (hd : d.connecting = true) :
    Coherent { d with connecting := false, link := true } true l connected := by
  obtain ⟨-, -, hl, hconnected⟩ := h.connecting hd
  constructor <;> simp [hl, hconnected]

lemma Coherent.connectFailed (h : Coherent d c l connected) (hd : d.connecting = true) :
    Coherent { d with connecting := false } c true connected := by
  obtain ⟨hlink, hc, -, hconnected⟩ := h.connecting hd
  constructor <;> simp [hlink, hc, hconnected]

lemma Coherent.connectionLost (h : Coherent d c l connected) (hd : d.link = true) :
    Coherent { d with link := false } c true connected := by
  have hconnecting : d.connecting = false := by
    by_contra hne
    simpa [hd] using (h.connecting (by simpa using hne)).1
  constructor
  · simp [hconnecting]
  · simp
  · simp
  · exact h.once

lemma Coherent.connecting_eq_false (h : Coherent d c l connected) (hc : c = true) :
    d.connecting = false := by
  by_contra hne
  simpa [hc] using (h.connecting (by simpa using hne)).2.1

lemma Coherent.seen (h : Coherent d true l connected) : Coherent d false l true := by
  have hconnecting := h.connecting_eq_false rfl
  constructor
  · simp [hconnecting]
  · exact fun hlink => ⟨(h.link hlink).1, rfl⟩
  · exact fun _ hlink _ => h.down hconnecting hlink rfl
  · simp

lemma Quiet.coherent (h : Quiet bits d) : Coherent d bits.connected bits.disconnected false := by
  obtain ⟨hconnecting, hlink, hc, hl⟩ := h
  constructor <;> simp_all

lemma Quiet.coherent_connecting (h : Quiet bits d) (hconnected : connected = false) :
    Coherent { d with connecting := true } bits.connected bits.disconnected connected := by
  obtain ⟨hconnecting, hlink, hc, hl⟩ := h
  constructor <;> simp_all

end Coherent

namespace Connect

variable {held staEnabled : Bool} {c : Connect} {bits : StaBits} {d : Driver}

/-- What holds where the task is. `held` says whether it holds the mutex. -/
def Assert (held : Bool) (bits : StaBits) (d : Driver) (c : Connect) : Prop :=
  match c.pc with
  | .waitBits =>
    Coherent d bits.connected bits.disconnected c.connected ∧
      held = (d.connecting || bits.connected || (bits.disconnected && !c.connected))
  | .readyLock =>
    Quiet bits d ∧ c.connected = false ∧ c.bits.connected = false ∧ c.bits.disconnected = false ∧
      held = false
  | .readyConnect | .readyUnlock =>
    Quiet bits d ∧ c.connected = false ∧ c.bits.connected = false ∧ c.bits.disconnected = false ∧
      held = true
  | .connectedUnlock =>
    -- the connection may have been lost before the bits were taken, or after
    Coherent d true (bits.disconnected || c.bits.disconnected) c.connected ∧
      bits.connected = false ∧ (c.bits.disconnected = true → bits.disconnected = false) ∧
      held = true
  | .failedUnlock | .reconnectConnect => Quiet bits d ∧ c.connected = false ∧ held = true
  | .reconnectLock => Quiet bits d ∧ c.connected = false ∧ held = false
  | .safeUnlock | .finished => Coherent d bits.connected bits.disconnected c.connected

lemma assert_checkExitReq (h : Coherent d bits.connected bits.disconnected c.connected)
    (hheld : held = (d.connecting || bits.connected || (bits.disconnected && !c.connected))) :
    c.checkExitReq.Assert held bits d := by
  unfold checkExitReq
  split
  · exact h
  · exact ⟨h, hheld⟩

lemma assert_reconnect (h : Quiet bits d) : (c.reconnect staEnabled).Assert false bits d := by
  unfold reconnect
  cases staEnabled with
  | false =>
    refine assert_checkExitReq h.coherent ?_
    simp [h.connecting, h.bitConnected, h.bitDisconnected]
  | true => exact ⟨h, rfl, rfl⟩

lemma assert_checkDisconnected
    (h : Coherent d bits.connected (bits.disconnected || c.bits.disconnected) c.connected)
    (hbits : bits.connected = false)
    (hl : c.bits.disconnected = true → bits.disconnected = false)
    (hheld : held = (d.connecting || ((bits.disconnected || c.bits.disconnected) &&
      !c.connected))) :
    (c.checkDisconnected staEnabled).Assert held bits d := by
  unfold checkDisconnected
  by_cases hd : c.bits.disconnected = true
  · have hquiet : Quiet bits d := by
      refine ⟨?_, ?_, hbits, hl hd⟩
      · by_contra hne
        simpa [hd] using (h.connecting (by simpa using hne)).2.2.1
      · by_contra hne
        simpa [hd] using (h.link (by simpa using hne)).1
    rw [if_pos hd]
    cases hc : c.connected with
    | false => exact ⟨hquiet, rfl, by simpa [hd, hc] using hheld⟩
    | true =>
      obtain rfl : held = false := by simpa [hd, hc, hquiet.connecting] using hheld
      exact assert_reconnect hquiet
  · have hd' : c.bits.disconnected = false := by simpa using hd
    rw [if_neg hd]
    refine assert_checkExitReq (by simpa [hd'] using h) ?_
    simpa [hd', hbits] using hheld

lemma assert_checkConnectReady
    (h : Coherent d c.bits.connected c.bits.disconnected c.connected)
    (hready : c.bits.connectReady = true → Quiet c.bits d ∧ c.connected = false)
    (hheld : held = (d.connecting || c.bits.connected || (c.bits.disconnected && !c.connected))) :
    (c.checkConnectReady staEnabled).Assert held .none d := by
  unfold checkConnectReady
  by_cases hr : (c.bits.connectReady && staEnabled) = true
  · rw [if_pos hr]
    obtain ⟨hquiet, hc⟩ := hready (by simp_all)
    refine ⟨⟨hquiet.connecting, hquiet.link, rfl, rfl⟩, hc, hquiet.bitConnected,
      hquiet.bitDisconnected, ?_⟩
    rw [hheld, hquiet.connecting, hquiet.bitConnected, hquiet.bitDisconnected]
    rfl
  · rw [if_neg hr]
    unfold checkConnected
    by_cases hc : c.bits.connected = true
    · rw [if_pos hc]
      refine ⟨?_, rfl, fun _ => rfl, ?_⟩
      · simpa [StaBits.none, hc] using h
      · simpa [hc] using hheld
    · have hc' : c.bits.connected = false := by simpa using hc
      rw [if_neg hc]
      refine assert_checkDisconnected ?_ rfl (fun _ => rfl) ?_
      · simpa [StaBits.none, hc'] using h
      · simpa [StaBits.none, hc'] using hheld

lemma checkConnected_eq (hc : c.bits.connected = false) (hl : c.bits.disconnected = false) :
    c.checkConnected staEnabled = c.checkExitReq := by
  simp [checkConnected, checkDisconnected, hc, hl]

lemma checkConnectReady_eq (hr : c.bits.connectReady = false) (hc : c.bits.connected = false)
    (hl : c.bits.disconnected = false) : c.checkConnectReady staEnabled = c.checkExitReq := by
  simp [checkConnectReady, hr, checkConnected_eq hc hl]

lemma Assert.congr {bits' : StaBits} {d' : Driver} (h : c.Assert held bits d)
    (hc : bits'.connected = bits.connected) (hl : bits'.disconnected = bits.disconnected)
    (hconnecting : d'.connecting = d.connecting) (hlink : d'.link = d.link) :
    c.Assert held bits' d' := by
  have hquiet : Quiet bits d → Quiet bits' d' := fun h => h.congr hc hl hconnecting hlink
  unfold Assert at h ⊢
  cases hpc : c.pc <;> simp only [hpc, hc, hl, hconnecting] at h ⊢
  case waitBits | connectedUnlock => exact ⟨h.1.congr hconnecting hlink, h.2⟩
  case safeUnlock | finished => exact h.congr hconnecting hlink
  all_goals exact ⟨hquiet h.1, h.2⟩

lemma Assert.of_connecting (h : c.Assert held bits d) (hd : d.connecting = true) :
    Coherent d bits.connected bits.disconnected c.connected ∧
      (c.pc = .waitBits ∧ held = true ∨ c.pc = .safeUnlock ∨ c.pc = .finished) := by
  unfold Assert at h
  cases hpc : c.pc <;> rw [hpc] at h
  case waitBits => exact ⟨h.1, .inl ⟨rfl, by rw [h.2, hd]; rfl⟩⟩
  case safeUnlock | finished => exact ⟨h, by simp⟩
  case connectedUnlock => exact absurd (h.1.connecting hd).2.1 (by simp)
  all_goals exact absurd (h.1.connecting.symm.trans hd) (by simp)

lemma Assert.connectOk (h : c.Assert held bits d) (hd : d.connecting = true) :
    c.Assert held { bits with connected := true } { d with connecting := false, link := true } := by
  obtain ⟨hcoh, hpc⟩ := h.of_connecting hd
  have hcoh' := hcoh.connectOk hd
  unfold Assert
  obtain ⟨hpc, hheld⟩ | hpc | hpc := hpc <;> rw [hpc]
  · exact ⟨hcoh', by rw [hheld]; rfl⟩
  all_goals exact hcoh'

lemma Assert.connectFailed (h : c.Assert held bits d) (hd : d.connecting = true) :
    c.Assert held { bits with disconnected := true } { d with connecting := false } := by
  obtain ⟨hcoh, hpc⟩ := h.of_connecting hd
  have hcoh' := hcoh.connectFailed hd
  unfold Assert
  obtain ⟨hpc, hheld⟩ | hpc | hpc := hpc <;> rw [hpc]
  · exact ⟨hcoh', by rw [hheld, (hcoh.connecting hd).2.2.2]; simp⟩
  all_goals exact hcoh'

lemma Assert.connectionLost (h : c.Assert held bits d) (hd : d.link = true) :
    c.Assert held { bits with disconnected := true } { d with link := false } := by
  unfold Assert at h ⊢
  cases hpc : c.pc <;> rw [hpc] at h
  case waitBits =>
    refine ⟨h.1.connectionLost hd, ?_⟩
    -- the mutex has been given back if the task knows of the connection
    obtain ⟨hl, hc⟩ := h.1.link hd
    rw [h.2, hl, hc]
    cases c.connected <;> simp
  case safeUnlock | finished => exact h.connectionLost hd
  case connectedUnlock =>
    obtain ⟨hcoh, hbits, -, hheld⟩ := h
    have hl : bits.disconnected = false ∧ c.bits.disconnected = false := by
      simpa using (hcoh.link hd).1
    exact ⟨hcoh.connectionLost hd, hbits, by simp [hl.2], hheld⟩
  all_goals exact absurd (h.1.link.symm.trans hd) (by simp)

end Connect

/-! ## The scan -/

namespace Scan

variable {held : Bool} {t : Scan} {bits : ScanBits} {scanning : Bool}

/-- The task has taken the request. -/
def Busy (t : Scan) : Bool :=
  match t.pc with
  | .lock | .startScan | .failTake | .failGive | .doneTake | .doneUnlock => true
  | .waitBits | .failUnlock | .doneGive => false

/-- What holds where the task is. `held` says whether it holds the mutex. -/
def Assert (held : Bool) (bits : ScanBits) (scanning : Bool) (t : Scan) : Prop :=
  match t.pc with
  | .waitBits => held = (scanning || bits.done)
  | .lock => held = false ∧ t.bits.done = false ∧ scanning = false ∧ bits.done = false
  | .startScan | .failTake | .failGive | .failUnlock =>
    held = true ∧ t.bits.done = false ∧ scanning = false ∧ bits.done = false
  | .doneTake | .doneUnlock => held = true ∧ scanning = false ∧ bits.done = false
  | .doneGive => held = false ∧ scanning = false ∧ bits.done = false

lemma Assert.of_scanning (h : t.Assert held bits scanning) (hs : scanning = true) :
    t.pc = .waitBits ∧ held = true := by
  unfold Assert at h
  cases hpc : t.pc <;> simp only [hpc, hs, Bool.true_or, reduceCtorEq, false_and, and_false] at h
  exact ⟨rfl, h⟩

lemma assert_checkStart (hne : t.bits ≠ .none)
    (hstart : t.bits.start = true → scanning = false ∧ t.bits.done = false)
    (hdone : t.bits.done = true → scanning = false) (hheld : held = (scanning || t.bits.done)) :
    t.checkStart.Assert held .none scanning ∧ t.checkStart.Busy = true := by
  unfold checkStart
  by_cases hs : t.bits.start = true
  · obtain ⟨hscanning, hd⟩ := hstart hs
    rw [if_pos hs]
    exact ⟨⟨by rw [hheld, hscanning, hd]; rfl, hd, hscanning, rfl⟩, rfl⟩
  · have hd : t.bits.done = true := by
      by_contra hd
      exact hne (ScanBits.ext ((Bool.not_eq_true _).mp hs) ((Bool.not_eq_true _).mp hd))
    rw [if_neg hs, checkDone, if_pos hd]
    exact ⟨⟨by rw [hheld, hd, Bool.or_true], hdone hd, rfl⟩, rfl⟩

end Scan

/-- Where a request is that has been taken up and not been answered: the arguments say whether it is
in the handler, in the bit of the start, in the task, in the driver or in the bit of the end. -/
def requests (http start busy scanning done : Bool) : Nat :=
  http.toNat + start.toNat + busy.toNat + scanning.toNat + done.toNat

section Requests

variable {http start busy scanning done progress : Bool}

lemma requests_start (h : requests http true busy scanning done = progress.toNat) :
    scanning = false ∧ done = false := by
  have hle := progress.toNat_le
  simp only [requests, Bool.toNat_true] at h
  exact ⟨Bool.toNat_eq_zero.1 (by omega), Bool.toNat_eq_zero.1 (by omega)⟩

lemma requests_done (h : requests http start busy scanning true = progress.toNat) :
    scanning = false := by
  have hle := progress.toNat_le
  simp only [requests, Bool.toNat_true] at h
  exact Bool.toNat_eq_zero.1 (by omega)

/-- The task gives its request up. -/
lemma requests_answered (h : requests http start true scanning done = progress.toNat) :
    requests http start false scanning done = 0 := by
  have hle := progress.toNat_le
  simp only [requests, Bool.toNat_true, Bool.toNat_false] at h ⊢
  omega

lemma requests_taken {bits : ScanBits} (hne : bits ≠ .none)
    (h : requests http bits.start false scanning bits.done = progress.toNat) :
    requests http false true scanning false =
      requests http bits.start false scanning bits.done := by
  obtain ⟨start, done⟩ := bits
  revert hne h
  cases start <;> cases done <;> cases http <;> cases scanning <;> cases progress <;> decide

lemma requests_http :
    requests true start busy scanning done = requests false start busy scanning done + 1 := by
  simp only [requests, Bool.toNat_true, Bool.toNat_false]
  omega

lemma requests_setStart (h : requests true start busy scanning done = progress.toNat) :
    requests false true busy scanning done = progress.toNat := by
  have hle := progress.toNat_le
  simp only [requests, Bool.toNat_true, Bool.toNat_false] at h ⊢
  omega

lemma requests_scanDone (h : requests http start busy true done = progress.toNat) :
    requests http start busy false true = progress.toNat := by
  have hle := progress.toNat_le
  simp only [requests, Bool.toNat_true, Bool.toNat_false] at h ⊢
  omega

end Requests

structure Inv (s : State) : Prop where
  connect : s.connect.Assert (s.connectScanMutex = some .connect) s.staBits s.driver
  /-- Nothing happens before `WIFI_EVENT_STA_START`. -/
  start : s.driver.started = false ∨ s.staBits.connectReady = true →
    Quiet s.staBits s.driver ∧ s.connect.connected = false ∧
      (s.connect.pc = .waitBits ∨ s.connect.pc = .safeUnlock ∨ s.connect.pc = .finished)
  ready : s.driver.started = false → s.staBits.connectReady = false
  scan : s.scan.Assert (s.connectScanMutex = some .scan) s.scanBits s.scanning
  requests : requests (s.http == .setStart) s.scanBits.start s.scan.Busy s.scanning
    s.scanBits.done = s.scanInProgress.toNat
  prepare : s.http = .prepareTake ∨ s.http = .prepareGive → s.scanInProgress = false

variable {s : State}

lemma State.connectScanLock_eq_some {s' : State} {t : Task} :
    s.connectScanLock t = some s' ↔
      s.connectScanMutex = none ∧ { s with connectScanMutex := some t } = s' := by
  rw [connectScanLock, Option.ite_none_right_eq_some, Option.some.injEq]

lemma State.wifiScanTake_eq_some {s' : State} {p : Party} :
    s.wifiScanTake p = some s' ↔
      s.wifiScanMutex = none ∧ { s with wifiScanMutex := some p } = s' := by
  rw [wifiScanTake, Option.ite_none_right_eq_some, Option.some.injEq]

lemma inv_init (staEnabled : Bool) : Inv (machine staEnabled).init := by
  constructor <;> simp [machine, Connect.Assert, Scan.Assert, requests, Scan.Busy,
    StaBits.none, ScanBits.none]
  · constructor <;> simp
  · constructor <;> simp

/-! ## The steps -/

section Steps

variable {staEnabled accepted : Bool} {s s' : State}

variable {c : Connect}

lemma Inv.connectStep (h : Inv s) {m : Option Task} {c : Connect} {bits : StaBits} {d : Driver}
    (hassert : c.Assert (m = some .connect) bits d)
    (hstart : d.started = false ∨ bits.connectReady = true → Quiet bits d ∧ c.connected = false ∧
      (c.pc = .waitBits ∨ c.pc = .safeUnlock ∨ c.pc = .finished))
    (hready : d.started = false → bits.connectReady = false)
    (hmutex : m = some .scan ↔ s.connectScanMutex = some .scan) :
    Inv { s with connectScanMutex := m, connect := c, staBits := bits, driver := d } where
  connect := hassert
  start := hstart
  ready := hready
  scan := by simpa only [hmutex] using h.scan
  requests := h.requests
  prepare := h.prepare

lemma Inv.scanStep (h : Inv s) {m : Option Task} {t : Scan} {bits : ScanBits} {http : HttpPc}
    {p : Option Party} {progress scanning : Bool}
    (hassert : t.Assert (m = some .scan) bits scanning)
    (hrequests : Wifi.requests (http == .setStart) bits.start t.Busy scanning bits.done =
      progress.toNat)
    (hprepare : http = .prepareTake ∨ http = .prepareGive → progress = false)
    (hmutex : m = some .connect ↔ s.connectScanMutex = some .connect) :
    Inv { s with
      connectScanMutex := m, scan := t, scanBits := bits, http := http, wifiScanMutex := p
      scanInProgress := progress, scanning := scanning } where
  connect := by simpa only [hmutex] using h.connect
  start := h.start
  ready := h.ready
  scan := hassert
  requests := hrequests
  prepare := hprepare

lemma Inv.not_start (h : Inv s) (hpc : s.connect.pc ≠ .waitBits)
    (hpc' : s.connect.pc ≠ .safeUnlock) (hpc'' : s.connect.pc ≠ .finished) :
    ¬ (s.driver.started = false ∨ s.staBits.connectReady = true) := by
  intro hd
  obtain ⟨-, -, h1 | h1 | h1⟩ := h.start hd
  · exact hpc h1
  · exact hpc' h1
  · exact hpc'' h1

lemma Inv.connectLock {s₁ : State} (h : Inv s) (hlock : s.connectScanLock .connect = some s₁)
    (hassert : c.Assert true s.staBits s.driver)
    (hstart : ¬ (s.driver.started = false ∨ s.staBits.connectReady = true)) :
    Inv { s₁ with connect := c } := by
  obtain ⟨hfree, rfl⟩ := State.connectScanLock_eq_some.1 hlock
  exact h.connectStep hassert (absurd · hstart) h.ready (by simp [hfree])

lemma Inv.connectUnlock (h : Inv s) (hm : s.connectScanMutex = some .connect)
    (hassert : c.Assert false s.staBits s.driver)
    (hstart : ¬ (s.driver.started = false ∨ s.staBits.connectReady = true)) :
    Inv { s.connectScanUnlock with connect := c } :=
  h.connectStep (m := none) hassert (absurd · hstart) h.ready (by simp [hm])

lemma Inv.wifiStaConnectTask (h : Inv s)
    (hok : s.connect.pc = .reconnectConnect → accepted = true)
    (hs : s.wifiStaConnectTask staEnabled accepted = some s') : Inv s' := by
  have hassert := h.connect
  unfold State.wifiStaConnectTask at hs
  unfold Connect.Assert at hassert
  have hstart := h.not_start
  cases hpc : s.connect.pc <;> simp only [hpc, ne_eq, reduceCtorEq, not_false_eq_true,
    forall_const] at hs hassert hstart
  case waitBits =>
    split at hs
    · cases hs
    cases hs
    obtain ⟨hcoh, hheld⟩ := hassert
    refine h.connectStep (Connect.assert_checkConnectReady hcoh ?_ hheld) ?_ (fun _ => rfl) .rfl
    · intro hready
      obtain ⟨hquiet, hconnected, -⟩ := h.start (.inr hready)
      exact ⟨hquiet, hconnected⟩
    · rintro (hstarted | hready)
      · obtain ⟨hquiet, hconnected, -⟩ := h.start (.inl hstarted)
        rw [Connect.checkConnectReady_eq (h.ready hstarted) hquiet.bitConnected
          hquiet.bitDisconnected]
        refine ⟨⟨hquiet.connecting, hquiet.link, rfl, rfl⟩, hconnected, ?_⟩
        unfold Connect.checkExitReq
        split <;> simp
      · cases hready
  case readyLock =>
    obtain ⟨s₁, hlock, rfl⟩ := Option.map_eq_some_iff.1 hs
    obtain ⟨hquiet, hconnected, hc, hl, -⟩ := hassert
    exact h.connectLock hlock ⟨hquiet, hconnected, hc, hl, rfl⟩ hstart
  case readyConnect =>
    cases hs
    obtain ⟨hquiet, hconnected, hc, hl, hheld⟩ := hassert
    cases accepted with
    | true =>
      refine h.connectStep ?_ (absurd · hstart) h.ready .rfl
      rw [Connect.checkConnected_eq hc hl, hheld]
      exact Connect.assert_checkExitReq (hquiet.coherent_connecting hconnected) rfl
    | false =>
      exact h.connectStep ⟨hquiet, hconnected, hc, hl, hheld⟩ (absurd · hstart) h.ready .rfl
  case readyUnlock =>
    cases hs
    obtain ⟨hquiet, hconnected, hc, hl, hheld⟩ := hassert
    refine h.connectUnlock (of_decide_eq_true hheld) ?_ hstart
    rw [Connect.checkConnected_eq hc hl]
    refine Connect.assert_checkExitReq (hconnected ▸ hquiet.coherent) ?_
    simp [hquiet.connecting, hquiet.bitConnected, hquiet.bitDisconnected]
  case connectedUnlock =>
    cases hs
    obtain ⟨hcoh, hbits, hl, hheld⟩ := hassert
    have hconnecting := hcoh.connecting_eq_false rfl
    refine h.connectUnlock (of_decide_eq_true hheld) ?_ hstart
    exact Connect.assert_checkDisconnected (hbits ▸ hcoh.seen) hbits hl (by simp [hconnecting])
  case failedUnlock =>
    cases hs
    obtain ⟨hquiet, -, hheld⟩ := hassert
    exact h.connectUnlock (of_decide_eq_true hheld) (Connect.assert_reconnect hquiet) hstart
  case reconnectLock =>
    obtain ⟨s₁, hlock, rfl⟩ := Option.map_eq_some_iff.1 hs
    obtain ⟨hquiet, hconnected, -⟩ := hassert
    exact h.connectLock hlock ⟨hquiet, hconnected, rfl⟩ hstart
  case reconnectConnect =>
    cases hs
    obtain ⟨hquiet, hconnected, hheld⟩ := hassert
    refine h.connectStep ?_ (absurd · hstart) h.ready .rfl
    rw [hheld, hok hpc, Bool.or_true]
    exact Connect.assert_checkExitReq (hquiet.coherent_connecting hconnected) rfl
  case safeUnlock =>
    cases hs
    have hstart' : s.driver.started = false ∨ s.staBits.connectReady = true →
        Quiet s.staBits s.driver ∧ s.connect.connected = false ∧
          (ConnectPc.finished = .waitBits ∨ ConnectPc.finished = .safeUnlock ∨
            ConnectPc.finished = .finished) :=
      fun hd => ⟨(h.start hd).1, (h.start hd).2.1, .inr (.inr rfl)⟩
    by_cases hm : s.connectScanMutex = some .connect
    · rw [State.connectScanMutexSafeUnlock, if_pos hm]
      exact h.connectStep (m := none) hassert hstart' h.ready (by simp [hm])
    · rw [State.connectScanMutexSafeUnlock, if_neg hm]
      exact h.connectStep hassert hstart' h.ready .rfl

lemma Inv.wifiScanTask (h : Inv s) (hs : s.wifiScanTask accepted = some s') : Inv s' := by
  have hassert := h.scan
  have hrequests := h.requests
  unfold State.wifiScanTask at hs
  unfold Scan.Assert at hassert
  unfold Scan.Busy at hrequests
  cases hpc : s.scan.pc <;> simp only [hpc] at hs hassert hrequests
  case waitBits =>
    split at hs
    · cases hs
    rename_i hne
    cases hs
    -- nothing is outstanding when a request is taken up or has been answered
    have hstart : s.scanBits.start = true → s.scanning = false ∧ s.scanBits.done = false :=
      fun hstart => requests_start (hstart ▸ hrequests)
    have hdone : s.scanBits.done = true → s.scanning = false :=
      fun hdone => requests_done (hdone ▸ hrequests)
    have hassert' := Scan.assert_checkStart (t := ⟨.waitBits, s.scanBits⟩) hne hstart hdone hassert
    refine h.scanStep hassert'.1 ?_ h.prepare .rfl
    rw [hassert'.2, ← hrequests]
    exact requests_taken hne hrequests
  case lock =>
    obtain ⟨s₁, hlock, rfl⟩ := Option.map_eq_some_iff.1 hs
    obtain ⟨hfree, rfl⟩ := State.connectScanLock_eq_some.1 hlock
    exact h.scanStep ⟨rfl, hassert.2⟩ hrequests h.prepare (by simp [hfree])
  case startScan =>
    cases hs
    obtain ⟨hheld, hdone, hscanning, hbit⟩ := hassert
    cases accepted with
    | true =>
      have hpc' : s.scan.checkDone.pc = .waitBits := by rw [Scan.checkDone, hdone]; rfl
      refine h.scanStep ?_ ?_ h.prepare .rfl
      · rw [Scan.Assert, hpc', hheld]
        rfl
      · rw [Scan.Busy, hpc', ← hrequests, hscanning]
        rfl
    | false => exact h.scanStep ⟨hheld, hdone, hscanning, hbit⟩ hrequests h.prepare .rfl
  case failTake | doneTake =>
    obtain ⟨s₁, htake, rfl⟩ := Option.map_eq_some_iff.1 hs
    obtain ⟨-, rfl⟩ := State.wifiScanTake_eq_some.1 htake
    exact h.scanStep hassert hrequests h.prepare .rfl
  case failGive =>
    cases hs
    exact h.scanStep (p := none) hassert (requests_answered hrequests) (fun _ => rfl) .rfl
  case failUnlock =>
    cases hs
    obtain ⟨hheld, hdone, hscanning, hbit⟩ := hassert
    have hm : s.connectScanMutex = some .scan := of_decide_eq_true hheld
    have hpc' : s.scan.checkDone.pc = .waitBits := by rw [Scan.checkDone, hdone]; rfl
    refine h.scanStep (m := none) ?_ ?_ h.prepare (by simp [hm])
    · rw [Scan.Assert, hpc']
      exact (by rw [hscanning, hbit]; rfl : false = (s.scanning || s.scanBits.done))
    · rw [Scan.Busy, hpc']
      exact hrequests
  case doneUnlock =>
    cases hs
    obtain ⟨hheld, hassert⟩ := hassert
    have hm : s.connectScanMutex = some .scan := of_decide_eq_true hheld
    exact h.scanStep (m := none) ⟨rfl, hassert⟩ (requests_answered hrequests) (fun _ => rfl)
      (by simp [hm])
  case doneGive =>
    cases hs
    obtain ⟨hheld, hscanning, hbit⟩ := hassert
    refine h.scanStep (p := none) ?_ hrequests h.prepare .rfl
    exact hheld.trans (by rw [hscanning, hbit]; rfl : false = (s.scanning || s.scanBits.done))

lemma Inv.wifiScanStart (h : Inv s) (hs : s.wifiScanStart = some s') : Inv s' := by
  have hrequests := h.requests
  unfold State.wifiScanStart at hs
  cases hpc : s.http <;> simp only [hpc] at hs hrequests
  case idle =>
    cases hs
    exact h.scanStep h.scan hrequests (by simp) .rfl
  case checkTake =>
    obtain ⟨s₁, htake, rfl⟩ := Option.map_eq_some_iff.1 hs
    obtain ⟨-, rfl⟩ := State.wifiScanTake_eq_some.1 htake
    exact h.scanStep h.scan hrequests (by simp) .rfl
  case checkGive =>
    cases hs
    have hhttp :
        ((if s.scanInProgress then HttpPc.idle else .prepareTake) == .setStart) = false := by
      cases s.scanInProgress <;> rfl
    refine h.scanStep (p := none) h.scan (hhttp ▸ hrequests) (fun hp => ?_) .rfl
    change s.scanInProgress = false
    by_contra hne
    have hprogress : s.scanInProgress = true := by simpa using hne
    simp [hprogress] at hp
  case prepareTake =>
    obtain ⟨s₁, htake, rfl⟩ := Option.map_eq_some_iff.1 hs
    obtain ⟨-, rfl⟩ := State.wifiScanTake_eq_some.1 htake
    exact h.scanStep h.scan hrequests (fun _ => h.prepare (.inl hpc)) .rfl
  case prepareGive =>
    cases hs
    -- the handler has read that no scan is in progress, and only the handler could begin one
    rw [h.prepare (.inr hpc)] at hrequests
    refine h.scanStep (p := none) h.scan ?_ (by simp) .rfl
    exact requests_http.trans (congrArg (· + 1) hrequests)
  case setStart =>
    cases hs
    exact h.scanStep h.scan (requests_setStart hrequests) (by simp) .rfl

lemma Inv.step {e : Event} (h : Inv s) (hok : ReconnectAccepted [] s e)
    (hs : s.step staEnabled e = some s') : Inv s' := by
  cases e with
  | connectTask accepted =>
    refine h.wifiStaConnectTask (fun hpc => ?_) hs
    cases accepted with
    | true => rfl
    | false => exact absurd rfl (hok hpc)
  | scanTask accepted => exact h.wifiScanTask hs
  | scanRequest => exact h.wifiScanStart hs
  | staStart =>
    obtain ⟨hstarted, hs⟩ := Option.ite_none_left_eq_some.1 hs
    cases hs
    have hstart := h.start (.inl (by simpa using hstarted))
    exact h.connectStep (h.connect.congr rfl rfl rfl rfl)
      (fun _ => ⟨hstart.1.congr rfl rfl rfl rfl, hstart.2⟩) (by simp) .rfl
  | connectEnd connected =>
    obtain ⟨hconnecting, hs⟩ := Option.ite_none_left_eq_some.1 hs
    have hconnecting : s.driver.connecting = true := by simpa using hconnecting
    -- the call was made after the start
    have hstart : ¬ (s.driver.started = false ∨ s.staBits.connectReady = true) := by
      intro hd
      exact absurd ((h.start hd).1.connecting.symm.trans hconnecting) (by simp)
    cases connected with
    | true =>
      cases hs
      exact h.connectStep (h.connect.connectOk hconnecting) (absurd · hstart) h.ready .rfl
    | false =>
      cases hs
      exact h.connectStep (h.connect.connectFailed hconnecting) (absurd · hstart) h.ready .rfl
  | connectionLost =>
    obtain ⟨hlink, hs⟩ := Option.ite_none_left_eq_some.1 hs
    cases hs
    have hlink : s.driver.link = true := by simpa using hlink
    have hstart : ¬ (s.driver.started = false ∨ s.staBits.connectReady = true) := by
      intro hd
      exact absurd ((h.start hd).1.link.symm.trans hlink) (by simp)
    exact h.connectStep (h.connect.connectionLost hlink) (absurd · hstart) h.ready .rfl
  | scanDone =>
    obtain ⟨hscanning, hs⟩ := Option.ite_none_left_eq_some.1 hs
    cases hs
    have hscanning : s.scanning = true := by simpa using hscanning
    obtain ⟨hpc, hheld⟩ := h.scan.of_scanning hscanning
    refine h.scanStep ?_ ?_ h.prepare .rfl
    · rw [Scan.Assert, hpc, hheld]
      rfl
    · exact requests_scanDone (hscanning ▸ h.requests)
  | stop =>
    cases hs
    refine h.connectStep (h.connect.congr rfl rfl rfl rfl) (fun hd => ?_) h.ready .rfl
    obtain ⟨hquiet, hrest⟩ := h.start hd
    exact ⟨hquiet.congr rfl rfl rfl rfl, hrest⟩

end Steps

/-! ## The mutex -/

lemma inv_of_run {staEnabled : Bool} {log : List Empty}
    (h : (machine staEnabled).Run ReconnectAccepted log s) : Inv s := by
  refine h.invariant (P := fun _ s => Inv s) (inv_init staEnabled) ?_
  intro log s e s' out _ hinv hok hs
  obtain ⟨s₁, hs₁, heq⟩ := Option.map_eq_some_iff.1 hs
  obtain ⟨rfl, -⟩ := Prod.mk.inj heq
  exact hinv.step hok hs₁

/-- In every run in which the driver accepts the calls of the reconnections, a task that holds the
mutex and is blocked waits for the end of a call that was accepted, and no task is about to take
the mutex that it holds. -/
theorem connectScanMutex_not_leaked (staEnabled : Bool) (log : List Empty) (s : State)
    (h : (machine staEnabled).Run ReconnectAccepted log s) (t : Task) :
    (s.connectScanMutex = some t → s.Blocked t → s.Outstanding t) ∧
      (s.AtLock t → s.connectScanMutex ≠ some t) := by
  have hinv := inv_of_run h
  cases t with
  | connect =>
    have hassert := hinv.connect
    constructor
    · rintro hm ⟨hpc, hbits⟩
      rw [Connect.Assert, hpc, hbits, hm] at hassert
      simpa [StaBits.none, State.Outstanding] using hassert.2.symm
    · rintro (hpc | hpc)
      · rw [Connect.Assert, hpc] at hassert
        exact of_decide_eq_false hassert.2.2.2.2
      · rw [Connect.Assert, hpc] at hassert
        exact of_decide_eq_false hassert.2.2
  | scan =>
    have hassert := hinv.scan
    constructor
    · rintro hm ⟨hpc, hbits⟩
      rw [Scan.Assert, hpc, hbits, hm] at hassert
      simpa [ScanBits.none, State.Outstanding] using hassert.symm
    · intro hpc
      rw [Scan.Assert, hpc] at hassert
      exact of_decide_eq_false hassert.1

/-- In every such run, a scan that is in progress is one request, which is in exactly one place: in
the handler, in the bit of the start, in the task, in the driver or in the bit of the end. If no
scan is in progress it is in none, so no request is lost and none is taken up twice. -/
theorem scan_in_progress_iff (staEnabled : Bool) (log : List Empty) (s : State)
    (h : (machine staEnabled).Run ReconnectAccepted log s) :
    requests (s.http == .setStart) s.scanBits.start s.scan.Busy s.scanning s.scanBits.done =
      s.scanInProgress.toNat :=
  (inv_of_run h).requests

/-- The first attempt fails, and the driver has accepted the call of the second one. -/
theorem connectScanMutex_not_leaked_secondCall :
    ∃ log s, (machine true).Run ReconnectAccepted log s ∧ s.connectScanMutex = some .connect ∧
      s.Blocked .connect ∧ s.Outstanding .connect := by
  obtain ⟨log, s, hrun, hm, hblocked⟩ := Machine.Run.exists_of_exec (machine true)
    ReconnectAccepted
    [.staStart, .connectTask true, .connectTask true, .connectTask true, .connectEnd false,
      .connectTask true, .connectTask true, .connectTask true, .connectTask true]
    (fun _ s => s.connectScanMutex = some .connect ∧
      s.connect.pc = .waitBits ∧ s.staBits = .none)
    (by decide +kernel)
  exact ⟨log, s, hrun, hm, hblocked,
    (connectScanMutex_not_leaked true log s hrun .connect).1 hm hblocked⟩

/-- The first attempt fails, and the driver rejects the call of the second one. -/
theorem connectScanMutex_leaked :
    ∃ log s, (machine true).Run Machine.anyStep log s ∧ s.connectScanMutex = some .connect ∧
      s.Blocked .connect ∧ ¬ s.Outstanding .connect := by
  have hrun := Machine.Run.exists_of_exec (machine true) Machine.anyStep
    [.staStart, .connectTask true, .connectTask true, .connectTask true, .connectEnd false,
      .connectTask true, .connectTask true, .connectTask true, .connectTask false]
    (fun _ s => s.connectScanMutex = some .connect ∧
      (s.connect.pc = .waitBits ∧ s.staBits = .none) ∧ ¬ s.driver.connecting = true)
    (by decide +kernel)
  exact hrun

/-- A second request comes while the driver scans, and is turned away. -/
theorem scan_in_progress_iff_second : ∃ log s, (machine true).Run ReconnectAccepted log s ∧
    s.scanning = true ∧
      requests (s.http == .setStart) s.scanBits.start s.scan.Busy s.scanning s.scanBits.done =
        1 := by
  obtain ⟨log, s, hrun, hscan, hprogress⟩ := Machine.Run.exists_of_exec (machine true)
    ReconnectAccepted (List.replicate 6 .scanRequest ++ List.replicate 3 (.scanTask true) ++
      List.replicate 3 .scanRequest)
    (fun _ s => s.scanning = true ∧ s.scanInProgress = true) (by decide +kernel)
  refine ⟨log, s, hrun, hscan, ?_⟩
  rw [scan_in_progress_iff true log s hrun, hprogress]
  rfl

end WbMge.Wifi
