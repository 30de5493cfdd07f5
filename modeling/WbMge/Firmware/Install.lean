import WbMge.Firmware.Manifest
import WbMge.ToMathlib.Cooperative

/-!
# Updates from the page

The page offers an update with `check` and `recheck` and makes it with `install`. They share the
variables of a module (`Page`), of which `phase` says what the page is doing, and read `phase`
before they wait for the network (`Pc`) but write it after that.

From the moment it has found the offer unchanged until it writes its last phase a call of `install`
makes the update (`Pc.updates`). An `install` that waits for the state of the device can be
overtaken by another one, or by a `recheck`, that waits for it as well. Where that does not happen
there is one update at a time and nobody else touches its phase.
-/

namespace WbMge.Firmware

open JsText

/-! ## The model -/

inductive UpdatePhase where
  | idle
  | checking
  | available
  | upToDate
  | unavailable
  | downloading
  | uploading
  | rebooting
  | verified
  | notApplied
  | failed
  | conflict
deriving Repr, DecidableEq

inductive FailureKind where
  | download
  | upload
  | noResponse
deriving Repr, DecidableEq

inductive UpdateNotice where
  | offerChanged
  | recheckFailed
deriving Repr, DecidableEq

def busyPhases : List UpdatePhase := [.downloading, .uploading, .rebooting]

def startablePhases : List UpdatePhase := [.available, .failed]

/-- What is read of `Info`. -/
structure Info where
  signature : Option Text
  firmware : Text
deriving Repr, DecidableEq

/-- What `catch` sees of an error of `downloadFirmware` or `update`. -/
structure UpdateError where
  /-- It is a `DeviceUpdateError`. -/
  device : Bool
  message : Option Text
deriving Repr, DecidableEq

/-- The variables of the module, and what it reads of the device and the settings. Of the promise in
`checkInFlight` it is only known whether there is one. -/
structure Page where
  info : Option Info
  updateChannel : Option UpdateChannel
  manifestText : Option Text
  release : Option ReleaseLookup
  channels : Option ChannelsView
  resolvedChannel : UpdateChannel
  phase : UpdatePhase
  progress : Nat
  failure : Option FailureKind
  message : Option Text
  notice : Option UpdateNotice
  checkInFlight : Bool
deriving Repr, DecidableEq

/-- What a call waits for. -/
inductive Pc where
  | settled
  /-- In `recheck`, for the state of the device. -/
  | recheck
  /-- In `runCheck`, for the manifest. -/
  | fetching
  /-- After `runCheck`, for the callback of `finally`. -/
  | checked
  /-- In `install`, for the state of the device. -/
  | install (wanted : Offer)
  /-- In `install`, for the firmware. -/
  | download (wanted : Offer)
  /-- In `install`, for the uptime before the upload. -/
  | uptime (wanted : Offer)
  /-- In `install`, for the end of the upload. -/
  | upload (wanted : Offer) (uptimeBefore : Option Nat)
  /-- In `waitForReboot`, for the device to come back. -/
  | poll (wanted : Offer) (uptimeBefore : Option Nat)
  /-- In `waitForReboot`, for its version. -/
  | verify (wanted : Offer) (attempt : Nat)
deriving Repr, DecidableEq

def Pc.busyPhase : Pc → Option UpdatePhase
  | download _ | uptime _ => some .downloading
  | upload .. => some .uploading
  | poll .. | verify .. => some .rebooting
  | settled | recheck | fetching | checked | install _ => none

/-- The call has begun an update. -/
def Pc.updates (c : Pc) : Bool := c.busyPhase.isSome

/-- The call uploads. -/
def Pc.uploads : Pc → Bool
  | upload .. => true
  | _ => false

/-- The call waits for `fetchInfo` and `partialRefresh`. -/
def Pc.rereads : Pc → Bool
  | recheck | install _ => true
  | _ => false

/-- The promise in `checkInFlight` is this call's. -/
def Pc.checks : Pc → Bool
  | fetching | checked => true
  | _ => false

namespace Page

variable (p : Page)

/-! ### Checks -/

def signatureOf : Text := (p.info.bind Info.signature).getD []

def channelOf : UpdateChannel := p.updateChannel.getD .stable

def isBusy : Bool := p.phase ∈ busyPhases

def installedVersion : Text := (p.info.map Info.firmware).getD []

def phaseOf : ReleaseLookup → UpdatePhase
  | .ok offer => if offer.version = p.installedVersion then .upToDate else .available
  | .noSignature | .unavailable => .unavailable

/-- It throws before it writes anything. -/
def applyManifest (text : Text) : Except ManifestError Page :=
  (resolveRelease text p.signatureOf p.channelOf).map fun found =>
    { p with
      resolvedChannel := p.channelOf
      channels := found.channels
      release := some found.release
      phase := p.phaseOf found.release }

def markUnavailable : Page :=
  { p with channels := none, release := some .unavailable, phase := .unavailable }

/-- The end of `runCheck`. A broken manifest is not kept. -/
def readManifest (text : Text) : Page :=
  match p.applyManifest text with
  | .ok p' => p'
  | .error _ => { p with manifestText := none }.markUnavailable

/-- The beginning of `runCheck`. -/
def beginCheck : Page :=
  { p with failure := none, message := none, notice := none, phase := .checking }

def runCheck : Page × Pc :=
  if p.signatureOf = [] then (p.beginCheck.markUnavailable, .checked)
  else
    p.manifestText.elim (p.beginCheck, .fetching) fun text =>
      (p.beginCheck.readManifest text, .checked)

/-- `runCheck` with the answer of `fetchManifest`. -/
def runCheckFetched (text : Option Text) : Page × Pc :=
  (text.elim p.markUnavailable fun text => { p with manifestText := some text }.readManifest text,
    .checked)

/-- The callback of `finally`. -/
def checkSettled : Page × Pc := ({ p with checkInFlight := false }, .settled)

def clearNotice : Page := { p with notice := none }

/-- Who waits for the promise of another call has nothing left to do. -/
def check : Page × Pc :=
  if p.isBusy ∨ p.phase = .conflict then (p.clearNotice, .settled)
  else if p.checkInFlight then (p.clearNotice, .settled)
  else ({ p.clearNotice.runCheck.1 with checkInFlight := true }, p.clearNotice.runCheck.2)

def recheck : Page × Pc := if p.isBusy then (p, .settled) else (p.clearNotice, .recheck)

/-- `recheck` when the state of the device has been read again, or could not be. -/
def recheckReread (ok : Bool) : Page × Pc :=
  if ok then { p with phase := .idle }.check
  else ({ p with notice := some .recheckFailed }, .settled)

/-! ### The update -/

/-- The offer, if `release.ok`. -/
def offered : Option Offer :=
  match p.release with
  | some (.ok offer) => some offer
  | _ => none

def install : Page × Pc :=
  if p.phase ∈ startablePhases then
    p.offered.elim (p, .settled) fun wanted =>
      ({ p with failure := none, message := none, notice := none }, .install wanted)
  else (p, .settled)

/-- The second look at the offer in `install`. -/
def secondLook (wanted : Offer) : Page × Pc :=
  if p.phase = .available ∧ p.offered = some wanted then
    ({ p with phase := .downloading, progress := 0 }, .download wanted)
  else if p.phase = .available ∧ p.offered.isSome then
    ({ p with notice := some .offerChanged }, .settled)
  else (p, .settled)

/-- `install` when the state of the device has been read again, or could not be. -/
def installReread (wanted : Offer) (ok : Bool) : Page × Pc :=
  if ok then
    match p.applyManifest (p.manifestText.getD []) with
    | .ok p' => p'.secondLook wanted
    | .error _ => (p.markUnavailable, .settled)
  else (p.markUnavailable, .settled)

/-- `install` after `downloadFirmware`. -/
def installDownloaded (wanted : Offer) (err : Option UpdateError) : Page × Pc :=
  err.elim ({ p with progress := 100 }, .uptime wanted) fun err =>
    ({ p with failure := some .download, message := err.message, phase := .failed }, .settled)

/-- `install` after `readUptimeSeconds`. -/
def installUptime (wanted : Offer) (uptimeBefore : Option Nat) : Page × Pc :=
  ({ p with phase := .uploading }, .upload wanted uptimeBefore)

/-- `install` after `update`. -/
def installUploaded (wanted : Offer) (uptimeBefore : Option Nat) (err : Option UpdateError) :
    Page × Pc :=
  err.elim ({ p with phase := .rebooting }, .poll wanted uptimeBefore) fun err =>
    if err.message = some (lit "update_in_progress") then ({ p with phase := .conflict }, .settled)
    else
      ({ p with
        failure := some .upload
        message := if err.device then err.message else none
        phase := .failed }, .settled)

/-- `install` after the verdict `no_response`. -/
def noResponse : Page × Pc :=
  ({ p with failure := some .noResponse, phase := .failed }, .settled)

/-- `install` after one of the other verdicts. -/
def installVerdict (wanted : Offer) : Page × Pc :=
  ({ p with
    message := some wanted.version
    phase := if p.installedVersion = wanted.version then .verified else .notApplied }, .settled)

/-- `waitForReboot` after `readUptimeSeconds`: the device is back if its uptime went backwards. -/
def polled (wanted : Offer) (uptimeBefore seconds : Option Nat) : Page × Pc :=
  if seconds.any fun seconds => uptimeBefore.all (seconds < ·) then (p, .verify wanted 0)
  else (p, .poll wanted uptimeBefore)

/-- `waitForReboot` after `fetchInfo`, which is tried twice. -/
def infoFetched (wanted : Offer) (attempt : Nat) (ok : Bool) : Page × Pc :=
  if ok then p.installVerdict wanted
  else if attempt = 1 then p.noResponse
  else (p, .verify wanted (attempt + 1))

end Page

/-! ### The system -/

/-- What the page asks for. -/
inductive Call where
  | check
  | recheck
  | install
deriving Repr, DecidableEq

inductive Answer where
  /-- Of `fetchInfo` and `partialRefresh`. -/
  | reread (ok : Bool)
  /-- Of `fetchManifest`. -/
  | manifest (text : Option Text)
  /-- The promise of `runCheck` has settled. -/
  | finally
  | chunk (percent : Nat)
  /-- Of `downloadFirmware`. -/
  | downloaded (err : Option UpdateError)
  /-- Of `readUptimeSeconds`. -/
  | uptime (seconds : Option Nat)
  /-- Of `update`. -/
  | uploaded (err : Option UpdateError)
  | deadline
  /-- Of `fetchInfo`. -/
  | info (ok : Bool)
deriving Repr, DecidableEq

def Page.start (p : Page) : Call → Page × Pc
  | .check => p.check
  | .recheck => p.recheck
  | .install => p.install

def Page.resume (p : Page) : Pc → Answer → Option (Page × Pc)
  | .recheck, .reread ok => some (p.recheckReread ok)
  | .fetching, .manifest text => some (p.runCheckFetched text)
  | .checked, .finally => some p.checkSettled
  | .install wanted, .reread ok => some (p.installReread wanted ok)
  | .download wanted, .chunk percent =>
    some ({ p with progress := min 100 percent }, .download wanted)
  | .download wanted, .downloaded err => some (p.installDownloaded wanted err)
  | .uptime wanted, .uptime seconds => some (p.installUptime wanted seconds)
  | .upload wanted uptimeBefore, .uploaded err => some (p.installUploaded wanted uptimeBefore err)
  | .poll wanted uptimeBefore, .uptime seconds => some (p.polled wanted uptimeBefore seconds)
  | .poll .., .deadline => some p.noResponse
  | .verify wanted attempt, .info ok => some (p.infoFetched wanted attempt ok)
  | _, _ => none

/-- The page. What it knows of the device and of the settings can change at any time: it is polled,
and the settings are edited. -/
def page : Cooperative Page Pc Call Answer (Option Info × Option UpdateChannel) where
  init := ⟨none, none, none, none, none, .stable, .idle, 0, none, none, none, false⟩
  start := Page.start
  resume := Page.resume
  change p v := { p with info := v.1, updateChannel := v.2 }

/-- Two calls that wait for the state of the device are both `recheck`s. -/
def Meet (c d : Pc) : Prop := c.rereads → d.rereads → c = .recheck ∧ d = .recheck
deriving Decidable

/-! ## What holds where a call waits -/

variable {p p' : Page} {c d : Pc} {wanted : Offer}

/-- What holds of the page while a call waits. -/
structure Fits (p : Page) (c : Pc) : Prop where
  busy : ∀ phase ∈ c.busyPhase, p.phase = phase ∧ p.manifestText.isSome
  fetching : c = .fetching → p.manifestText = none
  inFlight : c.checks → p.checkInFlight = true

structure Compatible (c d : Pc) : Prop where
  updates : ¬ (c.updates ∧ d.updates)
  rereads : ¬ (c.updates ∧ d.rereads)
  rereads' : ¬ (c.rereads ∧ d.updates)
  checks : ¬ (c.checks ∧ d.checks)

lemma Compatible.symm (h : Compatible c d) : Compatible d c :=
  ⟨fun hd => h.updates hd.symm, fun hd => h.rereads' hd.symm, fun hd => h.rereads hd.symm,
    fun hd => h.checks hd.symm⟩

lemma Meet.symm (h : Meet c d) : Meet d c := fun hd hc => (h hc hd).symm

lemma Compatible.settled (d : Pc) : Compatible .settled d :=
  ⟨fun h => absurd h.1 (by decide), fun h => absurd h.1 (by decide),
    fun h => absurd h.1 (by decide), fun h => absurd h.1 (by decide)⟩

lemma Pc.not_rereads_of_updates (h : c.updates) : ¬ c.rereads ∧ ¬ c.checks := by
  cases c <;> simp_all [Pc.updates, Pc.busyPhase, Pc.rereads, Pc.checks]

lemma Pc.not_updates_of_rereads (h : c.rereads) : ¬ c.updates ∧ ¬ c.checks := by
  cases c <;> simp_all [Pc.updates, Pc.busyPhase, Pc.rereads, Pc.checks]

lemma Pc.updates_of_uploads (h : c.uploads) : c.updates := by
  cases c <;> simp_all [Pc.uploads, Pc.updates, Pc.busyPhase]

lemma Compatible.of_updates (hc : c.updates) (hupdates : ¬ d.updates) (hrereads : ¬ d.rereads) :
    Compatible c d :=
  have hc := Pc.not_rereads_of_updates hc
  ⟨fun h => hupdates h.2, fun h => hrereads h.2, fun h => hc.1 h.1, fun h => hc.2 h.1⟩

lemma Compatible.of_rereads (hc : c.rereads) (hupdates : ¬ d.updates) : Compatible c d :=
  have hc := Pc.not_updates_of_rereads hc
  ⟨fun h => hc.1 h.1, fun h => hc.1 h.1, fun h => hupdates h.2, fun h => hc.2 h.1⟩

lemma Compatible.of_checks (hc : c.checks) (hchecks : ¬ d.checks) : Compatible c d :=
  ⟨fun h => (Pc.not_rereads_of_updates h.1).2 hc, fun h => (Pc.not_rereads_of_updates h.1).2 hc,
    fun h => (Pc.not_updates_of_rereads h.1).2 hc, fun h => hchecks h.2⟩

lemma Meet.settled (d : Pc) : Meet .settled d := fun h => absurd h (by decide)

lemma Pc.mem_busyPhases {phase : UpdatePhase} (h : phase ∈ c.busyPhase) :
    phase ∈ busyPhases := by
  cases c <;> simp_all [Pc.busyPhase, busyPhases]

lemma Pc.updates_iff : c.updates ↔ ∃ phase, phase ∈ c.busyPhase := by
  rw [Pc.updates, Option.isSome_iff_exists]
  rfl

lemma Fits.congr (h : Fits p d) (hphase : p'.phase = p.phase ∨ ¬ d.updates)
    (hmanifest : p'.manifestText = p.manifestText) (hflag : p'.checkInFlight = p.checkInFlight) :
    Fits p' d := by
  refine ⟨fun phase hd => ?_, fun hd => ?_, fun hd => ?_⟩
  · obtain ⟨hbusy, hsome⟩ := h.busy phase hd
    have hsame := hphase.resolve_right (not_not.2 (Pc.updates_iff.2 ⟨phase, hd⟩))
    exact ⟨hsame.trans hbusy, hmanifest ▸ hsome⟩
  · exact hmanifest.trans (h.fetching hd)
  · exact hflag.trans (h.inFlight hd)

lemma Fits.of_not (hupdates : ¬ d.updates) (hchecks : ¬ d.checks) : Fits p d := by
  refine ⟨fun phase hd => absurd (Pc.updates_iff.2 ⟨phase, hd⟩) hupdates, ?_,
    fun hd => absurd hd hchecks⟩
  rintro rfl
  exact absurd rfl hchecks

lemma Fits.settled (p : Page) : Fits p .settled := .of_not (by decide) (by decide)

lemma Fits.not_updates (h : Fits p d) (hphase : p.phase ∉ busyPhases) : ¬ d.updates := by
  intro hd
  obtain ⟨phase, hmem⟩ := Pc.updates_iff.1 hd
  exact hphase ((h.busy phase hmem).1 ▸ Pc.mem_busyPhases hmem)

/-- A turn from where the call `c` waits. -/
def Keeps (p : Page) (c : Pc) (r : Page × Pc) : Prop :=
  Fits r.1 r.2 ∧ ∀ d, Meet c d → Compatible c d → Fits p d → Fits r.1 d ∧ Compatible r.2 d

lemma Keeps.of_page {r : Page × Pc} (h : Keeps p' c r)
    (hpage : ∀ d, Compatible c d → Fits p d → Fits p' d) : Keeps p c r :=
  ⟨h.1, fun d hmeet hcomp hd => h.2 d hmeet hcomp (hpage d hcomp hd)⟩

lemma keeps_settled (hphase : p'.phase = p.phase ∨ c.updates ∨ c.rereads)
    (hmanifest : p'.manifestText = p.manifestText) (hflag : p'.checkInFlight = p.checkInFlight) :
    Keeps p c (p', .settled) := by
  refine ⟨.settled _, fun d _ hcomp hd => ⟨hd.congr ?_ hmanifest hflag, .settled d⟩⟩
  rcases hphase with hsame | hupdates | hrereads
  · exact .inl hsame
  · exact .inr fun h => hcomp.updates ⟨hupdates, h⟩
  · exact .inr fun h => hcomp.rereads' ⟨hrereads, h⟩

lemma keeps_updates (hfits : Fits p c) (hc : c.updates) {c' : Pc}
    (hphase : c'.busyPhase = some p'.phase) (hmanifest : p'.manifestText = p.manifestText)
    (hflag : p'.checkInFlight = p.checkInFlight) : Keeps p c (p', c') := by
  have hc' : c'.updates := Pc.updates_iff.2 ⟨_, hphase⟩
  obtain ⟨phase, hmem⟩ := Pc.updates_iff.1 hc
  refine ⟨⟨fun phase' hmem' => ?_, ?_, fun h => absurd h (Pc.not_rereads_of_updates hc').2⟩,
    fun d _ hcomp hd => ?_⟩
  · exact ⟨Option.some.inj (hphase.symm.trans hmem'), hmanifest ▸ (hfits.busy phase hmem).2⟩
  · rintro rfl
    cases hphase
  · have hupdates : ¬ d.updates := fun h => hcomp.updates ⟨hc, h⟩
    exact ⟨hd.congr (.inr hupdates) hmanifest hflag,
      .of_updates hc' hupdates fun h => hcomp.rereads ⟨hc, h⟩⟩

/-! ## The turns -/

section Manifest

variable {text : Text}

lemma resolveRelease_nil {signature : Text} {channel : UpdateChannel} {found : ReleaseResolution}
    (h : resolveRelease [] signature channel = .ok found) : found.release = .noSignature := by
  rw [resolveRelease] at h
  split at h
  · cases h
  · obtain rfl := Except.ok.inj h
    rfl

lemma applyManifest_spec (h : p.applyManifest text = .ok p') :
    p'.manifestText = p.manifestText ∧ p'.checkInFlight = p.checkInFlight ∧
      (p'.offered.isSome → text ≠ []) := by
  rw [Page.applyManifest] at h
  cases hfound : resolveRelease text p.signatureOf p.channelOf with
  | error e =>
    rw [hfound] at h
    cases h
  | ok found =>
    rw [hfound] at h
    obtain rfl := Except.ok.inj h
    refine ⟨rfl, rfl, ?_⟩
    rintro hoffer rfl
    simp [Page.offered, resolveRelease_nil hfound] at hoffer

lemma checkInFlight_readManifest (p : Page) (text : Text) :
    (p.readManifest text).checkInFlight = p.checkInFlight := by
  rw [Page.readManifest]
  split
  · rename_i p' h
    exact (applyManifest_spec h).2.1
  · rfl

end Manifest

lemma runCheck_spec (p : Page) :
    p.runCheck.2.checks ∧ (p.runCheck.2 = .fetching → p.runCheck.1.manifestText = none) := by
  rw [Page.runCheck]
  split
  · exact ⟨rfl, nofun⟩
  · cases hm : p.manifestText with
    | none => exact ⟨rfl, fun _ => hm⟩
    | some text => exact ⟨rfl, nofun⟩

lemma keeps_check : Keeps p c p.check := by
  have hreturns : Keeps p c (p.clearNotice, .settled) := keeps_settled (.inl rfl) rfl rfl
  rw [Page.check]
  split
  · exact hreturns
  rename_i hphase
  split
  · exact hreturns
  rename_i hflag
  -- nobody makes an update and nobody checks, so that the variables can be written
  have hbusy : p.phase ∉ busyPhases := fun h => hphase (.inl (decide_eq_true h))
  obtain ⟨hchecks, hfetching⟩ := runCheck_spec p.clearNotice
  refine ⟨⟨fun phase h => ?_, hfetching, fun _ => rfl⟩, fun d _ _ hd => ?_⟩
  · exact absurd hchecks (Pc.not_rereads_of_updates (Pc.updates_iff.2 ⟨phase, h⟩)).2
  · have hd' : ¬ d.checks := fun h => hflag (hd.inFlight h)
    exact ⟨.of_not (hd.not_updates hbusy) hd', .of_checks hchecks hd'⟩

lemma keeps_rereads {c' : Pc} (hc : c'.rereads) (hphase : p.phase ∉ busyPhases)
    (hsame : p'.phase = p.phase) (hmanifest : p'.manifestText = p.manifestText)
    (hflag : p'.checkInFlight = p.checkInFlight) : Keeps p c (p', c') :=
  have hc' := Pc.not_updates_of_rereads hc
  ⟨.of_not hc'.1 hc'.2, fun _ _ _ hd =>
    ⟨hd.congr (.inl hsame) hmanifest hflag, .of_rereads hc (hd.not_updates hphase)⟩⟩

lemma keeps_recheck : Keeps p c p.recheck := by
  rw [Page.recheck]
  split
  · exact keeps_settled (.inl rfl) rfl rfl
  · rename_i hphase
    exact keeps_rereads rfl (fun h => hphase (decide_eq_true h)) rfl rfl rfl

lemma keeps_install : Keeps p c p.install := by
  have hreturns : Keeps p c (p, .settled) := keeps_settled (.inl rfl) rfl rfl
  rw [Page.install]
  split
  · rename_i hphase
    cases p.offered with
    | none => exact hreturns
    | some wanted =>
      refine keeps_rereads rfl (fun hbusy => ?_) rfl rfl rfl
      -- no phase is both startable and busy
      revert hphase hbusy
      cases p.phase <;> decide
  · exact hreturns

lemma keeps_start (p : Page) (op : Call) : Keeps p .settled (p.start op) := by
  cases op with
  | check => exact keeps_check
  | recheck => exact keeps_recheck
  | install => exact keeps_install

lemma keeps_recheckReread (ok : Bool) : Keeps p .recheck (p.recheckReread ok) := by
  rw [Page.recheckReread]
  split
  · exact keeps_check.of_page fun d hcomp hd =>
      hd.congr (.inr fun h => hcomp.rereads' ⟨rfl, h⟩) rfl rfl
  · exact keeps_settled (.inl rfl) rfl rfl

lemma keeps_runCheckFetched (hfits : Fits p .fetching) (text : Option Text) :
    Keeps p .fetching (p.runCheckFetched text) := by
  have hnone := hfits.fetching rfl
  have hflag : (p.runCheckFetched text).1.checkInFlight = true := by
    cases text with
    | none => exact hfits.inFlight rfl
    | some text => exact (checkInFlight_readManifest _ _).trans (hfits.inFlight rfl)
  refine ⟨⟨nofun, nofun, fun _ => hflag⟩, fun d _ hcomp hd => ?_⟩
  have hchecks : ¬ d.checks := fun h => hcomp.checks ⟨rfl, h⟩
  refine ⟨.of_not (fun h => ?_) hchecks, .of_checks rfl hchecks⟩
  obtain ⟨phase, hmem⟩ := Pc.updates_iff.1 h
  have hsome := (hd.busy phase hmem).2
  rw [hnone] at hsome
  cases hsome

lemma keeps_checkSettled : Keeps p .checked p.checkSettled := by
  refine ⟨.settled _, fun d _ hcomp hd => ⟨⟨hd.busy, hd.fetching, fun h => ?_⟩, .settled d⟩⟩
  exact absurd ⟨rfl, h⟩ hcomp.checks

lemma keeps_secondLook (hmanifest : p'.manifestText = p.manifestText)
    (hflag : p'.checkInFlight = p.checkInFlight)
    (hoffer : p'.offered.isSome → p.manifestText.isSome) :
    Keeps p (.install wanted) (p'.secondLook wanted) := by
  rw [Page.secondLook]
  split
  · rename_i hsame
    have hsome : p.manifestText.isSome := hoffer (by rw [hsame.2]; rfl)
    refine ⟨⟨?_, nofun, nofun⟩, fun d hmeet hcomp hd => ?_⟩
    · rintro _ ⟨⟩
      exact ⟨rfl, hmanifest ▸ hsome⟩
    · -- nobody makes an update while this call waits, and nobody is about to begin one
      have hupdates : ¬ d.updates := fun h => hcomp.rereads' ⟨rfl, h⟩
      refine ⟨hd.congr (.inr hupdates) hmanifest hflag, .of_updates rfl hupdates fun h => ?_⟩
      cases (hmeet rfl h).1
  · split <;> exact keeps_settled (.inr (.inr rfl)) hmanifest hflag

lemma keeps_installReread (ok : Bool) :
    Keeps p (.install wanted) (p.installReread wanted ok) := by
  have hunavailable : Keeps p (.install wanted) (p.markUnavailable, .settled) :=
    keeps_settled (.inr (.inr rfl)) rfl rfl
  rw [Page.installReread]
  split
  · split
    · rename_i p' h
      obtain ⟨hmanifest, hflag, hoffer⟩ := applyManifest_spec h
      refine keeps_secondLook hmanifest hflag fun hsome => ?_
      cases hm : p.manifestText with
      | none => exact absurd (by rw [hm]; rfl) (hoffer hsome)
      | some text => rfl
    · exact hunavailable
  · exact hunavailable

lemma keeps_resume {a : Answer} {r : Page × Pc} (h : p.resume c a = some r) (hfits : Fits p c) :
    Keeps p c r := by
  unfold Page.resume at h
  -- one case for each answer that somebody can wait for, in the order of the definition
  split at h
  all_goals first | obtain rfl := Option.some.inj h | cases h
  · exact keeps_recheckReread _
  · exact keeps_runCheckFetched hfits _
  · exact keeps_checkSettled
  · exact keeps_installReread _
  -- a call that makes an update ends it, or goes on in the phase that the page shows
  all_goals try cases ‹Option UpdateError›
  all_goals try simp only [Page.installDownloaded, Page.installUploaded, Page.polled,
    Page.infoFetched, Option.elim_none, Option.elim_some]
  all_goals repeat' split
  all_goals first
    | exact keeps_settled (.inr (.inl rfl)) rfl rfl
    | exact keeps_updates hfits rfl rfl rfl rfl
    | exact keeps_updates hfits rfl (congrArg some (hfits.busy _ rfl).1.symm) rfl rfl

/-! ## Along a run -/

section Run

variable {s : Cooperative.State Page Pc} {log : List Empty}

lemma calls_compatible (hrun : page.machine.Run (page.Apart Meet) log s) :
    s.calls.Pairwise Compatible ∧ ∀ c ∈ s.calls, Fits s.shared c := by
  refine Cooperative.invariant (fun _ _ => Meet.symm) (fun _ _ => Compatible.symm) ?_ ?_ ?_ hrun
  · intro p op
    obtain ⟨hnew, hother⟩ := keeps_start p op
    exact ⟨hnew, fun d => hother d (.settled d) (.settled d)⟩
  · intro p c a r h hfits
    exact keeps_resume h hfits
  · intro p v d hd
    exact hd.congr (.inl rfl) rfl rfl

/-- For every interleaving of any number of calls in which an `install` that waits for the state of
the device is the only call that does: one call at most makes an update, and one at most uploads,
the phase is that of the update, and no turn of another call changes it. -/
theorem updates_exclusive (hrun : page.machine.Run (page.Apart Meet) log s) :
    s.calls.countP Pc.updates ≤ 1 ∧ s.calls.countP Pc.uploads ≤ 1 ∧
      (∀ c ∈ s.calls, ∀ phase ∈ c.busyPhase, phase ∈ busyPhases ∧ s.shared.phase = phase) ∧
      ∀ i c, s.calls[i]? = some c → c.updates → ∀ e s' out, (∀ a, e ≠ .resume i a) →
        page.Apart Meet log s e → page.step s e = some (s', out) →
        s'.shared.phase = s.shared.phase := by
  obtain ⟨hpair, hfits⟩ := calls_compatible hrun
  have hupdates : s.calls.countP Pc.updates ≤ 1 :=
    Cooperative.countP_le_one (hpair.imp Compatible.updates)
  refine ⟨hupdates, (List.countP_mono_left fun c _ => Pc.updates_of_uploads).trans hupdates, ?_, ?_⟩
  · intro c hc phase hphase
    exact ⟨Pc.mem_busyPhases hphase, ((hfits c hc).busy phase hphase).1⟩
  · intro i c hi hc e s' out he hok hs
    -- the call still waits at the same place, whose phase the page shows before and after
    obtain ⟨phase, hphase⟩ := Pc.updates_iff.1 hc
    have hi' := Cooperative.calls_of_step hs hi he
    obtain ⟨-, hfits'⟩ := calls_compatible (.step hrun hok hs)
    exact ((hfits' c (List.mem_of_getElem? hi')).busy phase hphase).1.trans
      ((hfits c (List.mem_of_getElem? hi)).busy phase hphase).1.symm

end Run

def offerUpdate : List (Cooperative.Event Call Answer (Option Info × Option UpdateChannel)) :=
  [.change (some ⟨some (lit "mge_v3"), lit "1.0.0"⟩, some .stable), .call .check,
    .resume 0 (.manifest (some sampleManifest)), .resume 0 .finally]

def uploadOf (i : Nat) :
    List (Cooperative.Event Call Answer (Option Info × Option UpdateChannel)) :=
  [.resume i (.reread true), .resume i (.downloaded none), .resume i (.uptime (some 60))]

/-- During an upload the page is asked to install again, and to check. -/
theorem updates_exclusive_upload :
    ∃ log s, page.machine.Run (page.Apart Meet) log s ∧ s.calls.countP Pc.uploads = 1 ∧
      s.calls.length = 4 ∧ s.calls.countP Pc.updates ≤ 1 := by
  obtain ⟨log, s, hrun, hup, hlen⟩ := Machine.Run.exists_of_exec page.machine (page.Apart Meet)
    (offerUpdate ++ .call .install :: uploadOf 1 ++ [.call .install, .call .check])
    (fun _ s => s.calls.countP Pc.uploads = 1 ∧ s.calls.length = 4) (by decide +kernel)
  exact ⟨log, s, hrun, hup, hlen, (updates_exclusive hrun).1⟩

/-- Two calls of `install` that wait for the state of the device at the same time both upload. A
`recheck` that waits for it while an update begins overwrites its phase. -/
theorem updates_overlap :
    (∃ log s, page.machine.Run Machine.anyStep log s ∧ s.calls.countP Pc.uploads = 2) ∧
      ∃ log s, page.machine.Run Machine.anyStep log s ∧ s.calls.countP Pc.uploads = 1 ∧
        s.shared.phase = .available := by
  constructor
  · exact Machine.Run.exists_of_exec page.machine Machine.anyStep
      (List.flatten [offerUpdate, [.call .install, .call .install], uploadOf 1, uploadOf 2])
      (fun _ s => s.calls.countP Pc.uploads = 2) (by decide +kernel)
  · exact Machine.Run.exists_of_exec page.machine Machine.anyStep
      (List.flatten [offerUpdate, [.call .recheck, .call .install], uploadOf 2,
        [.resume 1 (.reread true)]])
      (fun _ s => s.calls.countP Pc.uploads = 1 ∧ s.shared.phase = .available) (by decide +kernel)

end WbMge.Firmware
