import WbMge.Ota.Model

/-!
# The receive loop

What `ota_receive_and_write` does with the chunks of a body. `Rx.Consistent` is the invariant of its
loop: the chunks that were written are the beginning of the body, and the descriptor was found in
order before the first of them.

The last part compares two ways in which a connection delivers the same body. The result depends on
whether the first chunk, in which the descriptor is looked for, has the whole of it.
-/

namespace WbMge.Ota

/-! ## Firmware for a device -/

/-- The image has a descriptor with the magic word and the signature, which is not empty. -/
structure IsFirmwareFor (signature image : Bytes) : Prop where
  length : wbAppDescOffset + wbAppDescSize ≤ image.length
  signature_ne : signature ≠ []
  magicWord : (appDesc image).magicWord = wbAppDescMagicWord
  signature_eq :
    wbAppDescGetStrField (appDesc image).signature deviceSignatureLen = signature

section Firmware

variable {signature image : Bytes}

lemma otaValidateFwDesc_eq_ok_iff {desc : AppDesc} : otaValidateFwDesc signature desc = .ok ↔
    signature ≠ [] ∧ desc.magicWord = wbAppDescMagicWord ∧
      wbAppDescGetStrField desc.signature deviceSignatureLen = signature := by
  unfold otaValidateFwDesc
  split
  · simp_all
  · split
    · simp_all
    · split <;> simp_all

lemma checkFirst_eq_ok_iff :
    Rx.checkFirst signature image = .ok ↔ IsFirmwareFor signature image := by
  unfold Rx.checkFirst
  split
  · rename_i hlength
    rw [otaValidateFwDesc_eq_ok_iff]
    constructor
    · rintro ⟨hne, hmagic, hsignature⟩
      exact ⟨hlength, hne, hmagic, hsignature⟩
    · intro h
      exact ⟨h.signature_ne, h.magicWord, h.signature_eq⟩
  · rename_i hlength
    constructor
    · rintro ⟨⟩
    · intro h
      exact absurd h.length hlength

variable {k : Nat}

lemma appDesc_take (h : wbAppDescOffset + wbAppDescSize ≤ k) :
    appDesc (image.take k) = appDesc image := by
  have hk : 4 + deviceSignatureLen ≤ k - wbAppDescOffset := by
    have : 4 + deviceSignatureLen ≤ wbAppDescSize := by decide
    omega
  simp only [appDesc, List.drop_take, List.take_take]
  rw [min_eq_left (by omega), min_eq_left (by omega)]

lemma checkFirst_take (h : wbAppDescOffset + wbAppDescSize ≤ (image.take k).length) :
    Rx.checkFirst signature (image.take k) = otaValidateFwDesc signature (appDesc image) := by
  rw [Rx.checkFirst, if_pos h, appDesc_take]
  exact h.trans (List.length_take_le _ _)

lemma IsFirmwareFor.of_take (h : IsFirmwareFor signature (image.take k)) :
    IsFirmwareFor signature image := by
  have hdesc : appDesc (image.take k) = appDesc image :=
    appDesc_take (h.length.trans (List.length_take_le _ _))
  have hlength := h.length.trans (List.length_take_le' k image)
  exact ⟨hlength, h.signature_ne, hdesc ▸ h.magicWord, hdesc ▸ h.signature_eq⟩

end Firmware

/-! ## The receive loop -/

namespace Rx

variable {signature body : Bytes} {writeOk : Nat → Bool} {rx rx' : Rx} {r : Recv}

/-- The chunk a result of `httpd_req_recv` brings. -/
def chunk (rx : Rx) (len : Nat) : Bytes := rx.unread.take (min len rx.requested)

def advance (rx : Rx) (chunk : Bytes) : Rx :=
  { rx with
    remaining := rx.remaining - chunk.length
    totalReceived := rx.totalReceived + chunk.length
    writes := rx.writes ++ [(chunk, true)] }

def accept (rx : Rx) (len : Nat) : Rx :=
  { rx with
    stallTimeouts := 0
    unread := rx.unread.drop (min len rx.requested)
    appDescValidated := true }.advance (rx.chunk len)

def stall (rx : Rx) : Rx := { rx with stallTimeouts := rx.stallTimeouts + 1 }

lemma write_eq_none {chunk : Bytes} (h : rx.write writeOk chunk = (rx', none)) :
    rx' = rx.advance chunk := by
  simp only [write] at h
  split at h
  · rename_i hok
    rw [hok] at h
    cases h
    rfl
  · cases h

lemma write_of_ok {chunk : Bytes} (h : writeOk rx.writes.length = true) :
    rx.write writeOk chunk = (rx.advance chunk, none) := by
  simp only [write, h]
  rfl

def Admits (signature : Bytes) (rx : Rx) (len : Nat) : Prop :=
  rx.appDescValidated = true ∨ checkFirst signature (rx.chunk len) = .ok

lemma turn_eq_none (h : rx.turn signature writeOk r = (rx', none)) :
    (rx.stallTimeouts + 1 < otaRecvMaxStallTimeouts ∧ rx' = rx.stall) ∨
      ∃ len, min len rx.requested ≠ 0 ∧ rx.Admits signature len ∧ rx' = rx.accept len := by
  cases r with
  | timeout =>
    simp only [turn] at h
    split at h
    · cases h
    · rename_i hstall
      cases h
      exact .inl ⟨not_le.1 hstall, rfl⟩
  | error => cases h
  | data len =>
    simp only [turn] at h
    split at h
    · cases h
    rename_i hlen
    refine .inr ⟨len, hlen, ?_⟩
    split at h
    · rename_i hvalidated
      refine ⟨.inl hvalidated, ?_⟩
      rw [write_eq_none h, accept, hvalidated]
      rfl
    · split at h
      · cases h
      · rename_i hcheck
        exact ⟨.inr (not_not.1 hcheck), write_eq_none h⟩

variable {len : Nat}

lemma turn_data (hlen : min len rx.requested ≠ 0) (hadmits : rx.Admits signature len)
    (hwrite : ∀ n, writeOk n = true) :
    rx.turn signature writeOk (.data len) = (rx.accept len, none) := by
  simp only [turn, if_neg hlen]
  split
  · rename_i hvalidated
    rw [write_of_ok (hwrite _), accept, hvalidated]
    rfl
  · rename_i hvalidated
    have hcheck : checkFirst signature (rx.chunk len) = .ok := hadmits.resolve_left hvalidated
    rw [chunk] at hcheck
    rw [if_neg (not_not.2 hcheck), write_of_ok (hwrite _)]
    rfl

lemma turn_refused (hlen : min len rx.requested ≠ 0) (hadmits : ¬ rx.Admits signature len) :
    (rx.turn signature writeOk (.data len)).1.writes = rx.writes ∧
      (rx.turn signature writeOk (.data len)).2 = some (checkFirst signature (rx.chunk len)) := by
  rw [Admits, not_or] at hadmits
  obtain ⟨hvalidated, hcheck⟩ := hadmits
  rw [chunk] at hcheck ⊢
  simp only [turn, if_neg hlen, if_neg hvalidated, if_pos hcheck, and_self]

lemma turn_ne_ok (rx : Rx) (r : Recv) : (rx.turn signature writeOk r).2 ≠ some .ok := by
  have hwrite (rx : Rx) (chunk : Bytes) : (rx.write writeOk chunk).2 ≠ some .ok := by
    simp only [write]
    split <;> rintro ⟨⟩
  cases r <;> simp only [turn]
  all_goals repeat' split
  all_goals first
    | exact hwrite _ _
    | exact fun hok => absurd (Option.some.inj hok) ‹_›
    | rintro ⟨⟩

lemma turn_timeout (h : rx.stallTimeouts + 1 < otaRecvMaxStallTimeouts) :
    rx.turn signature writeOk .timeout = (rx.stall, none) := by
  simp only [turn, if_neg (Nat.not_le_of_lt h)]
  rfl

lemma length_chunk (hremaining : rx.remaining = rx.unread.length) (len : Nat) :
    (rx.chunk len).length = min len rx.requested := by
  apply List.length_take_of_le
  rw [requested, hremaining, Int.toNat_natCast]
  exact (min_le_right _ _).trans (min_le_left _ _)

lemma unread_accept (hremaining : rx.remaining = rx.unread.length) (len : Nat) :
    (rx.accept len).unread = rx.unread.drop (rx.chunk len).length := by
  rw [length_chunk hremaining]
  rfl

lemma remaining_accept (hremaining : rx.remaining = rx.unread.length) (len : Nat) :
    (rx.accept len).remaining = (rx.accept len).unread.length := by
  have hle : (rx.chunk len).length ≤ rx.unread.length := List.length_take_le' _ _
  rw [unread_accept hremaining, List.length_drop, Int.ofNat_sub hle, ← hremaining]
  rfl

/-! ### Safety -/

/-- The chunks that were written and the rest of the body are the body, every write has succeeded,
and there was none before the descriptor was found in order. -/
structure Consistent (signature body : Bytes) (rx : Rx) : Prop where
  body_eq : (rx.writes.map Prod.fst).flatten ++ rx.unread = body
  writes_ok : ∀ w ∈ rx.writes, w.2 = true
  remaining : rx.remaining = rx.unread.length
  validated : rx.appDescValidated = true → IsFirmwareFor signature body
  first : rx.appDescValidated = false → rx.writes = []

lemma Consistent.stall (h : rx.Consistent signature body) :
    rx.stall.Consistent signature body :=
  ⟨h.body_eq, h.writes_ok, h.remaining, h.validated, h.first⟩

lemma Consistent.accept (h : rx.Consistent signature body) (hadmits : rx.Admits signature len) :
    (rx.accept len).Consistent signature body := by
  refine ⟨?_, ?_, remaining_accept h.remaining len, fun _ => ?_,
    fun hvalidated => absurd hvalidated.symm Bool.false_ne_true⟩
  · -- the chunk is the next part of the body
    simpa [Rx.accept, advance, chunk] using h.body_eq
  · intro w hw
    rcases List.mem_append.1 hw with hw | hw
    · exact h.writes_ok w hw
    · rw [List.mem_singleton.1 hw]
  · rcases hadmits with hvalidated | hcheck
    · exact h.validated hvalidated
    · by_cases hvalidated : rx.appDescValidated = true
      · exact h.validated hvalidated
      · -- the first chunk is the beginning of the body
        have hbody : rx.unread = body := by
          have heq := h.body_eq
          rw [h.first (Bool.eq_false_iff.2 hvalidated)] at heq
          exact heq
        rw [chunk, hbody] at hcheck
        exact (checkFirst_eq_ok_iff.1 hcheck).of_take

lemma Consistent.turn (h : rx.Consistent signature body)
    (hturn : rx.turn signature writeOk r = (rx', none)) : rx'.Consistent signature body := by
  rcases turn_eq_none hturn with ⟨-, rfl⟩ | ⟨len, -, hadmits, rfl⟩
  · exact h.stall
  · exact h.accept hadmits

lemma Consistent.receiveLoop {rs : List Recv} (h : rx.Consistent signature body)
    (hloop : receiveLoop signature writeOk rs rx = (rx', .ok)) :
    rx'.Consistent signature body ∧ rx'.unread = [] := by
  have hend {rx : Rx} (h : rx.Consistent signature body) (hle : rx.remaining ≤ 0) :
      rx.unread = [] := by
    have hlength := h.remaining
    rw [← List.length_eq_zero_iff]
    omega
  -- along the results of `httpd_req_recv`, with the variables they lead to
  induction rs generalizing rx with
  | nil =>
    simp only [Rx.receiveLoop] at hloop
    split at hloop
    · rename_i hle
      cases hloop
      exact ⟨h, hend h hle⟩
    · cases hloop
  | cons r rs ih =>
    rw [Rx.receiveLoop] at hloop
    split at hloop
    · rename_i hle
      cases hloop
      exact ⟨h, hend h hle⟩
    split at hloop
    · rename_i rx₁ hturn
      exact ih (h.turn hturn) hloop
    · rename_i rx₁ err hturn
      cases hloop
      exact absurd (congrArg Prod.snd hturn) (turn_ne_ok rx r)

lemma receiveLoop_of_nonpos (h : rx.remaining ≤ 0) (rs : List Recv) :
    receiveLoop signature writeOk rs rx = (rx, .ok) := by
  cases rs with
  | nil => rw [receiveLoop, if_pos h]
  | cons r rs => rw [receiveLoop, if_pos h]

end Rx

/-! ## The body of a request -/

lemma toInt_eq_or_nonpos {n : Nat} (h : n < 2 ^ 32) : toInt n = n ∨ toInt n ≤ 0 := by
  unfold toInt
  generalize 2 ^ 32 = m at h ⊢
  rw [Int.bmod_def, Int.emod_eq_of_lt (by omega) (by omega)]
  split
  · exact .inl rfl
  · right
    omega

lemma Request.remaining_rxInit (req : Request) :
    req.rxInit.remaining = req.body.length ∨ req.rxInit.remaining ≤ 0 := by
  rw [rxInit]
  exact toInt_eq_or_nonpos req.length_lt

lemma Request.writes_rxInit (req : Request) : req.rxInit.writes = [] := by
  rw [rxInit]

def someSignature : Bytes := "mge_v3".toList.map fun c => c.toNat.toUInt8

def someImage : Bytes :=
  List.replicate wbAppDescOffset 0 ++ [0xAB, 0xBC, 0xCB, 0xDA] ++ someSignature ++
    List.replicate (wbAppDescSize - 10) 0

lemma length_someImage : someImage.length < 2 ^ 32 := by decide +kernel

def upload (recvs : List Recv) : Request where
  authorized := true
  contentType := none
  body := someImage
  length_lt := length_someImage
  recvs := recvs
  env :=
    { partitionOk := true
      beginOk := true
      bufferOk := true
      writeOk := fun _ => true
      endOk := true
      setBootOk := true
      responseOk := true
      errorResponseOk := true }

/-! ## Two deliveries of one body -/

/-- The results of `httpd_req_recv` bring `remaining` bytes, in chunks of any size that can be asked
for, with too few timeouts in a row for the loop to give up, and without another error. `stall` is
the number of timeouts since the last chunk. -/
inductive Delivers : (stall : Nat) → List Recv → (remaining : Nat) → Prop
  | done {stall : Nat} {rs : List Recv} : Delivers stall rs 0
  | timeout {stall remaining : Nat} {rs : List Recv} : stall + 1 < otaRecvMaxStallTimeouts →
      Delivers (stall + 1) rs remaining → Delivers stall (.timeout :: rs) remaining
  | data {stall remaining len : Nat} {rs : List Recv} : 0 < len →
      len ≤ min remaining jsonUtilsReqRecvBufSize → Delivers 0 rs (remaining - len) →
      Delivers stall (.data len :: rs) remaining

def firstLen : List Recv → Nat
  | [] => 0
  | .data len :: _ => len
  | _ :: rs => firstLen rs

/-- The bytes that were given to `esp_ota_write`. -/
def Rx.written (rx : Rx) : Bytes := (rx.writes.map Prod.fst).flatten

namespace Rx

variable {signature : Bytes} {writeOk : Nat → Bool} {rx : Rx} {rs : List Recv} {len : Nat}

lemma written_accept (rx : Rx) (len : Nat) :
    (rx.accept len).written = rx.written ++ rx.chunk len := by
  simp [written, accept, advance]

lemma min_requested (hremaining : rx.remaining = rx.unread.length)
    (hlen : len ≤ min rx.unread.length jsonUtilsReqRecvBufSize) : min len rx.requested = len := by
  rw [requested, hremaining, Int.toNat_natCast, min_eq_left hlen]

lemma receiveLoop_cons {r : Recv} {rx' : Rx} (hpos : 0 < rx.remaining)
    (hturn : rx.turn signature writeOk r = (rx', none)) :
    receiveLoop signature writeOk (r :: rs) rx = receiveLoop signature writeOk rs rx' := by
  rw [receiveLoop, if_neg (by omega), hturn]

/-- The result of the loop and what it has written. -/
def received (signature : Bytes) (writeOk : Nat → Bool) (rs : List Recv) (rx : Rx) :
    EspErr × Bytes :=
  ((receiveLoop signature writeOk rs rx).2, (receiveLoop signature writeOk rs rx).1.written)

lemma received_of_nil (hremaining : rx.remaining = rx.unread.length)
    (hlength : rx.unread.length = 0) :
    received signature writeOk rs rx = (.ok, rx.written ++ rx.unread) := by
  have hle : rx.remaining ≤ 0 := by
    rw [hremaining, hlength]
    exact Int.le_refl 0
  rw [received, receiveLoop_of_nonpos hle, List.length_eq_zero_iff.1 hlength, List.append_nil]

lemma received_timeout (hpos : 0 < rx.remaining)
    (hstall : rx.stallTimeouts + 1 < otaRecvMaxStallTimeouts) :
    received signature writeOk (.timeout :: rs) rx = received signature writeOk rs rx.stall := by
  rw [received, received, receiveLoop_cons hpos (turn_timeout hstall)]

lemma received_data (hpos : 0 < rx.remaining) (hlen : min len rx.requested ≠ 0)
    (hadmits : rx.Admits signature len) (hwrite : ∀ n, writeOk n = true) :
    received signature writeOk (.data len :: rs) rx =
      received signature writeOk rs (rx.accept len) := by
  rw [received, received, receiveLoop_cons hpos (turn_data hlen hadmits hwrite)]

lemma received_refused (hpos : 0 < rx.remaining) (hlen : min len rx.requested ≠ 0)
    (hadmits : ¬ rx.Admits signature len) :
    received signature writeOk (.data len :: rs) rx =
      (checkFirst signature (rx.chunk len), rx.written) := by
  have hturn : (rx.turn signature writeOk (.data len)).1.writes = rx.writes ∧ _ :=
    turn_refused hlen hadmits
  obtain ⟨hwrites, herr⟩ := hturn
  rw [received, receiveLoop, if_neg (by omega)]
  generalize rx.turn signature writeOk (.data len) = r at hwrites herr
  obtain ⟨rx', err⟩ := r
  obtain rfl : err = some (checkFirst signature (rx.chunk len)) := herr
  change rx'.writes = rx.writes at hwrites
  exact Prod.ext rfl (by rw [written, hwrites]; rfl)

lemma received_of_validated {stall remaining : Nat} (h : Delivers stall rs remaining)
    (hwrite : ∀ n, writeOk n = true) (hstall : rx.stallTimeouts = stall)
    (hlength : rx.unread.length = remaining) (hremaining : rx.remaining = rx.unread.length)
    (hvalidated : rx.appDescValidated = true) :
    received signature writeOk rs rx = (.ok, rx.written ++ rx.unread) := by
  -- along the delivery, with the variables it leads to
  induction h generalizing rx with
  | done => exact received_of_nil hremaining hlength
  | @timeout stall remaining rs hlt _ ih =>
    rcases Nat.eq_zero_or_pos remaining with rfl | hpos
    · exact received_of_nil hremaining hlength
    · rw [received_timeout (by omega) (by omega)]
      exact @ih rx.stall (by rw [← hstall]; rfl) hlength hremaining hvalidated
  | @data stall remaining len rs hpos hle _ ih =>
    rw [← hlength] at hle
    have hmin := min_requested hremaining hle
    have hunread := unread_accept hremaining len
    rw [length_chunk hremaining, hmin] at hunread
    rw [received_data (by omega) (by omega) (.inl hvalidated) hwrite,
      @ih (rx.accept len) rfl (by rw [hunread, List.length_drop, hlength])
        (remaining_accept hremaining len) rfl,
      written_accept, hunread, chunk, hmin, List.append_assoc, List.take_append_drop]

def outcomeOf (signature body : Bytes) (whole : Bool) : EspErr × Bytes :=
  if body = [] then (.ok, [])
  else if !whole then (.fail, [])
  else
    let err := otaValidateFwDesc signature (appDesc body)
    (err, if err = .ok then body else [])

def wholeDesc (rs : List Recv) : Bool := decide (wbAppDescOffset + wbAppDescSize ≤ firstLen rs)

lemma received_first (hwrite : ∀ n, writeOk n = true) (hpos : 0 < len)
    (hle : len ≤ min rx.unread.length jsonUtilsReqRecvBufSize)
    (h : Delivers 0 rs (rx.unread.length - len)) (hremaining : rx.remaining = rx.unread.length)
    (hvalidated : rx.appDescValidated = false) (hwrites : rx.writes = []) :
    received signature writeOk (.data len :: rs) rx =
      outcomeOf signature rx.unread (wholeDesc (.data len :: rs)) := by
  have hmin := min_requested hremaining hle
  have hchunk : rx.chunk len = rx.unread.take len := by rw [chunk, hmin]
  have hlength : (rx.unread.take len).length = len := by
    rw [← hchunk, length_chunk hremaining, hmin]
  have hwritten : rx.written = [] := by
    rw [written, hwrites]
    rfl
  have hne : rx.unread ≠ [] := by
    rintro hnil
    rw [hnil] at hle
    exact absurd (hle.trans (min_le_left _ _)) (not_le.2 hpos)
  have hadmits : rx.Admits signature len ↔ checkFirst signature (rx.unread.take len) = .ok := by
    rw [Admits, hvalidated, hchunk, or_iff_right Bool.false_ne_true]
  rw [outcomeOf, if_neg hne]
  by_cases hwhole : wbAppDescOffset + wbAppDescSize ≤ len
  · have hcheck : checkFirst signature _ = _ := checkFirst_take (hwhole.trans_eq hlength.symm)
    have hwhole' : wholeDesc (.data len :: rs) = true := decide_eq_true hwhole
    rw [hwhole', Bool.not_true, if_neg Bool.false_ne_true, ← hcheck]
    dsimp only
    split
    · -- the descriptor is in order, and everything else is written as well
      rename_i hok
      have hunread := unread_accept hremaining len
      rw [length_chunk hremaining, hmin] at hunread
      rw [received_data (by omega) (by omega) (hadmits.2 hok) hwrite,
        received_of_validated h hwrite rfl (by rw [hunread, List.length_drop])
          (remaining_accept hremaining len) rfl,
        written_accept, hwritten, hunread, hchunk, List.nil_append, List.take_append_drop, hok]
    · rename_i hfail
      rw [received_refused (by omega) (by omega) (fun h => hfail (hadmits.1 h)), hwritten, hchunk]
  · -- the check of the length fails before the descriptor is looked at
    have hwhole' : wholeDesc (.data len :: rs) = false := decide_eq_false hwhole
    have hcheck : checkFirst signature (rx.unread.take len) = .fail := by
      rw [checkFirst, hlength, if_neg hwhole]
    rw [hwhole', received_refused (by omega) (by omega), hwritten, hchunk, hcheck]
    · rfl
    · rw [hadmits, hcheck]
      rintro ⟨⟩

lemma received_eq_outcomeOf {stall remaining : Nat} (h : Delivers stall rs remaining)
    (hwrite : ∀ n, writeOk n = true) (hstall : rx.stallTimeouts = stall)
    (hlength : rx.unread.length = remaining) (hremaining : rx.remaining = rx.unread.length)
    (hvalidated : rx.appDescValidated = false) (hwrites : rx.writes = []) :
    received signature writeOk rs rx = outcomeOf signature rx.unread (wholeDesc rs) := by
  have hwritten : rx.written = [] := by
    rw [written, hwrites]
    rfl
  -- the timeouts before the first chunk do not matter
  induction h generalizing rx with
  | done =>
    rw [received_of_nil hremaining hlength, hwritten, List.length_eq_zero_iff.1 hlength]
    rfl
  | @timeout stall remaining rs hlt _ ih =>
    rcases Nat.eq_zero_or_pos remaining with rfl | hpos
    · rw [received_of_nil hremaining hlength, hwritten, List.length_eq_zero_iff.1 hlength]
      rfl
    · rw [received_timeout (by omega) (by omega)]
      exact @ih rx.stall (by rw [← hstall]; rfl) hlength hremaining hvalidated hwrites hwritten
  | @data stall remaining len rs hpos hle hrest _ =>
    subst hlength
    exact received_first hwrite hpos hle hrest hremaining hvalidated hwrites

end Rx

lemma Request.otaReceiveAndWrite_of_delivers (signature : Bytes) (req : Request)
    (hwrite : ∀ n, req.env.writeOk n = true) (h : Delivers 0 req.recvs req.body.length) :
    ((req.otaReceiveAndWrite signature).2, (req.otaReceiveAndWrite signature).1.written) =
      if req.env.bufferOk then
        if 0 < req.rxInit.remaining then
          Rx.outcomeOf signature req.body (Rx.wholeDesc req.recvs)
        else (.ok, [])
      else (.fail, []) := by
  have hwritten : req.rxInit.written = [] := by
    rw [Rx.written, req.writes_rxInit]
    rfl
  rw [otaReceiveAndWrite]
  split
  · split
    · rename_i hpos
      have hremaining := req.remaining_rxInit.resolve_right (Int.not_le.2 hpos)
      exact Rx.received_eq_outcomeOf h hwrite rfl rfl hremaining rfl req.writes_rxInit
    · rename_i hpos
      rw [Rx.receiveLoop_of_nonpos (Int.not_lt.1 hpos), hwritten]
  · rw [hwritten]

lemma Request.remaining_rxInit_pos_iff (req : Request) :
    0 < req.rxInit.remaining ↔ 0 < req.body.length ∧ req.body.length < 2 ^ 31 := by
  have hlt := req.length_lt
  change 0 < toInt req.body.length ↔ _
  unfold toInt
  rw [Int.bmod_def, Int.emod_eq_of_lt (by omega) (by omega)]
  split <;> omega

lemma otaValidateFwDesc_ne_fail (signature : Bytes) (desc : AppDesc) :
    otaValidateFwDesc signature desc ≠ .fail := by
  unfold otaValidateFwDesc
  split_ifs <;> nofun

lemma Rx.outcomeOf_eq_iff {signature body : Bytes} (hne : body ≠ []) {whole whole' : Bool} :
    outcomeOf signature body whole = outcomeOf signature body whole' ↔ whole = whole' := by
  -- a chunk that is too short fails, and a descriptor that is looked at does not
  have hok := otaValidateFwDesc_ne_fail signature (appDesc body)
  cases whole <;> cases whole' <;> simp [outcomeOf, hne, hok, hok.symm]

/-- `ota_receive_and_write` has the same result and gives the same bytes to `esp_ota_write` in two
deliveries of a body exactly if the first chunk has the whole descriptor in both or in none of them,
or the descriptor is not looked for: there is no buffer, or the length of the body is not positive
as an `int`. -/
theorem ota_segmentation_iff (signature : Bytes) (req : Request) {rs rs' : List Recv}
    (hwrite : ∀ n, req.env.writeOk n = true) (h : Delivers 0 rs req.body.length)
    (h' : Delivers 0 rs' req.body.length) :
    let r := { req with recvs := rs }.otaReceiveAndWrite signature
    let r' := { req with recvs := rs' }.otaReceiveAndWrite signature
    (r.2 = r'.2 ∧ r.1.written = r'.1.written) ↔
      (req.env.bufferOk = true → 0 < req.body.length → req.body.length < 2 ^ 31 →
        (wbAppDescOffset + wbAppDescSize ≤ firstLen rs ↔
          wbAppDescOffset + wbAppDescSize ≤ firstLen rs')) := by
  intro r r'
  have hr := Request.otaReceiveAndWrite_of_delivers signature { req with recvs := rs } hwrite h
  have hr' := Request.otaReceiveAndWrite_of_delivers signature { req with recvs := rs' } hwrite h'
  have hpos : 0 < Rx.remaining { req with recvs := rs }.rxInit ↔ _ := req.remaining_rxInit_pos_iff
  have hpos' : 0 < Rx.remaining { req with recvs := rs' }.rxInit ↔ _ :=
    req.remaining_rxInit_pos_iff
  rw [← Prod.mk.injEq, hr, hr']
  simp only [hpos, hpos']
  by_cases hbuffer : req.env.bufferOk = true
  · by_cases hlen : 0 < req.body.length ∧ req.body.length < 2 ^ 31
    · have hne : req.body ≠ [] := List.ne_nil_of_length_pos hlen.1
      simp only [hbuffer, hlen, and_self, if_true, true_implies, Rx.outcomeOf_eq_iff hne,
        Rx.wholeDesc, decide_eq_decide]
    · simp only [hlen, if_false, true_iff]
      exact fun _ hpos hlt => absurd ⟨hpos, hlt⟩ hlen
  · simp [hbuffer]

lemma delivers_whole : Delivers 0 [.timeout, .data 480] (upload []).body.length := by
  rw [show (upload []).body.length = 480 by decide +kernel]
  exact .timeout (by decide) (.data (by decide) (by decide) .done)

lemma delivers_halves : Delivers 0 [.data 300, .data 180] (upload []).body.length := by
  rw [show (upload []).body.length = 480 by decide +kernel]
  exact .data (by decide) (by decide) (.data (by decide) (by decide) .done)

theorem ota_segmentation_shortFirst :
    let r := { upload [] with recvs := [.data 300, .data 180] }.otaReceiveAndWrite someSignature
    let r' := { upload [] with recvs := [.data 100, .timeout, .data 380] }.otaReceiveAndWrite
      someSignature
    r.2 = r'.2 ∧ r.1.written = r'.1.written := by
  have hdelivers : Delivers 0 [.data 100, .timeout, .data 380] (upload []).body.length := by
    rw [show (upload []).body.length = 480 by decide +kernel]
    exact .data (by decide) (by decide)
      (.timeout (by decide) (.data (by decide) (by decide) .done))
  exact (ota_segmentation_iff someSignature (upload []) (fun _ => rfl) delivers_halves hdelivers).2
    fun _ _ _ => by decide

/-- The same image is accepted in one chunk, and refused if the first chunk ends inside of the
descriptor. -/
theorem refused_split :
    Delivers 0 [.timeout, .data 480] (upload []).body.length ∧
      Delivers 0 [.data 300, .data 180] (upload []).body.length ∧
      ((upload [.timeout, .data 480]).otaReceiveAndWrite someSignature).2 = .ok ∧
      ((upload [.timeout, .data 480]).otaReceiveAndWrite someSignature).1.written = someImage ∧
      ((upload [.data 300, .data 180]).otaReceiveAndWrite someSignature).2 = .fail ∧
      ((upload [.data 300, .data 180]).otaReceiveAndWrite someSignature).1.written = [] :=
  ⟨delivers_whole, delivers_halves, by decide +kernel, by decide +kernel, by decide +kernel,
    by decide +kernel⟩

end WbMge.Ota
