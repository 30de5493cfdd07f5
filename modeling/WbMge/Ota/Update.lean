import WbMge.Ota.Receive

/-!
# Updates over a boot

What the device boots from after any requests to `POST /update`: only a partition into which the
whole body of one request was written, a firmware for this device. After that it begins no other
update. `Update` lists how `ota_update_from_http` can end, and `Safe` is what holds of each request,
given the ones before it.
-/

namespace WbMge.Ota

/-! ## One request -/

section Request

variable {signature : Bytes} {req : Request}

lemma Request.otaReceiveAndWrite_ok {rx : Rx}
    (h : req.otaReceiveAndWrite signature = (rx, .ok)) (hne : rx.writes ≠ []) :
    ∃ chunks : List Bytes, rx.writes = chunks.map (·, true) ∧ chunks.flatten = req.body ∧
      IsFirmwareFor signature req.body := by
  rw [otaReceiveAndWrite] at h
  split at h
  · rcases req.remaining_rxInit with hremaining | hle
    · have hinit : req.rxInit.Consistent signature req.body := by
        refine ⟨rfl, ?_, hremaining, ?_, fun _ => rfl⟩
        · rintro _ ⟨⟩
        · rintro ⟨⟩
      obtain ⟨hrx, hunread⟩ := hinit.receiveLoop h
      have hbody := hrx.body_eq
      rw [hunread, List.append_nil] at hbody
      refine ⟨rx.writes.map Prod.fst, ?_, hbody, ?_⟩
      · rw [List.map_map]
        conv_lhs => rw [← List.map_id rx.writes]
        apply List.map_congr_left
        intro w hw
        exact Prod.ext rfl (hrx.writes_ok w hw)
      · apply hrx.validated
        by_contra hvalidated
        exact hne (hrx.first (Bool.eq_false_iff.2 hvalidated))
    · -- the loop is not entered
      have hrx : rx = req.rxInit := by
        cases hrecvs : req.recvs with
        | nil =>
          rw [hrecvs] at h
          exact (congrArg Prod.fst h).symm
        | cons r rs =>
          rw [hrecvs, Rx.receiveLoop, if_pos hle] at h
          exact (congrArg Prod.fst h).symm
      rw [hrx] at hne
      exact absurd req.writes_rxInit hne
  · cases h

/-- How `ota_update_from_http` can end: the state it leaves, and its calls. -/
inductive Update (signature body : Bytes) : OtaState → List Call → Prop
  | refused : Update signature body .idle []
  | notBegun : Update signature body .idle [.otaBegin false]
  | aborted (writes : List (Bytes × Bool)) :
      Update signature body .idle
        (.otaBegin true :: (writes.map (fun w => .otaWrite w.1 w.2) ++ [.otaAbort]))
  | notEnded (writes : List (Bytes × Bool)) :
      Update signature body .idle
        (.otaBegin true :: (writes.map (fun w => .otaWrite w.1 w.2) ++ [.otaEnd false]))
  | notSwitched (chunks : List Bytes) : chunks.flatten = body → IsFirmwareFor signature body →
      Update signature body .idle
        (.otaBegin true ::
          (chunks.map (.otaWrite · true) ++ [.otaEnd true, .setBootPartition false]))
  | switched (chunks : List Bytes) : chunks.flatten = body → IsFirmwareFor signature body →
      Update signature body .pendingReboot
        (.otaBegin true ::
          (chunks.map (.otaWrite · true) ++ [.otaEnd true, .setBootPartition true]))

lemma Update.of_otaReceiveAndFinalize (signature : Bytes) (req : Request) :
    Update signature req.body (req.otaReceiveAndFinalize signature).1
      (.otaBegin true :: (req.otaReceiveAndFinalize signature).2.1) := by
  unfold Request.otaReceiveAndFinalize
  obtain ⟨⟨rx, err⟩, hreceived⟩ : ∃ r, req.otaReceiveAndWrite signature = r := ⟨_, rfl⟩
  rw [hreceived]
  dsimp only
  by_cases herr : err = .ok
  · subst herr
    rw [if_neg (not_not.2 rfl)]
    by_cases hend : (req.env.endOk && !rx.writes.isEmpty) = true
    · -- something was written, so it was the whole body
      obtain ⟨chunks, hwrites, hbody, hfirmware⟩ : ∃ chunks : List Bytes,
          rx.writes = chunks.map (·, true) ∧ chunks.flatten = req.body ∧
            IsFirmwareFor signature req.body := by
        apply Request.otaReceiveAndWrite_ok hreceived
        rw [Bool.and_eq_true, Bool.not_eq_true', List.isEmpty_eq_false_iff] at hend
        exact hend.2
      have hcalls : rx.writes.map (fun w => Call.otaWrite w.1 w.2) =
          chunks.map (.otaWrite · true) := by
        rw [hwrites, List.map_map]
        rfl
      simp only [Request.otaFinalizeUpdate, if_pos hend, hcalls]
      cases req.env.setBootOk with
      | true => exact .switched chunks hbody hfirmware
      | false => exact .notSwitched chunks hbody hfirmware
    · simp only [Request.otaFinalizeUpdate, if_neg hend]
      exact .notEnded rx.writes
  · rw [if_pos herr]
    exact .aborted rx.writes

lemma Request.state_otaUpdateFromHttp (signature : Bytes) (req : Request) :
    (req.otaUpdateFromHttp signature).1 =
      if (req.otaUpdateFromHttp signature).2.2.isOk then .pendingReboot else .idle := by
  have hfinalize : (req.otaReceiveAndFinalize signature).1 =
      if (req.otaReceiveAndFinalize signature).2.2.isOk then .pendingReboot else .idle := by
    simp only [otaReceiveAndFinalize]
    split
    · rfl
    · split <;> rfl
  simp only [otaUpdateFromHttp]
  split
  · rfl
  · split
    · rfl
    · exact hfinalize

lemma Update.of_otaUpdateFromHttp (signature : Bytes) (req : Request) :
    Update signature req.body (req.otaUpdateFromHttp signature).1
      (req.otaUpdateFromHttp signature).2.1 := by
  unfold Request.otaUpdateFromHttp Request.otaBeginUpdate
  split
  · exact .refused
  cases req.env.partitionOk with
  | false => exact .refused
  | true =>
    cases req.env.beginOk with
    | false => exact .notBegun
    | true => exact .of_otaReceiveAndFinalize signature req

end Request

/-! ## All requests -/

def Call.closes : Call → Bool
  | .otaEnd _ | .otaAbort => true
  | _ => false

section Calls

variable {signature body : Bytes} {state : OtaState} {calls : List Call}

lemma Update.setBootPartition_mem_iff (h : Update signature body state calls) :
    .setBootPartition true ∈ calls ↔ state = .pendingReboot := by
  cases h <;> simp

lemma Update.state_cases (h : Update signature body state calls) :
    state = .idle ∨ state = .pendingReboot := by
  cases h <;> simp

lemma Update.of_setBootPartition (h : Update signature body state calls) {ok : Bool}
    (hmem : .setBootPartition ok ∈ calls) :
    IsFirmwareFor signature body ∧ ∃ chunks : List Bytes, chunks.flatten = body ∧
      calls = .otaBegin true ::
        (chunks.map (.otaWrite · true) ++ [.otaEnd true, .setBootPartition ok]) := by
  cases h with
  | refused | notBegun | aborted writes | notEnded writes => simp at hmem
  | notSwitched chunks hbody hfirmware =>
    obtain rfl : ok = false := by simpa using hmem
    exact ⟨hfirmware, chunks, hbody, rfl⟩
  | switched chunks hbody hfirmware =>
    obtain rfl : ok = true := by simpa using hmem
    exact ⟨hfirmware, chunks, hbody, rfl⟩

lemma Update.countP_closes (h : Update signature body state calls) :
    calls.countP Call.closes = if .otaBegin true ∈ calls then 1 else 0 := by
  cases h <;> simp [List.countP_cons, List.countP_append, List.countP_map, Function.comp_def,
    Call.closes]

end Calls

/-- The request changes the partition to boot from. -/
def Served.Switches (r : Served) : Prop := .setBootPartition true ∈ r.outcome.calls
deriving Decidable

/-- What holds of a request that was served after the requests `earlier` of the same boot. -/
structure Safe (signature : Bytes) (earlier : List Served) (r : Served) : Prop where
  written : ∀ ok, .setBootPartition ok ∈ r.outcome.calls →
    IsFirmwareFor signature r.request.body ∧ ∃ chunks : List Bytes,
      chunks.flatten = r.request.body ∧
      r.outcome.calls = .otaBegin true ::
        (chunks.map (.otaWrite · true) ++ [.otaEnd true, .setBootPartition ok]) ++
        if ok then [.reboot] else []
  once : (∃ r' ∈ earlier, r'.Switches) → ∀ ok, .otaBegin ok ∉ r.outcome.calls
  idle : (∀ r' ∈ earlier, ¬ r'.Switches) → ¬ r.Switches → r.outcome.state = .idle
  pending : (∃ r' ∈ earlier, r'.Switches) → r.outcome.state = .pendingReboot
  closed : r.outcome.calls.countP Call.closes =
    if .otaBegin true ∈ r.outcome.calls then 1 else 0

section Requests

variable {signature : Bytes} {log : List Served} {state : OtaState}

structure Tracks (log : List Served) (state : OtaState) : Prop where
  pending : (∃ r ∈ log, r.Switches) → state = .pendingReboot
  idle : (∀ r ∈ log, ¬ r.Switches) → state = .idle

lemma Request.otaUpdatePostHandler_cases (signature : Bytes) (req : Request) (state : OtaState) :
    let o := req.otaUpdatePostHandler signature state
    (o.state = state ∧ o.calls = []) ∨
      state = .idle ∧ ∃ calls, Update signature req.body o.state calls ∧
        o.calls = calls ++ if o.state = .pendingReboot then [.reboot] else [] := by
  simp only [otaUpdatePostHandler]
  split
  · exact .inl ⟨rfl, rfl⟩
  split
  · exact .inl ⟨rfl, rfl⟩
  rename_i hidle
  refine .inr ⟨not_not.1 hidle, ?_⟩
  have hupdate := Update.of_otaUpdateFromHttp signature req
  have hstate := req.state_otaUpdateFromHttp signature
  split
  · rename_i state' calls message heq
    rw [heq] at hupdate hstate
    obtain rfl : state' = .idle := hstate
    exact ⟨calls, hupdate, by simp⟩
  · rename_i state' calls bytesWritten heq
    rw [heq] at hupdate hstate
    obtain rfl : state' = .pendingReboot := hstate
    exact ⟨calls, hupdate, by simp⟩

variable {r : Served}

lemma Tracks.safe_of_nil (h : Tracks log state) (hstate : r.outcome.state = state)
    (hcalls : r.outcome.calls = []) : Safe signature log r where
  written ok hmem := by simp [hcalls] at hmem
  once _ ok := by simp [hcalls]
  idle hearlier _ := hstate.trans (h.idle hearlier)
  pending hearlier := hstate.trans (h.pending hearlier)
  closed := by simp [hcalls]

lemma Tracks.safe_of_update (h : Tracks log .idle) {r : Served} {calls : List Call}
    (hupdate : Update signature r.request.body r.outcome.state calls)
    (hcalls : r.outcome.calls = calls ++
      if r.outcome.state = .pendingReboot then [.reboot] else []) : Safe signature log r := by
  -- nothing has switched the boot partition before
  have hearlier : ¬ ∃ r' ∈ log, r'.Switches := by
    intro hswitches
    cases h.pending hswitches
  have hmem (c : Call) (hc : c ≠ .reboot) : c ∈ r.outcome.calls ↔ c ∈ calls := by
    rw [hcalls, List.mem_append, or_iff_left]
    split <;> simp [hc]
  refine ⟨fun ok hok => ?_, fun h' => absurd h' hearlier, fun _ hswitches => ?_,
    fun h' => absurd h' hearlier, ?_⟩
  · rw [hmem _ (by simp)] at hok
    obtain ⟨hfirmware, chunks, hbody, heq⟩ := hupdate.of_setBootPartition hok
    refine ⟨hfirmware, chunks, hbody, ?_⟩
    rw [hcalls, heq]
    cases ok with
    | true => rw [if_pos (hupdate.setBootPartition_mem_iff.1 hok), if_pos rfl]
    | false =>
      have hne : r.outcome.state ≠ .pendingReboot := by
        intro hpending
        have := hupdate.setBootPartition_mem_iff.2 hpending
        simp [heq] at this
      rw [if_neg hne, if_neg Bool.false_ne_true]
  · rw [Served.Switches, hmem _ (by simp), hupdate.setBootPartition_mem_iff] at hswitches
    exact hupdate.state_cases.resolve_right hswitches
  · have hbegin : Call.otaBegin true ∈ r.outcome.calls ↔ Call.otaBegin true ∈ calls :=
      hmem _ (by simp)
    simp only [hbegin]
    rw [← hupdate.countP_closes, hcalls, List.countP_append, Nat.add_eq_left]
    split <;> rfl

lemma Safe.tracks (h : Safe signature log r)
    (hswitches : r.Switches → r.outcome.state = .pendingReboot) :
    Tracks (log ++ [r]) r.outcome.state := by
  refine ⟨?_, ?_⟩
  · rintro ⟨r', hmem, hr'⟩
    rcases List.mem_append.1 hmem with hmem | hmem
    · exact h.pending ⟨r', hmem, hr'⟩
    · rw [List.mem_singleton.1 hmem] at hr'
      exact hswitches hr'
  · intro hnone
    apply h.idle
    · exact fun r' hmem => hnone r' (List.mem_append_left _ hmem)
    · exact hnone r (by simp)

lemma Tracks.serve (h : Tracks log state) (signature : Bytes) (req : Request) :
    let r : Served := ⟨req, state, req.otaUpdatePostHandler signature state⟩
    Safe signature log r ∧ Tracks (log ++ [r]) r.outcome.state := by
  intro r
  rcases req.otaUpdatePostHandler_cases signature state with
    ⟨hstate, hcalls⟩ | ⟨rfl, calls, hupdate, hcalls⟩
  · have hsafe : Safe signature log r := h.safe_of_nil hstate hcalls
    refine ⟨hsafe, hsafe.tracks fun hswitches => ?_⟩
    have hmem : Call.setBootPartition true ∈ r.outcome.calls := hswitches
    rw [hcalls] at hmem
    cases hmem
  · have hsafe : Safe signature log r := h.safe_of_update hupdate hcalls
    refine ⟨hsafe, hsafe.tracks fun hswitches => ?_⟩
    have hmem : Call.setBootPartition true ∈ r.outcome.calls := hswitches
    rw [hcalls, List.mem_append] at hmem
    rcases hmem with hmem | hmem
    · exact hupdate.setBootPartition_mem_iff.1 hmem
    · split at hmem <;> simp at hmem

end Requests

/-- Over all requests of a boot: the device boots from the other partition only after the whole body
of a firmware for it was written there, it begins no update after that, and a request that does not
switch the boot partition has closed the handle it has opened, and leaves the module idle unless an
earlier request has switched. -/
theorem ota_safety (signature : Bytes) {log : List Served} {state : OtaState}
    (hrun : (machine signature).Run Machine.anyStep log state) :
    ∀ earlier r later, log = earlier ++ r :: later → Safe signature earlier r := by
  have hinv : Entries (Safe signature) log ∧ Tracks log state := by
    apply Machine.Run.invariant (P := fun log state => Entries (Safe signature) log ∧
      Tracks log state) ?_ ?_ hrun
    · refine ⟨.nil, ?_, fun _ => rfl⟩
      rintro ⟨r, ⟨⟩, -⟩
    · rintro log state req _ _ - ⟨hentries, htracks⟩ - hstep
      cases hstep
      obtain ⟨hsafe, htracks'⟩ := htracks.serve signature req
      exact ⟨hentries.concat hsafe, htracks'⟩
  exact hinv.1

theorem ota_safety_upload :
    ∃ log state, (machine someSignature).Run Machine.anyStep log state ∧
      ∃ earlier r, log = earlier ++ [r] ∧ earlier.length = 1 ∧ r.Switches ∧
        Safe someSignature earlier r := by
  obtain ⟨log, state, hrun, hlast⟩ := Machine.Run.exists_of_exec (machine someSignature)
    Machine.anyStep [upload [.timeout, .error], upload [.timeout, .data 480]]
    (fun log _ => log.length = 2 ∧ ∀ r ∈ log.getLast?, r.Switches) (by decide +kernel)
  obtain ⟨r₁, r₂, rfl⟩ := List.length_eq_two.1 hlast.1
  have hswitches : r₂.Switches := hlast.2 r₂ rfl
  exact ⟨_, state, hrun, [r₁], r₂, rfl, rfl, hswitches,
    ota_safety someSignature hrun [r₁] r₂ [] rfl⟩

/-- A second request in the second before the reboot is refused and leaves the module waiting. -/
theorem not_idle_uploadTwice :
    ∃ log state, (machine someSignature).Run Machine.anyStep log state ∧
      ∃ r ∈ log, ¬ r.Switches ∧ r.outcome.state ≠ .idle := by
  obtain ⟨log, state, hrun, h⟩ := Machine.Run.exists_of_exec (machine someSignature)
    Machine.anyStep [upload [.data 480], upload [.data 480]]
    (fun log _ => ∃ r ∈ log, ¬ r.Switches ∧ r.outcome.state ≠ .idle) (by decide +kernel)
  exact ⟨log, state, hrun, h⟩

end WbMge.Ota
