import WbMge.ToMathlib.Sampled

/-!
# Ticks

Delays are given in milliseconds and waited for in ticks of the operating system. The tick count
wraps around, and a delay is over once two counts differ by its ticks.
-/

namespace WbMge

/-- `CONFIG_FREERTOS_HZ`. -/
def configTickRateHz : Nat := 500

/-- `pdMS_TO_TICKS`. -/
def pdMsToTicks (ms : Nat) : UInt32 := UInt32.ofNat (ms * configTickRateHz / 1000)

variable {ms first now : Nat}

lemma toNat_pdMsToTicks (hms : ms < 2 ^ 32) :
    (pdMsToTicks ms).toNat = ms * configTickRateHz / 1000 := by
  rw [pdMsToTicks, UInt32.toNat_ofNat', Nat.mod_eq_of_lt]
  rw [configTickRateHz]
  omega

lemma le_sub_of_pdMsToTicks_le (hms : ms < 2 ^ 32) (hle : first ≤ now)
    (h : pdMsToTicks ms ≤ UInt32.ofNat now - UInt32.ofNat first) :
    ms * configTickRateHz / 1000 ≤ now - first := by
  rw [← toNat_pdMsToTicks hms]
  exact Nat.le_trans (UInt32.le_iff_toNat_le.1 h) (Sampled.toNat_ofNat_sub_le hle)

end WbMge
