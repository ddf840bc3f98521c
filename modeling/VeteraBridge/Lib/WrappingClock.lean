import Mathlib.Data.UInt

/-!
# Clock readings kept in 32 bits

A clock that counts on for ever is read into a 32-bit word, and times are
compared by the difference of two readings.  The difference is the time that
went by modulo 2^32, so it is right while less than that has gone by, and a
reading that is ahead looks as old as the clock allows.
-/

namespace WrappingClock

variable {time now : Nat}

/-- The difference of two readings is the time between them modulo 2^32. -/
theorem elapsed_toNat (past : time ≤ now) :
    (UInt32.ofNat now - UInt32.ofNat time).toNat =
      (now - time) % 4294967296 := by
  rw [UInt32.toNat_sub, UInt32.toNat_ofNat', UInt32.toNat_ofNat']
  omega

theorem elapsed_toNat_le (past : time ≤ now) :
    (UInt32.ofNat now - UInt32.ofNat time).toNat ≤ now - time := by
  rw [elapsed_toNat past]
  exact Nat.mod_le _ _

theorem elapsed_toNat_of_recent (past : time ≤ now)
    (recent : now < time + 4294967296) :
    (UInt32.ofNat now - UInt32.ofNat time).toNat = now - time := by
  rw [elapsed_toNat past]
  apply Nat.mod_eq_of_lt
  omega

/-- A reading that is ahead of the clock looks older than any other. -/
theorem elapsed_toNat_of_ahead (ahead : now < time)
    (near : time < now + 4294967296) :
    (UInt32.ofNat now - UInt32.ofNat time).toNat =
      4294967296 - (time - now) := by
  rw [UInt32.toNat_sub, UInt32.toNat_ofNat', UInt32.toNat_ofNat']
  omega

/-- A time to come is read by adding to the reading. -/
theorem ofNat_add (time : Nat) (wait : UInt32) :
    UInt32.ofNat time + wait = UInt32.ofNat (time + wait.toNat) := by
  apply UInt32.toNat_inj.mp
  rw [UInt32.toNat_add, UInt32.toNat_ofNat', UInt32.toNat_ofNat']
  omega

/-- The signed difference tells whether a time is over, while the two are
within half a round of the clock. -/
theorem signed_pos_iff {due : Nat} (notLong : now < due + 2147483648)
    (notFar : due ≤ now + 2147483648) :
    0 < (UInt32.ofNat now - UInt32.ofNat due).toBitVec.toInt ↔ due < now := by
  have asNat :
      (UInt32.ofNat now - UInt32.ofNat due).toBitVec.toNat =
        (UInt32.ofNat now - UInt32.ofNat due).toNat := rfl
  rw [BitVec.toInt_eq_toNat_cond, asNat]
  by_cases past : due ≤ now
  · rw [elapsed_toNat_of_recent past (by omega)]
    split
    · omega
    · omega
  · rw [elapsed_toNat_of_ahead (not_le.mp past) (by omega)]
    split
    · omega
    · omega

end WrappingClock
