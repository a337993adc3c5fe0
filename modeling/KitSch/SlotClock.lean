import KitSch.State

/-!
# The slot clock: `GetMETSlotNumber` and `GetCurrentSlotNumber`

`getMETSlotNumber` converts the microseconds of the MET subseconds into a slot, rounding up
when one more microsecond reaches the next slot and wrapping `SCHTBL_SLOTS` to `0`.
`getCurrentSlotNumber` reads either that MET slot, re-based by `LastSyncMETSlot`, or the free
running `MinorFramesSinceTone`.

* `getMETSlotNumber_eq`: for a reading below `SCHTBL_SLOTS * SCHEDULER_NORMAL_SLOT_PERIOD` the
  MET slot is `((us + 1) / P) % SCHTBL_SLOTS`, so it is below `SCHTBL_SLOTS`;
* `getCurrentSlotNumber_lt`: with the re-basing offset and the minor frame counter in range,
  the current slot is in range.
-/

namespace KitSch

variable (cfg : SchedulerConfig)

/-- `GetMETSlotNumber`, given what `CFE_TIME_Sub2MicroSecs` returned for the MET subseconds. -/
def getMETSlotNumber (microSeconds : ℕ) : ℕ :=
  let metSlot := microSeconds / cfg.normalSlotPeriod
  let remainder := microSeconds - metSlot * cfg.normalSlotPeriod + 1
  let metSlot := metSlot + remainder / cfg.normalSlotPeriod
  if metSlot = cfg.schtblSlots then 0 else metSlot

/-- `GetCurrentSlotNumber`; `microSeconds` is the MET reading it takes when synchronized to MET. -/
def getCurrentSlotNumber (s : SchedulerClass) (microSeconds : ℕ) : ℕ :=
  if s.syncToMET ≠ synchFalse then
    let currentSlot := getMETSlotNumber cfg microSeconds
    if currentSlot < s.lastSyncMETSlot then currentSlot + cfg.schtblSlots - s.lastSyncMETSlot
    else currentSlot - s.lastSyncMETSlot
  else s.minorFramesSinceTone

/-- A MET reading the slot clock can be given: below one major frame of slots. -/
def MetReading (us : ℕ) : Prop := us < cfg.schtblSlots * cfg.normalSlotPeriod

instance (us : ℕ) : Decidable (MetReading cfg us) := inferInstanceAs (Decidable (_ < _))

/-- The division and the rounding step of `GetMETSlotNumber` together divide `us + 1`. -/
theorem metSlot_add_round (P us : ℕ) :
    us / P + (us - us / P * P + 1) / P = (us + 1) / P := by
  rcases Nat.eq_zero_or_pos P with rfl | hP
  · simp
  have hd := Nat.div_add_mod us P
  have hr : us - us / P * P = us % P := by rw [Nat.mul_comm]; omega
  have hs : us + 1 = (us % P + 1) + P * (us / P) := by omega
  rw [hr, hs, Nat.add_mul_div_left _ _ hP]
  omega

theorem getMETSlotNumber_eq {us : ℕ} (h : MetReading cfg us) :
    getMETSlotNumber cfg us = (us + 1) / cfg.normalSlotPeriod % cfg.schtblSlots := by
  have hP : 0 < cfg.normalSlotPeriod := Nat.pos_of_ne_zero fun hP => by
    simp [MetReading, hP] at h
  have hle : (us + 1) / cfg.normalSlotPeriod ≤ cfg.schtblSlots :=
    Nat.div_le_of_le_mul (by unfold MetReading at h; rw [Nat.mul_comm]; omega)
  simp only [getMETSlotNumber, metSlot_add_round]
  split
  · rename_i heq; rw [heq, Nat.mod_self]
  · rename_i hne; exact (Nat.mod_eq_of_lt (by omega)).symm

theorem getMETSlotNumber_lt {us : ℕ} (h : MetReading cfg us) :
    getMETSlotNumber cfg us < cfg.schtblSlots := by
  rw [getMETSlotNumber_eq cfg h]
  exact Nat.mod_lt _ (Nat.pos_of_ne_zero fun hS => by simp [MetReading, hS] at h)

/-- The re-based MET slot and the minor frame counter are both slots, so the current slot is. -/
theorem getCurrentSlotNumber_lt {s : SchedulerClass} {us : ℕ} (h : MetReading cfg us)
    (hl : s.lastSyncMETSlot < cfg.schtblSlots) (hm : s.minorFramesSinceTone < cfg.schtblSlots) :
    getCurrentSlotNumber cfg s us < cfg.schtblSlots := by
  have := getMETSlotNumber_lt cfg h
  simp only [getCurrentSlotNumber]
  split_ifs <;> omega

/-- One more microsecond crosses into the next slot exactly at the last microsecond of a slot. -/
theorem succ_div_eq {P : ℕ} (hP : 0 < P) (us : ℕ) :
    (us + 1) / P = us / P + if us % P = P - 1 then 1 else 0 := by
  have hr := Nat.mod_lt us hP
  have hs : us + 1 = (us % P + 1) + P * (us / P) := by have := Nat.div_add_mod us P; omega
  rw [hs, Nat.add_mul_div_left _ _ hP, Nat.add_comm]
  congr 1
  split_ifs with h
  · rw [h, Nat.sub_add_cancel hP, Nat.div_self hP]
  · exact Nat.div_eq_of_lt (by omega)

/-- For a reading below one major frame of slots and a re-basing offset that is a slot:
`GetMETSlotNumber` is `⌊(us + 1) / P⌋ mod S`, the quotient rounded up exactly when
`us mod P = P - 1` and wrapped only when it reaches `S`; `METSlot * P` is at most the reading
and `Remainder + 1` at most the period, so neither leaves the `uint32` range of the reading and
the period; and synchronized to MET, `GetCurrentSlotNumber` is
`(METSlot - LastSyncMETSlot) mod S`. Both are slots. -/
theorem metSlot_arithmetic {us : ℕ} (h : MetReading cfg us) {s : SchedulerClass}
    (hsync : s.syncToMET ≠ synchFalse) (hl : s.lastSyncMETSlot < cfg.schtblSlots) :
    let P := cfg.normalSlotPeriod
    let S := cfg.schtblSlots
    getMETSlotNumber cfg us = (us + 1) / P % S ∧
      getMETSlotNumber cfg us =
        (if us / P + (if us % P = P - 1 then 1 else 0) = S then 0
          else us / P + if us % P = P - 1 then 1 else 0) ∧
      us / P * P ≤ us ∧ us - us / P * P + 1 ≤ P ∧
      getCurrentSlotNumber cfg s us = (getMETSlotNumber cfg us + S - s.lastSyncMETSlot) % S ∧
      getMETSlotNumber cfg us < S ∧ getCurrentSlotNumber cfg s us < S := by
  dsimp only
  have hP : 0 < cfg.normalSlotPeriod := Nat.pos_of_ne_zero fun hP => by simp [MetReading, hP] at h
  have hm := getMETSlotNumber_lt cfg h
  have hr : us - us / cfg.normalSlotPeriod * cfg.normalSlotPeriod = us % cfg.normalSlotPeriod := by
    rw [Nat.mul_comm]; have := Nat.div_add_mod us cfg.normalSlotPeriod; omega
  have hc : getCurrentSlotNumber cfg s us =
      (getMETSlotNumber cfg us + cfg.schtblSlots - s.lastSyncMETSlot) % cfg.schtblSlots := by
    simp only [getCurrentSlotNumber, if_pos hsync]
    split_ifs with hlt
    · exact (Nat.mod_eq_of_lt (by omega)).symm
    · rw [show getMETSlotNumber cfg us + cfg.schtblSlots - s.lastSyncMETSlot =
        getMETSlotNumber cfg us - s.lastSyncMETSlot + cfg.schtblSlots by omega, Nat.add_mod_right,
        Nat.mod_eq_of_lt (by omega)]
  refine ⟨getMETSlotNumber_eq cfg h, ?_, Nat.div_mul_le_self _ _, ?_, hc, hm,
    hc ▸ Nat.mod_lt _ (by omega)⟩
  · simp only [getMETSlotNumber]
    rw [metSlot_add_round, succ_div_eq hP]
  · rw [hr]; exact Nat.mod_lt us hP

theorem metSlot_arithmetic_demo :
    MetReading demoConfig 749999 ∧
      getMETSlotNumber demoConfig 749999 = (749999 + 1) / 250000 % 4 :=
  ⟨by decide, (metSlot_arithmetic demoConfig (s := { staticStorage with syncToMET := 1 })
    (by decide) (by decide) (by decide)).1⟩

/-- The current slot reads `SyncToMET`, `LastSyncMETSlot` and `MinorFramesSinceTone` only. -/
theorem getCurrentSlotNumber_congr {s t : SchedulerClass} (h1 : s.syncToMET = t.syncToMET)
    (h2 : s.lastSyncMETSlot = t.lastSyncMETSlot)
    (h3 : s.minorFramesSinceTone = t.minorFramesSinceTone) (us : ℕ) :
    getCurrentSlotNumber cfg s us = getCurrentSlotNumber cfg t us := by
  simp only [getCurrentSlotNumber, h1, h2, h3]

end KitSch
