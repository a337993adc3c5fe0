import KitSch.SlotClock
import KitSch.SlotExecutor

/-!
# The wakeup reconciler: `SCHEDULER_Execute`

After the semaphore take, `SCHEDULER_Execute` re-arms or sends the noisy major frame message,
reads the current slot, and decides how many slots to process: the slots due since
`NextSlotNumber` (`firstProcessCount`), corrected for a timer one slot late or early
(`jitterCorrection`), none when the slot did not advance (`sameSlotCheck`), only the current
slot when too far behind (`lagLimit`), and at most `SCHEDULER_MAX_SLOTS_PER_WAKEUP`
(`throughputCap`). `wakeupReconciler` is everything after the slot reading.

* `firstProcessCount_eq`: for slots in range the first count is `(c - n) mod SLOTS + 1`;
* `wakeupReconciler_eq`: the wakeup is `processSlots` run from the state the decisions leave;
* `position_wakeupReconciler`: the absolute position moves by the slots processed, plus the
  distance to the current slot when the lag limit skipped.
-/

namespace KitSch

variable (cfg : SchedulerConfig) (sent : ℕ → Bool)

/-- Lines 693-706: report a noisy major frame once while it is ignored, re-arm the report
otherwise. -/
def noisyMajorFrameCheck (s : SchedulerClass) : SchedulerClass × List Event :=
  if s.ignoreMajorFrame then
    if s.sendNoisyMajorFrameMsg then
      ({ s with sendNoisyMajorFrameMsg := false }, [.noisyMajorFrame s.minorFramesSinceTone])
    else (s, [])
  else ({ s with sendNoisyMajorFrameMsg := true }, [])

/-- Lines 711-719: the slots due from `NextSlotNumber` up to `CurrentSlot`, across the
rollover. -/
def firstProcessCount (nextSlotNumber currentSlot : ℕ) : ℕ :=
  if currentSlot < nextSlotNumber then cfg.schtblSlots - nextSlotNumber + (currentSlot + 1)
  else currentSlot - nextSlotNumber + 1

/-- Lines 733-761: the jitter correction, as (`ProcessCount`, `LastProcessCount`). -/
def jitterCorrection (lastProcessCount processCount : ℕ) : ℕ × ℕ :=
  if processCount = 2 then (if lastProcessCount = 1 then 1 else processCount, 2)
  else if processCount = cfg.schtblSlots then
    (if lastProcessCount ≠ cfg.schtblSlots then 1 else processCount, cfg.schtblSlots)
  else (processCount, processCount)

/-- Lines 766-774: a wakeup in the slot already processed processes nothing. -/
def sameSlotCheck (currentSlot : ℕ) (s : SchedulerClass) (processCount : ℕ) :
    SchedulerClass × ℕ × List Event :=
  if processCount = cfg.schtblSlots then
    ({ s with sameSlotCount := s.sameSlotCount + 1 }, 0, [.sameSlot currentSlot])
  else (s, processCount, [])

/-- Lines 777-809: too far behind, jump to the current slot and process only it. -/
def lagLimit (currentSlot : ℕ) (s : SchedulerClass) (processCount : ℕ) :
    SchedulerClass × ℕ × List Event :=
  if processCount > cfg.maxLagCount then
    let s' := { s with skippedSlotsCount := s.skippedSlotsCount + 1 }
    let s' := if currentSlot < s'.nextSlotNumber then
      { s' with tablePassCount := s'.tablePassCount + 1 } else s'
    ({ s' with nextSlotNumber := currentSlot }, 1,
      [.skippedSlots s.nextSlotNumber (processCount - 1)])
  else (s, processCount, [])

/-- Lines 814-817: at most `SCHEDULER_MAX_SLOTS_PER_WAKEUP` slots per wakeup. -/
def throughputCap (processCount : ℕ) : ℕ :=
  if processCount > cfg.maxSlotsPerWakeup then cfg.maxSlotsPerWakeup else processCount

/-- Lines 820-831: count a wakeup that processes several slots. -/
def multiSlotCheck (s : SchedulerClass) (processCount : ℕ) : SchedulerClass × List Event :=
  if processCount > 1 then
    ({ s with multipleSlotsCount := s.multipleSlotsCount + 1 },
      if processCount > s.worstCaseSlotsPerMinorFrame.toNat ∨ s.syncToMET = synchFalse then
        [.multiSlots s.nextSlotNumber processCount] else [])
  else (s, [])

/-- Lines 711-774: the slots due after the jitter correction and the same-slot check. -/
def slotsDue (s : SchedulerClass) (currentSlot : ℕ) : SchedulerClass × ℕ × List Event :=
  let jc := jitterCorrection cfg s.lastProcessCount
    (firstProcessCount cfg s.nextSlotNumber currentSlot)
  sameSlotCheck cfg currentSlot { s with lastProcessCount := jc.2 } jc.1

/-- Lines 711-831: the state and the `ProcessCount` the slot loop starts from, and the events
reported on the way. -/
def reconcileDecision (s : SchedulerClass) (currentSlot : ℕ) : SchedulerClass × ℕ × List Event :=
  let r1 := slotsDue cfg s currentSlot
  let r2 := lagLimit cfg currentSlot r1.1 r1.2.1
  let processCount := throughputCap cfg r2.2.1
  let r3 := multiSlotCheck r2.1 processCount
  (r3.1, processCount, r1.2.2 ++ r2.2.2 ++ r3.2)

/-- `SCHEDULER_Execute` from line 711 on, once `GetCurrentSlotNumber` returned `currentSlot`. -/
def wakeupReconciler (s : SchedulerClass) (currentSlot : ℕ) : SchedulerClass × Wakeup :=
  let d := reconcileDecision cfg s currentSlot
  let r := processSlots cfg sent d.2.1 d.1
  (r.1, Wakeup.mk d.2.2 r.2)

/-- `SCHEDULER_Execute`: `take` is whether `OS_BinSemTake` succeeded and `microSeconds` the
MET reading `GetCurrentSlotNumber` takes. `none` is a failed take, where it returns `false`;
otherwise it returns `true`. -/
def schedulerExecute (s : SchedulerClass) (take : Bool) (microSeconds : ℕ) :
    SchedulerClass × Option Wakeup :=
  if take then
    let r0 := noisyMajorFrameCheck s
    let r := wakeupReconciler cfg sent r0.1 (getCurrentSlotNumber cfg r0.1 microSeconds)
    (r.1, some (Wakeup.mk (r0.2 ++ r.2.events) r.2.runs))
  else (s, none)

@[simp] theorem schedulerExecute_false (s : SchedulerClass) (us : ℕ) :
    schedulerExecute cfg sent s false us = (s, none) := rfl

theorem schedulerExecute_true (s : SchedulerClass) (us : ℕ) :
    schedulerExecute cfg sent s true us =
      ((wakeupReconciler cfg sent (noisyMajorFrameCheck s).1
          (getCurrentSlotNumber cfg (noisyMajorFrameCheck s).1 us)).1,
        some (Wakeup.mk ((noisyMajorFrameCheck s).2 ++ (wakeupReconciler cfg sent
          (noisyMajorFrameCheck s).1 (getCurrentSlotNumber cfg (noisyMajorFrameCheck s).1 us)).2.events)
          (wakeupReconciler cfg sent (noisyMajorFrameCheck s).1
            (getCurrentSlotNumber cfg (noisyMajorFrameCheck s).1 us)).2.runs)) := rfl

/-! ## The decisions -/

theorem noisyMajorFrameCheck_fst (s : SchedulerClass) :
    (noisyMajorFrameCheck s).1 = { s with sendNoisyMajorFrameMsg := !s.ignoreMajorFrame } := by
  cases s
  simp only [noisyMajorFrameCheck]
  split_ifs <;> simp_all

theorem firstProcessCount_eq {n c : ℕ} (hn : n < cfg.schtblSlots) (hc : c < cfg.schtblSlots) :
    firstProcessCount cfg n c = (c + cfg.schtblSlots - n) % cfg.schtblSlots + 1 := by
  unfold firstProcessCount
  split_ifs
  · rw [Nat.mod_eq_of_lt (by omega)]; omega
  · rw [show c + cfg.schtblSlots - n = c - n + cfg.schtblSlots by omega, Nat.add_mod_right,
      Nat.mod_eq_of_lt (by omega)]

/-- The jitter correction, case by case. -/
theorem jitterCorrection_cases (last pc : ℕ) :
    (pc = 2 ∧ (jitterCorrection cfg last pc).2 = 2 ∧
        (last = 1 ∧ (jitterCorrection cfg last pc).1 = 1 ∨
          last ≠ 1 ∧ (jitterCorrection cfg last pc).1 = 2)) ∨
      (pc ≠ 2 ∧ pc = cfg.schtblSlots ∧ (jitterCorrection cfg last pc).2 = pc ∧
        (last ≠ pc ∧ (jitterCorrection cfg last pc).1 = 1 ∨
          last = pc ∧ (jitterCorrection cfg last pc).1 = pc)) ∨
      (pc ≠ 2 ∧ pc ≠ cfg.schtblSlots ∧ (jitterCorrection cfg last pc).1 = pc ∧
        (jitterCorrection cfg last pc).2 = pc) := by
  unfold jitterCorrection
  split_ifs <;> simp_all

theorem jitterCorrection_fst_le {last pc : ℕ} (h : 1 ≤ pc) :
    (jitterCorrection cfg last pc).1 ≤ pc := by
  unfold jitterCorrection; split_ifs <;> omega

theorem jitterCorrection_snd_le {last pc : ℕ} (h : pc ≤ cfg.schtblSlots) :
    (jitterCorrection cfg last pc).2 ≤ cfg.schtblSlots := by
  unfold jitterCorrection; split_ifs <;> omega

theorem sameSlotCheck_fst (c : ℕ) (s : SchedulerClass) (pc : ℕ) :
    (sameSlotCheck cfg c s pc).1 = { s with
      sameSlotCount := if pc = cfg.schtblSlots then s.sameSlotCount + 1 else s.sameSlotCount } := by
  unfold sameSlotCheck; split_ifs <;> rfl

theorem sameSlotCheck_count (c : ℕ) (s : SchedulerClass) (pc : ℕ) :
    (sameSlotCheck cfg c s pc).2.1 = if pc = cfg.schtblSlots then 0 else pc := by
  unfold sameSlotCheck; split_ifs <;> rfl

theorem lagLimit_fst (c : ℕ) (s : SchedulerClass) (pc : ℕ) :
    (lagLimit cfg c s pc).1 = if cfg.maxLagCount < pc then
      { s with
        skippedSlotsCount := s.skippedSlotsCount + 1
        tablePassCount := if c < s.nextSlotNumber then s.tablePassCount + 1 else s.tablePassCount
        nextSlotNumber := c }
      else s := by
  unfold lagLimit; dsimp only; split_ifs <;> rfl

theorem lagLimit_count (c : ℕ) (s : SchedulerClass) (pc : ℕ) :
    (lagLimit cfg c s pc).2.1 = if cfg.maxLagCount < pc then 1 else pc := by
  unfold lagLimit; split_ifs <;> rfl

theorem throughputCap_le (pc : ℕ) : throughputCap cfg pc ≤ cfg.maxSlotsPerWakeup := by
  unfold throughputCap; split_ifs <;> omega

theorem throughputCap_le_self (pc : ℕ) : throughputCap cfg pc ≤ pc := by
  unfold throughputCap; split_ifs <;> omega

theorem multiSlotCheck_fst (s : SchedulerClass) (pc : ℕ) :
    (multiSlotCheck s pc).1 = { s with
      multipleSlotsCount := if 1 < pc then s.multipleSlotsCount + 1 else s.multipleSlotsCount } := by
  unfold multiSlotCheck; split_ifs <;> rfl

theorem slotsDue_fst (s : SchedulerClass) (c : ℕ) :
    (slotsDue cfg s c).1 = { s with
      lastProcessCount := (jitterCorrection cfg s.lastProcessCount
        (firstProcessCount cfg s.nextSlotNumber c)).2
      sameSlotCount := (slotsDue cfg s c).1.sameSlotCount } := by
  simp only [slotsDue, sameSlotCheck_fst]

/-- The decisions move only `LastProcessCount`, three counters, and the slot position when the
lag limit skips to the current slot. -/
theorem reconcileDecision_fst (s : SchedulerClass) (c : ℕ) :
    (reconcileDecision cfg s c).1 = { s with
      lastProcessCount := (jitterCorrection cfg s.lastProcessCount
        (firstProcessCount cfg s.nextSlotNumber c)).2
      sameSlotCount := (slotsDue cfg s c).1.sameSlotCount
      skippedSlotsCount := if cfg.maxLagCount < (slotsDue cfg s c).2.1 then
        s.skippedSlotsCount + 1 else s.skippedSlotsCount
      tablePassCount := if cfg.maxLagCount < (slotsDue cfg s c).2.1 ∧ c < s.nextSlotNumber then
        s.tablePassCount + 1 else s.tablePassCount
      nextSlotNumber := if cfg.maxLagCount < (slotsDue cfg s c).2.1 then c else s.nextSlotNumber
      multipleSlotsCount := (reconcileDecision cfg s c).1.multipleSlotsCount } := by
  simp only [reconcileDecision, multiSlotCheck_fst, lagLimit_fst]
  rw [slotsDue_fst]
  split_ifs <;> simp_all

theorem reconcileDecision_count (s : SchedulerClass) (c : ℕ) :
    (reconcileDecision cfg s c).2.1 =
      throughputCap cfg (if cfg.maxLagCount < (slotsDue cfg s c).2.1 then 1 else
        (slotsDue cfg s c).2.1) := by
  simp only [reconcileDecision, lagLimit_count]

/-- `processSlots` moves only the slot position, the schedule table and its three counters. -/
theorem processSlots_eq (k : ℕ) (s : SchedulerClass) :
    (processSlots cfg sent k s).1 = { s with
      nextSlotNumber := (processSlots cfg sent k s).1.nextSlotNumber
      tablePassCount := (processSlots cfg sent k s).1.tablePassCount
      schTbl := (processSlots cfg sent k s).1.schTbl
      scheduleActivitySuccessCount := (processSlots cfg sent k s).1.scheduleActivitySuccessCount
      scheduleActivityFailureCount := (processSlots cfg sent k s).1.scheduleActivityFailureCount
      slotsProcessedCount := (processSlots cfg sent k s).1.slotsProcessedCount } := by
  induction k generalizing s with
  | zero => rfl
  | succ k ih =>
    simp only [processSlots]
    rw [ih, processNextSlot_eq]
    unfold advanceSlot
    split_ifs <;> rfl

section ProcessSlotsFrame

variable (k : ℕ) (s : SchedulerClass)

@[simp] theorem processSlots_minorFramesSinceTone :
    (processSlots cfg sent k s).1.minorFramesSinceTone = s.minorFramesSinceTone := by
  rw [processSlots_eq]

@[simp] theorem processSlots_lastSyncMETSlot :
    (processSlots cfg sent k s).1.lastSyncMETSlot = s.lastSyncMETSlot := by
  rw [processSlots_eq]

@[simp] theorem processSlots_lastProcessCount :
    (processSlots cfg sent k s).1.lastProcessCount = s.lastProcessCount := by
  rw [processSlots_eq]

@[simp] theorem processSlots_skippedSlotsCount :
    (processSlots cfg sent k s).1.skippedSlotsCount = s.skippedSlotsCount := by
  rw [processSlots_eq]

@[simp] theorem processSlots_syncToMET :
    (processSlots cfg sent k s).1.syncToMET = s.syncToMET := by
  rw [processSlots_eq]

@[simp] theorem processSlots_majorFrameSource :
    (processSlots cfg sent k s).1.majorFrameSource = s.majorFrameSource := by
  rw [processSlots_eq]

@[simp] theorem processSlots_syncAttemptsLeft :
    (processSlots cfg sent k s).1.syncAttemptsLeft = s.syncAttemptsLeft := by
  rw [processSlots_eq]

@[simp] theorem processSlots_ignoreMajorFrame :
    (processSlots cfg sent k s).1.ignoreMajorFrame = s.ignoreMajorFrame := by
  rw [processSlots_eq]

@[simp] theorem processSlots_consecutiveNoisyFrameCounter :
    (processSlots cfg sent k s).1.consecutiveNoisyFrameCounter = s.consecutiveNoisyFrameCounter := by
  rw [processSlots_eq]

@[simp] theorem processSlots_msgTbl : (processSlots cfg sent k s).1.msgTbl = s.msgTbl := by
  rw [processSlots_eq]

end ProcessSlotsFrame

/-- `SCHEDULER_Execute` moves only the slot position, `LastProcessCount`, the noisy report flag,
the schedule table and six counters. -/
theorem schedulerExecute_eq (s : SchedulerClass) (take : Bool) (us : ℕ) :
    (schedulerExecute cfg sent s take us).1 = { s with
      nextSlotNumber := (schedulerExecute cfg sent s take us).1.nextSlotNumber
      tablePassCount := (schedulerExecute cfg sent s take us).1.tablePassCount
      lastProcessCount := (schedulerExecute cfg sent s take us).1.lastProcessCount
      sendNoisyMajorFrameMsg := (schedulerExecute cfg sent s take us).1.sendNoisyMajorFrameMsg
      schTbl := (schedulerExecute cfg sent s take us).1.schTbl
      slotsProcessedCount := (schedulerExecute cfg sent s take us).1.slotsProcessedCount
      skippedSlotsCount := (schedulerExecute cfg sent s take us).1.skippedSlotsCount
      multipleSlotsCount := (schedulerExecute cfg sent s take us).1.multipleSlotsCount
      sameSlotCount := (schedulerExecute cfg sent s take us).1.sameSlotCount
      scheduleActivitySuccessCount :=
        (schedulerExecute cfg sent s take us).1.scheduleActivitySuccessCount
      scheduleActivityFailureCount :=
        (schedulerExecute cfg sent s take us).1.scheduleActivityFailureCount } := by
  cases take
  · rfl
  · rw [schedulerExecute_true]
    simp only [wakeupReconciler]
    rw [processSlots_eq, reconcileDecision_fst, noisyMajorFrameCheck_fst]

end KitSch
