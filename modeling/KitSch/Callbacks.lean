import Mathlib.Data.Nat.Bitwise
import KitSch.SlotClock

/-!
# The timer callbacks: `MajorFrameCallback` and `MinorFrameCallback`

`majorFrameCallback` is the synchronization monitor: unless the clock flywheels it classifies
the tone as on time or noisy (`noisyMajorFrame`), latches `IgnoreMajorFrame` after
`SCHEDULER_MAX_NOISY_MF` consecutive noisy tones, and accepts the tone unless major frames are
ignored; in every case it records the MET slot in `LastSyncMETSlot`. `minorFrameCallback` is
the minor frame driver: on its first call with no major frame source it starts a MET
synchronization, which waits for MET slot zero for at most `SCHEDULER_MAX_SYNC_ATTEMPTS`
calls; otherwise it counts the minor frame. `SyncToMET` is a word of flags: its updates are
the C bit operations, `x & ~y` being `Nat.ldiff x y`.
-/

namespace KitSch

variable (cfg : SchedulerConfig)

/-! ## `MajorFrameCallback` -/

/-- Lines 882-886: a tone is noisy when, not synchronized to MET, it does not come in the time
sync slot, or, synchronized to MET on the minor frame, `NextSlotNumber` is neither `0` nor in
the last `WorstCaseSlotsPerMinorFrame + 1` slots. The window is `uint32` arithmetic. -/
def noisyMajorFrame (s : SchedulerClass) : Bool :=
  (s.syncToMET == synchFalse && s.minorFramesSinceTone != cfg.timeSyncSlot) ||
    (s.syncToMET == cfg.synchToMinor && s.nextSlotNumber != 0 &&
      decide (s.nextSlotNumber <
        (UInt32.ofNat cfg.schtblSlots - s.worstCaseSlotsPerMinorFrame - 1).toNat))

/-- Lines 882-920: count a noisy tone, and latch `IgnoreMajorFrame` after
`SCHEDULER_MAX_NOISY_MF` consecutive ones; an on-time tone resets the count. -/
def classifyTone (s : SchedulerClass) : SchedulerClass :=
  if noisyMajorFrame cfg s then
    let s := { s with
      unexpectedMajorFrame := true
      unexpectedMajorFrameCount := s.unexpectedMajorFrameCount + 1 }
    if !s.ignoreMajorFrame then
      let s := { s with consecutiveNoisyFrameCounter := s.consecutiveNoisyFrameCounter + 1 }
      if s.consecutiveNoisyFrameCounter ≥ cfg.maxNoisyMf then { s with ignoreMajorFrame := true }
      else s
    else s
  else { s with unexpectedMajorFrame := false, consecutiveNoisyFrameCounter := 0 }

/-- Lines 925-958: unless major frames are ignored, restart the minor frame timer, take slot
zero from the tone and give the wakeup semaphore. -/
def acceptTone (s : SchedulerClass) : SchedulerClass × Signals :=
  if s.ignoreMajorFrame = false then
    ({ s with
        validMajorFrameCount := s.validMajorFrameCount + 1
        minorFramesSinceTone := 0
        majorFrameSource := .cfeTime
        syncToMET := s.syncToMET &&& cfg.synchToMinor },
      ⟨[(cfg.normalSlotPeriod, cfg.normalSlotPeriod)], true⟩)
  else (s, ⟨[], false⟩)

/-- Lines 866-960: the response to a tone; none while the clock flywheels. -/
def toneResponse (s : SchedulerClass) (flying : Bool) : SchedulerClass × Signals :=
  if flying then (s, ⟨[], false⟩) else acceptTone cfg (classifyTone cfg s)

/-- `MajorFrameCallback`: `flying` is whether `CFE_TIME_GetClockInfo` has `CFE_TIME_FLAG_FLYING`
set, `microSeconds` the MET reading it takes at its end. -/
def majorFrameCallback (s : SchedulerClass) (flying : Bool) (microSeconds : ℕ) :
    SchedulerClass × Signals :=
  let r := toneResponse cfg s flying
  ({ r.1 with lastSyncMETSlot := getMETSlotNumber cfg microSeconds }, r.2)

/-! ## `MinorFrameCallback` -/

/-- Lines 997-1005: the first timer callback before any major frame starts a MET
synchronization. -/
def startMetSync (s : SchedulerClass) : SchedulerClass :=
  if s.majorFrameSource = .none then
    { s with
      majorFrameSource := .minorFrameTimer
      syncToMET := s.syncToMET ||| cfg.synchMajorPending
      syncAttemptsLeft := cfg.maxSyncAttempts
      lastSyncMETSlot := 0 }
  else s

/-- Lines 1051-1089: a minor frame count reaching `SCHTBL_SLOTS` rolls over with a short slot,
the time sync slot starts the long slot timer, and the wakeup semaphore is given. -/
def minorFrameTail (s : SchedulerClass) (timerSets : List (ℕ × ℕ)) : SchedulerClass × Signals :=
  let r := if s.minorFramesSinceTone ≥ cfg.schtblSlots then
      ({ s with minorFramesSinceTone := 0, missedMajorFrameCount := s.missedMajorFrameCount + 1 },
        timerSets ++ [(cfg.shortSlotPeriod, cfg.normalSlotPeriod)])
    else (s, timerSets)
  (r.1, ⟨if r.1.minorFramesSinceTone = cfg.timeSyncSlot then r.2 ++ [(cfg.syncSlotPeriod, 0)]
    else r.2, true⟩)

/-- Lines 1011-1049: while a MET synchronization is pending, wait for MET slot zero; a call that
finds it, or that uses the last attempt, synchronizes the major frame to MET. `SyncAttemptsLeft`
is never decremented from zero while the synchronization is pending (`SyncInv` in
`KitSch.SyncFlags`). -/
def minorFrameCallback (s : SchedulerClass) (microSeconds : ℕ) : SchedulerClass × Signals :=
  let s := startMetSync cfg s
  if s.syncToMET &&& cfg.synchMajorPending ≠ 0 ∧ s.majorFrameSource = .minorFrameTimer then
    let s := { s with syncAttemptsLeft := s.syncAttemptsLeft - 1 }
    let currentSlot := getMETSlotNumber cfg microSeconds
    let t := [(cfg.normalSlotPeriod, cfg.normalSlotPeriod)]
    if currentSlot ≠ 0 ∧ s.syncAttemptsLeft > 0 then (s, ⟨t, false⟩)
    else minorFrameTail cfg { s with
      syncToMET := Nat.ldiff s.syncToMET cfg.synchMajorPending ||| cfg.synchToMajor
      minorFramesSinceTone := currentSlot
      lastSyncMETSlot := 0 } t
  else minorFrameTail cfg { s with minorFramesSinceTone := s.minorFramesSinceTone + 1 } []

/-! ## What each callback can change -/

theorem classifyTone_eq (s : SchedulerClass) :
    classifyTone cfg s = { s with
      unexpectedMajorFrame := (classifyTone cfg s).unexpectedMajorFrame
      unexpectedMajorFrameCount := (classifyTone cfg s).unexpectedMajorFrameCount
      consecutiveNoisyFrameCounter := (classifyTone cfg s).consecutiveNoisyFrameCounter
      ignoreMajorFrame := (classifyTone cfg s).ignoreMajorFrame } := by
  unfold classifyTone; dsimp only; split_ifs <;> rfl

theorem acceptTone_fst (s : SchedulerClass) :
    (acceptTone cfg s).1 = if s.ignoreMajorFrame = false then
      { s with
        validMajorFrameCount := s.validMajorFrameCount + 1
        minorFramesSinceTone := 0
        majorFrameSource := .cfeTime
        syncToMET := s.syncToMET &&& cfg.synchToMinor } else s := by
  unfold acceptTone; split_ifs <;> rfl

theorem majorFrameCallback_fst (s : SchedulerClass) (flying : Bool) (us : ℕ) :
    (majorFrameCallback cfg s flying us).1 =
      { (toneResponse cfg s flying).1 with lastSyncMETSlot := getMETSlotNumber cfg us } := rfl

theorem minorFrameTail_fst (s : SchedulerClass) (t : List (ℕ × ℕ)) :
    (minorFrameTail cfg s t).1 = if s.minorFramesSinceTone ≥ cfg.schtblSlots then
      { s with minorFramesSinceTone := 0, missedMajorFrameCount := s.missedMajorFrameCount + 1 }
      else s := by
  unfold minorFrameTail; split_ifs <;> rfl

/-- `MajorFrameCallback` changes only the tone monitor's fields and the minor frame clock. -/
theorem majorFrameCallback_eq (s : SchedulerClass) (flying : Bool) (us : ℕ) :
    (majorFrameCallback cfg s flying us).1 = { s with
      unexpectedMajorFrame := (majorFrameCallback cfg s flying us).1.unexpectedMajorFrame
      unexpectedMajorFrameCount := (majorFrameCallback cfg s flying us).1.unexpectedMajorFrameCount
      consecutiveNoisyFrameCounter :=
        (majorFrameCallback cfg s flying us).1.consecutiveNoisyFrameCounter
      ignoreMajorFrame := (majorFrameCallback cfg s flying us).1.ignoreMajorFrame
      validMajorFrameCount := (majorFrameCallback cfg s flying us).1.validMajorFrameCount
      minorFramesSinceTone := (majorFrameCallback cfg s flying us).1.minorFramesSinceTone
      majorFrameSource := (majorFrameCallback cfg s flying us).1.majorFrameSource
      syncToMET := (majorFrameCallback cfg s flying us).1.syncToMET
      lastSyncMETSlot := getMETSlotNumber cfg us } := by
  rw [majorFrameCallback_fst, toneResponse]
  split
  · rfl
  · rw [acceptTone_fst, classifyTone_eq]; split_ifs <;> rfl

/-- `MinorFrameCallback` changes only the minor frame clock and the MET synchronization. -/
theorem minorFrameCallback_eq (s : SchedulerClass) (us : ℕ) :
    (minorFrameCallback cfg s us).1 = { s with
      minorFramesSinceTone := (minorFrameCallback cfg s us).1.minorFramesSinceTone
      missedMajorFrameCount := (minorFrameCallback cfg s us).1.missedMajorFrameCount
      majorFrameSource := (minorFrameCallback cfg s us).1.majorFrameSource
      syncToMET := (minorFrameCallback cfg s us).1.syncToMET
      syncAttemptsLeft := (minorFrameCallback cfg s us).1.syncAttemptsLeft
      lastSyncMETSlot := (minorFrameCallback cfg s us).1.lastSyncMETSlot } := by
  unfold minorFrameCallback startMetSync
  dsimp only
  split_ifs <;> simp only [minorFrameTail_fst] <;> split_ifs <;> rfl

theorem minorFrameTail_semGive (s : SchedulerClass) (t : List (ℕ × ℕ)) :
    (minorFrameTail cfg s t).2.semGive = true := rfl

end KitSch
