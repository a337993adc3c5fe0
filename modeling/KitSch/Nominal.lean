import KitSch.ToneLock
import KitSch.Schedule

/-!
# Nominal operation: one slot per minor frame

The scheduler as it is meant to run when not synchronized to MET: the tone comes in the time
sync slot, the last slot of the table (`SCHEDULER_TIME_SYNC_SLOT = SCHTBL_SLOTS - 1`), the minor
frame timer counts the slots between tones, and the semaphore each callback gives wakes
`SCHEDULER_Execute` once before the next callback (`frameOps`). The schedule is then in step with
the clock: after each wakeup the next slot to process is the one after the current minor frame
(`InStep`). `NominalRun` is what a run of frames then does.

* `reconcileDecision_current`: a wakeup in the slot `NextSlotNumber` names decides on that one
  slot and reports nothing;
* `frame_in_step`: a callback of the tone protocol and its wakeup keep the schedule in step and
  process the slot at the next position, reporting nothing;
* `nominal_schedule`: over every run of such frames from a valid table, the scheduler stays in
  step, reports no event, processes one position per frame, consecutively modulo the wrap of
  `TablePassCount`, and, when no dispatch fails, dispatches exactly the table's timeline over
  those positions;
* `startup_schedule`: from `SCHEDULER_Constructor` and the load of a valid table, the first tone
  puts the schedule in step, and the run dispatches the loaded table's timeline from position
  `0`.
-/

namespace KitSch

variable (cfg : SchedulerConfig)

/-- Nominal operation: each callback followed by one wakeup with a successful take, at the MET
reading and with the dispatch outcomes of its frame. -/
def frameOps : List (Op × ℕ × (ℕ → Bool)) → List Op
  | [] => []
  | (cb, us, sent) :: frames => cb :: .execute true us sent :: frameOps frames

/-- The schedule in step with the tone-locked clock: between a wakeup and the next callback, the
next slot to process is the one after the current minor frame. -/
structure InStep (s : SchedulerClass) : Prop where
  locked : ToneLocked cfg s
  slots : SlotInv cfg s
  next : s.nextSlotNumber = (s.minorFramesSinceTone + 1) % cfg.schtblSlots

variable {cfg} {s : SchedulerClass}

/-- A wakeup in the slot `NextSlotNumber` names processes that one slot: the first count is one,
which no correction, check or cap changes, and nothing is reported. -/
theorem reconcileDecision_current (hS : 2 ≤ cfg.schtblSlots) (hlag : 1 ≤ cfg.maxLagCount)
    (hspw : 1 ≤ cfg.maxSlotsPerWakeup) (s : SchedulerClass) :
    reconcileDecision cfg s s.nextSlotNumber = ({ s with lastProcessCount := 1 }, 1, []) := by
  have hf : firstProcessCount cfg s.nextSlotNumber s.nextSlotNumber = 1 := by
    rw [firstProcessCount, if_neg (lt_irrefl _), Nat.sub_self]
  have hj : jitterCorrection cfg s.lastProcessCount 1 = (1, 1) := by
    rw [jitterCorrection, if_neg (by omega), if_neg (by omega)]
  have hd : slotsDue cfg s s.nextSlotNumber = ({ s with lastProcessCount := 1 }, 1, []) := by
    simp only [slotsDue, hf, hj]
    exact if_neg (by omega)
  have hl : lagLimit cfg s.nextSlotNumber { s with lastProcessCount := 1 } 1 =
      ({ s with lastProcessCount := 1 }, 1, []) := if_neg (Nat.not_lt.2 hlag)
  have hm : multiSlotCheck { s with lastProcessCount := 1 } 1 =
      ({ s with lastProcessCount := 1 }, []) := if_neg (lt_irrefl 1)
  simp only [reconcileDecision, hd, hl, throughputCap, if_neg (Nat.not_lt.2 hspw), hm,
    List.append_nil]

/-- `SCHEDULER_Execute` in step, not synchronized to MET with major frames not ignored and the
next slot to process the current minor frame, processes that slot and reports nothing. -/
theorem schedulerExecute_current (hS : 2 ≤ cfg.schtblSlots) (hlag : 1 ≤ cfg.maxLagCount)
    (hspw : 1 ≤ cfg.maxSlotsPerWakeup) (sent : ℕ → Bool) (hsync : s.syncToMET = synchFalse)
    (hi : s.ignoreMajorFrame = false) (hn : s.nextSlotNumber = s.minorFramesSinceTone) (us : ℕ) :
    let t := { s with sendNoisyMajorFrameMsg := true, lastProcessCount := 1 }
    schedulerExecute cfg sent s true us =
      ((processSlots cfg sent 1 t).1, some ⟨[], (processSlots cfg sent 1 t).2⟩) := by
  have h0 : noisyMajorFrameCheck s = ({ s with sendNoisyMajorFrameMsg := true }, []) := by
    simp [noisyMajorFrameCheck, hi]
  have hc : getCurrentSlotNumber cfg { s with sendNoisyMajorFrameMsg := true } us =
      s.nextSlotNumber := by
    simp [getCurrentSlotNumber, hsync, hn]
  simp only [schedulerExecute_true, h0, hc, wakeupReconciler]
  rw [reconcileDecision_current hS hlag hspw]
  rfl

/-- With the time sync slot the last of the table, a callback of the tone protocol moves the
minor frame count on to the next slot of the table. -/
theorem lockStep_next (hsync : cfg.timeSyncSlot + 1 = cfg.schtblSlots) {cb : Op} {n m : ℕ}
    {sig : List Signals} (hcb : (cb.isMinorFrame || cb.isTone) = true)
    (h : lockStep cfg n cb = some (m, sig)) : m = (n + 1) % cfg.schtblSlots := by
  cases cb with
  | minorFrame us =>
    simp only [lockStep] at h
    split_ifs at h with hn
    cases h
    exact (Nat.mod_eq_of_lt (by omega)).symm
  | majorFrame flying us =>
    cases flying
    · simp only [lockStep] at h
      split_ifs at h with hn
      cases h
      rw [hn, hsync, Nat.mod_self]
    · cases hcb
  | _ => cases hcb

/-- The callbacks leave the position, and their outputs report no event and process no slot. -/
theorem step_callback {cb : Op} (hcb : (cb.isMinorFrame || cb.isTone) = true) :
    (step cfg s cb).1.nextSlotNumber = s.nextSlotNumber ∧
      (step cfg s cb).1.tablePassCount = s.tablePassCount ∧
      (step cfg s cb).2.events = [] ∧ (step cfg s cb).2.runs = [] := by
  cases cb with
  | minorFrame us => simp only [step]; rw [minorFrameCallback_eq]; exact ⟨rfl, rfl, rfl, rfl⟩
  | majorFrame flying us => simp only [step]; rw [majorFrameCallback_eq]; exact ⟨rfl, rfl, rfl, rfl⟩
  | _ => cases hcb

/-- `frameOps` of consecutive runs of frames is the concatenation of their operations. -/
theorem frameOps_append (fs gs : List (Op × ℕ × (ℕ → Bool))) :
    frameOps (fs ++ gs) = frameOps fs ++ frameOps gs := by
  induction fs with
  | nil => rfl
  | cons f fs ih => exact congrArg (fun ops => f.1 :: .execute true f.2.1 f.2.2 :: ops) ih

theorem trace_append (s : SchedulerClass) (ops ops' : List Op) :
    trace cfg s (ops ++ ops') = trace cfg s ops ++ trace cfg (run cfg s ops) ops' := by
  induction ops generalizing s with
  | nil => rfl
  | cons op ops ih => exact congrArg _ (ih _)

variable (cfg) in
/-- What nominal operation does over `frames` from `s`: the schedule ends in step, no event is
reported, and the slots are processed at the positions from `position cfg s` on, one per frame,
taken modulo the wrap of `TablePassCount`. -/
def NominalRun (s : SchedulerClass) (frames : List (Op × ℕ × (ℕ → Bool))) : Prop :=
  InStep cfg (run cfg s (frameOps frames)) ∧
    (trace cfg s (frameOps frames)).flatMap Output.events = [] ∧
    ((trace cfg s (frameOps frames)).flatMap Output.runs).map (SlotRun.position cfg) =
      (List.range' (position cfg s) frames.length).map (· % positionWrap cfg) ∧
    position cfg (run cfg s (frameOps frames)) = (position cfg s + frames.length) % positionWrap cfg

/-- Consecutive positions from a wrapped start are, modulo the wrap, those from the start. -/
theorem range'_mod_wrap (a k : ℕ) :
    (List.range' (a % positionWrap cfg) k).map (· % positionWrap cfg) =
      (List.range' a k).map (· % positionWrap cfg) := by
  simp only [List.range'_eq_map_range, List.map_map, Function.comp_def, Nat.mod_add_mod]

/-- Nominal runs compose. -/
theorem NominalRun.append {fs gs : List (Op × ℕ × (ℕ → Bool))} (h : NominalRun cfg s fs)
    (h' : NominalRun cfg (run cfg s (frameOps fs)) gs) : NominalRun cfg s (fs ++ gs) := by
  obtain ⟨-, e, p, q⟩ := h
  obtain ⟨i', e', p', q'⟩ := h'
  simp only [NominalRun, frameOps_append, run_append, trace_append, List.flatMap_append,
    List.map_append, List.length_append]
  exact ⟨i', by rw [e, e', List.append_nil],
    by rw [p, p', q, range'_mod_wrap, ← List.map_append, List.range'_append_1, Nat.add_comm],
    by rw [q', q, Nat.mod_add_mod, Nat.add_assoc]⟩

/-- A wakeup in a tone-locked state of the slot invariant, with the next slot to process the
current minor frame, processes that slot at the next position, reports nothing, and leaves the
schedule in step. -/
theorem wakeup_in_step (hS : 2 ≤ cfg.schtblSlots) (hlag : 1 ≤ cfg.maxLagCount)
    (hspw : 1 ≤ cfg.maxSlotsPerWakeup) {t : SchedulerClass} (ht : ToneLocked cfg t)
    (hinv : SlotInv cfg t) (hnext : t.nextSlotNumber = t.minorFramesSinceTone) (us : ℕ)
    (sent : ℕ → Bool) :
    let u := step cfg t (.execute true us sent)
    InStep cfg u.1 ∧ u.1.minorFramesSinceTone = t.minorFramesSinceTone ∧ u.2.events = [] ∧
      u.2.runs.map (SlotRun.position cfg) = [position cfg t % positionWrap cfg] ∧
      position cfg u.1 = (position cfg t + 1) % positionWrap cfg := by
  simp only [step, schedulerExecute_current hS hlag hspw sent ht.unsynced ht.listening hnext]
  generalize ht' : { t with sendNoisyMajorFrameMsg := true, lastProcessCount := 1 } = t'
  have hpos : position cfg t' = position cfg t := by rw [← ht']; rfl
  have hn' : t'.nextSlotNumber < cfg.schtblSlots := by rw [← ht']; exact hinv.next
  obtain ⟨hpos₁, hruns⟩ := position_processSlots cfg sent 1 hn'
  refine ⟨⟨?_, ?_, ?_⟩, by rw [processSlots_minorFramesSinceTone, ← ht'], rfl,
    hruns.trans (by rw [hpos]; rfl), by rw [hpos₁, hpos]⟩
  · rw [← ht']
    exact ⟨by rw [processSlots_syncToMET]; exact ht.unsynced,
      by rw [processSlots_majorFrameSource]; exact ht.source,
      by rw [processSlots_ignoreMajorFrame]; exact ht.listening,
      by rw [processSlots_minorFramesSinceTone]; exact ht.count_le⟩
  · refine ⟨processSlots_lt cfg sent hn', ?_, ?_, ?_⟩ <;>
      rw [← ht'] <;> simp only [processSlots_minorFramesSinceTone, processSlots_lastSyncMETSlot,
        processSlots_lastProcessCount]
    · exact hinv.minorFrames
    · exact hinv.lastSync
    · omega
  · show (processNextSlot cfg sent t').1.nextSlotNumber =
      ((processSlots cfg sent 1 t').1.minorFramesSinceTone + 1) % cfg.schtblSlots
    rw [processSlots_minorFramesSinceTone, processNextSlot_nextSlotNumber,
      advanceSlot_nextSlotNumber cfg hn', ← ht']
    exact congrArg (fun x => (x + 1) % cfg.schtblSlots) hnext

/-- A frame runs nominally when its callback leaves the scheduler tone-locked, in the slot
invariant, with the next slot to process the current minor frame. -/
theorem nominalRun_frame (hS : 2 ≤ cfg.schtblSlots) (hlag : 1 ≤ cfg.maxLagCount)
    (hspw : 1 ≤ cfg.maxSlotsPerWakeup) {cb : Op} (hcb : (cb.isMinorFrame || cb.isTone) = true)
    (ht : ToneLocked cfg (step cfg s cb).1) (hinv : SlotInv cfg (step cfg s cb).1)
    (hnext : (step cfg s cb).1.nextSlotNumber = (step cfg s cb).1.minorFramesSinceTone)
    (us : ℕ) (sent : ℕ → Bool) :
    NominalRun cfg s [(cb, us, sent)] ∧
      (run cfg s (frameOps [(cb, us, sent)])).minorFramesSinceTone =
        (step cfg s cb).1.minorFramesSinceTone := by
  obtain ⟨hn, hp, he, hr⟩ := @step_callback cfg s cb hcb
  have hpos : position cfg (step cfg s cb).1 = position cfg s := by simp only [position, hn, hp]
  obtain ⟨w₁, w₂, w₃, w₄, w₅⟩ := wakeup_in_step hS hlag hspw ht hinv hnext us sent
  simp only [NominalRun, frameOps, run_cons, run_nil, trace, List.flatMap_cons, List.flatMap_nil,
    List.append_nil, List.map_append, List.length_singleton]
  exact ⟨⟨w₁, by rw [he, w₃]; rfl, by rw [hr, w₄, hpos]; rfl, by rw [w₅, hpos]⟩, w₂⟩

/-- One frame of nominal operation from a state in step: the callback moves the clock to the
next slot of the table, which is the next slot to process, and the wakeup processes it at the
next position, reporting nothing. -/
theorem frame_in_step (hS : 2 ≤ cfg.schtblSlots) (hlag : 1 ≤ cfg.maxLagCount)
    (hspw : 1 ≤ cfg.maxSlotsPerWakeup) (hsync : cfg.timeSyncSlot + 1 = cfg.schtblSlots)
    (hminor : cfg.synchToMinor ≠ synchFalse) (hs : InStep cfg s) {cb : Op} {n : ℕ}
    {sig : List Signals} (hcb : (cb.isMinorFrame || cb.isTone) = true)
    (hl : lockStep cfg s.minorFramesSinceTone cb = some (n, sig)) (hmet : cb.MetValid cfg)
    (us : ℕ) (sent : ℕ → Bool) :
    NominalRun cfg s [(cb, us, sent)] ∧
      (run cfg s (frameOps [(cb, us, sent)])).minorFramesSinceTone = n := by
  obtain ⟨h₁, h₂, -, -⟩ := step_locked (by omega) hminor hs.locked hl
  obtain ⟨hn, -, -, -⟩ := @step_callback cfg s cb hcb
  have hnext : (step cfg s cb).1.nextSlotNumber = (step cfg s cb).1.minorFramesSinceTone := by
    rw [hn, h₂, lockStep_next hsync hcb hl, hs.next]
  exact (nominalRun_frame hS hlag hspw hcb h₁ (slotInv_step hmet hs.slots) hnext us sent).imp_right
    (·.trans h₂)

/-- Every operation of a run of tone-protocol frames is a core operation with a valid MET
reading. -/
theorem frameOps_valid {frames : List (Op × ℕ × (ℕ → Bool))}
    (hcb : ∀ f ∈ frames, (f.1.isMinorFrame || f.1.isTone) = true ∧ f.1.MetValid cfg ∧
      MetReading cfg f.2.1) :
    ∀ op ∈ frameOps frames, op.MetValid cfg ∧ op.IsCore := by
  induction frames with
  | nil => nofun
  | cons f frames ih =>
    obtain ⟨cb, us, sent⟩ := f
    obtain ⟨hc, hmet, hus⟩ : (cb.isMinorFrame || cb.isTone) = true ∧ cb.MetValid cfg ∧
        MetReading cfg us := hcb _ (List.mem_cons_self _ _)
    simp only [frameOps, List.forall_mem_cons]
    refine ⟨⟨hmet, ?_⟩, ⟨fun u h => by cases h; exact hus, trivial⟩,
      ih fun f hf => hcb f (List.mem_cons_of_mem _ hf)⟩
    cases cb <;> trivial

/-- Frame after frame from a state in step, the run is nominal. -/
theorem frames_in_step (hS : 2 ≤ cfg.schtblSlots) (hlag : 1 ≤ cfg.maxLagCount)
    (hspw : 1 ≤ cfg.maxSlotsPerWakeup) (hsync : cfg.timeSyncSlot + 1 = cfg.schtblSlots)
    (hminor : cfg.synchToMinor ≠ synchFalse) (frames : List (Op × ℕ × (ℕ → Bool)))
    (hcb : ∀ f ∈ frames, (f.1.isMinorFrame || f.1.isTone) = true ∧ f.1.MetValid cfg)
    (hs : InStep cfg s)
    (hon : lockedRun cfg s.minorFramesSinceTone (frames.map Prod.fst) ≠ none) :
    NominalRun cfg s frames := by
  induction frames generalizing s with
  | nil => exact ⟨hs, rfl, rfl, (Nat.mod_eq_of_lt (position_lt cfg hs.slots.next)).symm⟩
  | cons f frames ih =>
    obtain ⟨cb, us, sent⟩ := f
    obtain ⟨⟨n, sig⟩, hl⟩ : ∃ r, lockStep cfg s.minorFramesSinceTone cb = some r := by
      cases hl : lockStep cfg s.minorFramesSinceTone cb with
      | none => simp [lockedRun, hl] at hon
      | some r => exact ⟨r, rfl⟩
    obtain ⟨hc, hmet⟩ : (cb.isMinorFrame || cb.isTone) = true ∧ cb.MetValid cfg :=
      hcb _ (List.mem_cons_self _ _)
    obtain ⟨h, hn⟩ := frame_in_step hS hlag hspw hsync hminor hs hc hl hmet us sent
    simp only [List.map_cons, lockedRun, hl, Option.some_bind, ne_eq, Option.map_eq_none',
      ← hn] at hon
    exact h.append (ih (fun f hf => hcb f (List.mem_cons_of_mem _ hf)) h.1 hon)

/-- A nominal run from a valid table in which no dispatch fails dispatches exactly the table's
timeline over the positions it processes. -/
theorem NominalRun.activities_eq {frames : List (Op × ℕ × (ℕ → Bool))} (h : NominalRun cfg s frames)
    (hinv : SlotInv cfg s) (hv : TableValid s.schTbl)
    (hops : ∀ op ∈ frameOps frames, op.MetValid cfg ∧ op.IsCore)
    (hok : ∀ x ∈ (trace cfg s (frameOps frames)).flatMap (Output.records cfg), x.2 = true) :
    ((trace cfg s (frameOps frames)).flatMap Output.runs).flatMap SlotRun.activities =
      timeline cfg s.schTbl (position cfg s) (position cfg s + frames.length) := by
  rw [timeline, Nat.add_sub_cancel_left]
  exact run_activities cfg hinv hv _ hops hok h.2.2.1

/-- Nominal operation keeps the schedule in step with the tone: from a state in step whose table
is valid, over every run of frames whose callbacks follow the tone protocol, the scheduler stays
in step, reports no event, processes one position per frame, the consecutive positions from
where it stood taken modulo the wrap of `TablePassCount`, and, when no dispatch fails, dispatches
exactly the table's timeline over those positions. -/
theorem nominal_schedule (hS : 2 ≤ cfg.schtblSlots) (hlag : 1 ≤ cfg.maxLagCount)
    (hspw : 1 ≤ cfg.maxSlotsPerWakeup) (hsync : cfg.timeSyncSlot + 1 = cfg.schtblSlots)
    (hminor : cfg.synchToMinor ≠ synchFalse) (s : SchedulerClass) (hs : InStep cfg s)
    (hv : TableValid s.schTbl) (frames : List (Op × ℕ × (ℕ → Bool)))
    (hcb : ∀ f ∈ frames, (f.1.isMinorFrame || f.1.isTone) = true ∧ f.1.MetValid cfg ∧
      MetReading cfg f.2.1)
    (hon : lockedRun cfg s.minorFramesSinceTone (frames.map Prod.fst) ≠ none) :
    InStep cfg (run cfg s (frameOps frames)) ∧
      (trace cfg s (frameOps frames)).flatMap Output.events = [] ∧
      ((trace cfg s (frameOps frames)).flatMap Output.runs).map (SlotRun.position cfg) =
        (List.range' (position cfg s) frames.length).map (· % positionWrap cfg) ∧
      position cfg (run cfg s (frameOps frames)) =
        (position cfg s + frames.length) % positionWrap cfg ∧
      ((∀ x ∈ (trace cfg s (frameOps frames)).flatMap (Output.records cfg), x.2 = true) →
        ((trace cfg s (frameOps frames)).flatMap Output.runs).flatMap SlotRun.activities =
          timeline cfg s.schTbl (position cfg s) (position cfg s + frames.length)) := by
  have h := frames_in_step hS hlag hspw hsync hminor frames
    (fun f hf => ⟨(hcb f hf).1, (hcb f hf).2.1⟩) hs hon
  exact ⟨h.1, h.2.1, h.2.2.1, h.2.2.2, h.activities_eq hs.slots hv (frameOps_valid hcb)⟩

/-- The state after the first tone and the wakeup that follows it. -/
def inStepState : SchedulerClass :=
  run demoConfig toneAccepted [.execute true 0 fun _ => true]

/-- A major frame of nominal operation from `inStepState`: three minor frames, the tone in the
time sync slot, and the first minor frame of the next major frame. -/
def nominalFrames : List (Op × ℕ × (ℕ → Bool)) :=
  (List.replicate 3 (Op.minorFrame 0) ++ [Op.majorFrame false 0, Op.minorFrame 0]).map
    fun cb => (cb, 0, fun _ => true)

theorem nominal_schedule_major_frame :
    InStep demoConfig inStepState ∧ TableValid inStepState.schTbl ∧
      (∀ f ∈ nominalFrames, (f.1.isMinorFrame || f.1.isTone) = true ∧
        f.1.MetValid demoConfig ∧ MetReading demoConfig f.2.1) ∧
      lockedRun demoConfig inStepState.minorFramesSinceTone (nominalFrames.map Prod.fst) ≠ none ∧
      InStep demoConfig (run demoConfig inStepState (frameOps nominalFrames)) ∧
      (trace demoConfig inStepState (frameOps nominalFrames)).flatMap Output.events = [] ∧
      ((trace demoConfig inStepState (frameOps nominalFrames)).flatMap Output.runs).map
          (SlotRun.position demoConfig) =
        (List.range' (position demoConfig inStepState) nominalFrames.length).map
          (· % positionWrap demoConfig) ∧
      position demoConfig (run demoConfig inStepState (frameOps nominalFrames)) =
        (position demoConfig inStepState + nominalFrames.length) % positionWrap demoConfig ∧
      ((∀ x ∈ (trace demoConfig inStepState (frameOps nominalFrames)).flatMap
          (Output.records demoConfig), x.2 = true) →
        ((trace demoConfig inStepState (frameOps nominalFrames)).flatMap Output.runs).flatMap
            SlotRun.activities =
          timeline demoConfig inStepState.schTbl (position demoConfig inStepState)
            (position demoConfig inStepState + nominalFrames.length)) := by
  have hs : InStep demoConfig inStepState :=
    ⟨⟨by decide, by decide, by decide, by decide⟩, ⟨by decide, by decide, by decide, by decide⟩,
      by decide⟩
  have hcb : ∀ f ∈ nominalFrames, (f.1.isMinorFrame || f.1.isTone) = true ∧
      f.1.MetValid demoConfig ∧ MetReading demoConfig f.2.1 := by
    simp only [nominalFrames, List.map_append, List.map_replicate, List.map_cons, List.map_nil,
      List.mem_append, List.mem_replicate, List.mem_cons, List.not_mem_nil, or_false]
    rintro f (⟨-, rfl⟩ | rfl | rfl) <;> exact ⟨rfl, fun us h => by cases h; decide, by decide⟩
  have hon : lockedRun demoConfig inStepState.minorFramesSinceTone (nominalFrames.map Prod.fst) ≠
      none := by decide
  -- the constructor's table has no enabled entry, and the two operations only disable entries
  have hv : TableValid inStepState.schTbl :=
    (run_tableStep demoConfig toneAccepted _ fun _ h => by rw [List.mem_singleton.1 h]; trivial
      ).2.tableValid ((run_tableStep demoConfig _ _ fun _ h => by
        rw [List.mem_singleton.1 h]; trivial).2.tableValid fun _ h => Bool.noConfusion h)
  exact ⟨hs, hv, hcb, hon, nominal_schedule (by decide) (by decide) (by decide) (by decide)
    (by decide) inStepState hs hv nominalFrames hcb hon⟩

/-! ## Startup -/

/-- Startup: the schedule table loaded into the constructed object, then the frames. -/
def startupOps (tbl : ℕ → SchTblEntry) (frames : List (Op × ℕ × (ℕ → Bool))) : List Op :=
  .loadSchTbl tbl :: frameOps frames

theorem trace_startupOps (s : SchedulerClass) (tbl : ℕ → SchTblEntry)
    (frames : List (Op × ℕ × (ℕ → Bool))) :
    trace cfg s (startupOps tbl frames) =
      .status true :: trace cfg (schedulerLoadSchTbl s tbl) (frameOps frames) := rfl

/-- With a timer of acceptable accuracy, the constructor leaves the scheduler not synchronized to
MET, with major frames not ignored, in the time sync slot, with slot `0` next, at position `0`. -/
theorem initial_unsynced {timerCreated : Bool} {clockAccuracy : UInt32}
    (hacc : timerCreated = true → clockAccuracy ≤ cfg.worstClockAccuracy) :
    (initial cfg timerCreated clockAccuracy).syncToMET = synchFalse ∧
      (initial cfg timerCreated clockAccuracy).ignoreMajorFrame = false ∧
      (initial cfg timerCreated clockAccuracy).minorFramesSinceTone = cfg.timeSyncSlot ∧
      (initial cfg timerCreated clockAccuracy).nextSlotNumber = 0 ∧
      position cfg (initial cfg timerCreated clockAccuracy) = 0 := by
  unfold initial schedulerConstructor
  dsimp only
  split_ifs with htc hgt
  · exact absurd hgt (Nat.not_lt.2 (hacc htc))
  all_goals exact ⟨rfl, rfl, rfl, rfl, Nat.zero_mul _⟩

/-- The tone in the time sync slot, not synchronized to MET and with major frames not ignored,
and its wakeup: with slot `0` next, the frame runs nominally, whatever the major frame source. -/
theorem tone_frame_in_step (hS : 2 ≤ cfg.schtblSlots) (hlag : 1 ≤ cfg.maxLagCount)
    (hspw : 1 ≤ cfg.maxSlotsPerWakeup) (hminor : cfg.synchToMinor ≠ synchFalse)
    (hu : s.syncToMET = synchFalse) (hl : s.ignoreMajorFrame = false)
    (hn : s.minorFramesSinceTone = cfg.timeSyncSlot) (hinv : SlotInv cfg s)
    (hnext : s.nextSlotNumber = 0) {us : ℕ} (hus : MetReading cfg us) (us' : ℕ)
    (sent : ℕ → Bool) :
    NominalRun cfg s [(.majorFrame false us, us', sent)] ∧
      (run cfg s (frameOps [(.majorFrame false us, us', sent)])).minorFramesSinceTone = 0 := by
  obtain ⟨h₁, h₂, -⟩ := majorFrameCallback_onTime hminor hu hl hn us
  obtain ⟨hn', -, -, -⟩ := @step_callback cfg s (.majorFrame false us) rfl
  have hnext' : (step cfg s (.majorFrame false us)).1.nextSlotNumber =
      (step cfg s (.majorFrame false us)).1.minorFramesSinceTone := by
    rw [hn', hnext]; exact h₂.symm
  exact (@nominalRun_frame cfg s hS hlag hspw (.majorFrame false us) rfl h₁
    (slotInv_step (fun u h => by cases h; exact hus) hinv) hnext' us' sent).imp_right (·.trans h₂)

/-- Startup: from `SCHEDULER_Constructor` with a timer of acceptable accuracy and the valid
schedule table `tbl` loaded, along frames that follow the tone protocol from the time sync slot,
where the constructor leaves the minor frame count (so the tone comes first), the scheduler falls
in step with the tone at the first wakeup and stays in step, reports no event, processes one
position per frame from position `0` on, taken modulo the wrap of `TablePassCount`, and, when no
dispatch fails, dispatches exactly the timeline of `tbl` from position `0`. -/
theorem startup_schedule (hS : 2 ≤ cfg.schtblSlots) (hlag : 1 ≤ cfg.maxLagCount)
    (hspw : 1 ≤ cfg.maxSlotsPerWakeup) (hsync : cfg.timeSyncSlot + 1 = cfg.schtblSlots)
    (hminor : cfg.synchToMinor ≠ synchFalse) (timerCreated : Bool) (clockAccuracy : UInt32)
    (hacc : timerCreated = true → clockAccuracy ≤ cfg.worstClockAccuracy)
    (tbl : ℕ → SchTblEntry) (hv : TableValid tbl) (frames : List (Op × ℕ × (ℕ → Bool)))
    (hne : frames ≠ [])
    (hcb : ∀ f ∈ frames, (f.1.isMinorFrame || f.1.isTone) = true ∧ f.1.MetValid cfg ∧
      MetReading cfg f.2.1)
    (hon : lockedRun cfg cfg.timeSyncSlot (frames.map Prod.fst) ≠ none) :
    InStep cfg (run cfg (initial cfg timerCreated clockAccuracy) (startupOps tbl frames)) ∧
      (trace cfg (initial cfg timerCreated clockAccuracy) (startupOps tbl frames)).flatMap
        Output.events = [] ∧
      ((trace cfg (initial cfg timerCreated clockAccuracy) (startupOps tbl frames)).flatMap
        Output.runs).map (SlotRun.position cfg) =
          (List.range frames.length).map (· % positionWrap cfg) ∧
      ((∀ x ∈ (trace cfg (initial cfg timerCreated clockAccuracy) (startupOps tbl frames)).flatMap
          (Output.records cfg), x.2 = true) →
        ((trace cfg (initial cfg timerCreated clockAccuracy) (startupOps tbl frames)).flatMap
          Output.runs).flatMap SlotRun.activities = timeline cfg tbl 0 frames.length) := by
  obtain ⟨⟨cb, us', sent⟩, rest, rfl⟩ := List.exists_cons_of_ne_nil hne
  obtain ⟨hc, hmet⟩ : (cb.isMinorFrame || cb.isTone) = true ∧ cb.MetValid cfg :=
    ⟨(hcb _ (List.mem_cons_self _ _)).1, (hcb _ (List.mem_cons_self _ _)).2.1⟩
  -- in the time sync slot the protocol admits only the tone
  obtain ⟨us, rfl⟩ : ∃ us, cb = .majorFrame false us := by
    cases cb with
    | minorFrame us => simp [lockedRun, lockStep] at hon
    | majorFrame flying us => cases flying; exacts [⟨us, rfl⟩, absurd hc nofun]
    | _ => cases hc
  obtain ⟨i₁, i₂, i₃, i₄, i₅⟩ := @initial_unsynced cfg timerCreated clockAccuracy hacc
  have hinv : SlotInv cfg (schedulerLoadSchTbl (initial cfg timerCreated clockAccuracy) tbl) :=
    @slotInv_step cfg _ (.loadSchTbl tbl) (fun _ h => Option.noConfusion h)
      (slotInv_initial (by omega) timerCreated clockAccuracy)
  obtain ⟨h, hn⟩ := @tone_frame_in_step cfg (schedulerLoadSchTbl _ tbl) hS hlag hspw hminor i₁ i₂ i₃
    hinv i₄ us (hmet us rfl) us' sent
  -- after the tone the protocol counts from `0`, where the tone leaves the minor frame count
  simp only [List.map_cons, lockedRun, lockStep, if_pos, Option.some_bind, ne_eq,
    Option.map_eq_none', ← hn] at hon
  have hrun :
      NominalRun cfg (schedulerLoadSchTbl _ tbl) ((.majorFrame false us, us', sent) :: rest) :=
    h.append (frames_in_step hS hlag hspw hsync hminor rest
      (fun f hf => ⟨(hcb f (List.mem_cons_of_mem _ hf)).1, (hcb f (List.mem_cons_of_mem _ hf)).2.1⟩)
      h.1 hon)
  rw [trace_startupOps]
  simp only [List.flatMap_cons, Output.events, Output.runs, Output.records, List.flatMap_nil,
    List.nil_append]
  have hpos : position cfg (schedulerLoadSchTbl (initial cfg timerCreated clockAccuracy) tbl) = 0 :=
    i₅
  refine ⟨?_, hrun.2.1, by rw [hrun.2.2.1, hpos, List.range_eq_range'], fun hok => ?_⟩
  · rw [startupOps, run_cons]; exact hrun.1
  · have e := hrun.activities_eq hinv hv (frameOps_valid hcb) hok
    rw [hpos, Nat.zero_add] at e
    exact e

/-- The first tone, then the major frame of `nominalFrames`. -/
def startupFrames : List (Op × ℕ × (ℕ → Bool)) :=
  (Op.majorFrame false 0, 0, fun _ => true) :: nominalFrames

theorem startup_schedule_demo :
    (true = true → (5 : UInt32) ≤ demoConfig.worstClockAccuracy) ∧ TableValid alternatingTable ∧
      startupFrames ≠ [] ∧
      (∀ f ∈ startupFrames, (f.1.isMinorFrame || f.1.isTone) = true ∧
        f.1.MetValid demoConfig ∧ MetReading demoConfig f.2.1) ∧
      lockedRun demoConfig demoConfig.timeSyncSlot (startupFrames.map Prod.fst) ≠ none ∧
      InStep demoConfig
        (run demoConfig (initial demoConfig true 5) (startupOps alternatingTable startupFrames)) ∧
      (trace demoConfig (initial demoConfig true 5)
        (startupOps alternatingTable startupFrames)).flatMap Output.events = [] ∧
      ((trace demoConfig (initial demoConfig true 5)
        (startupOps alternatingTable startupFrames)).flatMap Output.runs).map
          (SlotRun.position demoConfig) =
        (List.range startupFrames.length).map (· % positionWrap demoConfig) ∧
      ((∀ x ∈ (trace demoConfig (initial demoConfig true 5)
          (startupOps alternatingTable startupFrames)).flatMap (Output.records demoConfig),
          x.2 = true) →
        ((trace demoConfig (initial demoConfig true 5)
          (startupOps alternatingTable startupFrames)).flatMap Output.runs).flatMap
            SlotRun.activities = timeline demoConfig alternatingTable 0 startupFrames.length) := by
  have hacc : true = true → (5 : UInt32) ≤ demoConfig.worstClockAccuracy := fun _ => by decide
  have hcb : ∀ f ∈ startupFrames, (f.1.isMinorFrame || f.1.isTone) = true ∧
      f.1.MetValid demoConfig ∧ MetReading demoConfig f.2.1 := by
    simp only [startupFrames, nominalFrames, List.map_append, List.map_replicate, List.map_cons,
      List.map_nil, List.cons_append, List.mem_cons, List.mem_append, List.mem_replicate,
      List.not_mem_nil, or_false]
    rintro f (rfl | ⟨-, rfl⟩ | rfl | rfl) <;> exact ⟨rfl, fun us h => by cases h; decide, by decide⟩
  have hon : lockedRun demoConfig demoConfig.timeSyncSlot (startupFrames.map Prod.fst) ≠ none := by
    decide
  exact ⟨hacc, alternatingTable_valid, List.cons_ne_nil _ _, hcb, hon, startup_schedule (by decide)
    (by decide) (by decide) (by decide) (by decide) true 5 hacc alternatingTable
    alternatingTable_valid startupFrames (List.cons_ne_nil _ _) hcb hon⟩

end KitSch
