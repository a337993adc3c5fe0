import KitSch.Wakeup

/-!
# What the diagnostic counters and the status reset can change

Two runs of the scheduler are compared step by step. `LoopAgree d s t` says that the slot loop
and the wakeup decisions cannot tell `s` from `t`, but for the table pass count, `d` passes
further in `s`; when every enabled entry's period divides `d` the two pass counts select the same
entries, so the loops dispatch the same entries and report passes `d` apart. `ClockAgree` says
the same of the minor frame driver and the slot clock. `eraseCounters` clears the nine
diagnostic counters, and `eraseStatus` also the fields `SCHEDULER_ResetStatus` clears and the
noisy report flag that depends on them; a step is `Blind` to what an eraser clears when it cannot
tell a state from its erasure.

* `wakeupReconciler_agree`: the decisions and the slot loop keep `LoopAgree d`, with the same
  events and the runs shifted by `d` passes;
* `counters_noninterference`: states that differ only in the diagnostic counters stay so under
  every sequence of operations and return the same outputs;
* `resetStatus_dispatch`: `SCHEDULER_ResetStatus` clears `TablePassCount` too; the wakeups and
  minor frames that follow dispatch the same entries, in passes shifted by the cleared count,
  whenever that count is a multiple of every enabled entry's period.
-/

namespace KitSch

variable (cfg : SchedulerConfig) (sent : ℕ → Bool)

/-- A call of `ProcessNextSlot` seen `d` table passes later, in the `uint32` pass count. -/
def SlotRun.shift (d : UInt32) (r : SlotRun) : SlotRun := { r with pass := r.pass + d }

/-- A wakeup whose calls of `ProcessNextSlot` are seen `d` table passes later. -/
def Wakeup.shift (d : UInt32) (w : Wakeup) : Wakeup :=
  { w with runs := w.runs.map (SlotRun.shift d) }

@[simp] theorem Wakeup.shift_runs (d : UInt32) (w : Wakeup) :
    (w.shift d).runs = w.runs.map (SlotRun.shift d) := rfl

/-- The (slot, activity) pairs a call of `ProcessNextSlot` dispatched, in order. -/
def SlotRun.dispatches (r : SlotRun) : List (ℕ × ℕ) :=
  r.dispatched.map fun d => (r.slot, d.activity)

/-- The (slot, activity) pairs an output's wakeup dispatched, in order. -/
def Output.dispatches (o : Output) : List (ℕ × ℕ) := o.runs.flatMap SlotRun.dispatches

/-- Outputs whose calls of `ProcessNextSlot` are the same but for the pass dispatch the same. -/
theorem dispatches_eq_of_runs {os os' : List Output} {d : UInt32}
    (h : os.flatMap Output.runs = (os'.flatMap Output.runs).map (SlotRun.shift d)) :
    os.flatMap Output.dispatches = os'.flatMap Output.dispatches := by
  have hd : ∀ l : List Output, l.flatMap Output.dispatches =
      (l.flatMap Output.runs).flatMap SlotRun.dispatches := fun l => (List.flatMap_assoc _ _ _).symm
  rw [hd, hd, h, List.flatMap_map]
  rfl

/-! ## The slot loop from two states -/

/-- The slot loop and the wakeup decisions read the same fields in `s` and `t`, but for the
table pass count, `d` passes further in `s` (in the `uint32` count); every entry fires in pass
`p + d` exactly when it fires in pass `p`. -/
structure LoopAgree (d : UInt32) (s t : SchedulerClass) : Prop where
  nextSlotNumber : s.nextSlotNumber = t.nextSlotNumber
  tablePassCount : s.tablePassCount = t.tablePassCount + d
  lastProcessCount : s.lastProcessCount = t.lastProcessCount
  schTbl : s.schTbl = t.schTbl
  syncToMET : s.syncToMET = t.syncToMET
  worstCaseSlotsPerMinorFrame : s.worstCaseSlotsPerMinorFrame = t.worstCaseSlotsPerMinorFrame
  periods : ∀ i (p : UInt32), (t.schTbl i).fires (p + d).toNat = (t.schTbl i).fires p.toNat

/-- An enabled entry whose period divides both `d` and `2^32` fires in pass `p + d` of the
`uint32` count exactly when it fires in pass `p`: the shift and the wrap keep its phase. -/
theorem SchTblEntry.fires_add {e : SchTblEntry} {d : UInt32}
    (h : e.enabled = true → e.period ∣ d.toNat ∧ e.period ∣ 2 ^ 32) (p : UInt32) :
    e.fires (p + d).toNat = e.fires p.toNat := by
  unfold SchTblEntry.fires
  cases he : e.enabled
  · rfl
  · obtain ⟨⟨k, hk⟩, hw⟩ := h he
    show ((p.toNat + d.toNat) % 2 ^ 32 % e.period == e.offset) = (p.toNat % e.period == e.offset)
    rw [Nat.mod_mod_of_dvd _ hw, hk, Nat.add_mul_mod_self_left]

/-- A disabled entry fires in no pass. -/
@[simp] theorem SchTblEntry.fires_disabled (e : SchTblEntry) (p : ℕ) :
    ({ e with enabled := false } : SchTblEntry).fires p = false := rfl

section Loop

variable {d : UInt32} {s t : SchedulerClass}

theorem processEntry_agree (h : LoopAgree d s t) (slotIndex e : ℕ) :
    LoopAgree d (processEntry sent slotIndex s e).1 (processEntry sent slotIndex t e).1 ∧
      (processEntry sent slotIndex s e).2 = (processEntry sent slotIndex t e).2 := by
  have hf : (s.schTbl (slotIndex + e)).fires s.tablePassCount.toNat =
      (t.schTbl (slotIndex + e)).fires t.tablePassCount.toNat := by
    rw [h.schTbl, h.tablePassCount]; exact h.periods _ _
  unfold processEntry
  dsimp only
  rw [hf, h.schTbl]
  split_ifs
  · exact ⟨⟨h.1, h.2, h.3, rfl, h.5, h.6, h.7⟩, rfl⟩
  · refine ⟨⟨h.1, h.2, h.3, rfl, h.5, h.6, fun i p => ?_⟩, rfl⟩
    dsimp only
    by_cases hj : i = slotIndex + e
    · subst hj; simp only [Function.update_same, SchTblEntry.fires_disabled]
    · rw [Function.update_noteq hj]; exact h.periods i p
  · exact ⟨h, rfl⟩

theorem processEntries_agree (slotIndex : ℕ) (es : List ℕ) :
    ∀ {s t}, LoopAgree d s t →
      LoopAgree d (processEntries sent slotIndex es s).1 (processEntries sent slotIndex es t).1 ∧
        (processEntries sent slotIndex es s).2 = (processEntries sent slotIndex es t).2 := by
  induction es with
  | nil => exact fun h => ⟨h, rfl⟩
  | cons e es ih =>
    intro s t h
    obtain ⟨h₁, o₁⟩ := processEntry_agree sent h slotIndex e
    obtain ⟨h₂, o₂⟩ := ih h₁
    simp only [processEntries]
    exact ⟨h₂, by rw [o₁, o₂]⟩

theorem advanceSlot_agree (h : LoopAgree d s t) :
    LoopAgree d (advanceSlot cfg s) (advanceSlot cfg t) := by
  unfold advanceSlot
  rw [h.nextSlotNumber]
  split_ifs
  · exact ⟨rfl, by dsimp only; rw [h.2, add_right_comm], h.3, h.4, h.5, h.6, h.7⟩
  · exact ⟨rfl, h.2, h.3, h.4, h.5, h.6, h.7⟩

theorem processNextSlot_agree (h : LoopAgree d s t) :
    LoopAgree d (processNextSlot cfg sent s).1 (processNextSlot cfg sent t).1 ∧
      (processNextSlot cfg sent s).2 = (processNextSlot cfg sent t).2.shift d := by
  obtain ⟨h₁, o₁⟩ := processEntries_agree sent
    (t.nextSlotNumber * cfg.schtblActivitiesPerSlot) (List.range cfg.schtblActivitiesPerSlot) h
  have h₂ := advanceSlot_agree cfg h₁
  simp only [processNextSlot, slotEntries, h.nextSlotNumber]
  exact ⟨⟨h₂.1, h₂.2, h₂.3, h₂.4, h₂.5, h₂.6, h₂.7⟩,
    by rw [o₁, h.tablePassCount]; rfl⟩

theorem processSlots_agree (k : ℕ) :
    ∀ {s t}, LoopAgree d s t →
      LoopAgree d (processSlots cfg sent k s).1 (processSlots cfg sent k t).1 ∧
        (processSlots cfg sent k s).2 = (processSlots cfg sent k t).2.map (SlotRun.shift d) := by
  induction k with
  | zero => exact fun h => ⟨h, rfl⟩
  | succ k ih =>
    intro s t h
    obtain ⟨h₁, o₁⟩ := processNextSlot_agree cfg sent h
    obtain ⟨h₂, o₂⟩ := ih h₁
    simp only [processSlots, List.map_cons]
    exact ⟨h₂, by rw [o₁, o₂]⟩

/-! ## The wakeup decisions from two states -/

theorem slotsDue_agree (h : LoopAgree d s t) (c : ℕ) :
    LoopAgree d (slotsDue cfg s c).1 (slotsDue cfg t c).1 ∧
      (slotsDue cfg s c).2 = (slotsDue cfg t c).2 := by
  unfold slotsDue sameSlotCheck
  dsimp only
  rw [h.lastProcessCount, h.nextSlotNumber]
  split_ifs <;> exact ⟨⟨rfl, h.2, rfl, h.4, h.5, h.6, h.7⟩, rfl⟩

theorem lagLimit_agree (h : LoopAgree d s t) (c pc : ℕ) :
    LoopAgree d (lagLimit cfg c s pc).1 (lagLimit cfg c t pc).1 ∧
      (lagLimit cfg c s pc).2 = (lagLimit cfg c t pc).2 := by
  unfold lagLimit
  dsimp only
  rw [h.nextSlotNumber]
  split_ifs
  · exact ⟨⟨rfl, by dsimp only; rw [h.2, add_right_comm], h.3, h.4, h.5, h.6, h.7⟩, rfl⟩
  · exact ⟨⟨rfl, h.2, h.3, h.4, h.5, h.6, h.7⟩, rfl⟩
  · exact ⟨h, rfl⟩

theorem multiSlotCheck_agree (h : LoopAgree d s t) (pc : ℕ) :
    LoopAgree d (multiSlotCheck s pc).1 (multiSlotCheck t pc).1 ∧
      (multiSlotCheck s pc).2 = (multiSlotCheck t pc).2 := by
  unfold multiSlotCheck
  rw [h.worstCaseSlotsPerMinorFrame, h.syncToMET, h.nextSlotNumber]
  split_ifs
  · exact ⟨⟨rfl, h.2, h.3, h.4, rfl, rfl, h.7⟩, rfl⟩
  · exact ⟨⟨rfl, h.2, h.3, h.4, rfl, rfl, h.7⟩, rfl⟩
  · exact ⟨h, rfl⟩

theorem reconcileDecision_agree (h : LoopAgree d s t) (c : ℕ) :
    LoopAgree d (reconcileDecision cfg s c).1 (reconcileDecision cfg t c).1 ∧
      (reconcileDecision cfg s c).2 = (reconcileDecision cfg t c).2 := by
  obtain ⟨h₁, o₁⟩ := slotsDue_agree cfg h c
  obtain ⟨h₂, o₂⟩ := lagLimit_agree cfg h₁ c (slotsDue cfg s c).2.1
  obtain ⟨h₃, o₃⟩ := multiSlotCheck_agree h₂
    (throughputCap cfg (lagLimit cfg c (slotsDue cfg s c).1 (slotsDue cfg s c).2.1).2.1)
  simp only [reconcileDecision, ← o₁, ← o₂, ← o₃]
  exact ⟨h₃, trivial⟩

/-- The decisions and the slot loop from two states that agree, but for `d` table passes, end
in states that agree so, report the same events, and evaluate the same slots `d` passes
apart. -/
theorem wakeupReconciler_agree (h : LoopAgree d s t) (c : ℕ) :
    LoopAgree d (wakeupReconciler cfg sent s c).1 (wakeupReconciler cfg sent t c).1 ∧
      (wakeupReconciler cfg sent s c).2 = (wakeupReconciler cfg sent t c).2.shift d := by
  obtain ⟨h₁, o₁⟩ := reconcileDecision_agree cfg h c
  obtain ⟨h₂, o₂⟩ := processSlots_agree cfg sent (reconcileDecision cfg s c).2.1 h₁
  simp only [wakeupReconciler, ← o₁]
  exact ⟨h₂, by rw [o₂, o₁, Wakeup.shift]⟩

end Loop

/-! ## The minor frame driver from two states -/

/-- The fields the minor frame driver and the slot clock read agree. -/
structure ClockAgree (s t : SchedulerClass) : Prop where
  minorFramesSinceTone : s.minorFramesSinceTone = t.minorFramesSinceTone
  majorFrameSource : s.majorFrameSource = t.majorFrameSource
  syncToMET : s.syncToMET = t.syncToMET
  syncAttemptsLeft : s.syncAttemptsLeft = t.syncAttemptsLeft
  lastSyncMETSlot : s.lastSyncMETSlot = t.lastSyncMETSlot

section Clock

variable {s t : SchedulerClass}

theorem startMetSync_clockAgree (h : ClockAgree s t) :
    ClockAgree (startMetSync cfg s) (startMetSync cfg t) := by
  unfold startMetSync
  rw [h.majorFrameSource]
  split_ifs
  · exact ⟨h.1, rfl, by dsimp only; rw [h.syncToMET], rfl, rfl⟩
  · exact h

theorem minorFrameTail_clockAgree (h : ClockAgree s t) (timerSets : List (ℕ × ℕ)) :
    ClockAgree (minorFrameTail cfg s timerSets).1 (minorFrameTail cfg t timerSets).1 ∧
      (minorFrameTail cfg s timerSets).2 = (minorFrameTail cfg t timerSets).2 := by
  unfold minorFrameTail
  dsimp only
  rw [h.minorFramesSinceTone]
  by_cases hS : cfg.schtblSlots ≤ t.minorFramesSinceTone
  · simp only [if_pos hS, and_true]
    exact ⟨rfl, h.2, h.3, h.4, h.5⟩
  · simp only [if_neg hS, h.minorFramesSinceTone, and_true]
    exact h

/-- The minor frame driver reads only the fields of `ClockAgree`, and writes them from what it
reads. -/
theorem minorFrameCallback_clockAgree (h : ClockAgree s t) (us : ℕ) :
    ClockAgree (minorFrameCallback cfg s us).1 (minorFrameCallback cfg t us).1 ∧
      (minorFrameCallback cfg s us).2 = (minorFrameCallback cfg t us).2 := by
  have h₁ := startMetSync_clockAgree cfg h
  unfold minorFrameCallback
  generalize startMetSync cfg s = s₁ at h₁ ⊢
  generalize startMetSync cfg t = t₁ at h₁ ⊢
  dsimp only
  rw [h₁.syncToMET, h₁.majorFrameSource, h₁.syncAttemptsLeft]
  split_ifs
  · exact ⟨⟨h₁.1, rfl, rfl, rfl, h₁.5⟩, rfl⟩
  · refine minorFrameTail_clockAgree cfg ?_ _
    exact ⟨rfl, rfl, rfl, rfl, rfl⟩
  · refine minorFrameTail_clockAgree cfg ?_ _
    exact ⟨by dsimp only; rw [h₁.1], rfl, rfl, rfl, h₁.5⟩

end Clock

/-! ## The diagnostic counters -/

/-- The state with its nine diagnostic counters cleared. -/
def eraseCounters (s : SchedulerClass) : SchedulerClass :=
  { s with
    slotsProcessedCount := 0
    skippedSlotsCount := 0
    multipleSlotsCount := 0
    sameSlotCount := 0
    scheduleActivitySuccessCount := 0
    scheduleActivityFailureCount := 0
    validMajorFrameCount := 0
    missedMajorFrameCount := 0
    unexpectedMajorFrameCount := 0 }

/-- A step that the fields `erase` clears cannot steer: from `erase s` it ends in a state that
`erase` cannot tell from where it ends from `s`, and it returns the same. -/
def Blind {α : Type} (erase : SchedulerClass → SchedulerClass)
    (f : SchedulerClass → SchedulerClass × α) : Prop :=
  ∀ s, erase (f (erase s)).1 = erase (f s).1 ∧ (f (erase s)).2 = (f s).2

section Blind

variable {α β : Type} {erase : SchedulerClass → SchedulerClass}
  {f : SchedulerClass → SchedulerClass × α} {s t : SchedulerClass}

/-- A blind step from states `erase` cannot tell apart ends in states it cannot tell apart, and
returns the same. -/
theorem Blind.congr (hf : Blind erase f) (h : erase s = erase t) :
    erase (f s).1 = erase (f t).1 ∧ (f s).2 = (f t).2 := by
  obtain ⟨h₁, h₂⟩ := hf s
  obtain ⟨h₃, h₄⟩ := hf t
  rw [h] at h₁ h₂
  exact ⟨h₁.symm.trans h₃, h₂.symm.trans h₄⟩

theorem Blind.map (hf : Blind erase f) (g : α → β) :
    Blind erase fun s => ((f s).1, g (f s).2) :=
  fun s => ⟨(hf s).1, congrArg g (hf s).2⟩

end Blind

section Counters

variable {s t : SchedulerClass}

/-- States equal but for the counters agree on the slot loop, with no pass between them. -/
theorem LoopAgree.of_eraseCounters (h : eraseCounters s = eraseCounters t) :
    LoopAgree 0 s t := by
  have field := fun {β : Type} (f : SchedulerClass → β) => congrArg f h
  exact ⟨field SchedulerClass.nextSlotNumber,
    (field SchedulerClass.tablePassCount).trans (add_zero _).symm,
    field SchedulerClass.lastProcessCount, field SchedulerClass.schTbl,
    field SchedulerClass.syncToMET, field SchedulerClass.worstCaseSlotsPerMinorFrame,
    fun _ p => by rw [add_zero]⟩

/-- Besides the counters, `SCHEDULER_Execute` moves only the slot position, `LastProcessCount`,
the noisy report flag and the schedule table. -/
theorem eraseCounters_schedulerExecute (s : SchedulerClass) (take : Bool) (us : ℕ) :
    eraseCounters (schedulerExecute cfg sent s take us).1 = { eraseCounters s with
      nextSlotNumber := (schedulerExecute cfg sent s take us).1.nextSlotNumber
      tablePassCount := (schedulerExecute cfg sent s take us).1.tablePassCount
      lastProcessCount := (schedulerExecute cfg sent s take us).1.lastProcessCount
      sendNoisyMajorFrameMsg := (schedulerExecute cfg sent s take us).1.sendNoisyMajorFrameMsg
      schTbl := (schedulerExecute cfg sent s take us).1.schTbl } := by
  conv_lhs => rw [schedulerExecute_eq]
  simp only [eraseCounters]

theorem noisyMajorFrameCheck_eraseCounters (s : SchedulerClass) :
    noisyMajorFrameCheck (eraseCounters s) =
      (eraseCounters (noisyMajorFrameCheck s).1, (noisyMajorFrameCheck s).2) := by
  unfold noisyMajorFrameCheck
  dsimp only [eraseCounters]
  split_ifs <;> rfl

@[simp] theorem getCurrentSlotNumber_eraseCounters (s : SchedulerClass) (us : ℕ) :
    getCurrentSlotNumber cfg (eraseCounters s) us = getCurrentSlotNumber cfg s us := rfl

@[simp] theorem SlotRun.shift_zero : SlotRun.shift 0 = id :=
  funext fun r => by rw [SlotRun.shift, add_zero]; rfl

@[simp] theorem Wakeup.shift_zero (w : Wakeup) : w.shift 0 = w := by
  cases w; simp only [Wakeup.shift, SlotRun.shift_zero, List.map_id]

theorem wakeupReconciler_sendNoisyMajorFrameMsg (s : SchedulerClass) (c : ℕ) :
    (wakeupReconciler cfg sent s c).1.sendNoisyMajorFrameMsg = s.sendNoisyMajorFrameMsg := by
  rw [wakeupReconciler_fst, processSlots_eq, reconcileDecision_fst]

theorem schedulerExecute_countersBlind (take : Bool) (us : ℕ) :
    Blind eraseCounters fun s => schedulerExecute cfg sent s take us := by
  intro s
  cases take
  · simp only [schedulerExecute_false, and_true]
    rfl
  obtain ⟨h₁, o₁⟩ := wakeupReconciler_agree cfg sent
    (LoopAgree.of_eraseCounters (s := eraseCounters (noisyMajorFrameCheck s).1)
      (t := (noisyMajorFrameCheck s).1) rfl)
    (getCurrentSlotNumber cfg (noisyMajorFrameCheck s).1 us)
  dsimp only
  rw [eraseCounters_schedulerExecute, eraseCounters_schedulerExecute]
  simp only [schedulerExecute_true, noisyMajorFrameCheck_eraseCounters,
    getCurrentSlotNumber_eraseCounters, wakeupReconciler_sendNoisyMajorFrameMsg]
  rw [h₁.1, h₁.2, h₁.3, h₁.4, o₁, Wakeup.shift_zero, add_zero]
  exact ⟨rfl, rfl⟩

theorem classifyTone_eraseCounters (s : SchedulerClass) :
    eraseCounters (classifyTone cfg (eraseCounters s)) = eraseCounters (classifyTone cfg s) := by
  unfold classifyTone noisyMajorFrame
  dsimp only [eraseCounters]
  split_ifs <;> rfl

theorem acceptTone_countersBlind : Blind eraseCounters (acceptTone cfg) := by
  intro s
  unfold acceptTone
  dsimp only [eraseCounters]
  split_ifs <;> exact ⟨rfl, rfl⟩

theorem majorFrameCallback_countersBlind (flying : Bool) (us : ℕ) :
    Blind eraseCounters fun s => majorFrameCallback cfg s flying us := by
  intro s
  have h : eraseCounters (toneResponse cfg (eraseCounters s) flying).1 =
      eraseCounters (toneResponse cfg s flying).1 ∧
      (toneResponse cfg (eraseCounters s) flying).2 = (toneResponse cfg s flying).2 := by
    cases flying
    · exact (acceptTone_countersBlind cfg).congr (classifyTone_eraseCounters cfg s)
    · exact ⟨rfl, rfl⟩
  exact ⟨congrArg (fun x => { x with lastSyncMETSlot := getMETSlotNumber cfg us }) h.1, h.2⟩

/-- Besides the counters, `MinorFrameCallback` moves only the fields of `ClockAgree`. -/
theorem eraseCounters_minorFrameCallback (s : SchedulerClass) (us : ℕ) :
    eraseCounters (minorFrameCallback cfg s us).1 = { eraseCounters s with
      minorFramesSinceTone := (minorFrameCallback cfg s us).1.minorFramesSinceTone
      majorFrameSource := (minorFrameCallback cfg s us).1.majorFrameSource
      syncToMET := (minorFrameCallback cfg s us).1.syncToMET
      syncAttemptsLeft := (minorFrameCallback cfg s us).1.syncAttemptsLeft
      lastSyncMETSlot := (minorFrameCallback cfg s us).1.lastSyncMETSlot } := by
  conv_lhs => rw [minorFrameCallback_eq]
  simp only [eraseCounters]

theorem minorFrameCallback_countersBlind (us : ℕ) :
    Blind eraseCounters fun s => minorFrameCallback cfg s us := by
  intro s
  obtain ⟨h, o⟩ := minorFrameCallback_clockAgree cfg
    (s := eraseCounters s) (t := s) ⟨rfl, rfl, rfl, rfl, rfl⟩ us
  refine ⟨?_, o⟩
  dsimp only
  rw [eraseCounters_minorFrameCallback, eraseCounters_minorFrameCallback, h.1, h.2, h.3, h.4, h.5]
  rfl

theorem schedulerConfigSchEntryCmd_countersBlind (slot activity enabled : ℕ) :
    Blind eraseCounters fun s => schedulerConfigSchEntryCmd cfg s slot activity enabled := by
  intro s
  unfold schedulerConfigSchEntryCmd
  dsimp only [eraseCounters]
  split <;> (try split_ifs) <;> exact ⟨rfl, rfl⟩

theorem schedulerLoadSchEntryCmd_countersBlind (slot activity enabled period offset i : ℕ) :
    Blind eraseCounters fun s =>
      schedulerLoadSchEntryCmd cfg s slot activity enabled period offset i := by
  intro s
  unfold schedulerLoadSchEntryCmd
  split <;> (try split_ifs) <;> exact ⟨rfl, rfl⟩

theorem schedulerLoadMsgEntryCmd_countersBlind (index msgId : ℕ) :
    Blind eraseCounters fun s => schedulerLoadMsgEntryCmd cfg s index msgId := by
  intro s
  unfold schedulerLoadMsgEntryCmd
  split_ifs <;> exact ⟨rfl, rfl⟩

theorem step_countersBlind (op : Op) : Blind eraseCounters fun s => step cfg s op := by
  cases op with
  | execute take us sent =>
    exact (schedulerExecute_countersBlind cfg sent take us).map Output.wakeup
  | majorFrame flying us =>
    exact (majorFrameCallback_countersBlind cfg flying us).map Output.signals
  | minorFrame us => exact (minorFrameCallback_countersBlind cfg us).map Output.signals
  | configSchEntryCmd slot activity enabled =>
    exact (schedulerConfigSchEntryCmd_countersBlind cfg slot activity enabled).map Output.status
  | loadSchEntryCmd slot activity enabled period offset i =>
    exact (schedulerLoadSchEntryCmd_countersBlind cfg slot activity enabled period offset i).map
      Output.status
  | loadMsgEntryCmd index msgId =>
    exact (schedulerLoadMsgEntryCmd_countersBlind cfg index msgId).map Output.status
  | resetStatus | loadSchTbl _ | loadSchTblEntry _ _ | loadMsgTbl _ | loadMsgTblEntry _ _ _ =>
    exact fun _ => ⟨rfl, rfl⟩

end Counters

/-- States that differ only in the nine diagnostic counters stay so under every sequence of
operations, and every operation returns the same from both, so the same entries are dispatched
in the same order: the counters, wrapped or not, never steer the scheduler. -/
theorem counters_noninterference {s t : SchedulerClass} (h : eraseCounters s = eraseCounters t)
    (ops : List Op) :
    eraseCounters (run cfg s ops) = eraseCounters (run cfg t ops) ∧
      trace cfg s ops = trace cfg t ops := by
  induction ops generalizing s t with
  | nil => exact ⟨h, rfl⟩
  | cons op ops ih =>
    obtain ⟨h₁, o₁⟩ := (step_countersBlind cfg op).congr h
    obtain ⟨h₂, o₂⟩ := ih h₁
    exact ⟨h₂, by simp only [trace, o₁, o₂]⟩

theorem counters_noninterference_wrapped :
    eraseCounters { initial demoConfig true 20 with slotsProcessedCount := 4294967295 } =
        eraseCounters (initial demoConfig true 20) ∧
      trace demoConfig { initial demoConfig true 20 with slotsProcessedCount := 4294967295 }
          [.execute true 0 fun _ => true] =
        trace demoConfig (initial demoConfig true 20) [.execute true 0 fun _ => true] :=
  ⟨rfl, (counters_noninterference demoConfig rfl _).2⟩

/-! ## The status reset -/

/-- The operations that drive the slot clock: the wakeup and the minor frame timer. -/
def Op.IsClock : Op → Prop
  | .execute .. | .minorFrame .. => True
  | _ => False

/-- The state with the fields `SCHEDULER_ResetStatus` clears cleared, and the noisy report flag
that `SCHEDULER_Execute` sets from them. -/
def eraseStatus (s : SchedulerClass) : SchedulerClass :=
  { eraseCounters s with
    tablePassCount := 0
    consecutiveNoisyFrameCounter := 0
    ignoreMajorFrame := false
    sendNoisyMajorFrameMsg := false }

/-- The run with and the run without a reset: they agree on the slot loop but for `d` passes, and
on every field the clock reads. -/
structure ResetAgree (d : UInt32) (s t : SchedulerClass) : Prop where
  loop : LoopAgree d s t
  status : eraseStatus s = eraseStatus t

section Reset

variable {d : UInt32} {s t : SchedulerClass}

/-- Besides the fields `eraseStatus` clears, `MinorFrameCallback` moves only the fields of
`ClockAgree`. -/
theorem eraseStatus_minorFrameCallback (s : SchedulerClass) (us : ℕ) :
    eraseStatus (minorFrameCallback cfg s us).1 = { eraseStatus s with
      minorFramesSinceTone := (minorFrameCallback cfg s us).1.minorFramesSinceTone
      majorFrameSource := (minorFrameCallback cfg s us).1.majorFrameSource
      syncToMET := (minorFrameCallback cfg s us).1.syncToMET
      syncAttemptsLeft := (minorFrameCallback cfg s us).1.syncAttemptsLeft
      lastSyncMETSlot := (minorFrameCallback cfg s us).1.lastSyncMETSlot } := by
  unfold eraseStatus
  rw [eraseCounters_minorFrameCallback]

theorem ResetAgree.clockAgree (h : ResetAgree d s t) : ClockAgree s t := by
  have field := fun {β : Type} (f : SchedulerClass → β) => congrArg f h.status
  exact ⟨field SchedulerClass.minorFramesSinceTone, field SchedulerClass.majorFrameSource,
    h.loop.syncToMET, field SchedulerClass.syncAttemptsLeft, field SchedulerClass.lastSyncMETSlot⟩

theorem LoopAgree.noisyMajorFrameCheck (h : LoopAgree d s t) :
    LoopAgree d (noisyMajorFrameCheck s).1 (noisyMajorFrameCheck t).1 := by
  rw [noisyMajorFrameCheck_fst, noisyMajorFrameCheck_fst]
  exact ⟨h.1, h.2, h.3, h.4, h.5, h.6, h.7⟩

theorem LoopAgree.minorFrameCallback (h : LoopAgree d s t) (us : ℕ)
    (hsync :
      (minorFrameCallback cfg s us).1.syncToMET = (minorFrameCallback cfg t us).1.syncToMET) :
    LoopAgree d (minorFrameCallback cfg s us).1 (minorFrameCallback cfg t us).1 := by
  rw [minorFrameCallback_eq cfg s us, minorFrameCallback_eq cfg t us]
  exact ⟨h.1, h.2, h.3, h.4, hsync, h.6, h.7⟩

/-- Besides the fields `eraseStatus` clears, `SCHEDULER_Execute` moves only the slot position,
`LastProcessCount` and the schedule table. -/
theorem eraseStatus_schedulerExecute (s : SchedulerClass) (take : Bool) (us : ℕ) :
    eraseStatus (schedulerExecute cfg sent s take us).1 = { eraseStatus s with
      nextSlotNumber := (schedulerExecute cfg sent s take us).1.nextSlotNumber
      lastProcessCount := (schedulerExecute cfg sent s take us).1.lastProcessCount
      schTbl := (schedulerExecute cfg sent s take us).1.schTbl } := by
  unfold eraseStatus
  rw [eraseCounters_schedulerExecute]

theorem ResetAgree.schedulerExecute (h : ResetAgree d s t) (take : Bool) (us : ℕ) :
    ResetAgree d (schedulerExecute cfg sent s take us).1 (schedulerExecute cfg sent t take us).1 ∧
      (Output.wakeup (schedulerExecute cfg sent s take us).2).runs =
        (Output.wakeup (schedulerExecute cfg sent t take us).2).runs.map (SlotRun.shift d) := by
  cases take
  · exact ⟨h, rfl⟩
  have hc : getCurrentSlotNumber cfg s us = getCurrentSlotNumber cfg t us :=
    getCurrentSlotNumber_congr cfg h.loop.syncToMET h.clockAgree.lastSyncMETSlot
      h.clockAgree.minorFramesSinceTone us
  obtain ⟨h₁, o₁⟩ := wakeupReconciler_agree cfg sent h.loop.noisyMajorFrameCheck
    (getCurrentSlotNumber cfg t us)
  refine ⟨⟨?_, ?_⟩, ?_⟩
  · simp only [schedulerExecute_true, getCurrentSlotNumber_noisyMajorFrameCheck, hc]
    exact h₁
  · rw [eraseStatus_schedulerExecute, eraseStatus_schedulerExecute, h.status]
    simp only [schedulerExecute_true, getCurrentSlotNumber_noisyMajorFrameCheck, hc]
    rw [h₁.1, h₁.3, h₁.4]
  · simp only [schedulerExecute_true, Output.runs, getCurrentSlotNumber_noisyMajorFrameCheck, hc,
      o₁, Wakeup.shift_runs]

theorem ResetAgree.minorFrameCallback (h : ResetAgree d s t) (us : ℕ) :
    ResetAgree d (minorFrameCallback cfg s us).1 (minorFrameCallback cfg t us).1 ∧
      (minorFrameCallback cfg s us).2 = (minorFrameCallback cfg t us).2 := by
  obtain ⟨h₁, o₁⟩ := minorFrameCallback_clockAgree cfg h.clockAgree us
  refine ⟨⟨h.loop.minorFrameCallback cfg us h₁.syncToMET, ?_⟩, o₁⟩
  rw [eraseStatus_minorFrameCallback, eraseStatus_minorFrameCallback, h₁.1, h₁.2, h₁.3, h₁.4,
    h₁.5, h.status]

theorem ResetAgree.step (h : ResetAgree d s t) {op : Op} (hop : op.IsClock) :
    ResetAgree d (step cfg s op).1 (step cfg t op).1 ∧
      (step cfg s op).2.runs = (step cfg t op).2.runs.map (SlotRun.shift d) := by
  cases op with
  | execute take us sent => exact h.schedulerExecute cfg sent take us
  | minorFrame us =>
    exact ⟨(h.minorFrameCallback cfg us).1, rfl⟩
  | _ => exact hop.elim

theorem ResetAgree.trace_runs (ops : List Op) (hops : ∀ op ∈ ops, op.IsClock) :
    ∀ {s t}, ResetAgree d s t →
      (trace cfg s ops).flatMap Output.runs =
        ((trace cfg t ops).flatMap Output.runs).map (SlotRun.shift d) := by
  induction ops with
  | nil => exact fun _ => rfl
  | cons op ops ih =>
    intro s t h
    obtain ⟨h₁, o₁⟩ := h.step cfg (hops op (List.mem_cons_self _ _))
    simp only [trace, List.flatMap_cons, List.map_append, o₁,
      ih (fun o ho => hops o (List.mem_cons_of_mem _ ho)) h₁]

theorem ResetAgree.run (ops : List Op) (hops : ∀ op ∈ ops, op.IsClock) :
    ∀ {s t}, ResetAgree d s t → ResetAgree d (run cfg s ops) (run cfg t ops) := by
  induction ops with
  | nil => exact id
  | cons op ops ih =>
    exact fun h => ih (fun o ho => hops o (List.mem_cons_of_mem _ ho))
      (h.step cfg (hops op (List.mem_cons_self _ _))).1

theorem ResetAgree.refl (s : SchedulerClass) : ResetAgree 0 s s :=
  ⟨⟨rfl, (add_zero _).symm, rfl, rfl, rfl, rfl, fun _ p => by rw [add_zero]⟩, rfl⟩

/-- Runs `a` passes apart, the second `b` passes ahead of a third, make the first `a + b` passes
ahead of the third. -/
theorem ResetAgree.trans {a b : UInt32} {x y z : SchedulerClass} (h₁ : ResetAgree a x y)
    (h₂ : ResetAgree b y z) : ResetAgree (a + b) x z := by
  refine ⟨⟨h₁.loop.1.trans h₂.loop.1, ?_, h₁.loop.3.trans h₂.loop.3, h₁.loop.4.trans h₂.loop.4,
    h₁.loop.5.trans h₂.loop.5, h₁.loop.6.trans h₂.loop.6, fun i p => ?_⟩, h₁.status.trans h₂.status⟩
  · rw [h₁.loop.2, h₂.loop.2, add_assoc, add_comm b a]
  · calc (z.schTbl i).fires (p + (a + b)).toNat = (y.schTbl i).fires (p + b + a).toNat := by
          rw [h₂.loop.schTbl, add_comm a b, add_assoc]
      _ = (z.schTbl i).fires (p + b).toNat := by rw [h₁.loop.periods, h₂.loop.schTbl]
      _ = (z.schTbl i).fires p.toNat := h₂.loop.periods i p

end Reset

/-- `SCHEDULER_ResetStatus` clears the diagnostic counters, `ConsecutiveNoisyFrameCounter` and
`IgnoreMajorFrame`, and `TablePassCount` too, and leaves every other field. When every entry
fires in pass `p` plus the cleared count exactly when it fires in pass `p` (for instance when
each enabled entry's period divides both the cleared count and `2^32`, `SchTblEntry.fires_add`),
the wakeups and minor frames that follow evaluate the same slots with the same dispatches, in
passes the cleared count apart. -/
theorem resetStatus_dispatch (s : SchedulerClass)
    (hper : ∀ i (p : UInt32),
      (s.schTbl i).fires (p + s.tablePassCount).toNat = (s.schTbl i).fires p.toNat)
    (ops : List Op) (hops : ∀ op ∈ ops, op.IsClock) :
    schedulerResetStatus s = { eraseCounters s with
      tablePassCount := 0
      consecutiveNoisyFrameCounter := 0
      ignoreMajorFrame := false } ∧
      (trace cfg s ops).flatMap Output.runs =
        ((trace cfg (schedulerResetStatus s) ops).flatMap Output.runs).map
          (SlotRun.shift s.tablePassCount) ∧
      (trace cfg s ops).flatMap Output.dispatches =
        (trace cfg (schedulerResetStatus s) ops).flatMap Output.dispatches := by
  have h : ResetAgree s.tablePassCount s (schedulerResetStatus s) :=
    ⟨⟨rfl, (zero_add _).symm, rfl, rfl, rfl, rfl, hper⟩, rfl⟩
  have hruns := h.trace_runs cfg ops hops
  exact ⟨rfl, hruns, dispatches_eq_of_runs hruns⟩

theorem resetStatus_dispatch_even :
    (trace demoConfig { initial demoConfig true 20 with
        tablePassCount := 2, schTbl := fun _ => ⟨true, 2, 0, 0⟩ }
        [.execute true 0 fun _ => true]).flatMap Output.dispatches =
      (trace demoConfig (schedulerResetStatus { initial demoConfig true 20 with
        tablePassCount := 2, schTbl := fun _ => ⟨true, 2, 0, 0⟩ })
        [.execute true 0 fun _ => true]).flatMap Output.dispatches :=
  (resetStatus_dispatch demoConfig _
    (fun _ => SchTblEntry.fires_add fun _ => (⟨⟨1, rfl⟩, ⟨2 ^ 31, rfl⟩⟩ : 2 ∣ 2 ∧ 2 ∣ 2 ^ 32)) _
    (by simp [Op.IsClock])).2.2

/-- From construction: an entry of period two and offset one loaded in slot zero, then a wakeup
in each slot, which completes one table pass. -/
def onePassOps : List Op :=
  [.loadSchEntryCmd 0 0 1 2 1 0, .execute true 0 fun _ => true, .execute true 250000 fun _ => true,
    .execute true 500000 fun _ => true, .execute true 750000 fun _ => true]

/-- After one table pass the reset clears `TablePassCount`, and the next wakeup, in slot zero,
dispatches the entry without the reset and not with it. -/
theorem resetStatus_shifts_phase :
    (run demoConfig (initial demoConfig true 20) onePassOps).tablePassCount = 1 ∧
      (schedulerResetStatus (run demoConfig (initial demoConfig true 20) onePassOps)).tablePassCount
        = 0 ∧
      (trace demoConfig (run demoConfig (initial demoConfig true 20) onePassOps)
        [.execute true 0 fun _ => true]).flatMap Output.dispatches = [(0, 0)] ∧
      (trace demoConfig
        (schedulerResetStatus (run demoConfig (initial demoConfig true 20) onePassOps))
        [.execute true 0 fun _ => true]).flatMap Output.dispatches = [] := by
  decide

/-! ## The wrap of `TablePassCount` is reachable -/

theorem ofNat_succ_eq_one_add (m : ℕ) : UInt32.ofNat (m + 1) = 1 + UInt32.ofNat m :=
  UInt32.toNat.inj (by
    show (m + 1) % 2 ^ 32 = (1 + m % 2 ^ 32) % 2 ^ 32
    omega)

/-- A wakeup at the MET reading `us`, every dispatch sent. -/
def wakeupAt (us : ℕ) : Op := .execute true us fun _ => true

/-- One table pass of the examples' configuration from slot one: a wakeup in slots one, two and
three, then in slot zero of the next pass. -/
def passOps : List Op := [wakeupAt 250000, wakeupAt 500000, wakeupAt 750000, wakeupAt 0]

/-- `m` table passes. -/
def passesOps : ℕ → List Op
  | 0 => []
  | m + 1 => passOps ++ passesOps m

theorem passOps_valid : ∀ op ∈ passOps, op.IsClock ∧ op.MetValid demoConfig := by
  simp only [passOps, wakeupAt, List.mem_cons, List.not_mem_nil, or_false]
  rintro op (rfl | rfl | rfl | rfl) <;> exact ⟨trivial, fun us h => by cases h; decide⟩

theorem mem_passesOps {op : Op} {m : ℕ} (h : op ∈ passesOps m) : op ∈ passOps := by
  induction m with
  | zero => nomatch h
  | succ m ih => exact (List.mem_append.1 h).elim id ih

/-- The state after the first wakeup from construction, in slot zero, the timer too coarse for
the minor frame, so that the slot clock reads MET. -/
def firstWakeupState : SchedulerClass := run demoConfig (initial demoConfig true 20) [wakeupAt 0]

/-- Besides the fields `eraseStatus` clears, wakeups move only `NextSlotNumber`,
`LastProcessCount` and the schedule table. -/
theorem eraseStatus_run_wakeups {s : SchedulerClass} {ops : List Op}
    (hops : ∀ op ∈ ops, ∃ take us sent, op = .execute take us sent) :
    eraseStatus (run cfg s ops) = { eraseStatus s with
      nextSlotNumber := (run cfg s ops).nextSlotNumber
      lastProcessCount := (run cfg s ops).lastProcessCount
      schTbl := (run cfg s ops).schTbl } := by
  induction ops generalizing s with
  | nil => rfl
  | cons op ops ih =>
    obtain ⟨take, us, sent, rfl⟩ := hops op (List.mem_cons_self _ _)
    rw [run_cons, ih fun o ho => hops o (List.mem_cons_of_mem _ ho)]
    simp only [step]
    rw [eraseStatus_schedulerExecute]

set_option maxRecDepth 4000 in
/-- A pass from there ends in the same state but for one pass and the counters. -/
theorem passOps_agree :
    ResetAgree 1 (run demoConfig firstWakeupState passOps) firstWakeupState := by
  have hn : (run demoConfig firstWakeupState passOps).nextSlotNumber =
      firstWakeupState.nextSlotNumber := by decide
  have hl : (run demoConfig firstWakeupState passOps).lastProcessCount =
      firstWakeupState.lastProcessCount := by decide
  have ht : (run demoConfig firstWakeupState passOps).schTbl = firstWakeupState.schTbl := rfl
  refine ⟨⟨hn, by decide, hl, ht, by decide, by decide, fun _ _ => rfl⟩, ?_⟩
  rw [eraseStatus_run_wakeups demoConfig fun op h => ?_, hn, hl, ht]
  · rfl
  · simp only [passOps, wakeupAt, List.mem_cons, List.not_mem_nil, or_false] at h
    rcases h with rfl | rfl | rfl | rfl <;> exact ⟨_, _, _, rfl⟩

/-- `m` passes from there end in the same state but for `m` passes and the counters. -/
theorem passesOps_agree (m : ℕ) :
    ResetAgree (UInt32.ofNat m) (run demoConfig firstWakeupState (passesOps m))
      firstWakeupState := by
  induction m with
  | zero => exact ResetAgree.refl _
  | succ m ih =>
    rw [ofNat_succ_eq_one_add, passesOps, run_append]
    exact (ResetAgree.run demoConfig (passesOps m)
      (fun op h => (passOps_valid op (mem_passesOps h)).1) passOps_agree).trans ih

/-- From construction, a wakeup in slot zero, `2^32 - 1` table passes and the wakeups of slots
one and two: `TablePassCount` is at `2^32 - 1` and the next slot is the last one. -/
def wrapOps : List Op :=
  [wakeupAt 0] ++ passesOps 4294967295 ++ [wakeupAt 250000, wakeupAt 500000]

set_option maxRecDepth 4000 in
/-- In a reachable state at the last slot of table pass `2^32 - 1`, a wakeup in that slot
processes one slot, and the absolute position `TablePassCount * SLOTS + NextSlotNumber` falls
from `4 * (2^32 - 1) + 3` to `0`: the `uint32` pass count wraps. -/
theorem schedulerExecute_wraps_position :
    (∀ op ∈ wrapOps, op.MetValid demoConfig) ∧
      (run demoConfig (initial demoConfig true 20) wrapOps).nextSlotNumber = 3 ∧
      getCurrentSlotNumber demoConfig (run demoConfig (initial demoConfig true 20) wrapOps)
        750000 = 3 ∧
      position demoConfig (run demoConfig (initial demoConfig true 20) wrapOps) =
        4 * 4294967295 + 3 ∧
      (step demoConfig (run demoConfig (initial demoConfig true 20) wrapOps)
        (wakeupAt 750000)).2.runs.length = 1 ∧
      position demoConfig
        (step demoConfig (run demoConfig (initial demoConfig true 20) wrapOps)
          (wakeupAt 750000)).1 = 0 := by
  have hvalid : ∀ op ∈ [wakeupAt 0] ++ [wakeupAt 250000, wakeupAt 500000],
      op.IsClock ∧ op.MetValid demoConfig := by
    simp only [wakeupAt, List.singleton_append, List.mem_cons, List.not_mem_nil, or_false]
    rintro op (rfl | rfl | rfl) <;> exact ⟨trivial, fun us h => by cases h; decide⟩
  have hrun : run demoConfig (initial demoConfig true 20) wrapOps =
      run demoConfig (run demoConfig firstWakeupState (passesOps 4294967295))
        [wakeupAt 250000, wakeupAt 500000] := by
    rw [wrapOps, run_append, run_append]
    rfl
  have h := (passesOps_agree 4294967295).run demoConfig _
    fun op h => (hvalid op (List.mem_append_right _ h)).1
  obtain ⟨h₁, o₁⟩ := h.step demoConfig (show (wakeupAt 750000).IsClock from trivial)
  refine ⟨fun op hop => ?_, ?_⟩
  · rcases List.mem_append.1 hop with hop | hop
    · rcases List.mem_append.1 hop with hop | hop
      · exact (hvalid op (List.mem_append_left _ hop)).2
      · exact (passOps_valid op (mem_passesOps hop)).2
    · exact (hvalid op (List.mem_append_right _ hop)).2
  rw [hrun]
  generalize run demoConfig (run demoConfig firstWakeupState (passesOps 4294967295))
    [wakeupAt 250000, wakeupAt 500000] = X at h h₁ o₁ ⊢
  refine ⟨by rw [h.loop.nextSlotNumber]; decide, ?_, ?_, ?_, ?_⟩
  · rw [getCurrentSlotNumber_congr demoConfig h.loop.syncToMET h.clockAgree.lastSyncMETSlot
      h.clockAgree.minorFramesSinceTone]
    decide
  · rw [position, h.loop.nextSlotNumber, h.loop.tablePassCount]
    decide
  · rw [o₁, List.length_map]
    decide
  · rw [position, h₁.loop.nextSlotNumber, h₁.loop.tablePassCount]
    decide

end KitSch
