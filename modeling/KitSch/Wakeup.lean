import KitSch.SlotRange

/-!
# What one wakeup executes

For a next slot `n` and a current slot `c` in range, one `SCHEDULER_Execute` past its semaphore
take calls `ProcessNextSlot` `k ≤ SCHEDULER_MAX_SLOTS_PER_WAKEUP` times, and either

* does not skip: it executes the slots `n, n+1, ..., n+k-1` (mod `SCHTBL_SLOTS`), at most the
  `(c - n) mod SLOTS + 1` due, and the absolute position `TablePassCount * SLOTS + NextSlotNumber`
  moves by exactly `k`; or
* skips: it counts one skip, moves to slot `c` (advancing `TablePassCount` for the skip exactly
  when `c < n`) and, with `SCHEDULER_MAX_SLOTS_PER_WAKEUP ≥ 1`, executes slot `c` once; the
  position moves by `(c - n) mod SLOTS + 1`.

`TablePassCount` is a `uint32`, so the position moves modulo `positionWrap`, the `2^32 * SLOTS`
positions of one cycle of the pass count. `runAdvance` counts the positions a run moves over
without that wrap.

* `wakeupReconciler_positions`: the positions one wakeup executes, in every configuration;
* `wakeupReconciler_law`, `schedulerExecute_law`: the law above (`WakeupLaw`);
* `run_positions`: over a run without `SCHEDULER_ResetStatus`, the positions executed are, modulo
  the wrap, strictly increasing positions from the first one and below `runAdvance` further,
  and the consecutive ones when no wakeup skips;
* `reachable_wakeup_law`: both from every reachable state; before `TablePassCount` wraps no
  (pass, slot) pair runs twice.
-/

namespace KitSch

variable {cfg : SchedulerConfig}

theorem slotsDue_count (s : SchedulerClass) (c : ℕ) :
    (slotsDue cfg s c).2.1 =
      let pc := (jitterCorrection cfg s.lastProcessCount (firstProcessCount cfg s.nextSlotNumber c)).1
      if pc = cfg.schtblSlots then 0 else pc := by
  simp only [slotsDue, sameSlotCheck_count]

/-- The count due after the corrections is at most the slots due. -/
theorem slotsDue_count_le {s : SchedulerClass} {c : ℕ} (hn : s.nextSlotNumber < cfg.schtblSlots)
    (hc : c < cfg.schtblSlots) :
    (slotsDue cfg s c).2.1 ≤ (c + cfg.schtblSlots - s.nextSlotNumber) % cfg.schtblSlots + 1 := by
  have hb := firstProcessCount_bounds hn hc
  have hj := @jitterCorrection_fst_le cfg s.lastProcessCount _ hb.1
  rw [slotsDue_count, ← firstProcessCount_eq cfg hn hc]
  dsimp only
  split_ifs <;> omega

theorem position_div {s : SchedulerClass} (h : s.nextSlotNumber < cfg.schtblSlots) :
    position cfg s / cfg.schtblSlots = s.tablePassCount.toNat := by
  rw [position, Nat.mul_comm, Nat.mul_add_div (by omega), Nat.div_eq_of_lt h, Nat.add_zero]

/-! ## The skip report -/

/-- Whether an event is the `SCHEDULER_SKIPPED_SLOTS_EID` report of a skip. -/
def Event.isSkip : Event → Bool
  | .skippedSlots .. => true
  | _ => false

/-- A wakeup reports a skip exactly when the lag limit skips. -/
theorem reconcileDecision_skips (s : SchedulerClass) (c : ℕ) :
    (reconcileDecision cfg s c).2.2.any Event.isSkip =
      decide (cfg.maxLagCount < (slotsDue cfg s c).2.1) := by
  have hd : ∀ t pc, (sameSlotCheck cfg c t pc).2.2.any Event.isSkip = false := fun t pc => by
    unfold sameSlotCheck; split_ifs <;> rfl
  have hl : ∀ t pc, (lagLimit cfg c t pc).2.2.any Event.isSkip = decide (cfg.maxLagCount < pc) :=
    fun t pc => by
      unfold lagLimit
      split_ifs with h
      · exact (decide_eq_true h).symm
      · exact (decide_eq_false h).symm
  have hm : ∀ t pc, (multiSlotCheck t pc).2.any Event.isSkip = false := fun t pc => by
    unfold multiSlotCheck; split_ifs <;> rfl
  simp only [reconcileDecision, slotsDue, List.any_append, hd, hl, hm, Bool.false_or,
    Bool.or_false]

theorem noisyMajorFrameCheck_skips (s : SchedulerClass) :
    (noisyMajorFrameCheck s).2.any Event.isSkip = false := by
  unfold noisyMajorFrameCheck; split_ifs <;> rfl

/-! ## The decisions -/

/-- The decisions end in one of two ways: without a skip they keep the position and leave the
capped count due; with one they count it, move to the current slot (advancing `TablePassCount`
when it lies before `NextSlotNumber`) and leave one slot, capped. -/
theorem reconcileDecision_cases (s : SchedulerClass) (c : ℕ) :
    (reconcileDecision cfg s c).2.2.any Event.isSkip = false ∧
        (reconcileDecision cfg s c).1.skippedSlotsCount = s.skippedSlotsCount ∧
        (reconcileDecision cfg s c).1.nextSlotNumber = s.nextSlotNumber ∧
        (reconcileDecision cfg s c).1.tablePassCount = s.tablePassCount ∧
        (reconcileDecision cfg s c).2.1 = throughputCap cfg (slotsDue cfg s c).2.1 ∨
      (reconcileDecision cfg s c).2.2.any Event.isSkip = true ∧
        (reconcileDecision cfg s c).1.skippedSlotsCount = s.skippedSlotsCount + 1 ∧
        (reconcileDecision cfg s c).1.nextSlotNumber = c ∧
        (reconcileDecision cfg s c).1.tablePassCount =
          (if c < s.nextSlotNumber then s.tablePassCount + 1 else s.tablePassCount) ∧
        (reconcileDecision cfg s c).2.1 = throughputCap cfg 1 := by
  rw [reconcileDecision_skips, reconcileDecision_count, reconcileDecision_fst]
  by_cases h : cfg.maxLagCount < (slotsDue cfg s c).2.1
  · exact .inr (by simp [h])
  · exact .inl (by simp [h])

/-- The decisions move the position on to the current slot when they skip, and leave it
otherwise, modulo the wrap. -/
theorem position_reconcileDecision {s : SchedulerClass} {c : ℕ}
    (hn : s.nextSlotNumber < cfg.schtblSlots) (hc : c < cfg.schtblSlots) :
    position cfg (reconcileDecision cfg s c).1 = (position cfg s +
      if (reconcileDecision cfg s c).2.2.any Event.isSkip then
        (c + cfg.schtblSlots - s.nextSlotNumber) % cfg.schtblSlots else 0) % positionWrap cfg := by
  rcases @reconcileDecision_cases cfg s c with ⟨hev, -, hpn, hpt, -⟩ | ⟨hev, -, hpn, hpt, -⟩ <;>
    rw [hev, position, hpn, hpt]
  · rw [if_neg Bool.false_ne_true, Nat.add_zero, ← position, Nat.mod_eq_of_lt (position_lt cfg hn)]
  · rw [if_pos rfl, position]
    split_ifs with hlt
    · -- back across the end of the table: slot `c` of the next pass
      rw [toNat_add_one, ← mul_add_mod_positionWrap cfg hc,
        Nat.mod_eq_of_lt (show c + cfg.schtblSlots - s.nextSlotNumber < cfg.schtblSlots by omega),
        Nat.succ_mul]
      exact congrArg (· % positionWrap cfg) (by omega)
    · rw [show c + cfg.schtblSlots - s.nextSlotNumber = c - s.nextSlotNumber + cfg.schtblSlots by
        omega, Nat.add_mod_right,
        Nat.mod_eq_of_lt (show c - s.nextSlotNumber < cfg.schtblSlots by omega),
        show s.tablePassCount.toNat * cfg.schtblSlots + s.nextSlotNumber + (c - s.nextSlotNumber) =
          s.tablePassCount.toNat * cfg.schtblSlots + c by omega]
      exact (Nat.mod_eq_of_lt (position_lt cfg (s := { s with nextSlotNumber := c }) hc)).symm

/-- With the distance a skip moves, the decisions leave at most a table of slots. -/
theorem reconcileDecision_count_add_le {s : SchedulerClass} {c : ℕ}
    (hn : s.nextSlotNumber < cfg.schtblSlots) (hc : c < cfg.schtblSlots) :
    (if (reconcileDecision cfg s c).2.2.any Event.isSkip then
        (c + cfg.schtblSlots - s.nextSlotNumber) % cfg.schtblSlots else 0) +
      (reconcileDecision cfg s c).2.1 ≤ cfg.schtblSlots := by
  have hdue := slotsDue_count_le hn hc
  have hd := Nat.mod_lt (c + cfg.schtblSlots - s.nextSlotNumber) (by omega : 0 < cfg.schtblSlots)
  rcases @reconcileDecision_cases cfg s c with ⟨hev, -, -, -, hm⟩ | ⟨hev, -, -, -, hm⟩ <;>
    rw [hev, hm]
  · have := throughputCap_le_self cfg (slotsDue cfg s c).2.1
    rw [if_neg Bool.false_ne_true]
    omega
  · have := throughputCap_le_self cfg 1
    rw [if_pos rfl]
    omega

/-! ## The positions of one wakeup -/

theorem wakeupReconciler_fst (sent : ℕ → Bool) (s : SchedulerClass) (c : ℕ) :
    (wakeupReconciler cfg sent s c).1 =
      (processSlots cfg sent (reconcileDecision cfg s c).2.1 (reconcileDecision cfg s c).1).1 := by
  simp only [wakeupReconciler]

theorem wakeupReconciler_snd (sent : ℕ → Bool) (s : SchedulerClass) (c : ℕ) :
    (wakeupReconciler cfg sent s c).2 = Wakeup.mk (reconcileDecision cfg s c).2.2
      (processSlots cfg sent (reconcileDecision cfg s c).2.1 (reconcileDecision cfg s c).1).2 := rfl

theorem reconcileDecision_nextSlotNumber_lt {s : SchedulerClass} {c : ℕ}
    (hn : s.nextSlotNumber < cfg.schtblSlots) (hc : c < cfg.schtblSlots) :
    (reconcileDecision cfg s c).1.nextSlotNumber < cfg.schtblSlots := by
  rw [reconcileDecision_fst]; dsimp only; split_ifs <;> assumption

/-- The positions one wakeup executes, in every configuration: modulo the wrap, the `k`
consecutive positions from `position s + a`, where `a` is the distance to the current slot when
the lag limit skipped and `0` otherwise; the position ends past them, at most a table on. -/
theorem wakeupReconciler_positions (sent : ℕ → Bool) {s : SchedulerClass} {c : ℕ}
    (hn : s.nextSlotNumber < cfg.schtblSlots) (hc : c < cfg.schtblSlots) :
    let r := wakeupReconciler cfg sent s c
    let a := if r.2.events.any Event.isSkip then
      (c + cfg.schtblSlots - s.nextSlotNumber) % cfg.schtblSlots else 0
    r.2.runs.map (SlotRun.position cfg) =
        (List.range' (position cfg s + a) r.2.runs.length).map (· % positionWrap cfg) ∧
      position cfg r.1 = (position cfg s + a + r.2.runs.length) % positionWrap cfg ∧
      a + r.2.runs.length ≤ cfg.schtblSlots := by
  obtain ⟨hpos, hruns⟩ := position_processSlots cfg sent (reconcileDecision cfg s c).2.1
    (reconcileDecision_nextSlotNumber_lt hn hc)
  dsimp only
  rw [wakeupReconciler_fst, wakeupReconciler_snd]
  dsimp only
  rw [processSlots_length, hruns, hpos, position_reconcileDecision hn hc, Nat.mod_add_mod,
    List.range'_eq_map_range, List.map_map]
  exact ⟨List.map_congr_left fun j _ => by simp only [Function.comp, Nat.mod_add_mod],
    rfl, reconcileDecision_count_add_le hn hc⟩

/-! ## The law of one wakeup -/

variable (cfg) in
/-- What one wakeup does from `s` at current slot `c`, ending in `s'` and executing `w`, when
`SCHEDULER_MAX_SLOTS_PER_WAKEUP ≥ 1`: at most that many slots, and either no skip is reported
and the slots are those from `NextSlotNumber` on, at most the slots due, the position moving by
their number; or one skip is counted and reported, and slot `c` runs once, `TablePassCount`
advancing for the skip exactly when `c < n`, the position moving by the distance to `c` and
one. Positions are taken modulo the wrap of the `uint32` pass count. -/
def WakeupLaw (s : SchedulerClass) (c : ℕ) (s' : SchedulerClass) (w : Wakeup) : Prop :=
  let n := s.nextSlotNumber
  let k := w.runs.length
  let W := positionWrap cfg
  k ≤ cfg.maxSlotsPerWakeup ∧
    ((w.events.any Event.isSkip = false ∧ s'.skippedSlotsCount = s.skippedSlotsCount ∧
        w.runs.map SlotRun.slot = (List.range k).map (fun j => (n + j) % cfg.schtblSlots) ∧
        k ≤ (c + cfg.schtblSlots - n) % cfg.schtblSlots + 1 ∧
        w.runs.map (SlotRun.position cfg) = (List.range' (position cfg s) k).map (· % W) ∧
        position cfg s' = (position cfg s + k) % W) ∨
      (w.events.any Event.isSkip = true ∧ s'.skippedSlotsCount = s.skippedSlotsCount + 1 ∧
        w.runs.map SlotRun.slot = [c] ∧
        s'.tablePassCount.toNat = (s.tablePassCount.toNat + (if c < n then 1 else 0) +
          (c + 1) / cfg.schtblSlots) % 2 ^ 32 ∧
        w.runs.map (SlotRun.position cfg) =
          [(position cfg s + (c + cfg.schtblSlots - n) % cfg.schtblSlots) % W] ∧
        position cfg s' =
          (position cfg s + (c + cfg.schtblSlots - n) % cfg.schtblSlots + 1) % W))

/-- A skip to slot `c` followed by slot `c` itself ends one past `c`, in the pass after the one
the skip lands in when `c` is the last slot. -/
theorem skip_add_one {t n c S : ℕ} (hn : n < S) (hc : c < S) :
    t * S + n + (c + S - n) % S + 1 = (t + if c < n then 1 else 0) * S + (c + 1) := by
  split_ifs with hlt
  · rw [Nat.mod_eq_of_lt (show c + S - n < S by omega), Nat.succ_mul]; omega
  · rw [show c + S - n = c - n + S by omega, Nat.add_mod_right,
      Nat.mod_eq_of_lt (show c - n < S by omega)]
    simp only [Nat.add_zero]
    omega

/-- The reconciler obeys the wakeup law. -/
theorem wakeupReconciler_law (hspw : 1 ≤ cfg.maxSlotsPerWakeup) (sent : ℕ → Bool)
    (s : SchedulerClass) (c : ℕ) (hn : s.nextSlotNumber < cfg.schtblSlots)
    (hc : c < cfg.schtblSlots) :
    WakeupLaw cfg s c (wakeupReconciler cfg sent s c).1 (wakeupReconciler cfg sent s c).2 := by
  have hnext := reconcileDecision_nextSlotNumber_lt hn hc
  have hslots := processSlots_slots cfg sent (k := (reconcileDecision cfg s c).2.1) hnext
  have hlt := processSlots_lt cfg sent (k := (reconcileDecision cfg s c).2.1) hnext
  have hdue := slotsDue_count_le hn hc
  obtain ⟨hruns, hpos, -⟩ := wakeupReconciler_positions sent hn hc
  rw [WakeupLaw]
  simp only [wakeupReconciler_fst, wakeupReconciler_snd, processSlots_length,
    processSlots_skippedSlotsCount] at hruns hpos ⊢
  rcases @reconcileDecision_cases cfg s c with ⟨hev, hps, hpn, -, hm⟩ | ⟨hev, hps, hpn, -, hm⟩ <;>
    simp only [hev, ite_true, ite_false, Bool.false_eq_true, Nat.add_zero] at hruns hpos
  · refine ⟨hm ▸ throughputCap_le cfg _, .inl ⟨hev, hps, by rw [hslots, hpn], ?_, hruns, hpos⟩⟩
    exact hm ▸ (throughputCap_le_self cfg _).trans hdue
  · -- the lag limit skipped to the current slot
    have hm1 : (reconcileDecision cfg s c).2.1 = 1 := by
      rw [hm, throughputCap]; split_ifs <;> omega
    rw [hm1] at hslots hlt hruns hpos ⊢
    refine ⟨hspw, .inr ⟨hev, hps, ?_, ?_, hruns, hpos⟩⟩
    · rw [hslots, hpn]
      exact congrArg (· :: []) (Nat.mod_eq_of_lt hc)
    · rw [← position_div hlt, hpos, position, skip_add_one hn hc,
        mod_positionWrap_div cfg (by omega)]

theorem getCurrentSlotNumber_noisyMajorFrameCheck (s : SchedulerClass) (us : ℕ) :
    getCurrentSlotNumber cfg (noisyMajorFrameCheck s).1 us = getCurrentSlotNumber cfg s us := by
  rw [noisyMajorFrameCheck_fst]; rfl

theorem position_noisyMajorFrameCheck (s : SchedulerClass) :
    position cfg (noisyMajorFrameCheck s).1 = position cfg s := by
  rw [noisyMajorFrameCheck_fst]; rfl

/-- `SCHEDULER_Execute` with a successful take executes the positions of its reconciler. -/
theorem schedulerExecute_positions (sent : ℕ → Bool) (s : SchedulerClass) (us : ℕ)
    (hn : s.nextSlotNumber < cfg.schtblSlots)
    (hc : getCurrentSlotNumber cfg s us < cfg.schtblSlots) :
    ∃ w, (schedulerExecute cfg sent s true us).2 = some w ∧
      let a := if w.events.any Event.isSkip then
        (getCurrentSlotNumber cfg s us + cfg.schtblSlots - s.nextSlotNumber) % cfg.schtblSlots
        else 0
      w.runs.map (SlotRun.position cfg) =
          (List.range' (position cfg s + a) w.runs.length).map (· % positionWrap cfg) ∧
        position cfg (schedulerExecute cfg sent s true us).1 =
          (position cfg s + a + w.runs.length) % positionWrap cfg ∧
        a + w.runs.length ≤ cfg.schtblSlots := by
  have h := wakeupReconciler_positions sent (s := (noisyMajorFrameCheck s).1)
    (c := getCurrentSlotNumber cfg s us) (by rw [noisyMajorFrameCheck_fst]; exact hn) hc
  rw [schedulerExecute_true, getCurrentSlotNumber_noisyMajorFrameCheck]
  refine ⟨_, rfl, ?_⟩
  simpa only [List.any_append, noisyMajorFrameCheck_skips, Bool.false_or,
    position_noisyMajorFrameCheck, noisyMajorFrameCheck_fst] using h

/-- `SCHEDULER_Execute` with a successful take obeys the wakeup law at the slot the clock
reads. -/
theorem schedulerExecute_law (hspw : 1 ≤ cfg.maxSlotsPerWakeup) (sent : ℕ → Bool)
    (s : SchedulerClass) (us : ℕ) (hn : s.nextSlotNumber < cfg.schtblSlots)
    (hc : getCurrentSlotNumber cfg s us < cfg.schtblSlots) :
    ∃ w, (schedulerExecute cfg sent s true us).2 = some w ∧
      WakeupLaw cfg s (getCurrentSlotNumber cfg s us) (schedulerExecute cfg sent s true us).1 w := by
  have hlaw := wakeupReconciler_law hspw sent (noisyMajorFrameCheck s).1
    (getCurrentSlotNumber cfg s us) (by rw [noisyMajorFrameCheck_fst]; exact hn) hc
  rw [schedulerExecute_true, getCurrentSlotNumber_noisyMajorFrameCheck]
  refine ⟨_, rfl, ?_⟩
  simpa only [WakeupLaw, List.any_append, noisyMajorFrameCheck_skips, Bool.false_or,
    position_noisyMajorFrameCheck, noisyMajorFrameCheck_fst] using hlaw

/-! ## Over a run -/

/-- The slots an output's wakeup executed. -/
def Output.runs : Output → List SlotRun
  | .wakeup (some w) => w.runs
  | _ => []

/-- Whether an output's wakeup reported a skip. -/
def Output.skips : Output → Bool
  | .wakeup (some w) => w.events.any Event.isSkip
  | _ => false

/-- Only `SCHEDULER_Execute` and `SCHEDULER_ResetStatus` touch the fields the wakeup decisions
carry from one wakeup to the next: the slot position, `LastProcessCount` and the skip count. -/
theorem step_slotFields {s : SchedulerClass} {op : Op} (hr : op ≠ .resetStatus)
    (hx : ∀ take us sent, op ≠ .execute take us sent) :
    (step cfg s op).1.nextSlotNumber = s.nextSlotNumber ∧
      (step cfg s op).1.tablePassCount = s.tablePassCount ∧
      (step cfg s op).1.lastProcessCount = s.lastProcessCount ∧
      (step cfg s op).1.skippedSlotsCount = s.skippedSlotsCount := by
  cases op with
  | execute take us sent => exact absurd rfl (hx take us sent)
  | resetStatus => exact absurd rfl hr
  | majorFrame => simp only [step]; rw [majorFrameCallback_eq]; exact ⟨rfl, rfl, rfl, rfl⟩
  | minorFrame => simp only [step]; rw [minorFrameCallback_eq]; exact ⟨rfl, rfl, rfl, rfl⟩
  | configSchEntryCmd =>
    simp only [step]; rw [schedulerConfigSchEntryCmd_eq]; exact ⟨rfl, rfl, rfl, rfl⟩
  | loadSchEntryCmd =>
    simp only [step]; rw [schedulerLoadSchEntryCmd_eq]; exact ⟨rfl, rfl, rfl, rfl⟩
  | loadMsgEntryCmd =>
    simp only [step]; rw [schedulerLoadMsgEntryCmd_eq]; exact ⟨rfl, rfl, rfl, rfl⟩
  | _ => exact ⟨rfl, rfl, rfl, rfl⟩

theorem step_position_of_not_execute {s : SchedulerClass} {op : Op} (hr : op ≠ .resetStatus)
    (hx : ∀ take us sent, op ≠ .execute take us sent) :
    position cfg (step cfg s op).1 = position cfg s := by
  obtain ⟨h₁, h₂, -⟩ := step_slotFields (s := s) hr hx
  rw [position, h₁, h₂, position]

variable (cfg) in
/-- How many positions a step moves the position on: the distance from the position before to
the one after, modulo the wrap. -/
def stepAdvance (s : SchedulerClass) (op : Op) : ℕ :=
  (position cfg (step cfg s op).1 + positionWrap cfg - position cfg s) % positionWrap cfg

variable (cfg) in
/-- How many positions a run moves the position on, counted past the wrap of `TablePassCount`. -/
def runAdvance : SchedulerClass → List Op → ℕ
  | _, [] => 0
  | s, op :: ops => stepAdvance cfg s op + runAdvance (step cfg s op).1 ops

/-- The distance from `p` to `(p + a) % W`, modulo `W`, is `a` for `a < W`. -/
theorem add_mod_sub_mod {p a W : ℕ} (hp : p < W) (ha : a < W) : ((p + a) % W + W - p) % W = a := by
  rcases Nat.lt_or_ge (p + a) W with h | h
  · rw [Nat.mod_eq_of_lt h, show p + a + W - p = a + W by omega, Nat.add_mod_right,
      Nat.mod_eq_of_lt ha]
  · rw [Nat.mod_eq_sub_mod h, Nat.mod_eq_of_lt (show p + a - W < W by omega),
      show p + a - W + W - p = a by omega, Nat.mod_eq_of_lt ha]

/-- A step between states in the slot invariant moves the position by its advance. -/
theorem position_step {s : SchedulerClass} {op : Op} (hs : SlotInv cfg s)
    (hs' : SlotInv cfg (step cfg s op).1) :
    position cfg (step cfg s op).1 =
      (position cfg s + stepAdvance cfg s op) % positionWrap cfg := by
  have h := position_lt cfg hs.next
  rw [stepAdvance, Nat.add_mod_mod, show position cfg s + (position cfg (step cfg s op).1 +
    positionWrap cfg - position cfg s) = position cfg (step cfg s op).1 + positionWrap cfg by omega,
    Nat.add_mod_right, Nat.mod_eq_of_lt (position_lt cfg hs'.next)]

/-- One step other than `SCHEDULER_ResetStatus`, from a state in the slot invariant, executes,
modulo the wrap, the consecutive positions from `position s + a`, and advances by `a` and their
number; `a` is `0` unless the step reports a skip. -/
theorem step_positions {s : SchedulerClass} {op : Op} (hs : SlotInv cfg s)
    (hop : op.MetValid cfg) (hr : op ≠ .resetStatus) :
    ∃ a, (step cfg s op).2.runs.map (SlotRun.position cfg) =
        (List.range' (position cfg s + a) (step cfg s op).2.runs.length).map
          (· % positionWrap cfg) ∧
      stepAdvance cfg s op = a + (step cfg s op).2.runs.length ∧
      ((step cfg s op).2.skips = false → a = 0) := by
  have hS := hs.slots_pos
  have hW : cfg.schtblSlots < positionWrap cfg := by unfold positionWrap; omega
  cases op with
  | execute take us sent =>
    cases take
    · exact ⟨0, rfl, by simp [stepAdvance, step, Output.runs], fun _ => rfl⟩
    obtain ⟨w, hw, hruns, hpos, hle⟩ :=
      schedulerExecute_positions sent s us hs.next (getCurrentSlotNumber_slotInv hs (hop us rfl))
    simp only [stepAdvance, step, hw, Output.runs, Output.skips]
    refine ⟨_, hruns, ?_, fun h => by simp [h]⟩
    rw [hpos, Nat.add_assoc, add_mod_sub_mod (position_lt cfg hs.next) (by omega)]
  | resetStatus => exact absurd rfl hr
  | _ =>
    refine ⟨0, rfl, ?_, fun _ => rfl⟩
    rw [stepAdvance, step_position_of_not_execute hr fun _ _ _ => nofun, Nat.add_sub_cancel_left,
      Nat.mod_self]
    rfl

/-- Over a run from a state in the slot invariant with no `SCHEDULER_ResetStatus`, the positions
`ProcessNextSlot` runs at are, modulo the wrap, strictly increasing positions from the first
position on and below `runAdvance` further, and the consecutive ones, `runAdvance` of them, when
no wakeup reports a skip. -/
theorem run_positions {s : SchedulerClass} (hs : SlotInv cfg s) (ops : List Op)
    (hops : ∀ op ∈ ops, op.MetValid cfg ∧ op ≠ .resetStatus) :
    ∃ Q : List ℕ, ((trace cfg s ops).flatMap Output.runs).map (SlotRun.position cfg) =
        Q.map (· % positionWrap cfg) ∧ Q.Pairwise (· < ·) ∧
      (∀ q ∈ Q, position cfg s ≤ q ∧ q < position cfg s + runAdvance cfg s ops) ∧
      ((trace cfg s ops).all (fun o => !o.skips) = true →
        Q = List.range' (position cfg s) Q.length ∧ runAdvance cfg s ops = Q.length) := by
  induction ops generalizing s with
  | nil => exact ⟨[], rfl, List.Pairwise.nil, nofun, fun _ => ⟨rfl, rfl⟩⟩
  | cons op ops ih =>
    have hop := hops op (List.mem_cons_self _ _)
    have hs' := slotInv_step hop.1 hs
    obtain ⟨a, hQ, hadv, hskip⟩ := step_positions hs hop.1 hop.2
    obtain ⟨Q, hP, hmono, hbounds, hcons⟩ := ih hs' fun o ho => hops o (List.mem_cons_of_mem _ ho)
    -- the rest of the run, lifted past the wrap so that it follows on from this step
    have hend := position_step hs hs'
    rw [hadv, ← Nat.add_assoc] at hend
    generalize (step cfg s op).2.runs.length = k at hQ hadv hend
    generalize hδ : positionWrap cfg * ((position cfg s + a + k) / positionWrap cfg) = δ
    have hlift : position cfg (step cfg s op).1 + δ = position cfg s + a + k := by
      rw [hend, ← hδ, Nat.mod_add_div]
    have hmod : ∀ q, (q + δ) % positionWrap cfg = q % positionWrap cfg := fun q => by
      rw [← hδ, Nat.add_mul_mod_self_left]
    simp only [trace, List.flatMap_cons, List.map_append, List.all_cons, Bool.and_eq_true,
      Bool.not_eq_true'] at hP hcons ⊢
    rw [hQ, hP, runAdvance, hadv]
    refine ⟨List.range' (position cfg s + a) k ++ Q.map (· + δ), ?_, ?_, fun q hq => ?_,
      fun ⟨h1, h2⟩ => ?_⟩
    · simp only [List.map_append, List.map_map, Function.comp_def, hmod]
    · refine List.pairwise_append.2 ⟨List.pairwise_lt_range' _ _,
        hmono.map _ fun _ _ h => Nat.add_lt_add_right h δ, fun x hx y hy => ?_⟩
      obtain ⟨q, hq', rfl⟩ := List.mem_map.1 hy
      have := (hbounds q hq').1
      rw [List.mem_range'_1] at hx
      omega
    · rcases List.mem_append.1 hq with hq | hq
      · rw [List.mem_range'_1] at hq; omega
      · obtain ⟨q, hq', rfl⟩ := List.mem_map.1 hq
        have := hbounds q hq'
        omega
    · obtain ⟨hrest, hlen⟩ := hcons h2
      obtain rfl := hskip h1
      have hQ' : Q.map (· + δ) = List.range' (position cfg s + k) Q.length := by
        conv_lhs => rw [hrest]
        rw [show (fun x => x + δ) = (δ + ·) from funext fun x => Nat.add_comm x δ,
          List.map_add_range']
        congr 1
        omega
      rw [hQ', List.length_append, List.length_range', List.length_range', Nat.add_zero,
        List.range'_append_1]
      exact ⟨by rw [Nat.add_comm], by omega⟩

/-- A run between states in the slot invariant moves the position by its advance. -/
theorem position_run {s : SchedulerClass} (hs : SlotInv cfg s) (ops : List Op)
    (hops : ∀ op ∈ ops, op.MetValid cfg) :
    position cfg (run cfg s ops) = (position cfg s + runAdvance cfg s ops) % positionWrap cfg := by
  induction ops generalizing s with
  | nil => exact (Nat.mod_eq_of_lt (position_lt cfg hs.next)).symm
  | cons op ops ih =>
    have hop := hops op (List.mem_cons_self _ _)
    have hs' := slotInv_step hop hs
    rw [run_cons, ih hs' fun o ho => hops o (List.mem_cons_of_mem _ ho), position_step hs hs',
      runAdvance, Nat.mod_add_mod, Nat.add_assoc]

/-- In every reachable state, with `SCHEDULER_MAX_SLOTS_PER_WAKEUP ≥ 1`, a wakeup obeys the
wakeup law at the slot the clock reads. Over every following run without
`SCHEDULER_ResetStatus`, the positions `ProcessNextSlot` runs at are, modulo the wrap, strictly
increasing positions between the state's own and `runAdvance` further, the consecutive ones when
no wakeup reports a skip; and before `TablePassCount` wraps they are so without the modulo, so
that no (pass, slot) pair runs twice. -/
theorem reachable_wakeup_law (hsync : cfg.timeSyncSlot < cfg.schtblSlots)
    (hspw : 1 ≤ cfg.maxSlotsPerWakeup) (timerCreated : Bool) (clockAccuracy : UInt32)
    (ops : List Op) (hops : ∀ op ∈ ops, op.MetValid cfg) :
    let s := run cfg (initial cfg timerCreated clockAccuracy) ops
    (∀ (sent : ℕ → Bool) (us : ℕ), MetReading cfg us →
      ∃ w, (schedulerExecute cfg sent s true us).2 = some w ∧
        WakeupLaw cfg s (getCurrentSlotNumber cfg s us) (schedulerExecute cfg sent s true us).1 w) ∧
      ∀ ops' : List Op, (∀ op ∈ ops', op.MetValid cfg ∧ op ≠ .resetStatus) →
        let runs := (trace cfg s ops').flatMap Output.runs
        let noSkip := (trace cfg s ops').all (fun o => !o.skips) = true
        (∃ Q : List ℕ, runs.map (SlotRun.position cfg) = Q.map (· % positionWrap cfg) ∧
          Q.Pairwise (· < ·) ∧
          (∀ q ∈ Q, position cfg s ≤ q ∧ q < position cfg s + runAdvance cfg s ops') ∧
          (noSkip → Q = List.range' (position cfg s) Q.length)) ∧
        (position cfg s + runAdvance cfg s ops' ≤ positionWrap cfg →
          (runs.map (SlotRun.position cfg)).Pairwise (· < ·) ∧
            (runs.map fun r => (r.pass, r.slot)).Nodup ∧
            (noSkip →
              runs.map (SlotRun.position cfg) = List.range' (position cfg s) runs.length)) := by
  intro s
  have hs : SlotInv cfg s :=
    run_invariant cfg (fun _ _ hop hs => slotInv_step hop hs) ops _ hops
      (slotInv_initial hsync timerCreated clockAccuracy)
  refine ⟨fun sent us hus => schedulerExecute_law hspw sent s us hs.next
    (getCurrentSlotNumber_slotInv hs hus), fun ops' hops' => ?_⟩
  obtain ⟨Q, hP, hmono, hbounds, hcons⟩ := run_positions hs ops' hops'
  refine ⟨⟨Q, hP, hmono, hbounds, fun h => (hcons h).1⟩, fun hwrap => ?_⟩
  -- before the wrap the positions are their own remainders
  have hPQ : ((trace cfg s ops').flatMap Output.runs).map (SlotRun.position cfg) = Q := by
    rw [hP]
    conv_rhs => rw [← List.map_id Q]
    exact List.map_congr_left fun q hq => Nat.mod_eq_of_lt (by have := hbounds q hq; omega)
  rw [hPQ]
  refine ⟨hmono, List.pairwise_map.2 ((List.pairwise_map.1 (hPQ ▸ hmono)).imp
    fun {a b} h he => ?_), fun h => ?_⟩
  · simp only [Prod.mk.injEq] at he
    simp only [SlotRun.position, he.1, he.2, Nat.lt_irrefl] at h
  · rw [(hcons h).1, ← hPQ, List.length_map]

theorem reachable_wakeup_law_demo :
    demoConfig.timeSyncSlot < demoConfig.schtblSlots ∧ 1 ≤ demoConfig.maxSlotsPerWakeup ∧
      ∃ w, (schedulerExecute demoConfig (fun _ => true) (initial demoConfig true 20) true 0).2 =
          some w ∧
        WakeupLaw demoConfig (initial demoConfig true 20)
          (getCurrentSlotNumber demoConfig (initial demoConfig true 20) 0)
          (schedulerExecute demoConfig (fun _ => true) (initial demoConfig true 20) true 0).1 w :=
  ⟨by decide, by decide,
    (reachable_wakeup_law (by decide) (by decide) true 20 [] (by simp)).1 _ 0 (by decide)⟩

end KitSch
