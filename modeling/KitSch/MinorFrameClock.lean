import KitSch.Accounting

/-!
# The minor frame clock without tones

Once a major frame source is set and no MET synchronization is pending (`FreeRunning`), each
`MinorFrameCallback` counts one minor frame: `MinorFramesSinceTone` goes up by one, and on
reaching `SCHTBL_SLOTS` rolls over to `0` with a short slot and one more
`MissedMajorFrameCount`; the count `SCHEDULER_TIME_SYNC_SLOT` starts the long slot. Until a tone
comes outside flywheel, nothing else moves the clock, so the pair of `MissedMajorFrameCount`
and `MinorFramesSinceTone` counts the minor frames in base `SCHTBL_SLOTS`, and the timer program
repeats with period `SCHTBL_SLOTS`.

* `minorFrameCallback_freeRunning`: one free-running minor frame, in the two cases of the
  rollover;
* `ClockAdvance`, `step_clock`: what one step does to the clock, composed by
  `ClockAdvance.trans` as the counts in base `SCHTBL_SLOTS` add up;
* `minor_frame_clock`: over every run without a tone outside flywheel, the minor frame count is
  the start count plus the minor frames modulo `SCHTBL_SLOTS`, each callback programs the timer
  as `minorFrameSignals` of the count it reaches, and without a reset `MissedMajorFrameCount`
  goes up by the rollovers, the quotient by `SCHTBL_SLOTS`.
-/

namespace KitSch

variable (cfg : SchedulerConfig)

/-- The minor frame timer drives the slot clock on its own: a major frame source is set, no MET
synchronization is pending, and the minor frame count is a slot. -/
structure FreeRunning (s : SchedulerClass) : Prop where
  source : s.majorFrameSource ≠ .none
  settled : ¬ (s.syncToMET &&& cfg.synchMajorPending ≠ 0 ∧ s.majorFrameSource = .minorFrameTimer)
  count_lt : s.minorFramesSinceTone < cfg.schtblSlots

/-- What a free-running minor frame that brings the count to `n` does outside the object: the
short slot on the rollover to `0`, the long slot at `SCHEDULER_TIME_SYNC_SLOT`, and the
semaphore. -/
def minorFrameSignals (n : ℕ) : Signals :=
  ⟨(if n = 0 then [(cfg.shortSlotPeriod, cfg.normalSlotPeriod)] else []) ++
    (if n = cfg.timeSyncSlot then [(cfg.syncSlotPeriod, 0)] else []), true⟩

/-- Whether an operation is a `MinorFrameCallback`. -/
def Op.isMinorFrame : Op → Bool
  | .minorFrame _ => true
  | _ => false

/-- The signals of a minor frame callback. -/
def Op.minorSignals : Op → Output → List Signals
  | .minorFrame _, .signals sig => [sig]
  | _, _ => []

/-- The signals the minor frame callbacks of a run returned, in order. -/
def minorFrameLog (h : List (SchedulerClass × Op × Output)) : List Signals :=
  h.flatMap fun e => e.2.1.minorSignals e.2.2

variable {cfg} {s : SchedulerClass}

/-- One free-running minor frame: the count goes up by one, or rolls over to `0` and counts a
missed major frame. -/
theorem minorFrameCallback_freeRunning (h : FreeRunning cfg s) (us : ℕ) :
    minorFrameCallback cfg s us =
      if s.minorFramesSinceTone + 1 < cfg.schtblSlots then
        ({ s with minorFramesSinceTone := s.minorFramesSinceTone + 1 },
          minorFrameSignals cfg (s.minorFramesSinceTone + 1))
      else
        ({ s with minorFramesSinceTone := 0, missedMajorFrameCount := s.missedMajorFrameCount + 1 },
          minorFrameSignals cfg 0) := by
  have hs : startMetSync cfg s = s := if_neg h.source
  unfold minorFrameCallback minorFrameTail minorFrameSignals
  rw [hs, if_neg h.settled]
  dsimp only
  split_ifs <;> (try dsimp only at *) <;> first | rfl | omega

/-- Counted in base `SCHTBL_SLOTS`: the count after a minor frame is the next count's remainder,
and the missed major frames go up by its quotient. -/
theorem minorFrameCallback_clock (h : FreeRunning cfg s) (us : ℕ) :
    let r := minorFrameCallback cfg s us
    let a := s.minorFramesSinceTone + 1
    FreeRunning cfg r.1 ∧ r.1.minorFramesSinceTone = a % cfg.schtblSlots ∧
      r.1.missedMajorFrameCount.toNat =
        (s.missedMajorFrameCount.toNat + a / cfg.schtblSlots) % 2 ^ 32 ∧
      r.2 = minorFrameSignals cfg (a % cfg.schtblSlots) := by
  have ⟨h₁, h₂, h₃⟩ := h
  rw [minorFrameCallback_freeRunning h]
  split_ifs with hlt <;> dsimp only
  · refine ⟨⟨h₁, h₂, hlt⟩, ?_, ?_, ?_⟩ <;>
      simp only [Nat.mod_eq_of_lt hlt, Nat.div_eq_of_lt hlt, Nat.add_zero, toNat_mod_size]
  · have ha : s.minorFramesSinceTone + 1 = cfg.schtblSlots := by omega
    rw [ha, Nat.mod_self, Nat.div_self (by omega)]
    exact ⟨⟨h₁, h₂, by dsimp only; omega⟩, rfl, rfl, rfl⟩

/-- A step that is neither a minor frame nor a tone outside flywheel leaves the clock and the
synchronization state, and, unless it is `SCHEDULER_ResetStatus`, the major frame counters and
`IgnoreMajorFrame`. -/
theorem step_clock_idle {op : Op} (hm : op.isMinorFrame = false)
    (ht : ∀ us, op ≠ .majorFrame false us) :
    let t := (step cfg s op).1
    t.minorFramesSinceTone = s.minorFramesSinceTone ∧ t.majorFrameSource = s.majorFrameSource ∧
      t.syncToMET = s.syncToMET ∧
      (op ≠ .resetStatus → t.missedMajorFrameCount = s.missedMajorFrameCount ∧
        t.unexpectedMajorFrameCount = s.unexpectedMajorFrameCount ∧
        t.validMajorFrameCount = s.validMajorFrameCount ∧ t.ignoreMajorFrame = s.ignoreMajorFrame) ∧
      op.minorSignals (step cfg s op).2 = [] := by
  cases op with
  | execute take us sent =>
    simp only [step]; rw [schedulerExecute_eq]
    exact ⟨rfl, rfl, rfl, fun _ => ⟨rfl, rfl, rfl, rfl⟩, rfl⟩
  | majorFrame flying us =>
    cases flying
    · exact absurd rfl (ht us)
    · exact ⟨rfl, rfl, rfl, fun _ => ⟨rfl, rfl, rfl, rfl⟩, rfl⟩
  | minorFrame => cases hm
  | resetStatus => exact ⟨rfl, rfl, rfl, fun h => absurd rfl h, rfl⟩
  | configSchEntryCmd =>
    simp only [step]; rw [schedulerConfigSchEntryCmd_eq]
    exact ⟨rfl, rfl, rfl, fun _ => ⟨rfl, rfl, rfl, rfl⟩, rfl⟩
  | loadSchEntryCmd =>
    simp only [step]; rw [schedulerLoadSchEntryCmd_eq]
    exact ⟨rfl, rfl, rfl, fun _ => ⟨rfl, rfl, rfl, rfl⟩, rfl⟩
  | loadMsgEntryCmd =>
    simp only [step]; rw [schedulerLoadMsgEntryCmd_eq]
    exact ⟨rfl, rfl, rfl, fun _ => ⟨rfl, rfl, rfl, rfl⟩, rfl⟩
  | _ => exact ⟨rfl, rfl, rfl, fun _ => ⟨rfl, rfl, rfl, rfl⟩, rfl⟩

/-- The minor frames counted from `x` in base `S`: the quotient of the sum is the quotient of `x`
plus that of its remainder and the frames. -/
theorem div_add_mod_add {S : ℕ} (hS : 0 < S) (x m : ℕ) : x / S + (x % S + m) / S = (x + m) / S := by
  conv_rhs => rw [← Nat.div_add_mod x S, Nat.add_assoc, Nat.mul_add_div hS]

variable (cfg) in
/-- The clock moved on by `m` minor frames from the count `a` and the missed count `x` to `t`,
with the signals `log`: the count is `a + m` modulo `SCHTBL_SLOTS`, the `j`-th minor frame
programs the timer as `minorFrameSignals` of the count `a + j + 1` it reaches, and, when `nr`
holds, the missed count went up by the rollovers. -/
def ClockAdvance (a m : ℕ) (x : UInt32) (nr : Prop) (t : SchedulerClass) (log : List Signals) :
    Prop :=
  t.minorFramesSinceTone = (a + m) % cfg.schtblSlots ∧
    log = (List.range m).map (fun j => minorFrameSignals cfg ((a + j + 1) % cfg.schtblSlots)) ∧
    (nr → t.missedMajorFrameCount.toNat = (x.toNat + (a + m) / cfg.schtblSlots) % 2 ^ 32)

/-- Moving the clock on by `m₁` and then by `m₂` minor frames moves it on by `m₁ + m₂`. -/
theorem ClockAdvance.trans (hS : 0 < cfg.schtblSlots) {a m₁ m₂ : ℕ} {x : UInt32} {P₁ P₂ : Prop}
    {t₁ t₂ : SchedulerClass} {l₁ l₂ : List Signals} (h₁ : ClockAdvance cfg a m₁ x P₁ t₁ l₁)
    (h₂ : ClockAdvance cfg t₁.minorFramesSinceTone m₂ t₁.missedMajorFrameCount P₂ t₂ l₂) :
    ClockAdvance cfg a (m₁ + m₂) x (P₁ ∧ P₂) t₂ (l₁ ++ l₂) := by
  obtain ⟨c₁, g₁, d₁⟩ := h₁
  obtain ⟨c₂, g₂, d₂⟩ := h₂
  rw [c₁] at c₂ g₂ d₂
  refine ⟨by rw [c₂, Nat.mod_add_mod, Nat.add_assoc], ?_, fun hp => ?_⟩
  · rw [g₁, g₂, List.range_add, List.map_append, List.map_map]
    refine congrArg _ (List.map_congr_left fun j _ => ?_)
    rw [Function.comp_apply, Nat.add_assoc _ j, Nat.mod_add_mod, ← Nat.add_assoc a]
    rfl
  · rw [d₂ hp.2, d₁ hp.1, Nat.mod_add_mod, Nat.add_assoc, div_add_mod_add hS, Nat.add_assoc]

/-- One step of a free-running clock other than a tone outside flywheel keeps it free-running and
moves it on by the minor frame it counts, if any. -/
theorem step_clock (h : FreeRunning cfg s) {op : Op} (ht : ∀ us, op ≠ .majorFrame false us) :
    FreeRunning cfg (step cfg s op).1 ∧
      ClockAdvance cfg s.minorFramesSinceTone (if op.isMinorFrame then 1 else 0)
        s.missedMajorFrameCount (op ≠ .resetStatus) (step cfg s op).1
        (op.minorSignals (step cfg s op).2) := by
  cases hm : op.isMinorFrame
  · obtain ⟨e₁, e₂, e₃, e₄, e₅⟩ := step_clock_idle (s := s) hm ht
    refine ⟨⟨e₂ ▸ h.source, e₂ ▸ e₃ ▸ h.settled, e₁ ▸ h.count_lt⟩,
      e₁.trans (Nat.mod_eq_of_lt h.count_lt).symm, e₅, fun hr => ?_⟩
    rw [(e₄ hr).1, if_neg Bool.false_ne_true, Nat.add_zero, Nat.div_eq_of_lt h.count_lt,
      Nat.add_zero, toNat_mod_size]
  · obtain ⟨us, rfl⟩ : ∃ us, op = .minorFrame us := by
      cases op <;> first | exact ⟨_, rfl⟩ | cases hm
    obtain ⟨hf, c₁, c₂, c₃⟩ := minorFrameCallback_clock h us
    have hsig : (Op.minorFrame us).minorSignals (step cfg s (.minorFrame us)).2 =
        [(minorFrameCallback cfg s us).2] := rfl
    exact ⟨hf, c₁, by rw [hsig, c₃]; rfl, fun _ => c₂⟩

/-- Over every run from a free-running state with no tone outside flywheel: the minor frame count
is the start count plus the number `m` of minor frames, modulo `SCHTBL_SLOTS`; callback `j`
programs the timer as `minorFrameSignals` of the count `a + j + 1` it reaches, modulo
`SCHTBL_SLOTS`; and when the run has no `SCHEDULER_ResetStatus`, `MissedMajorFrameCount` goes up
by the rollovers, `(a + m) / SCHTBL_SLOTS`, modulo `2^32`. -/
theorem minor_frame_clock (s : SchedulerClass) (h : FreeRunning cfg s) (ops : List Op)
    (hops : ∀ op ∈ ops, ∀ us, op ≠ .majorFrame false us) :
    let m := ops.countP Op.isMinorFrame
    let a := s.minorFramesSinceTone
    (run cfg s ops).minorFramesSinceTone = (a + m) % cfg.schtblSlots ∧
      minorFrameLog (history cfg s ops) =
        (List.range m).map (fun j => minorFrameSignals cfg ((a + j + 1) % cfg.schtblSlots)) ∧
      ((∀ op ∈ ops, op ≠ .resetStatus) → (run cfg s ops).missedMajorFrameCount.toNat =
        (s.missedMajorFrameCount.toNat + (a + m) / cfg.schtblSlots) % 2 ^ 32) := by
  suffices FreeRunning cfg (run cfg s ops) ∧ ClockAdvance cfg s.minorFramesSinceTone
      (ops.countP Op.isMinorFrame) s.missedMajorFrameCount (∀ op ∈ ops, op ≠ .resetStatus)
      (run cfg s ops) (minorFrameLog (history cfg s ops)) from this.2
  induction ops generalizing s with
  | nil =>
    refine ⟨h, (Nat.mod_eq_of_lt h.count_lt).symm, rfl, fun _ => ?_⟩
    rw [run_nil, List.countP_nil, Nat.add_zero, Nat.div_eq_of_lt h.count_lt, Nat.add_zero,
      toNat_mod_size]
  | cons op ops ih =>
    obtain ⟨hf, hc⟩ := step_clock h (hops op (List.mem_cons_self _ _))
    obtain ⟨hf', hc'⟩ := ih _ hf fun o ho => hops o (List.mem_cons_of_mem _ ho)
    rw [List.forall_mem_cons, List.countP_cons, Nat.add_comm]
    exact ⟨hf', hc.trans (Nat.zero_lt_of_lt h.count_lt) hc'⟩

/-- The state after the first tone from construction with `demoConfig`: the tone is on time and
accepted, so `MajorFrameCallback` made the time service the major frame source. -/
def toneAccepted : SchedulerClass :=
  run demoConfig (initial demoConfig false 0) [.majorFrame false 0]

theorem minor_frame_clock_rollover :
    FreeRunning demoConfig toneAccepted ∧
      (∀ op ∈ List.replicate 5 (Op.minorFrame 0), ∀ us, op ≠ .majorFrame false us) ∧
      (run demoConfig toneAccepted (List.replicate 5 (.minorFrame 0))).minorFramesSinceTone =
        (toneAccepted.minorFramesSinceTone + 5) % demoConfig.schtblSlots :=
  have hf : FreeRunning demoConfig toneAccepted := ⟨by decide, by decide, by decide⟩
  have hops : ∀ op ∈ List.replicate 5 (Op.minorFrame 0), ∀ us, op ≠ .majorFrame false us := by
    simp
  ⟨hf, hops, (minor_frame_clock toneAccepted hf _ hops).1⟩

end KitSch
