import KitSch.Noninterference
import KitSch.ToneMonitor

/-!
# What the diagnostic counters count

Eight of the nine diagnostic counters of `SCHEDULER_Class` count what a caller sees happen:
`SlotsProcessedCount` the calls of `ProcessNextSlot`, `ScheduleActivitySuccessCount` and
`ScheduleActivityFailureCount` the outcomes of their dispatches, `SameSlotCount` and
`SkippedSlotsCount` the same-slot and skipped-slot reports, `MultipleSlotsCount` the wakeups that
process more than one slot, `ValidMajorFrameCount` the tones that give the wakeup semaphore and
`UnexpectedMajorFrameCount` the tones classified noisy. `Counter.count` reads off one step what it
adds to a counter, `Counter.tally` adds it up along a run, restarting at each
`SCHEDULER_ResetStatus`; `Adds` carries the sum through the stages of `SCHEDULER_Execute` and the
major frame callback, one lemma per stage.

* `counters_account`: along every run, each of the eight counters is, modulo `2^32`, its tally
  over the run from its value before;
* `noisy_reported_once`: a run with no `SCHEDULER_ResetStatus` reports the noisy major frame at
  most once, and not at all when the report for the set latch was already made.

`MissedMajorFrameCount` counts the minor frame rollovers, which no output shows; it is accounted
for in `KitSch.MinorFrameClock`.
-/

namespace KitSch

variable (cfg : SchedulerConfig) (sent : ℕ → Bool)

/-- The events an output reports: those of a wakeup past its semaphore take. -/
def Output.events : Output → List Event
  | .wakeup (some w) => w.events
  | _ => []

/-- Whether an event is the `SCHEDULER_SAME_SLOT_EID` report. -/
def Event.isSameSlot : Event → Bool
  | .sameSlot _ => true
  | _ => false

/-- Whether an event is the `SCHEDULER_NOISY_MAJOR_FRAME_ERR_EID` report. -/
def Event.isNoisy : Event → Bool
  | .noisyMajorFrame _ => true
  | _ => false

/-- Whether an operation is `SCHEDULER_ResetStatus`. -/
def Op.isReset : Op → Bool
  | .resetStatus => true
  | _ => false

/-- The steps of a run: each operation with the state it ran from and what it returned. -/
def history (s : SchedulerClass) : List Op → List (SchedulerClass × Op × Output)
  | [] => []
  | op :: ops => (s, op, (step cfg s op).2) :: history (step cfg s op).1 ops

theorem toNat_mod_size (x : UInt32) : x.toNat % 2 ^ 32 = x.toNat :=
  Nat.mod_eq_of_lt x.toNat_lt_size

/-- The diagnostic counters whose increments a caller sees. -/
inductive Counter where
  | slotsProcessed
  | skippedSlots
  | multipleSlots
  | sameSlot
  | activitySuccess
  | activityFailure
  | validMajorFrame
  | unexpectedMajorFrame
deriving DecidableEq, Repr

namespace Counter

/-- The counter's field. -/
def read : Counter → SchedulerClass → UInt32
  | slotsProcessed, s => s.slotsProcessedCount
  | skippedSlots, s => s.skippedSlotsCount
  | multipleSlots, s => s.multipleSlotsCount
  | sameSlot, s => s.sameSlotCount
  | activitySuccess, s => s.scheduleActivitySuccessCount
  | activityFailure, s => s.scheduleActivityFailureCount
  | validMajorFrame, s => s.validMajorFrameCount
  | unexpectedMajorFrame, s => s.unexpectedMajorFrameCount

/-- What dispatches add: one per dispatch to the counter of its outcome. -/
def ofDispatches : Counter → List Dispatch → ℕ
  | activitySuccess, ds => ds.countP Dispatch.sent
  | activityFailure, ds => ds.countP fun d => !d.sent
  | _, _ => 0

/-- What calls of `ProcessNextSlot` add: one each to `SlotsProcessedCount`, and their
dispatches. -/
def ofSlots (k : Counter) (rs : List SlotRun) : ℕ :=
  (if k = slotsProcessed then rs.length else 0) + k.ofDispatches (rs.flatMap SlotRun.dispatched)

/-- What reports add: one per same-slot report to `SameSlotCount`, one per skip report to
`SkippedSlotsCount`. -/
def ofEvents : Counter → List Event → ℕ
  | sameSlot, es => es.countP Event.isSameSlot
  | skippedSlots, es => es.countP Event.isSkip
  | _, _ => 0

/-- What a wakeup adds: its reports, one to `MultipleSlotsCount` when it processes more than one
slot, and its calls of `ProcessNextSlot`. -/
def ofWakeup (k : Counter) (w : Wakeup) : ℕ :=
  k.ofEvents w.events + (if k = multipleSlots ∧ 1 < w.runs.length then 1 else 0) + k.ofSlots w.runs

/-- What a tone adds: one to `UnexpectedMajorFrameCount` when it is classified noisy, one to
`ValidMajorFrameCount` when it gives the wakeup semaphore. -/
def ofTone : Counter → Bool → Bool → ℕ
  | unexpectedMajorFrame, noisy, _ => noisy.toNat
  | validMajorFrame, _, semGive => semGive.toNat
  | _, _, _ => 0

/-- What a step from `s` adds, read off the operation and what it returned. A tone is classified
only outside flywheel. -/
def count (k : Counter) (s : SchedulerClass) : Op → Output → ℕ
  | _, .wakeup (some w) => k.ofWakeup w
  | .majorFrame flying _, .signals sig => k.ofTone (!flying && noisyMajorFrame cfg s) sig.semGive
  | _, _ => 0

/-- The value of a counter that held `n`, unwrapped, after the steps `h` (each the state it ran
from, the operation, and what it returned): each step adds its `count`, a reset restarts from
zero. -/
def tally (k : Counter) : ℕ → List (SchedulerClass × Op × Output) → ℕ
  | n, [] => n
  | n, (s, op, o) :: h => k.tally (if op.isReset then 0 else n + k.count cfg s op o) h

@[simp] theorem ofDispatches_nil (k : Counter) : k.ofDispatches [] = 0 := by cases k <;> rfl

theorem ofDispatches_append (k : Counter) (a b : List Dispatch) :
    k.ofDispatches (a ++ b) = k.ofDispatches a + k.ofDispatches b := by
  cases k <;> simp only [ofDispatches, List.countP_append]

theorem ofSlots_append (k : Counter) (a b : List SlotRun) :
    k.ofSlots (a ++ b) = k.ofSlots a + k.ofSlots b := by
  simp only [ofSlots, List.length_append, List.flatMap_append, ofDispatches_append]
  split_ifs <;> omega

theorem ofEvents_append (k : Counter) (a b : List Event) :
    k.ofEvents (a ++ b) = k.ofEvents a + k.ofEvents b := by
  cases k <;> simp only [ofEvents, List.countP_append]

/-- A tone's two contributions go to different counters. -/
theorem ofTone_split (k : Counter) (noisy semGive : Bool) :
    k.ofTone noisy semGive = k.ofTone noisy false + k.ofTone false semGive := by
  cases k <;> cases noisy <;> cases semGive <;> rfl

end Counter

open Counter

/-! ## Adding to a counter -/

section Adds

variable {k : Counter} {s t u : SchedulerClass} {m n : ℕ}

/-- Counter `k` holds `n` more in `t` than in `s`, modulo `2^32` as the `uint32` counters
wrap. -/
def Adds (k : Counter) (s t : SchedulerClass) (n : ℕ) : Prop :=
  (k.read t).toNat = ((k.read s).toNat + n) % 2 ^ 32

theorem Adds.of_read_eq (h : k.read t = k.read s) : Adds k s t 0 := by
  rw [Adds, h, Nat.add_zero, toNat_mod_size]

theorem Adds.refl : Adds k s s 0 := Adds.of_read_eq rfl

theorem Adds.trans (h₁ : Adds k s t m) (h₂ : Adds k t u n) : Adds k s u (m + n) := by
  rw [Adds, h₂, h₁, Nat.mod_add_mod, Nat.add_assoc]

theorem Adds.of_eq (h : Adds k s t m) (hmn : m = n) : Adds k s t n := hmn ▸ h

/-- Incrementing the field of counter `k` adds one to it and nothing to the others. -/
theorem Adds.incr (k' : Counter) (h : k.read t = if k = k' then k.read s + 1 else k.read s) :
    Adds k s t (if k = k' then 1 else 0) := by
  split_ifs at h ⊢
  · rw [Adds, h]; rfl
  · exact Adds.of_read_eq h

end Adds

/-! ## `ProcessNextSlot` and the slot loop -/

theorem processEntry_adds (k : Counter) (slotIndex : ℕ) (s : SchedulerClass) (e : ℕ) :
    Adds k s (processEntry sent slotIndex s e).1
      (k.ofDispatches (processEntry sent slotIndex s e).2) := by
  obtain ⟨hd, -, hc, hc'⟩ := @processEntry_spec sent slotIndex s e
  generalize (s.schTbl (slotIndex + e)).fires s.tablePassCount.toNat = f at hd hc hc'
  generalize sent (slotIndex + e) = b at hd hc hc'
  cases k
  case activitySuccess =>
    simp only [Adds, Counter.read, ofDispatches, hc, hd]; cases f <;> cases b <;> rfl
  case activityFailure =>
    simp only [Adds, Counter.read, ofDispatches, hc', hd]; cases f <;> cases b <;> rfl
  all_goals exact Adds.of_read_eq (by rw [processEntry_eq]; rfl)

theorem processEntries_adds (k : Counter) (slotIndex : ℕ) (es : List ℕ) (s : SchedulerClass) :
    Adds k s (processEntries sent slotIndex es s).1
      (k.ofDispatches (processEntries sent slotIndex es s).2) := by
  induction es generalizing s with
  | nil => exact Adds.of_eq Adds.refl (ofDispatches_nil k).symm
  | cons e es ih =>
    simp only [processEntries, ofDispatches_append]
    exact (processEntry_adds sent k slotIndex s e).trans (ih _)

theorem read_advanceSlot (k : Counter) (s : SchedulerClass) :
    k.read (advanceSlot cfg s) = k.read s := by
  unfold advanceSlot; split <;> cases k <;> rfl

theorem processNextSlot_adds (k : Counter) (s : SchedulerClass) :
    Adds k s (processNextSlot cfg sent s).1 (k.ofSlots [(processNextSlot cfg sent s).2]) := by
  have h₁ : Adds k s (slotEntries cfg sent s).1 (k.ofDispatches (slotEntries cfg sent s).2) :=
    processEntries_adds sent k _ _ s
  have h₂ := Adds.of_read_eq (read_advanceSlot cfg k (slotEntries cfg sent s).1)
  have h₃ : Adds k (advanceSlot cfg (slotEntries cfg sent s).1) (processNextSlot cfg sent s).1
      (if k = slotsProcessed then 1 else 0) :=
    Adds.incr _ (by cases k <;> rfl)
  refine ((h₁.trans h₂).trans h₃).of_eq ?_
  simp only [ofSlots, List.length_singleton, List.flatMap_singleton, processNextSlot]
  split_ifs <;> omega

theorem processSlots_adds (k : Counter) (n : ℕ) (s : SchedulerClass) :
    Adds k s (processSlots cfg sent n s).1 (k.ofSlots (processSlots cfg sent n s).2) := by
  induction n generalizing s with
  | zero => exact Adds.of_eq Adds.refl (by simp [ofSlots, processSlots])
  | succ n ih =>
    simp only [processSlots]
    exact ((processNextSlot_adds cfg sent k s).trans (ih _)).of_eq
      (ofSlots_append k [_] _).symm

/-! ## The decisions of `SCHEDULER_Execute` -/

theorem sameSlotCheck_adds (k : Counter) (c : ℕ) (s : SchedulerClass) (pc : ℕ) :
    Adds k s (sameSlotCheck cfg c s pc).1 (k.ofEvents (sameSlotCheck cfg c s pc).2.2) := by
  unfold sameSlotCheck
  split_ifs
  · exact (Adds.incr sameSlot (by cases k <;> rfl)).of_eq (by cases k <;> rfl)
  · exact Adds.of_eq Adds.refl (by cases k <;> rfl)

theorem lagLimit_adds (k : Counter) (c : ℕ) (s : SchedulerClass) (pc : ℕ) :
    Adds k s (lagLimit cfg c s pc).1 (k.ofEvents (lagLimit cfg c s pc).2.2) := by
  have he : (lagLimit cfg c s pc).2.2 =
      if cfg.maxLagCount < pc then [.skippedSlots s.nextSlotNumber (pc - 1)] else [] := by
    unfold lagLimit; split_ifs <;> rfl
  rw [lagLimit_fst, he]
  by_cases h : cfg.maxLagCount < pc
  · simp only [if_pos h]
    exact (Adds.incr skippedSlots (by cases k <;> rfl)).of_eq (by cases k <;> rfl)
  · simp only [if_neg h]
    exact Adds.of_eq Adds.refl (by cases k <;> rfl)

theorem multiSlotCheck_adds (k : Counter) (s : SchedulerClass) (pc : ℕ) :
    Adds k s (multiSlotCheck s pc).1
      (k.ofEvents (multiSlotCheck s pc).2 + if k = multipleSlots ∧ 1 < pc then 1 else 0) := by
  have he : k.ofEvents (multiSlotCheck s pc).2 = 0 := by
    unfold multiSlotCheck; split_ifs <;> cases k <;> rfl
  rw [he, Nat.zero_add, multiSlotCheck_fst]
  by_cases h : 1 < pc
  · rw [if_pos h]
    exact (Adds.incr multipleSlots (by cases k <;> rfl)).of_eq (by simp only [h, and_true])
  · rw [if_neg h]
    exact (Adds.of_read_eq (by cases k <;> rfl)).of_eq (by simp only [h, and_false, if_false])

theorem slotsDue_adds (k : Counter) (s : SchedulerClass) (c : ℕ) :
    Adds k s (slotsDue cfg s c).1 (k.ofEvents (slotsDue cfg s c).2.2) :=
  ((Adds.of_read_eq (by cases k <;> rfl)).trans (sameSlotCheck_adds cfg k c _ _)).of_eq
    (Nat.zero_add _)

theorem reconcileDecision_adds (k : Counter) (s : SchedulerClass) (c : ℕ) :
    Adds k s (reconcileDecision cfg s c).1 (k.ofEvents (reconcileDecision cfg s c).2.2 +
      if k = multipleSlots ∧ 1 < (reconcileDecision cfg s c).2.1 then 1 else 0) := by
  obtain ⟨r₁, e₁⟩ : ∃ r, slotsDue cfg s c = r := ⟨_, rfl⟩
  obtain ⟨r₂, e₂⟩ : ∃ r, lagLimit cfg c r₁.1 r₁.2.1 = r := ⟨_, rfl⟩
  obtain ⟨r₃, e₃⟩ : ∃ r, multiSlotCheck r₂.1 (throughputCap cfg r₂.2.1) = r := ⟨_, rfl⟩
  have h := ((e₁ ▸ slotsDue_adds cfg k s c).trans (e₂ ▸ lagLimit_adds cfg k c r₁.1 r₁.2.1)).trans
    (e₃ ▸ multiSlotCheck_adds k r₂.1 (throughputCap cfg r₂.2.1))
  have hr :
      reconcileDecision cfg s c = (r₃.1, throughputCap cfg r₂.2.1, r₁.2.2 ++ r₂.2.2 ++ r₃.2) := by
    rw [← e₃, ← e₂, ← e₁]; rfl
  rw [hr]
  dsimp only
  rw [ofEvents_append, ofEvents_append]
  exact h.of_eq (by omega)

theorem wakeupReconciler_adds (k : Counter) (s : SchedulerClass) (c : ℕ) :
    Adds k s (wakeupReconciler cfg sent s c).1 (k.ofWakeup (wakeupReconciler cfg sent s c).2) := by
  rw [wakeupReconciler_fst, wakeupReconciler_snd]
  refine ((reconcileDecision_adds cfg k s c).trans (processSlots_adds cfg sent k _ _)).of_eq ?_
  rw [ofWakeup, processSlots_length]

theorem ofEvents_noisyMajorFrameCheck (k : Counter) (s : SchedulerClass) :
    k.ofEvents (noisyMajorFrameCheck s).2 = 0 := by
  unfold noisyMajorFrameCheck; split_ifs <;> cases k <;> rfl

theorem ofWakeup_append_events (k : Counter) (es : List Event) (w : Wakeup) :
    k.ofWakeup ⟨es ++ w.events, w.runs⟩ = k.ofEvents es + k.ofWakeup w := by
  simp only [ofWakeup, ofEvents_append]; omega

theorem schedulerExecute_adds (k : Counter) (s : SchedulerClass) (take : Bool) (us : ℕ) :
    Adds k s (schedulerExecute cfg sent s take us).1
      (k.count cfg s (.execute take us sent)
        (.wakeup (schedulerExecute cfg sent s take us).2)) := by
  cases take
  · exact Adds.refl
  have h₀ : Adds k s (noisyMajorFrameCheck s).1 0 :=
    Adds.of_read_eq (by rw [noisyMajorFrameCheck_fst]; cases k <;> rfl)
  obtain ⟨r, e⟩ : ∃ r, wakeupReconciler cfg sent (noisyMajorFrameCheck s).1
      (getCurrentSlotNumber cfg (noisyMajorFrameCheck s).1 us) = r := ⟨_, rfl⟩
  have h := h₀.trans (e ▸ wakeupReconciler_adds cfg sent k _ _)
  rw [schedulerExecute_true, e, count, ofWakeup_append_events, ofEvents_noisyMajorFrameCheck]
  exact h

/-! ## The callbacks and the commands -/

theorem classifyTone_adds (k : Counter) (s : SchedulerClass) :
    Adds k s (classifyTone cfg s) (k.ofTone (noisyMajorFrame cfg s) false) := by
  unfold classifyTone
  cases noisyMajorFrame cfg s
  · exact (Adds.of_read_eq (by cases k <;> rfl)).of_eq (by cases k <;> rfl)
  · rw [if_pos rfl]
    dsimp only
    split_ifs <;>
      exact (Adds.incr unexpectedMajorFrame (by cases k <;> rfl)).of_eq (by cases k <;> rfl)

theorem acceptTone_adds (k : Counter) (s : SchedulerClass) :
    Adds k s (acceptTone cfg s).1 (k.ofTone false (acceptTone cfg s).2.semGive) := by
  unfold acceptTone
  split_ifs
  · exact (Adds.incr validMajorFrame (by cases k <;> rfl)).of_eq (by cases k <;> rfl)
  · exact (Adds.of_read_eq (by cases k <;> rfl)).of_eq (by cases k <;> rfl)

theorem majorFrameCallback_adds (k : Counter) (s : SchedulerClass) (flying : Bool) (us : ℕ) :
    Adds k s (majorFrameCallback cfg s flying us).1
      (k.count cfg s (.majorFrame flying us)
        (.signals (majorFrameCallback cfg s flying us).2)) := by
  have hl : ∀ t : SchedulerClass,
      Adds k t { t with lastSyncMETSlot := getMETSlotNumber cfg us } 0 :=
    fun t => Adds.of_read_eq (by cases k <;> rfl)
  simp only [count, majorFrameCallback, toneResponse]
  cases flying
  · simp only [Bool.false_eq_true, if_false, Bool.not_false, Bool.true_and]
    rw [ofTone_split]
    exact (((classifyTone_adds cfg k s).trans (acceptTone_adds cfg k _)).trans (hl _)).of_eq
      (Nat.add_zero _)
  · exact (hl s).of_eq (by cases k <;> rfl)

theorem minorFrameCallback_adds (k : Counter) (s : SchedulerClass) (us : ℕ) :
    Adds k s (minorFrameCallback cfg s us).1 0 :=
  Adds.of_read_eq (by rw [minorFrameCallback_eq]; cases k <;> rfl)

@[simp] theorem read_schedulerResetStatus (k : Counter) (s : SchedulerClass) :
    k.read (schedulerResetStatus s) = 0 := by
  cases k <;> rfl

/-- One step: `SCHEDULER_ResetStatus` clears the counter, every other operation adds its
`count`. -/
theorem read_step (k : Counter) (s : SchedulerClass) (op : Op) :
    (k.read (step cfg s op).1).toNat =
      (if op.isReset then 0 else (k.read s).toNat + k.count cfg s op (step cfg s op).2) %
        2 ^ 32 := by
  cases op with
  | execute take us sent => exact schedulerExecute_adds cfg sent k s take us
  | majorFrame flying us => exact majorFrameCallback_adds cfg k s flying us
  | minorFrame us => exact minorFrameCallback_adds cfg k s us
  | resetStatus => simp only [step, read_schedulerResetStatus]; rfl
  | configSchEntryCmd =>
    exact Adds.of_read_eq (by simp only [step]; rw [schedulerConfigSchEntryCmd_eq]; cases k <;> rfl)
  | loadSchEntryCmd =>
    exact Adds.of_read_eq (by simp only [step]; rw [schedulerLoadSchEntryCmd_eq]; cases k <;> rfl)
  | loadMsgEntryCmd =>
    exact Adds.of_read_eq (by simp only [step]; rw [schedulerLoadMsgEntryCmd_eq]; cases k <;> rfl)
  | _ => exact Adds.of_read_eq (by cases k <;> rfl)

theorem tally_history (k : Counter) (ops : List Op) :
    ∀ (s : SchedulerClass) (n : ℕ), (k.read s).toNat = n % 2 ^ 32 →
      (k.read (run cfg s ops)).toNat = k.tally cfg n (history cfg s ops) % 2 ^ 32 := by
  induction ops with
  | nil => exact fun _ _ h => h
  | cons op ops ih =>
    intro s n h
    refine ih _ _ ?_
    rw [read_step]
    split_ifs
    · rfl
    · rw [h, Nat.mod_add_mod]

/-- Along every run, each of the eight counters is, modulo `2^32`, its tally over the run: its
value before, restarted from zero at each `SCHEDULER_ResetStatus`, plus for each step what the step
showed of it: the calls of `ProcessNextSlot` and their dispatch outcomes, the same-slot and
skip reports, one per wakeup that processes several slots, the tones outside flywheel classified
noisy and the tones that gave the wakeup semaphore. -/
theorem counters_account (k : Counter) (s : SchedulerClass) (ops : List Op) :
    (k.read (run cfg s ops)).toNat = k.tally cfg (k.read s).toNat (history cfg s ops) % 2 ^ 32 :=
  tally_history cfg k ops s _ (toNat_mod_size _).symm

/-! ## The noisy major frame report -/

/-- The noisy major frame reports `SCHEDULER_Execute` can still make before the next reset: none
once the report for the set latch was made, one otherwise. -/
def reportsLeft (s : SchedulerClass) : ℕ :=
  if s.ignoreMajorFrame = true ∧ s.sendNoisyMajorFrameMsg = false then 0 else 1

theorem reportsLeft_le {s t : SchedulerClass}
    (hi : s.ignoreMajorFrame = true → t.ignoreMajorFrame = true)
    (hs : t.sendNoisyMajorFrameMsg = s.sendNoisyMajorFrameMsg) : reportsLeft t ≤ reportsLeft s := by
  unfold reportsLeft
  split_ifs <;> simp_all

theorem noisyMajorFrameCheck_reports (s : SchedulerClass) :
    (noisyMajorFrameCheck s).2.countP Event.isNoisy + reportsLeft (noisyMajorFrameCheck s).1 ≤
      reportsLeft s := by
  unfold noisyMajorFrameCheck reportsLeft
  split_ifs <;> simp_all [Event.isNoisy]

/-- The decisions of a wakeup never report a noisy major frame. -/
theorem reconcileDecision_noisy (s : SchedulerClass) (c : ℕ) :
    (reconcileDecision cfg s c).2.2.countP Event.isNoisy = 0 := by
  have hd : ∀ t pc, (sameSlotCheck cfg c t pc).2.2.countP Event.isNoisy = 0 := fun t pc => by
    unfold sameSlotCheck; split_ifs <;> rfl
  have hl : ∀ t pc, (lagLimit cfg c t pc).2.2.countP Event.isNoisy = 0 := fun t pc => by
    unfold lagLimit; split_ifs <;> rfl
  have hm : ∀ t pc, (multiSlotCheck t pc).2.countP Event.isNoisy = 0 := fun t pc => by
    unfold multiSlotCheck; split_ifs <;> rfl
  simp only [reconcileDecision, slotsDue, List.countP_append, hd, hl, hm]

theorem reportsLeft_wakeupReconciler (s : SchedulerClass) (c : ℕ) :
    reportsLeft (wakeupReconciler cfg sent s c).1 = reportsLeft s := by
  have hi : (wakeupReconciler cfg sent s c).1.ignoreMajorFrame = s.ignoreMajorFrame := by
    rw [wakeupReconciler_fst, processSlots_ignoreMajorFrame, reconcileDecision_fst]
  rw [reportsLeft, reportsLeft, hi, wakeupReconciler_sendNoisyMajorFrameMsg]

theorem majorFrameCallback_ignoreMajorFrame_of {s : SchedulerClass} (h : s.ignoreMajorFrame = true)
    (flying : Bool) (us : ℕ) : (majorFrameCallback cfg s flying us).1.ignoreMajorFrame = true := by
  have hc := congrArg Prod.fst (classifyTone_latch cfg s)
  dsimp only at hc
  rw [majorFrameCallback_ignoreMajorFrame, hc]
  split_ifs <;> simp_all

/-- One step other than `SCHEDULER_ResetStatus` reports the noisy major frame at most as often as
the reports left allow, and leaves fewer for the steps after it. -/
theorem reportsLeft_step (s : SchedulerClass) {op : Op} (hop : op ≠ .resetStatus) :
    (step cfg s op).2.events.countP Event.isNoisy + reportsLeft (step cfg s op).1 ≤
      reportsLeft s := by
  cases op with
  | execute take us sent =>
    cases take
    · exact Nat.le_of_eq (Nat.zero_add _)
    obtain ⟨r, e⟩ : ∃ r, wakeupReconciler cfg sent (noisyMajorFrameCheck s).1
        (getCurrentSlotNumber cfg (noisyMajorFrameCheck s).1 us) = r := ⟨_, rfl⟩
    have hr := e ▸ reportsLeft_wakeupReconciler cfg sent (noisyMajorFrameCheck s).1
      (getCurrentSlotNumber cfg (noisyMajorFrameCheck s).1 us)
    have he : r.2.events.countP Event.isNoisy = 0 := by
      rw [← e, wakeupReconciler_snd]; exact reconcileDecision_noisy cfg _ _
    have := noisyMajorFrameCheck_reports s
    simp only [step, schedulerExecute_true, e, Output.events, List.countP_append]
    omega
  | majorFrame flying us =>
    refine Nat.zero_add _ ▸
      reportsLeft_le (majorFrameCallback_ignoreMajorFrame_of cfg · flying us) ?_
    simp only [step]; rw [majorFrameCallback_eq]
  | minorFrame us =>
    refine Nat.zero_add _ ▸ reportsLeft_le (fun h => ?_) ?_ <;> simp only [step] <;>
      rw [minorFrameCallback_eq]
    exact h
  | resetStatus => exact absurd rfl hop
  | configSchEntryCmd =>
    simp only [step]; rw [schedulerConfigSchEntryCmd_eq]; exact Nat.le_of_eq (Nat.zero_add _)
  | loadSchEntryCmd =>
    simp only [step]; rw [schedulerLoadSchEntryCmd_eq]; exact Nat.le_of_eq (Nat.zero_add _)
  | loadMsgEntryCmd =>
    simp only [step]; rw [schedulerLoadMsgEntryCmd_eq]; exact Nat.le_of_eq (Nat.zero_add _)
  | _ => exact Nat.le_of_eq (Nat.zero_add _)

/-- A run with no `SCHEDULER_ResetStatus` reports the noisy major frame at most as often as the
reports left before it, so at most once, and not at all if the report for the set latch was
already made; the reports it leaves for the steps after it are fewer still. -/
theorem noisy_reported_once (s : SchedulerClass) (ops : List Op)
    (hops : ∀ op ∈ ops, op ≠ .resetStatus) :
    ((trace cfg s ops).flatMap Output.events).countP Event.isNoisy + reportsLeft (run cfg s ops) ≤
      reportsLeft s := by
  induction ops generalizing s with
  | nil => exact Nat.le_of_eq (Nat.zero_add _)
  | cons op ops ih =>
    have h₁ := reportsLeft_step cfg s (hops op (List.mem_cons_self _ _))
    have h₂ := ih (step cfg s op).1 fun o ho => hops o (List.mem_cons_of_mem _ ho)
    simp only [trace, run_cons, List.flatMap_cons, List.countP_append] at h₂ ⊢
    omega

/-- Three tones outside flywheel after construction, the first on time and the next two noisy,
which latch the monitor of `demoConfig`, then three wakeups. -/
def latchOps : List Op :=
  List.replicate 3 (.majorFrame false 0) ++ List.replicate 3 (.execute true 0 fun _ => true)

theorem noisy_reported_once_latched :
    (∀ op ∈ latchOps, op ≠ .resetStatus) ∧
      ((trace demoConfig (initial demoConfig false 0) latchOps).flatMap Output.events).countP
          Event.isNoisy + reportsLeft (run demoConfig (initial demoConfig false 0) latchOps) ≤
        reportsLeft (initial demoConfig false 0) :=
  ⟨by simp [latchOps],
    noisy_reported_once demoConfig (initial demoConfig false 0) latchOps (by simp [latchOps])⟩

end KitSch
