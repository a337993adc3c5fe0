import Mathlib.Data.Nat.Bitwise
import KitSch.System

/-!
# MET synchronization: the `SyncToMET` flags

`SyncToMET` is a word of three flags, `SCHEDULER_SYNCH_TO_MINOR`, `SCHEDULER_SYNCH_TO_MAJOR` and
`SCHEDULER_SYNCH_MAJOR_PENDING`, which the constructor and the two callbacks set and clear with
bit operations; with `MajorFrameSource` and `SyncAttemptsLeft` it says where the scheduler
stands in its synchronization. `SyncPhase` is that standing as the design means it: before the
first callback, waiting for MET slot zero with some attempts left, synchronized to MET at the
major frame level, or following the tone. `SyncStep` is how one call may move the phase, and
whether the call is a `MinorFrameCallback` that returned without giving the wakeup semaphore (a
stall); `InPhase` relates a state of the scheduler to its phase.

With the three flags distinct single bits (`FlagBits`):

* `inPhase_step`: every operation of the scheduler is a `SyncStep` of its phase;
* `inPhase_run`: along a run the stalls never exceed the stall budget of the first phase;
* `sync_flags`: in every run from construction `SyncToMET` holds the constructor's
  `SCHEDULER_SYNCH_TO_MINOR` bit and at most one of the two others, a pending synchronization
  comes from the minor frame timer with between one and `SCHEDULER_MAX_SYNC_ATTEMPTS` attempts
  left, `MajorFrameSource` never returns to none, and `MinorFrameCallback` stalls at most
  `SCHEDULER_MAX_SYNC_ATTEMPTS - 1` times;
* `majorFrameCallback_rebases`: a tone that is not accepted leaves the major frame synchronized
  to MET but records its MET slot in `LastSyncMETSlot`, against the note of
  `GetCurrentSlotNumber` that the offset is zero when the major frame is synchronized.
-/

namespace KitSch

variable (cfg : SchedulerConfig)

/-! ## The flag word -/

/-- The three `SCHEDULER_SYNCH_*` flags as distinct single bits. -/
structure FlagBits where
  minorBit : ℕ
  majorBit : ℕ
  pendingBit : ℕ
  toMinor : cfg.synchToMinor = 2 ^ minorBit
  toMajor : cfg.synchToMajor = 2 ^ majorBit
  majorPending : cfg.synchMajorPending = 2 ^ pendingBit
  minor_ne_major : minorBit ≠ majorBit
  minor_ne_pending : minorBit ≠ pendingBit
  major_ne_pending : majorBit ≠ pendingBit

/-- The `SyncToMET` word with the given flags set and no other bit. -/
def flagWord (minor major pending : Bool) : ℕ :=
  (if minor then cfg.synchToMinor else 0) ||| (if major then cfg.synchToMajor else 0) |||
    (if pending then cfg.synchMajorPending else 0)

section Bits

variable {cfg} (bits : FlagBits cfg) (minor major pending : Bool)

include bits

theorem testBit_flagWord (i : ℕ) :
    (flagWord cfg minor major pending).testBit i =
      (minor && i = bits.minorBit || major && i = bits.majorBit ||
        pending && i = bits.pendingBit) := by
  simp only [flagWord, Nat.testBit_or, bits.toMinor, bits.toMajor, bits.majorPending]
  cases minor <;> cases major <;> cases pending <;> simp [Nat.testBit_two_pow, eq_comm]

/-- `SyncToMET &= SCHEDULER_SYNCH_TO_MINOR` keeps only the minor frame flag. -/
theorem flagWord_and_toMinor :
    flagWord cfg minor major pending &&& cfg.synchToMinor = flagWord cfg minor false false := by
  refine Nat.eq_of_testBit_eq fun i => ?_
  rw [Nat.testBit_and, testBit_flagWord bits, testBit_flagWord bits, bits.toMinor,
    Nat.testBit_two_pow]
  have := bits.minor_ne_major; have := bits.minor_ne_pending
  by_cases hi : i = bits.minorBit <;> simp_all [eq_comm]

/-- Ending a pending synchronization clears its flag and sets the major frame flag. -/
theorem ldiff_flagWord_pending :
    Nat.ldiff (flagWord cfg minor major pending) cfg.synchMajorPending ||| cfg.synchToMajor =
      flagWord cfg minor true false := by
  refine Nat.eq_of_testBit_eq fun i => ?_
  rw [Nat.testBit_or, Nat.testBit_ldiff, testBit_flagWord bits, testBit_flagWord bits,
    bits.toMajor, bits.majorPending, Nat.testBit_two_pow, Nat.testBit_two_pow]
  have := bits.minor_ne_pending; have := bits.major_ne_pending
  by_cases hi : i = bits.pendingBit <;> by_cases hj : i = bits.majorBit <;> simp_all [eq_comm]

/-- The test of `MinorFrameCallback` for a pending synchronization reads its flag. -/
theorem flagWord_and_pending_ne_zero :
    flagWord cfg minor major pending &&& cfg.synchMajorPending ≠ 0 ↔ pending = true := by
  rw [bits.majorPending, Nat.and_two_pow, testBit_flagWord bits]
  have := bits.minor_ne_pending; have := bits.major_ne_pending
  cases pending <;> simp_all [Ne.symm]

end Bits

theorem flagWord_or_pending (minor major : Bool) :
    flagWord cfg minor major false ||| cfg.synchMajorPending = flagWord cfg minor major true := by
  simp only [flagWord, Bool.false_eq_true, ite_false, ite_true, Nat.or_zero]

/-- `SCHEDULER_Constructor` sets `SCHEDULER_SYNCH_TO_MINOR` when the timer was created with an
accuracy worse than `SCHEDULER_WORST_CLOCK_ACCURACY`, and no other flag. -/
theorem initial_syncToMET (timerCreated : Bool) (clockAccuracy : UInt32) :
    (initial cfg timerCreated clockAccuracy).syncToMET =
      flagWord cfg (timerCreated && decide (cfg.worstClockAccuracy < clockAccuracy)) false false := by
  by_cases h : cfg.worstClockAccuracy < clockAccuracy <;> cases timerCreated <;>
    simp [h, initial, schedulerConstructor, flagWord, synchFalse]

/-! ## The synchronization phases -/

/-- Where the scheduler stands in its synchronization. -/
inductive SyncPhase where
  /-- No callback has come yet: `MajorFrameSource` is none. -/
  | start
  /-- Waiting for MET slot zero, with `attemptsLeft` attempts left. -/
  | pending (attemptsLeft : ℕ)
  /-- The major frame is synchronized to MET and driven by the minor frame timer. -/
  | metMajor
  /-- The major frame follows the tone. -/
  | tone
deriving DecidableEq, Repr

namespace SyncPhase

variable {M : ℕ}

/-- The major frame source of a phase. -/
def source : SyncPhase → MajorFrameSource
  | start => .none
  | pending _ | metMajor => .minorFrameTimer
  | tone => .cfeTime

/-- Whether `SCHEDULER_SYNCH_TO_MAJOR` is set in a phase. -/
def toMajor : SyncPhase → Bool
  | metMajor => true
  | _ => false

/-- Whether `SCHEDULER_SYNCH_MAJOR_PENDING` is set in a phase. -/
def majorPending : SyncPhase → Bool
  | pending _ => true
  | _ => false

/-- The phase after the first callback of the minor frame timer arms the synchronization. -/
def arm (maxSyncAttempts : ℕ) : SyncPhase → SyncPhase
  | start => pending maxSyncAttempts
  | pending k => pending k
  | metMajor => metMajor
  | tone => tone

/-- The stalls a phase can still make: one for each attempt past the first. -/
def stallBudget (maxSyncAttempts : ℕ) : SyncPhase → ℕ
  | start => maxSyncAttempts - 1
  | pending k => k - 1
  | metMajor | tone => 0

/-- A pending synchronization has between one and `SCHEDULER_MAX_SYNC_ATTEMPTS` attempts left. -/
def Valid (maxSyncAttempts : ℕ) : SyncPhase → Prop
  | pending k => 1 ≤ k ∧ k ≤ maxSyncAttempts
  | _ => True

theorem arm_valid (hM : 1 ≤ M) {p : SyncPhase} (hp : p.Valid M) : (p.arm M).Valid M := by
  cases p
  · exact ⟨hM, le_rfl⟩
  all_goals exact hp

theorem not_toMajor_and_majorPending (p : SyncPhase) :
    ¬ (p.toMajor = true ∧ p.majorPending = true) := by
  cases p <;> simp [toMajor, majorPending]

end SyncPhase

/-- How one call may move the phase, and whether it stalls: an accepted tone takes over from any
phase; an attempt of the minor frame timer, from the armed phase, either waits with one attempt
less or synchronizes the major frame; every other call leaves the phase. -/
inductive SyncStep (maxSyncAttempts : ℕ) : SyncPhase → SyncPhase → Bool → Prop
  | stay (p : SyncPhase) : SyncStep maxSyncAttempts p p false
  | accept (p : SyncPhase) : SyncStep maxSyncAttempts p .tone false
  | wait (p : SyncPhase) (k : ℕ) : p.arm maxSyncAttempts = .pending k → 2 ≤ k →
      SyncStep maxSyncAttempts p (.pending (k - 1)) true
  | sync (p : SyncPhase) (k : ℕ) : p.arm maxSyncAttempts = .pending k →
      SyncStep maxSyncAttempts p .metMajor false

namespace SyncStep

variable {M : ℕ} {p q : SyncPhase} {b : Bool}

theorem stallBudget_arm (h : p.arm M = .pending k) : p.stallBudget M = k - 1 := by
  cases p <;> simp_all [SyncPhase.arm, SyncPhase.stallBudget]

/-- A stall spends one unit of the budget, and no step adds to it. -/
theorem stallBudget_le (h : SyncStep M p q b) : q.stallBudget M + b.toNat ≤ p.stallBudget M := by
  cases h with
  | stay => simp
  | accept => simp [SyncPhase.stallBudget]
  | wait k ha hk => rw [stallBudget_arm ha]; simp only [SyncPhase.stallBudget, Bool.toNat_true]; omega
  | sync => simp [SyncPhase.stallBudget]

theorem valid (h : SyncStep M p q b) (hp : p.Valid M) : q.Valid M := by
  cases h with
  | stay => exact hp
  | accept | sync => trivial
  | wait k ha hk =>
    show 1 ≤ k - 1 ∧ k - 1 ≤ M
    cases p <;> simp only [SyncPhase.arm, SyncPhase.pending.injEq, reduceCtorEq] at ha
    · omega
    · have := hp.2; omega

/-- Once the major frame has a source it never returns to none. -/
theorem source_ne_none (h : SyncStep M p q b) (hp : p.source ≠ .none) : q.source ≠ .none := by
  cases h <;> first | exact hp | simp [SyncPhase.source]

end SyncStep

/-! ## The scheduler in its phase -/

/-- The synchronization fields of a state. -/
def syncFields (s : SchedulerClass) : ℕ × MajorFrameSource × ℕ :=
  (s.syncToMET, s.majorFrameSource, s.syncAttemptsLeft)

/-- The state `s` is in phase `p`, `minor` being the constructor's choice of the minor frame
flag: its flag word, its major frame source and, while pending, its attempts left are the
phase's. -/
structure InPhase (minor : Bool) (s : SchedulerClass) (p : SyncPhase) : Prop where
  word : s.syncToMET = flagWord cfg minor p.toMajor p.majorPending
  source : s.majorFrameSource = p.source
  attempts : ∀ k, p = .pending k → s.syncAttemptsLeft = k

/-- A `MinorFrameCallback` that returned without giving the wakeup semaphore. -/
def Op.stalls : Op → Output → Bool
  | .minorFrame _, .signals sig => !sig.semGive
  | _, _ => false

/-- How many calls of a run stall. -/
def stallCount (s : SchedulerClass) : List Op → ℕ
  | [] => 0
  | op :: ops => (op.stalls (step cfg s op).2).toNat + stallCount (step cfg s op).1 ops

variable {cfg}

theorem InPhase.congr {minor : Bool} {s s' : SchedulerClass} {p : SyncPhase}
    (h : InPhase cfg minor s p) (he : syncFields s' = syncFields s) : InPhase cfg minor s' p := by
  simp only [syncFields, Prod.mk.injEq] at he
  exact ⟨he.1.trans h.word, he.2.1.trans h.source, fun k hk => he.2.2.trans (h.attempts k hk)⟩

theorem inPhase_initial (timerCreated : Bool) (clockAccuracy : UInt32) :
    InPhase cfg (timerCreated && decide (cfg.worstClockAccuracy < clockAccuracy))
      (initial cfg timerCreated clockAccuracy) .start := by
  refine ⟨initial_syncToMET cfg _ _, ?_, fun _ h => SyncPhase.noConfusion h⟩
  simp only [initial, schedulerConstructor]
  split_ifs <;> rfl

section Callbacks

variable {minor : Bool} {s : SchedulerClass} {p : SyncPhase}

/-- The first callback of the minor frame timer arms the synchronization. -/
theorem InPhase.startMetSync (h : InPhase cfg minor s p) :
    InPhase cfg minor (startMetSync cfg s) (p.arm cfg.maxSyncAttempts) := by
  unfold KitSch.startMetSync
  cases p with
  | start =>
    have hs : s.majorFrameSource = .none := h.source
    rw [if_pos hs]
    exact ⟨by rw [h.word]; exact flagWord_or_pending .., rfl,
      fun _ hk => (SyncPhase.pending.inj hk)⟩
  | _ =>
    rw [if_neg (show s.majorFrameSource ≠ .none by rw [h.source]; simp [SyncPhase.source])]
    exact h

/-- What `MinorFrameCallback` does to the synchronization, after `startMetSync`. -/
theorem minorFrameCallback_sync (us : ℕ) :
    let t := KitSch.startMetSync cfg s
    (syncFields (minorFrameCallback cfg s us).1, (minorFrameCallback cfg s us).2.semGive) =
      if t.syncToMET &&& cfg.synchMajorPending ≠ 0 ∧ t.majorFrameSource = .minorFrameTimer then
        if getMETSlotNumber cfg us ≠ 0 ∧ t.syncAttemptsLeft - 1 > 0 then
          ((t.syncToMET, t.majorFrameSource, t.syncAttemptsLeft - 1), false)
        else ((Nat.ldiff t.syncToMET cfg.synchMajorPending ||| cfg.synchToMajor,
          t.majorFrameSource, t.syncAttemptsLeft - 1), true)
      else (syncFields t, true) := by
  unfold minorFrameCallback
  dsimp only
  split_ifs <;> simp only [minorFrameTail_fst, minorFrameTail_semGive] <;> (try split_ifs) <;> rfl

theorem inPhase_of_syncFields {q : SyncPhase} {a : ℕ}
    (he : syncFields s = (flagWord cfg minor q.toMajor q.majorPending, q.source, a))
    (ha : ∀ k, q = .pending k → a = k) : InPhase cfg minor s q := by
  simp only [syncFields, Prod.mk.injEq] at he
  exact ⟨he.1, he.2.1, fun k hk => he.2.2.trans (ha k hk)⟩

theorem inPhase_minorFrame (bits : FlagBits cfg) (h : InPhase cfg minor s p) (us : ℕ) :
    ∃ q, SyncStep cfg.maxSyncAttempts p q (!(minorFrameCallback cfg s us).2.semGive) ∧
      InPhase cfg minor (minorFrameCallback cfg s us).1 q := by
  have ht := h.startMetSync
  have hf := @minorFrameCallback_sync cfg s us
  dsimp only at hf
  simp only [ht.word, flagWord_and_pending_ne_zero bits, ht.source] at hf
  cases hq : p.arm cfg.maxSyncAttempts with
  | pending k =>
    rw [hq] at ht hf
    rw [if_pos ⟨rfl, rfl⟩, ht.attempts k rfl] at hf
    split_ifs at hf with hw <;> rw [Prod.mk.injEq] at hf <;> rw [hf.2]
    · exact ⟨_, .wait p k hq (by omega),
        inPhase_of_syncFields hf.1 fun j hj => SyncPhase.pending.inj hj⟩
    · rw [ldiff_flagWord_pending bits] at hf
      exact ⟨_, .sync p k hq, inPhase_of_syncFields hf.1 fun _ hj => SyncPhase.noConfusion hj⟩
  | _ =>
    have hp : p.arm cfg.maxSyncAttempts = p := by
      cases p <;> simp only [SyncPhase.arm, reduceCtorEq] at hq ⊢
    rw [hq] at hp ht hf
    subst hp
    rw [if_neg (by simp [SyncPhase.majorPending]), Prod.mk.injEq] at hf
    rw [hf.2]
    exact ⟨_, .stay _, ht.congr hf.1⟩

/-- What `MajorFrameCallback` does to the synchronization: a tone outside flywheel that major
frames are not ignored for keeps only the minor frame flag and becomes the major frame source. -/
theorem majorFrameCallback_sync (flying : Bool) (us : ℕ) :
    syncFields (majorFrameCallback cfg s flying us).1 =
      if flying = false ∧ (classifyTone cfg s).ignoreMajorFrame = false then
        (s.syncToMET &&& cfg.synchToMinor, .cfeTime, s.syncAttemptsLeft)
      else syncFields s := by
  have hr : syncFields (majorFrameCallback cfg s flying us).1 =
      syncFields (toneResponse cfg s flying).1 := rfl
  rw [hr, toneResponse]
  cases flying
  · rw [if_neg Bool.false_ne_true, acceptTone_fst, classifyTone_eq]
    split_ifs <;> first | rfl | simp_all
  · rfl

theorem inPhase_majorFrame (bits : FlagBits cfg) (h : InPhase cfg minor s p) (flying : Bool)
    (us : ℕ) :
    ∃ q, SyncStep cfg.maxSyncAttempts p q false ∧
      InPhase cfg minor (majorFrameCallback cfg s flying us).1 q := by
  have hf := @majorFrameCallback_sync cfg s flying us
  split_ifs at hf
  · rw [h.word, flagWord_and_toMinor bits] at hf
    exact ⟨_, .accept p, inPhase_of_syncFields hf fun _ hk => SyncPhase.noConfusion hk⟩
  · exact ⟨p, .stay p, h.congr hf⟩

end Callbacks

section Runs

variable {minor : Bool} {s : SchedulerClass} {p : SyncPhase}

/-- Every operation of the scheduler is a `SyncStep` of its phase. -/
theorem inPhase_step (bits : FlagBits cfg) (h : InPhase cfg minor s p) (op : Op) :
    ∃ q, SyncStep cfg.maxSyncAttempts p q (op.stalls (step cfg s op).2) ∧
      InPhase cfg minor (step cfg s op).1 q := by
  cases op with
  | majorFrame flying us => exact inPhase_majorFrame bits h flying us
  | minorFrame us => exact inPhase_minorFrame bits h us
  | execute => exact ⟨p, .stay p, h.congr (by simp only [step]; rw [schedulerExecute_eq]; rfl)⟩
  | configSchEntryCmd =>
    exact ⟨p, .stay p, h.congr (by simp only [step]; rw [schedulerConfigSchEntryCmd_eq]; rfl)⟩
  | loadSchEntryCmd =>
    exact ⟨p, .stay p, h.congr (by simp only [step]; rw [schedulerLoadSchEntryCmd_eq]; rfl)⟩
  | loadMsgEntryCmd =>
    exact ⟨p, .stay p, h.congr (by simp only [step]; rw [schedulerLoadMsgEntryCmd_eq]; rfl)⟩
  | _ => exact ⟨p, .stay p, h.congr rfl⟩

/-- Along a run the phase stays valid, its source never returns to none once it has left it,
and the stalls of the run and the budget left never exceed the budget at the start. -/
theorem inPhase_run (bits : FlagBits cfg) (ops : List Op) :
    ∀ {s p}, InPhase cfg minor s p → p.Valid cfg.maxSyncAttempts →
      ∃ q, InPhase cfg minor (run cfg s ops) q ∧ q.Valid cfg.maxSyncAttempts ∧
        stallCount cfg s ops + q.stallBudget cfg.maxSyncAttempts ≤
          p.stallBudget cfg.maxSyncAttempts ∧
        (p.source ≠ .none → q.source ≠ .none) := by
  induction ops with
  | nil => exact fun h hv => ⟨_, h, hv, by simp [stallCount], id⟩
  | cons op ops ih =>
    intro s p h hv
    obtain ⟨q₁, hs, h₁⟩ := inPhase_step bits h op
    obtain ⟨q, hq, hvq, hb, hsrc⟩ := ih h₁ (hs.valid hv)
    have := hs.stallBudget_le
    refine ⟨q, hq, hvq, ?_, fun hn => hsrc (hs.source_ne_none hn)⟩
    simp only [stallCount]
    omega

/-- In every run from construction, with the three flags distinct single bits and
`SCHEDULER_MAX_SYNC_ATTEMPTS ≥ 1`: `SyncToMET` is the constructor's choice of
`SCHEDULER_SYNCH_TO_MINOR` with at most one of the two other flags and no other bit; a pending
synchronization comes from the minor frame timer with between one and
`SCHEDULER_MAX_SYNC_ATTEMPTS` attempts left, and the next `MinorFrameCallback` that finds one
pending decrements a positive count; `MajorFrameSource` never returns to none once it has left
it; and `MinorFrameCallback` has returned without giving the semaphore at most
`SCHEDULER_MAX_SYNC_ATTEMPTS - 1` times. -/
theorem sync_flags (bits : FlagBits cfg) (hmax : 1 ≤ cfg.maxSyncAttempts) (timerCreated : Bool)
    (clockAccuracy : UInt32) (ops : List Op) :
    let s₀ := initial cfg timerCreated clockAccuracy
    let s := run cfg s₀ ops
    (∃ major pending : Bool,
      s.syncToMET = flagWord cfg (timerCreated && decide (cfg.worstClockAccuracy < clockAccuracy))
        major pending ∧
      ¬ (major = true ∧ pending = true) ∧
      (pending = true → s.majorFrameSource = .minorFrameTimer ∧
        1 ≤ s.syncAttemptsLeft ∧ s.syncAttemptsLeft ≤ cfg.maxSyncAttempts)) ∧
    ((startMetSync cfg s).syncToMET &&& cfg.synchMajorPending ≠ 0 →
      1 ≤ (startMetSync cfg s).syncAttemptsLeft) ∧
    (∀ ops', s.majorFrameSource ≠ .none → (run cfg s ops').majorFrameSource ≠ .none) ∧
    stallCount cfg s₀ ops ≤ cfg.maxSyncAttempts - 1 := by
  intro s₀ s
  obtain ⟨q, hq, hv, hb, -⟩ := inPhase_run bits ops (inPhase_initial timerCreated clockAccuracy)
    trivial
  refine ⟨⟨q.toMajor, q.majorPending, hq.word, q.not_toMajor_and_majorPending, fun hp => ?_⟩,
    fun hp => ?_, fun ops' hn => ?_, (Nat.le_add_right _ _).trans hb⟩
  · cases q <;> simp only [SyncPhase.majorPending, Bool.false_eq_true] at hp
    exact ⟨hq.source, hq.attempts _ rfl ▸ hv⟩
  · have ht := hq.startMetSync
    have hva := SyncPhase.arm_valid hmax hv
    generalize q.arm cfg.maxSyncAttempts = r at ht hva
    rw [ht.word, flagWord_and_pending_ne_zero bits] at hp
    cases r <;> simp only [SyncPhase.majorPending, Bool.false_eq_true] at hp
    exact (ht.attempts _ rfl) ▸ hva.1
  · obtain ⟨q', hq', -, -, hsrc⟩ := inPhase_run bits ops' hq hv
    rw [hq'.source]
    exact hsrc (hq.source ▸ hn)

/-- The flag values of the examples' configuration. -/
def demoBits : FlagBits demoConfig :=
  ⟨0, 1, 2, rfl, rfl, rfl, by decide, by decide, by decide⟩

/-- Three minor frames at MET slot one from a scheduler synchronized to the minor frame: the
first arms a MET synchronization, and the attempts then run out. -/
def metSyncOps : List Op := [.minorFrame 250000, .minorFrame 250000, .minorFrame 250000]

theorem sync_flags_demo :
    1 ≤ demoConfig.maxSyncAttempts ∧
      stallCount demoConfig (initial demoConfig true 20) metSyncOps ≤ 1 :=
  ⟨by decide, (sync_flags demoBits (by decide) true 20 metSyncOps).2.2.2⟩

end Runs

/-! ## Re-basing the slot clock -/

/-- A tone that is not accepted, because the clock flywheels or major frames are ignored, leaves
a major frame synchronized to MET but re-bases `LastSyncMETSlot` on the tone's MET slot. -/
theorem majorFrameCallback_rebases {minor : Bool} {s : SchedulerClass}
    (h : InPhase cfg minor s .metMajor) {flying : Bool}
    (hna : ¬ (flying = false ∧ (classifyTone cfg s).ignoreMajorFrame = false)) (us : ℕ) :
    InPhase cfg minor (majorFrameCallback cfg s flying us).1 .metMajor ∧
      (majorFrameCallback cfg s flying us).1.lastSyncMETSlot = getMETSlotNumber cfg us := by
  have hf := @majorFrameCallback_sync cfg s flying us
  rw [if_neg hna] at hf
  exact ⟨h.congr hf, rfl⟩

/-- From construction with a timer within `SCHEDULER_WORST_CLOCK_ACCURACY`, so not synchronized
to MET, a minor frame at MET slot zero synchronizes the major frame to MET; a tone at MET slot two
while the clock flywheels then leaves `SCHEDULER_SYNCH_TO_MAJOR` set with `LastSyncMETSlot = 2`,
and `GetCurrentSlotNumber` reads slot zero at MET slot two. -/
theorem flywheel_tone_rebases :
    (run demoConfig (initial demoConfig true 10) [.minorFrame 0, .majorFrame true 500000]).syncToMET =
        demoConfig.synchToMajor ∧
      (run demoConfig (initial demoConfig true 10)
        [.minorFrame 0, .majorFrame true 500000]).lastSyncMETSlot = 2 ∧
      getMETSlotNumber demoConfig 500000 = 2 ∧
      getCurrentSlotNumber demoConfig
        (run demoConfig (initial demoConfig true 10) [.minorFrame 0, .majorFrame true 500000])
        500000 = 0 := by
  have hw : (run demoConfig (initial demoConfig true 10)
      [.minorFrame 0, .majorFrame true 500000]).syncToMET = demoConfig.synchToMajor :=
    (ldiff_flagWord_pending demoBits false false true : Nat.ldiff 4 4 ||| 2 = 2)
  refine ⟨hw, by decide, by decide, ?_⟩
  simp only [getCurrentSlotNumber, hw]
  decide

end KitSch
