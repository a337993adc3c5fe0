import KitSch.MinorFrameClock

/-!
# The minor frame clock locked to the tone

The nominal protocol between the time service's tone, the minor frame timer and the scheduler,
not synchronized to MET: after a tone the timer counts minor frames up to
`SCHEDULER_TIME_SYNC_SLOT`, where `MinorFrameCallback` starts the long slot, and the next tone
comes in that slot. `lockStep` and `lockedRun` are that protocol: what the environment may do
(a minor frame before the time sync slot, a tone in it, anything else at any time) and what the
scheduler is to answer (the timer programs and the semaphore of each callback).

* `majorFrameCallback_onTime`: a tone in the time sync slot is on time and accepted;
* `step_locked`: each operation the protocol allows keeps the scheduler locked and answers as
  the protocol says;
* `tone_locked`: along every run the protocol allows, the scheduler stays locked, its minor frame
  count and callback signals are the protocol's, and without `SCHEDULER_ResetStatus` no tone is
  counted noisy, no major frame missed, and every tone counted valid.
-/

namespace KitSch

variable (cfg : SchedulerConfig)

/-- Locked to the tone: not synchronized to MET, a major frame source set, tones not ignored,
and the minor frame count at most `SCHEDULER_TIME_SYNC_SLOT`. -/
structure ToneLocked (s : SchedulerClass) : Prop where
  unsynced : s.syncToMET = synchFalse
  source : s.majorFrameSource ≠ .none
  listening : s.ignoreMajorFrame = false
  count_le : s.minorFramesSinceTone ≤ cfg.timeSyncSlot

/-- Whether an operation is a tone outside flywheel. -/
def Op.isTone : Op → Bool
  | .majorFrame false _ => true
  | _ => false

/-- The signals a callback returned. -/
def Op.callbackSignals : Op → Output → List Signals
  | .majorFrame .., .signals sig => [sig]
  | .minorFrame _, .signals sig => [sig]
  | _, _ => []

/-- The signals the callbacks of a run returned, in order. -/
def callbackLog (h : List (SchedulerClass × Op × Output)) : List Signals :=
  h.flatMap fun e => e.2.1.callbackSignals e.2.2

/-- One operation of the protocol, `n` minor frames after the last tone: the count it leads to
and the signals the scheduler answers with, or `none` for a minor frame past the time sync slot
or a tone outside it. -/
def lockStep (n : ℕ) : Op → Option (ℕ × List Signals)
  | .minorFrame _ =>
    if n < cfg.timeSyncSlot then some (n + 1, [minorFrameSignals cfg (n + 1)]) else none
  | .majorFrame false _ =>
    if n = cfg.timeSyncSlot then
      some (0, [⟨[(cfg.normalSlotPeriod, cfg.normalSlotPeriod)], true⟩])
    else none
  | .majorFrame true _ => some (n, [⟨[], false⟩])
  | _ => some (n, [])

/-- A run of the protocol from `n` minor frames after the last tone: the final count and the
signals in order. -/
def lockedRun : ℕ → List Op → Option (ℕ × List Signals)
  | n, [] => some (n, [])
  | n, op :: ops => (lockStep cfg n op).bind fun r =>
    (lockedRun r.1 ops).map fun r' => (r'.1, r.2 ++ r'.2)

example : lockedRun demoConfig 0 (List.replicate 3 (.minorFrame 0) ++ [.majorFrame false 0]) =
    some (0, [⟨[], true⟩, ⟨[], true⟩, ⟨[(400000, 0)], true⟩,
      ⟨[(250000, 250000)], true⟩]) := by
  decide

@[simp] theorem callbackLog_cons (e : SchedulerClass × Op × Output)
    (h : List (SchedulerClass × Op × Output)) :
    callbackLog (e :: h) = e.2.1.callbackSignals e.2.2 ++ callbackLog h :=
  List.flatMap_cons _ _ _

variable {cfg} {s : SchedulerClass}

theorem ToneLocked.freeRunning (hsync : cfg.timeSyncSlot < cfg.schtblSlots)
    (hs : ToneLocked cfg s) : FreeRunning cfg s where
  source := hs.source
  settled h := by rw [hs.unsynced, synchFalse, Nat.zero_and] at h; exact h.1 rfl
  count_lt := Nat.lt_of_le_of_lt hs.count_le hsync

/-- A tone in the time sync slot, not synchronized to MET and with major frames not ignored, is
on time and accepted: it locks the scheduler, the count restarts at `0`, the timer at the normal
period, and the semaphore is given. -/
theorem majorFrameCallback_onTime (hminor : cfg.synchToMinor ≠ synchFalse)
    (hu : s.syncToMET = synchFalse) (hl : s.ignoreMajorFrame = false)
    (hn : s.minorFramesSinceTone = cfg.timeSyncSlot) (us : ℕ) :
    let r := majorFrameCallback cfg s false us
    ToneLocked cfg r.1 ∧ r.1.minorFramesSinceTone = 0 ∧
      r.2 = ⟨[(cfg.normalSlotPeriod, cfg.normalSlotPeriod)], true⟩ ∧
      r.1.unexpectedMajorFrameCount = s.unexpectedMajorFrameCount ∧
      r.1.missedMajorFrameCount = s.missedMajorFrameCount ∧
      r.1.validMajorFrameCount = s.validMajorFrameCount + 1 := by
  have hquiet : noisyMajorFrame cfg s = false := by
    simp [noisyMajorFrame, hu, hn, Ne.symm hminor]
  have hc : classifyTone cfg s =
      { s with unexpectedMajorFrame := false, consecutiveNoisyFrameCounter := 0 } := by
    rw [classifyTone, hquiet]; rfl
  have hsync : s.syncToMET &&& cfg.synchToMinor = synchFalse := by
    rw [hu, synchFalse, Nat.zero_and]
  simp only [majorFrameCallback, toneResponse, Bool.false_eq_true, if_false, hc, acceptTone,
    hl, if_true]
  exact ⟨⟨hsync, nofun, rfl, Nat.zero_le _⟩, trivial, trivial, trivial, trivial, trivial⟩

variable (cfg) in
/-- What a step from `s` by `op` is to do under the protocol, with count `n` and signals `sig`:
keep the scheduler locked, reach count `n`, answer `sig`, and, unless it is
`SCHEDULER_ResetStatus`, move no major frame counter but `ValidMajorFrameCount`, by one for a
tone. -/
def LockedStep (s : SchedulerClass) (op : Op) (n : ℕ) (sig : List Signals) : Prop :=
  let t := (step cfg s op).1
  ToneLocked cfg t ∧ t.minorFramesSinceTone = n ∧ op.callbackSignals (step cfg s op).2 = sig ∧
    (op ≠ .resetStatus → t.unexpectedMajorFrameCount = s.unexpectedMajorFrameCount ∧
      t.missedMajorFrameCount = s.missedMajorFrameCount ∧
      t.validMajorFrameCount.toNat =
        (s.validMajorFrameCount.toNat + if op.isTone then 1 else 0) % 2 ^ 32)

/-- Each operation the protocol allows does what the protocol says. -/
theorem step_locked (hsync : cfg.timeSyncSlot < cfg.schtblSlots)
    (hminor : cfg.synchToMinor ≠ synchFalse) (hs : ToneLocked cfg s) {op : Op} {n : ℕ}
    {sig : List Signals} (h : lockStep cfg s.minorFramesSinceTone op = some (n, sig)) :
    LockedStep cfg s op n sig := by
  -- the wakeup and the commands change none of the protocol's fields and give no signals
  have idle : op.isMinorFrame = false → (∀ us, op ≠ .majorFrame false us) →
      op ≠ .resetStatus → op.isTone = false → op.callbackSignals (step cfg s op).2 = sig →
      LockedStep cfg s op s.minorFramesSinceTone sig := fun hm ht hr hone hsig => by
    obtain ⟨e₁, e₂, e₃, e₄, -⟩ := step_clock_idle (s := s) hm ht
    obtain ⟨f₁, f₂, f₃, f₄⟩ := e₄ hr
    refine ⟨⟨e₃ ▸ hs.unsynced, e₂ ▸ hs.source, f₄ ▸ hs.listening, e₁ ▸ hs.count_le⟩,
      e₁, hsig, fun _ => ⟨f₂, f₁, ?_⟩⟩
    rw [f₃, hone, if_neg Bool.false_ne_true, Nat.add_zero, toNat_mod_size]
  cases op with
  | minorFrame us =>
    simp only [lockStep] at h
    split_ifs at h with hn
    cases h
    have e := minorFrameCallback_freeRunning (hs.freeRunning hsync) us
    rw [if_pos (by omega : s.minorFramesSinceTone + 1 < cfg.schtblSlots)] at e
    dsimp only [LockedStep, step]
    rw [e]
    exact ⟨⟨hs.unsynced, hs.source, hs.listening, hn⟩, rfl, rfl,
      fun _ => ⟨rfl, rfl, (toNat_mod_size _).symm⟩⟩
  | majorFrame flying us =>
    cases flying
    · simp only [lockStep] at h
      split_ifs at h with hn
      cases h
      obtain ⟨h₁, h₂, h₃, h₄, h₅, h₆⟩ := majorFrameCallback_onTime hminor hs.unsynced hs.listening hn us
      exact ⟨h₁, h₂, by rw [← h₃]; rfl,
        fun _ => ⟨h₄, h₅, by simp only [step]; rw [h₆, toNat_add_one]; rfl⟩⟩
    · cases h
      exact ⟨⟨hs.unsynced, hs.source, hs.listening, hs.count_le⟩, rfl, rfl,
        fun _ => ⟨rfl, rfl, (toNat_mod_size _).symm⟩⟩
  | resetStatus =>
    cases h
    exact ⟨⟨hs.unsynced, hs.source, rfl, hs.count_le⟩, rfl, rfl, fun h => absurd rfl h⟩
  | _ => cases h; exact idle rfl nofun nofun rfl rfl

/-- The scheduler follows the tone-locked protocol: from a locked state, along every run the
protocol allows, it stays locked, its minor frame count and the signals of its callbacks are the
protocol's, and, without `SCHEDULER_ResetStatus`, no tone is counted noisy, no major frame is
counted missed, and `ValidMajorFrameCount` goes up by the tones, modulo `2^32`. -/
theorem tone_locked (hsync : cfg.timeSyncSlot < cfg.schtblSlots)
    (hminor : cfg.synchToMinor ≠ synchFalse) (s : SchedulerClass) (hs : ToneLocked cfg s)
    (ops : List Op) (hon : lockedRun cfg s.minorFramesSinceTone ops ≠ none) :
    ToneLocked cfg (run cfg s ops) ∧
      lockedRun cfg s.minorFramesSinceTone ops =
        some ((run cfg s ops).minorFramesSinceTone, callbackLog (history cfg s ops)) ∧
      ((∀ op ∈ ops, op ≠ .resetStatus) →
        (run cfg s ops).unexpectedMajorFrameCount = s.unexpectedMajorFrameCount ∧
        (run cfg s ops).missedMajorFrameCount = s.missedMajorFrameCount ∧
        (run cfg s ops).validMajorFrameCount.toNat =
          (s.validMajorFrameCount.toNat + ops.countP Op.isTone) % 2 ^ 32) := by
  induction ops generalizing s with
  | nil => exact ⟨hs, rfl, fun _ => ⟨rfl, rfl, (toNat_mod_size _).symm⟩⟩
  | cons op ops ih =>
    obtain ⟨⟨n, sig⟩, hl⟩ : ∃ r, lockStep cfg s.minorFramesSinceTone op = some r := by
      cases hl : lockStep cfg s.minorFramesSinceTone op with
      | none => simp [lockedRun, hl] at hon
      | some r => exact ⟨r, rfl⟩
    obtain ⟨h₁, h₂, h₃, h₄⟩ := step_locked hsync hminor hs hl
    simp only [lockedRun, hl, Option.some_bind, ne_eq, Option.map_eq_none', ← h₂] at hon
    obtain ⟨i₁, i₂, i₃⟩ := ih _ h₁ hon
    simp only [run_cons, history, callbackLog_cons, lockedRun, hl, Option.some_bind, ← h₂, i₂,
      Option.map_some', h₃, List.countP_cons]
    refine ⟨i₁, trivial, fun hr => ?_⟩
    obtain ⟨c₁, c₂, c₃⟩ := h₄ (hr op (List.mem_cons_self _ _))
    obtain ⟨d₁, d₂, d₃⟩ := i₃ fun o ho => hr o (List.mem_cons_of_mem _ ho)
    refine ⟨d₁.trans c₁, d₂.trans c₂, ?_⟩
    rw [d₃, c₃, Nat.mod_add_mod, Nat.add_assoc, Nat.add_comm (ite _ _ _)]

/-- Three minor frames and a tone in the time sync slot, a wakeup, a minor frame, and a tone
while the clock flywheels. -/
def lockedOps : List Op :=
  List.replicate 3 (.minorFrame 0) ++
    [.majorFrame false 0, .execute true 0 fun _ => true, .minorFrame 0, .majorFrame true 0]

theorem tone_locked_cycle :
    demoConfig.timeSyncSlot < demoConfig.schtblSlots ∧ demoConfig.synchToMinor ≠ synchFalse ∧
      ToneLocked demoConfig toneAccepted ∧
      lockedRun demoConfig toneAccepted.minorFramesSinceTone lockedOps ≠ none ∧
      ToneLocked demoConfig (run demoConfig toneAccepted lockedOps) ∧
      lockedRun demoConfig toneAccepted.minorFramesSinceTone lockedOps =
        some ((run demoConfig toneAccepted lockedOps).minorFramesSinceTone,
          callbackLog (history demoConfig toneAccepted lockedOps)) ∧
      ((∀ op ∈ lockedOps, op ≠ .resetStatus) →
        (run demoConfig toneAccepted lockedOps).unexpectedMajorFrameCount =
          toneAccepted.unexpectedMajorFrameCount ∧
        (run demoConfig toneAccepted lockedOps).missedMajorFrameCount =
          toneAccepted.missedMajorFrameCount ∧
        (run demoConfig toneAccepted lockedOps).validMajorFrameCount.toNat =
          (toneAccepted.validMajorFrameCount.toNat + lockedOps.countP Op.isTone) % 2 ^ 32) := by
  have hs : ToneLocked demoConfig toneAccepted := ⟨by decide, by decide, by decide, by decide⟩
  have hon : lockedRun demoConfig toneAccepted.minorFramesSinceTone lockedOps ≠ none := by
    decide
  exact ⟨by decide, by decide, hs, hon,
    tone_locked (by decide) (by decide) toneAccepted hs lockedOps hon⟩

end KitSch
