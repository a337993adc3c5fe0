import KitSch.System

/-!
# The noisy tone latch

`MajorFrameCallback` classifies each tone that comes outside flywheel as noisy or on time, and
latches `IgnoreMajorFrame` once `SCHEDULER_MAX_NOISY_MF` noisy tones come with no on-time tone
between them; only `SCHEDULER_ResetStatus` clears the latch. `toneLog` records the class of each
such tone along a run, and the clearing of each reset; `sinceReset` keeps the tones after the
last reset.

`ToneInv` relates the monitor's fields to those tones: `IgnoreMajorFrame` is whether
`SCHEDULER_MAX_NOISY_MF` noisy tones stand in a row among them, and until then
`ConsecutiveNoisyFrameCounter` is the number of noisy tones at their end.

* `toneInv_step`: every operation keeps `ToneInv` against the tones it adds;
* `noisy_latch`: in every run from construction the counter is at most
  `SCHEDULER_MAX_NOISY_MF`, the latch is set exactly when that many noisy tones came in a row
  since the last reset, and while it is set a tone changes neither the slot clock, nor the
  major frame source and synchronization, nor `ValidMajorFrameCount`, and gives no semaphore.
-/

namespace KitSch

/-- The class `MajorFrameCallback` gives a tone outside flywheel. -/
inductive Tone where
  | noisy
  | onTime
deriving DecidableEq, Repr

/-- What an operation records about the tones: a tone's class, or the clearing by a reset. -/
inductive ToneEvent where
  | tone (t : Tone)
  | reset
deriving DecidableEq, Repr

/-! ## Noisy tones in a row -/

section Runs

variable {α : Type} {x y : α} {l : List α}

theorem replicate_succ_suffix_concat {k : ℕ} :
    List.replicate (k + 1) x <:+ l ++ [y] ↔ y = x ∧ List.replicate k x <:+ l := by
  rw [List.suffix_concat_iff, ← List.append_replicate_replicate]
  constructor
  · rintro (h | ⟨t, ht, hs⟩)
    · simp at h
    · obtain ⟨rfl, h⟩ := List.append_inj' ht rfl
      exact ⟨(List.singleton_inj.1 h).symm, hs⟩
  · rintro ⟨rfl, h⟩
    exact .inr ⟨_, rfl, h⟩

theorem replicate_suffix_of_le {j k : ℕ} (hjk : j ≤ k) (h : List.replicate k x <:+ l) :
    List.replicate j x <:+ l := by
  refine List.IsSuffix.trans ?_ h
  rw [show k = (k - j) + j by omega, ← List.append_replicate_replicate]
  exact List.suffix_append _ _

end Runs

/-- An on-time tone ends every run of noisy tones. -/
theorem noisyRun_concat_onTime {n : ℕ} (hn : 1 ≤ n) (ts : List Tone) :
    List.replicate n Tone.noisy <:+: ts ++ [.onTime] ↔ List.replicate n Tone.noisy <:+: ts := by
  obtain ⟨k, rfl⟩ : ∃ k, n = k + 1 := ⟨n - 1, by omega⟩
  rw [List.infix_concat_iff, replicate_succ_suffix_concat]
  simp

/-! ## The monitor's fields -/

variable (cfg : SchedulerConfig)

/-- The tone event of an operation in state `s`: the class of a tone outside flywheel, the
clearing of a reset, and none for the other operations. -/
def Op.toneEvent (s : SchedulerClass) : Op → Option ToneEvent
  | .majorFrame false _ => some (.tone (if noisyMajorFrame cfg s then .noisy else .onTime))
  | .resetStatus => some .reset
  | _ => none

/-- The tone events of a run, in order. -/
def toneLog (s : SchedulerClass) : List Op → List ToneEvent
  | [] => []
  | op :: ops => (op.toneEvent cfg s).toList ++ toneLog (step cfg s op).1 ops

/-- Add an event to the tones since the last reset. -/
def addToneEvent (ts : List Tone) : ToneEvent → List Tone
  | .tone t => ts ++ [t]
  | .reset => []

/-- The tones since the last reset, after the events `es` that follow the tones `ts`. -/
def sinceReset (ts : List Tone) (es : List ToneEvent) : List Tone := es.foldl addToneEvent ts

/-- The latch and the count against the tones since the last reset: the count is at most
`SCHEDULER_MAX_NOISY_MF`, the latch is set exactly when that many noisy tones stand in a row,
and until then the count is the number of noisy tones at the end. -/
structure ToneInv (ignore : Bool) (count : ℕ) (ts : List Tone) : Prop where
  bound : count ≤ cfg.maxNoisyMf
  latch : ignore = true ↔ List.replicate cfg.maxNoisyMf Tone.noisy <:+: ts
  trailing : ignore = false →
    List.replicate count Tone.noisy <:+ ts ∧ ¬ List.replicate (count + 1) Tone.noisy <:+ ts

section Latch

variable {cfg} {count : ℕ} {ts : List Tone}

theorem toneInv_reset (hmax : 1 ≤ cfg.maxNoisyMf) : ToneInv cfg false 0 [] := by
  obtain ⟨k, hk⟩ : ∃ k, cfg.maxNoisyMf = k + 1 := ⟨cfg.maxNoisyMf - 1, by omega⟩
  exact ⟨Nat.zero_le _, by simp [hk], fun _ => ⟨List.nil_suffix, by simp⟩⟩

/-- A noisy tone while the latch is set leaves it set. -/
theorem ToneInv.noisy_ignored (h : ToneInv cfg true count ts) :
    ToneInv cfg true count (ts ++ [.noisy]) :=
  ⟨h.bound, iff_of_true rfl ((h.latch.1 rfl).trans (List.prefix_append ts _).isInfix),
    fun h => Bool.noConfusion h⟩

/-- A noisy tone while the latch is open is counted, and closes the latch at the limit. -/
theorem ToneInv.noisy_open (h : ToneInv cfg false count ts) :
    ToneInv cfg (decide (cfg.maxNoisyMf ≤ count + 1)) (count + 1) (ts ++ [.noisy]) := by
  obtain ⟨hs, hns⟩ := h.trailing rfl
  have hopen : ¬ List.replicate cfg.maxNoisyMf Tone.noisy <:+: ts := fun h' =>
    Bool.noConfusion (h.latch.2 h')
  have hlt : count < cfg.maxNoisyMf := Nat.lt_of_not_le fun hge =>
    hopen (replicate_suffix_of_le hge hs).isInfix
  have hrun : List.replicate (count + 1) Tone.noisy <:+ ts ++ [.noisy] :=
    replicate_succ_suffix_concat.2 ⟨rfl, hs⟩
  refine ⟨hlt, ?_, fun hm => ⟨hrun, ?_⟩⟩
  · by_cases hm : cfg.maxNoisyMf ≤ count + 1
    · exact iff_of_true (decide_eq_true hm) (replicate_suffix_of_le hm hrun).isInfix
    · obtain ⟨k, hk⟩ : ∃ k, cfg.maxNoisyMf = k + 1 := ⟨cfg.maxNoisyMf - 1, by omega⟩
      rw [hk, List.infix_concat_iff, replicate_succ_suffix_concat, ← hk]
      simp only [decide_eq_true_eq, hm, false_iff, not_or, true_and]
      exact ⟨fun h' => hns (replicate_suffix_of_le (by omega) h'), hopen⟩
  · rw [replicate_succ_suffix_concat]
    exact fun h' => hns h'.2

/-- An on-time tone clears the count and leaves the latch. -/
theorem ToneInv.onTime (hmax : 1 ≤ cfg.maxNoisyMf) {ignore : Bool}
    (h : ToneInv cfg ignore count ts) : ToneInv cfg ignore 0 (ts ++ [.onTime]) := by
  refine ⟨Nat.zero_le _, ?_, fun _ => ⟨List.nil_suffix, ?_⟩⟩
  · rw [noisyRun_concat_onTime hmax]; exact h.latch
  · rw [replicate_succ_suffix_concat]; simp

end Latch

theorem majorFrameCallback_ignoreMajorFrame (s : SchedulerClass) (flying : Bool) (us : ℕ) :
    (majorFrameCallback cfg s flying us).1.ignoreMajorFrame =
      if flying then s.ignoreMajorFrame else (classifyTone cfg s).ignoreMajorFrame := by
  rw [majorFrameCallback_fst, toneResponse]
  split
  · rfl
  · rw [acceptTone_fst]; split <;> rfl

theorem majorFrameCallback_consecutiveNoisyFrameCounter (s : SchedulerClass) (flying : Bool)
    (us : ℕ) :
    (majorFrameCallback cfg s flying us).1.consecutiveNoisyFrameCounter =
      if flying then s.consecutiveNoisyFrameCounter
      else (classifyTone cfg s).consecutiveNoisyFrameCounter := by
  rw [majorFrameCallback_fst, toneResponse]
  split
  · rfl
  · rw [acceptTone_fst]; split <;> rfl

/-- A noisy tone counts while the latch is open and may close it; an on-time tone clears the
count and leaves the latch. -/
theorem classifyTone_latch (s : SchedulerClass) :
    ((classifyTone cfg s).ignoreMajorFrame, (classifyTone cfg s).consecutiveNoisyFrameCounter) =
      if noisyMajorFrame cfg s then
        (if s.ignoreMajorFrame then (true, s.consecutiveNoisyFrameCounter)
          else (decide (cfg.maxNoisyMf ≤ s.consecutiveNoisyFrameCounter + 1),
            s.consecutiveNoisyFrameCounter + 1))
      else (s.ignoreMajorFrame, 0) := by
  unfold classifyTone
  dsimp only
  split_ifs <;> simp_all

/-- Every operation keeps `ToneInv` against the tones it adds. -/
theorem toneInv_step (hmax : 1 ≤ cfg.maxNoisyMf) {s : SchedulerClass} {ts : List Tone}
    (h : ToneInv cfg s.ignoreMajorFrame s.consecutiveNoisyFrameCounter ts) (op : Op) :
    ToneInv cfg (step cfg s op).1.ignoreMajorFrame (step cfg s op).1.consecutiveNoisyFrameCounter
      (sinceReset ts (op.toneEvent cfg s).toList) := by
  cases op with
  | majorFrame flying us =>
    cases flying
    · have hcl := classifyTone_latch cfg s
      simp only [step, majorFrameCallback_ignoreMajorFrame,
        majorFrameCallback_consecutiveNoisyFrameCounter, Bool.false_eq_true, ite_false,
        Op.toneEvent, Option.toList, sinceReset, List.foldl, addToneEvent]
      split_ifs at hcl ⊢ with hn hi <;> simp only [Prod.mk.injEq] at hcl <;>
        rw [hcl.1, hcl.2]
      · exact (hi ▸ h).noisy_ignored
      · exact (Bool.eq_false_iff.2 hi ▸ h).noisy_open
      · exact h.onTime hmax
    · simpa only [step, majorFrameCallback_ignoreMajorFrame,
        majorFrameCallback_consecutiveNoisyFrameCounter, ite_true] using h
  | resetStatus => exact toneInv_reset hmax
  | execute => simp only [step]; rw [schedulerExecute_eq]; exact h
  | minorFrame => simp only [step]; rw [minorFrameCallback_eq]; exact h
  | configSchEntryCmd => simp only [step]; rw [schedulerConfigSchEntryCmd_eq]; exact h
  | loadSchEntryCmd => simp only [step]; rw [schedulerLoadSchEntryCmd_eq]; exact h
  | loadMsgEntryCmd => simp only [step]; rw [schedulerLoadMsgEntryCmd_eq]; exact h
  | _ => exact h

theorem toneInv_run (hmax : 1 ≤ cfg.maxNoisyMf) (ops : List Op) :
    ∀ {s : SchedulerClass} {ts : List Tone},
      ToneInv cfg s.ignoreMajorFrame s.consecutiveNoisyFrameCounter ts →
      ToneInv cfg (run cfg s ops).ignoreMajorFrame (run cfg s ops).consecutiveNoisyFrameCounter
        (sinceReset ts (toneLog cfg s ops)) := by
  induction ops with
  | nil => exact id
  | cons op ops ih =>
    intro s ts h
    rw [run_cons, toneLog, sinceReset, List.foldl_append]
    exact ih (toneInv_step cfg hmax h op)

/-- While the latch is set a tone, flywheel or not, changes neither the minor frame clock, nor
the major frame source and synchronization, nor `ValidMajorFrameCount`, and gives no
semaphore. -/
theorem majorFrameCallback_ignored {s : SchedulerClass} (h : s.ignoreMajorFrame = true)
    (flying : Bool) (us : ℕ) :
    let r := majorFrameCallback cfg s flying us
    r.1.minorFramesSinceTone = s.minorFramesSinceTone ∧
      r.1.majorFrameSource = s.majorFrameSource ∧ r.1.syncToMET = s.syncToMET ∧
      r.1.validMajorFrameCount = s.validMajorFrameCount ∧ r.2.semGive = false := by
  have hcl : (classifyTone cfg s).ignoreMajorFrame = true := by
    have := congrArg Prod.fst (classifyTone_latch cfg s)
    dsimp only at this; rw [this]; split_ifs <;> simp [h]
  simp only [majorFrameCallback, toneResponse]
  split
  · exact ⟨rfl, rfl, rfl, rfl, rfl⟩
  · unfold acceptTone
    rw [if_neg (by simp [hcl]), classifyTone_eq]
    exact ⟨rfl, rfl, rfl, rfl, rfl⟩

/-- In every run from construction, with `SCHEDULER_MAX_NOISY_MF ≥ 1`: the noisy count is at most
`SCHEDULER_MAX_NOISY_MF`; `IgnoreMajorFrame` is set exactly when that many tones outside flywheel
were classified noisy in a row, no on-time tone between them, since the last reset; and while it
is set a tone changes neither the minor frame clock, nor the major frame source and
synchronization, nor `ValidMajorFrameCount`, and gives no semaphore. -/
theorem noisy_latch (hmax : 1 ≤ cfg.maxNoisyMf) (timerCreated : Bool) (clockAccuracy : UInt32)
    (ops : List Op) :
    let s₀ := initial cfg timerCreated clockAccuracy
    let s := run cfg s₀ ops
    s.consecutiveNoisyFrameCounter ≤ cfg.maxNoisyMf ∧
      (s.ignoreMajorFrame = true ↔
        List.replicate cfg.maxNoisyMf Tone.noisy <:+: sinceReset [] (toneLog cfg s₀ ops)) ∧
      (s.ignoreMajorFrame = true → ∀ flying us,
        let r := majorFrameCallback cfg s flying us
        r.1.minorFramesSinceTone = s.minorFramesSinceTone ∧
          r.1.majorFrameSource = s.majorFrameSource ∧ r.1.syncToMET = s.syncToMET ∧
          r.1.validMajorFrameCount = s.validMajorFrameCount ∧ r.2.semGive = false) := by
  intro s₀ s
  have h₀ : ToneInv cfg s₀.ignoreMajorFrame s₀.consecutiveNoisyFrameCounter [] := by
    have hi : s₀.ignoreMajorFrame = false := by
      simp only [s₀, initial, schedulerConstructor]; split_ifs <;> rfl
    have hc : s₀.consecutiveNoisyFrameCounter = 0 := by
      simp only [s₀, initial, schedulerConstructor]; split_ifs <;> rfl
    rw [hi, hc]; exact toneInv_reset hmax
  have h := toneInv_run cfg hmax ops h₀
  exact ⟨h.bound, h.latch, fun hi => majorFrameCallback_ignored cfg hi⟩

theorem noisy_latch_demo :
    1 ≤ demoConfig.maxNoisyMf ∧
      (run demoConfig (initial demoConfig true 20) [.majorFrame false 0]).consecutiveNoisyFrameCounter
        ≤ demoConfig.maxNoisyMf :=
  ⟨by decide, (noisy_latch demoConfig (by decide) true 20 [.majorFrame false 0]).1⟩

/-! ## The noisy window synchronized on the minor frame -/

/-- The tone a callback outside flywheel records as unexpected is the one `noisyMajorFrame`
classifies as noisy. -/
theorem majorFrameCallback_unexpectedMajorFrame (s : SchedulerClass) (us : ℕ) :
    (majorFrameCallback cfg s false us).1.unexpectedMajorFrame = noisyMajorFrame cfg s := by
  have ha : ∀ x, (acceptTone cfg x).1.unexpectedMajorFrame = x.unexpectedMajorFrame := fun x => by
    rw [acceptTone_fst]; split <;> rfl
  rw [majorFrameCallback_fst, toneResponse, if_neg Bool.false_ne_true]
  dsimp only
  rw [ha]
  unfold classifyTone
  dsimp only
  split_ifs <;> simp_all

/-- `SCHEDULER_Constructor` computes `WorstCaseSlotsPerMinorFrame` as
`2 * ClockAccuracy / SCHEDULER_NORMAL_SLOT_PERIOD + 1` when none of its `uint32` operations
wraps. -/
theorem initial_worstCaseSlotsPerMinorFrame {ca : UInt32} (hca : cfg.worstClockAccuracy < ca)
    (hP : cfg.normalSlotPeriod < 2 ^ 32) (h2 : 2 * ca.toNat < 2 ^ 32)
    (h1 : 2 * ca.toNat / cfg.normalSlotPeriod + 1 < 2 ^ 32) :
    (initial cfg true ca).worstCaseSlotsPerMinorFrame.toNat =
      2 * ca.toNat / cfg.normalSlotPeriod + 1 := by
  simp only [initial, schedulerConstructor, if_true, gt_iff_lt, if_pos hca]
  have hmul : (ca * 2).toNat = 2 * ca.toNat := by
    show ca.toNat * 2 % 2 ^ 32 = _
    rw [Nat.mod_eq_of_lt (by omega), Nat.mul_comm]
  show ((ca * 2 / UInt32.ofNat cfg.normalSlotPeriod).toNat + 1) % 2 ^ 32 = _
  rw [UInt32.toNat_div, UInt32.toNat_ofNat_of_lt hP, hmul, Nat.mod_eq_of_lt h1]

/-- Synchronized to MET on the minor frame, a tone is noisy exactly when `NextSlotNumber` is
neither `0` nor within `WorstCaseSlotsPerMinorFrame + 1` slots of the table end, as long as the
`uint32` window `SCHTBL_SLOTS - WorstCaseSlotsPerMinorFrame - 1` does not wrap. -/
theorem noisyMajorFrame_toMinor {s : SchedulerClass} (hsync : s.syncToMET = cfg.synchToMinor)
    (hminor : cfg.synchToMinor ≠ synchFalse) (hS : cfg.schtblSlots < 2 ^ 32)
    (hw : s.worstCaseSlotsPerMinorFrame.toNat + 1 ≤ cfg.schtblSlots) :
    noisyMajorFrame cfg s = (s.nextSlotNumber != 0 &&
      decide (s.nextSlotNumber + s.worstCaseSlotsPerMinorFrame.toNat + 1 < cfg.schtblSlots)) := by
  have hS' := UInt32.toNat_ofNat_of_lt hS
  have hsub : (UInt32.ofNat cfg.schtblSlots - s.worstCaseSlotsPerMinorFrame).toNat =
      cfg.schtblSlots - s.worstCaseSlotsPerMinorFrame.toNat := by
    rw [UInt32.toNat_sub_of_le _ _ (by
      show s.worstCaseSlotsPerMinorFrame.toNat ≤ (UInt32.ofNat cfg.schtblSlots).toNat; omega), hS']
  have hwin : (UInt32.ofNat cfg.schtblSlots - s.worstCaseSlotsPerMinorFrame - 1).toNat =
      cfg.schtblSlots - s.worstCaseSlotsPerMinorFrame.toNat - 1 := by
    rw [UInt32.toNat_sub_of_le _ _ (by show 1 ≤ (_ - _ : UInt32).toNat; omega), hsub]; rfl
  simp only [noisyMajorFrame, hsync, hwin, beq_self_eq_true, Bool.true_and,
    beq_eq_false_iff_ne.2 hminor, Bool.false_and, Bool.false_or]
  congr 1
  exact decide_eq_decide.2 (by omega)

/-- With a clock accuracy of two seconds on a table of four quarter-second slots,
`WorstCaseSlotsPerMinorFrame` is 17: the `uint32` window `4 - 17 - 1` wraps, and a tone in
slot 1 is classified noisy although slot 1 lies within 18 slots of the table end. -/
theorem noisy_window_wraps :
    (initial demoConfig true 2000000).syncToMET = demoConfig.synchToMinor ∧
      (initial demoConfig true 2000000).worstCaseSlotsPerMinorFrame.toNat =
        2 * 2000000 / 250000 + 1 ∧
      (majorFrameCallback demoConfig { initial demoConfig true 2000000 with nextSlotNumber := 1 }
        false 0).1.unexpectedMajorFrame = true ∧
      ¬ (1 + (2 * 2000000 / 250000 + 1) + 1 < demoConfig.schtblSlots) :=
  ⟨by decide, by decide, by decide, by decide⟩

end KitSch
