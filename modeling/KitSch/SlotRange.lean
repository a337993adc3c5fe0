import KitSch.System

/-!
# Every slot field stays a slot

`SlotInv` says that `NextSlotNumber`, `MinorFramesSinceTone` and `LastSyncMETSlot` are slots
and `LastProcessCount` a number of slots. The constructor establishes it when the time sync
slot is a slot, and every operation keeps it when its MET reading is below one major frame.

* `slotInv_step`: one step keeps the invariant;
* `reachable_slot_ranges`: in every reachable state the invariant holds, the slot clock reads a
  slot, the first `ProcessCount` of a wakeup is between `1` and `SCHTBL_SLOTS`, the lag limit
  moves `NextSlotNumber` to a slot, and every schedule entry `ProcessNextSlot` reads is in the
  table.
-/

namespace KitSch

variable (cfg : SchedulerConfig)

/-- The slot fields are slots, and `LastProcessCount` is a number of slots. -/
structure SlotInv (s : SchedulerClass) : Prop where
  next : s.nextSlotNumber < cfg.schtblSlots
  minorFrames : s.minorFramesSinceTone < cfg.schtblSlots
  lastSync : s.lastSyncMETSlot < cfg.schtblSlots
  lastProcess : s.lastProcessCount ≤ cfg.schtblSlots

variable {cfg}

theorem SlotInv.slots_pos {s : SchedulerClass} (hs : SlotInv cfg s) : 0 < cfg.schtblSlots :=
  Nat.lt_of_le_of_lt (Nat.zero_le _) hs.next

/-- A slot's entries are in the table: `slot * ACTIVITIES + a < SLOTS * ACTIVITIES`. -/
theorem slot_index_lt {slot a : ℕ} (hs : slot < cfg.schtblSlots)
    (ha : a < cfg.schtblActivitiesPerSlot) :
    slot * cfg.schtblActivitiesPerSlot + a < cfg.schtblSlots * cfg.schtblActivitiesPerSlot :=
  calc slot * cfg.schtblActivitiesPerSlot + a
      < (slot + 1) * cfg.schtblActivitiesPerSlot := by rw [Nat.succ_mul]; omega
    _ ≤ cfg.schtblSlots * cfg.schtblActivitiesPerSlot := Nat.mul_le_mul_right _ hs

theorem firstProcessCount_bounds {n c : ℕ} (hn : n < cfg.schtblSlots) (hc : c < cfg.schtblSlots) :
    1 ≤ firstProcessCount cfg n c ∧ firstProcessCount cfg n c ≤ cfg.schtblSlots := by
  rw [firstProcessCount_eq cfg hn hc]
  have := Nat.mod_lt (c + cfg.schtblSlots - n) (by omega : 0 < cfg.schtblSlots)
  omega

/-! ## The wakeup -/

theorem processSlots_slot_lt (sent : ℕ → Bool) {k : ℕ} {s : SchedulerClass}
    (h : s.nextSlotNumber < cfg.schtblSlots) :
    ∀ r ∈ (processSlots cfg sent k s).2, r.slot < cfg.schtblSlots := by
  induction k generalizing s with
  | zero => simp [processSlots]
  | succ k ih =>
    simp only [processSlots, List.mem_cons]
    rintro r (rfl | hr)
    · exact h
    · exact ih (processNextSlot_lt cfg sent h) r hr

theorem reconcileDecision_slotInv {s : SchedulerClass} {c : ℕ} (hs : SlotInv cfg s)
    (hc : c < cfg.schtblSlots) : SlotInv cfg (reconcileDecision cfg s c).1 := by
  rw [reconcileDecision_fst]
  exact ⟨by dsimp only; split_ifs <;> [exact hc; exact hs.next], hs.minorFrames, hs.lastSync,
    jitterCorrection_snd_le cfg (firstProcessCount_bounds hs.next hc).2⟩

/-- A wakeup from a state in the invariant, for a current slot in range, keeps the invariant and
executes only slots in range. -/
theorem wakeupReconciler_slotInv (sent : ℕ → Bool) {s : SchedulerClass} {c : ℕ}
    (hs : SlotInv cfg s) (hc : c < cfg.schtblSlots) :
    SlotInv cfg (wakeupReconciler cfg sent s c).1 ∧
      ∀ r ∈ (wakeupReconciler cfg sent s c).2.runs, r.slot < cfg.schtblSlots := by
  have hpre := reconcileDecision_slotInv hs hc
  simp only [wakeupReconciler]
  exact ⟨⟨processSlots_lt cfg sent hpre.next, by simpa using hpre.minorFrames,
    by simpa using hpre.lastSync, by simpa using hpre.lastProcess⟩,
    processSlots_slot_lt sent hpre.next⟩

theorem noisyMajorFrameCheck_slotInv {s : SchedulerClass} (hs : SlotInv cfg s) :
    SlotInv cfg (noisyMajorFrameCheck s).1 := by
  rw [noisyMajorFrameCheck_fst]; exact ⟨hs.next, hs.minorFrames, hs.lastSync, hs.lastProcess⟩

theorem getCurrentSlotNumber_slotInv {s : SchedulerClass} {us : ℕ} (hs : SlotInv cfg s)
    (hus : MetReading cfg us) : getCurrentSlotNumber cfg s us < cfg.schtblSlots :=
  getCurrentSlotNumber_lt cfg hus hs.lastSync hs.minorFrames

theorem schedulerExecute_slotInv (sent : ℕ → Bool) {s : SchedulerClass} {take : Bool} {us : ℕ}
    (hs : SlotInv cfg s) (hus : MetReading cfg us) :
    SlotInv cfg (schedulerExecute cfg sent s take us).1 ∧
      ∀ w, (schedulerExecute cfg sent s take us).2 = some w →
        ∀ r ∈ w.runs, r.slot < cfg.schtblSlots := by
  cases take
  · exact ⟨hs, by rintro w ⟨⟩⟩
  · have h0 := noisyMajorFrameCheck_slotInv hs
    obtain ⟨h1, h2⟩ := wakeupReconciler_slotInv sent h0 (getCurrentSlotNumber_slotInv h0 hus)
    simp only [schedulerExecute_true, Option.some.injEq]
    refine ⟨h1, ?_⟩
    rintro w rfl
    dsimp only
    exact h2

/-! ## The callbacks -/

theorem majorFrameCallback_slotInv {s : SchedulerClass} {flying : Bool} {us : ℕ}
    (hs : SlotInv cfg s) (hus : MetReading cfg us) :
    SlotInv cfg (majorFrameCallback cfg s flying us).1 := by
  have hr : SlotInv cfg (toneResponse cfg s flying).1 := by
    unfold toneResponse
    split
    · exact hs
    · rw [acceptTone_fst]
      split_ifs <;> rw [classifyTone_eq] <;>
        exact ⟨hs.next, by first | exact hs.slots_pos | exact hs.minorFrames, hs.lastSync,
          hs.lastProcess⟩
  rw [majorFrameCallback_fst]
  exact ⟨hr.next, hr.minorFrames, getMETSlotNumber_lt cfg hus, hr.lastProcess⟩

theorem minorFrameTail_slotInv {s : SchedulerClass} (t : List (ℕ × ℕ))
    (hn : s.nextSlotNumber < cfg.schtblSlots) (hm : s.minorFramesSinceTone ≤ cfg.schtblSlots)
    (hl : s.lastSyncMETSlot < cfg.schtblSlots) (hp : s.lastProcessCount ≤ cfg.schtblSlots) :
    SlotInv cfg (minorFrameTail cfg s t).1 := by
  rw [minorFrameTail_fst]
  split_ifs
  · exact ⟨hn, by dsimp only; omega, hl, hp⟩
  · exact ⟨hn, by omega, hl, hp⟩

theorem minorFrameCallback_slotInv {s : SchedulerClass} {us : ℕ} (hs : SlotInv cfg s)
    (hus : MetReading cfg us) : SlotInv cfg (minorFrameCallback cfg s us).1 := by
  have hm : SlotInv cfg (startMetSync cfg s) := by
    unfold startMetSync
    split_ifs
    · exact ⟨hs.next, hs.minorFrames, hs.slots_pos, hs.lastProcess⟩
    · exact hs
  unfold minorFrameCallback
  dsimp only
  split_ifs
  · exact ⟨hm.next, hm.minorFrames, hm.lastSync, hm.lastProcess⟩
  · exact minorFrameTail_slotInv _ hm.next (getMETSlotNumber_lt cfg hus).le hs.slots_pos
      hm.lastProcess
  · exact minorFrameTail_slotInv _ hm.next hm.minorFrames hm.lastSync hm.lastProcess

/-! ## Every step -/

theorem slotInv_step {s : SchedulerClass} {op : Op} (hop : op.MetValid cfg)
    (hs : SlotInv cfg s) : SlotInv cfg (step cfg s op).1 := by
  have keep : ∀ s', s'.nextSlotNumber = s.nextSlotNumber →
      s'.minorFramesSinceTone = s.minorFramesSinceTone → s'.lastSyncMETSlot = s.lastSyncMETSlot →
      s'.lastProcessCount = s.lastProcessCount → SlotInv cfg s' := fun s' h1 h2 h3 h4 =>
    ⟨h1 ▸ hs.next, h2 ▸ hs.minorFrames, h3 ▸ hs.lastSync, h4 ▸ hs.lastProcess⟩
  cases op with
  | execute take us sent => simp only [step]; exact (schedulerExecute_slotInv sent hs (hop us rfl)).1
  | majorFrame flying us => simp only [step]; exact majorFrameCallback_slotInv hs (hop us rfl)
  | minorFrame us => simp only [step]; exact minorFrameCallback_slotInv hs (hop us rfl)
  | configSchEntryCmd => simp only [step]; rw [schedulerConfigSchEntryCmd_eq]; exact keep _ rfl rfl rfl rfl
  | loadSchEntryCmd => simp only [step]; rw [schedulerLoadSchEntryCmd_eq]; exact keep _ rfl rfl rfl rfl
  | loadMsgEntryCmd => simp only [step]; rw [schedulerLoadMsgEntryCmd_eq]; exact keep _ rfl rfl rfl rfl
  | _ => exact keep _ rfl rfl rfl rfl

theorem slotInv_initial (hsync : cfg.timeSyncSlot < cfg.schtblSlots) (timerCreated : Bool)
    (clockAccuracy : UInt32) : SlotInv cfg (initial cfg timerCreated clockAccuracy) := by
  have h0 : 0 < cfg.schtblSlots := by omega
  unfold initial schedulerConstructor
  dsimp only
  split_ifs <;> exact ⟨h0, hsync, h0, Nat.zero_le _⟩

/-- The lag limit moves `NextSlotNumber` to the current slot or leaves it. -/
theorem lagLimit_next_lt {c : ℕ} {s : SchedulerClass} (pc : ℕ) (hc : c < cfg.schtblSlots)
    (hs : s.nextSlotNumber < cfg.schtblSlots) :
    (lagLimit cfg c s pc).1.nextSlotNumber < cfg.schtblSlots := by
  rw [lagLimit_fst]; split_ifs <;> assumption

theorem slotsDue_nextSlotNumber (s : SchedulerClass) (c : ℕ) :
    (slotsDue cfg s c).1.nextSlotNumber = s.nextSlotNumber := by
  rw [slotsDue_fst]

/-- In every state reachable from construction, when the time sync slot is a slot and every MET
reading is below one major frame of slots: the slot invariant holds; and in the next
`SCHEDULER_Execute` the slot clock reads a slot, the first `ProcessCount` is between `1` and
`SCHTBL_SLOTS`, the lag limit leaves `NextSlotNumber` a slot, and every schedule entry
`ProcessNextSlot` reads is in the table. -/
theorem reachable_slot_ranges (hsync : cfg.timeSyncSlot < cfg.schtblSlots) (timerCreated : Bool)
    (clockAccuracy : UInt32) (ops : List Op) (hops : ∀ op ∈ ops, op.MetValid cfg) :
    let s := run cfg (initial cfg timerCreated clockAccuracy) ops
    SlotInv cfg s ∧
      ∀ (sent : ℕ → Bool) (take : Bool) (us : ℕ), MetReading cfg us →
        (let s₀ := (noisyMajorFrameCheck s).1
         let c := getCurrentSlotNumber cfg s₀ us
         c < cfg.schtblSlots ∧
           1 ≤ firstProcessCount cfg s₀.nextSlotNumber c ∧
           firstProcessCount cfg s₀.nextSlotNumber c ≤ cfg.schtblSlots ∧
           ∀ pc, (lagLimit cfg c (slotsDue cfg s₀ c).1 pc).1.nextSlotNumber < cfg.schtblSlots) ∧
        ∀ w, (schedulerExecute cfg sent s take us).2 = some w → ∀ r ∈ w.runs,
          ∀ a < cfg.schtblActivitiesPerSlot,
            r.slot * cfg.schtblActivitiesPerSlot + a <
              cfg.schtblSlots * cfg.schtblActivitiesPerSlot := by
  intro s
  have hs : SlotInv cfg s :=
    run_invariant cfg (fun _ _ hop hs => slotInv_step hop hs) ops _ hops
      (slotInv_initial hsync timerCreated clockAccuracy)
  refine ⟨hs, fun sent take us hus => ⟨?_, fun w hw r hr a ha =>
    slot_index_lt ((schedulerExecute_slotInv sent hs hus).2 w hw r hr) ha⟩⟩
  have h₀ := noisyMajorFrameCheck_slotInv hs
  have hc := getCurrentSlotNumber_slotInv h₀ hus
  have hb := firstProcessCount_bounds h₀.next hc
  exact ⟨hc, hb.1, hb.2, fun pc =>
    lagLimit_next_lt pc hc ((slotsDue_nextSlotNumber _ _).symm ▸ h₀.next)⟩

theorem reachable_slot_ranges_demo :
    demoConfig.timeSyncSlot < demoConfig.schtblSlots ∧
      SlotInv demoConfig
        (run demoConfig (initial demoConfig true 20) [.minorFrame 0, .execute true 0 fun _ => true]) :=
  ⟨by decide, (reachable_slot_ranges (by decide) true 20 _ (by
    simp only [List.mem_cons, List.mem_singleton, List.not_mem_nil, or_false]
    rintro op (rfl | rfl) us h <;> cases h <;> decide)).1⟩

end KitSch
