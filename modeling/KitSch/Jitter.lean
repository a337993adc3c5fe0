import Mathlib.Data.Nat.ModEq
import KitSch.MinorFrameClock

/-!
# The jitter correction keeps the schedule in step with the clock

Take the slot clock as absolute slots `T₀ ≤ T₁ ≤ ...`, read by the `i`-th `SCHEDULER_Execute` as
`Tᵢ mod SCHTBL_SLOTS`, advancing at most two slots between wakeups; between two wakeups any
operations but a wakeup and a status reset may run (the minor frame timer, the tone, the table
commands), and they are what moves the reading. With at least four slots, a lag limit of at
least three and at least two slots per wakeup, and a schedule that starts at the clock
(`TablePassCount * SLOTS + NextSlotNumber = T₀` modulo the wrap), the question is whether the
position stays near the clock and no skip is ever counted.

It does when the clock moves at least one slot every two wakeups (`Tᵢ < Tᵢ₊₂`): the position
after wakeup `i` is `Tᵢ + δ` for some `δ ≤ 2`, modulo the wrap of the `uint32` pass count, and
it reaches `Tᵢ + 2` only through a full-table jitter correction at an unchanged reading, after
which the clock must move. Three wakeups at one reading are another matter: the first executes
the slot, the second is taken for an early wakeup and executes the next slot, and the third sees
three slots due and executes two more.

* `wakeupReconciler_in_step`: one wakeup keeps the position in step;
* `execute_in_step`: over every run of wakeups on such a clock, no skip and the position in
  `[Tᵢ, Tᵢ + 2]` modulo the wrap;
* `execute_runs_ahead`: three wakeups at one reading put the position four slots ahead.
-/

namespace KitSch

variable {cfg : SchedulerConfig}

theorem position_mod {s : SchedulerClass} (hn : s.nextSlotNumber < cfg.schtblSlots) :
    position cfg s % cfg.schtblSlots = s.nextSlotNumber := by
  rw [position, Nat.add_comm, Nat.add_mul_mod_self_right, Nat.mod_eq_of_lt hn]

/-- A position that is `u` modulo the wrap is at slot `u` modulo the table. -/
theorem mod_slots_of_position {s : SchedulerClass} {u : ℕ}
    (hn : s.nextSlotNumber < cfg.schtblSlots) (hu : position cfg s = u % positionWrap cfg) :
    u % cfg.schtblSlots = s.nextSlotNumber := by
  rw [← position_mod hn, hu, positionWrap, Nat.mod_mul_left_mod]

/-- The first count of slots due at a clock reading `T` is the distance from a position `u` at
the state's slot to `T`, modulo the table. -/
theorem firstProcessCount_position {s : SchedulerClass} {u T : ℕ}
    (hn : s.nextSlotNumber < cfg.schtblSlots) (hu : u % cfg.schtblSlots = s.nextSlotNumber)
    (hT : u ≤ T + cfg.schtblSlots) :
    firstProcessCount cfg s.nextSlotNumber (T % cfg.schtblSlots) =
      (T + cfg.schtblSlots - u) % cfg.schtblSlots + 1 := by
  rw [firstProcessCount_eq cfg hn (Nat.mod_lt T (by omega))]
  congr 1
  have hnp : s.nextSlotNumber ≡ u [MOD cfg.schtblSlots] := by
    rw [← hu]; exact Nat.mod_modEq _ _
  refine Nat.ModEq.add_right_cancel hnp ?_
  rw [Nat.sub_add_cancel (by omega), Nat.sub_add_cancel hT]
  exact Nat.ModEq.add_right _ (Nat.mod_modEq T _)

/-- A wakeup whose due count is within the lag limit counts no skip, moves the position by the
capped count and records the jitter-corrected count. -/
theorem wakeupReconciler_of_le_lag (sent : ℕ → Bool) {s : SchedulerClass} {c : ℕ}
    (hn : s.nextSlotNumber < cfg.schtblSlots) (h : (slotsDue cfg s c).2.1 ≤ cfg.maxLagCount) :
    let r := (wakeupReconciler cfg sent s c).1
    r.skippedSlotsCount = s.skippedSlotsCount ∧
      position cfg r =
        (position cfg s + throughputCap cfg (slotsDue cfg s c).2.1) % positionWrap cfg ∧
      r.lastProcessCount =
        (jitterCorrection cfg s.lastProcessCount (firstProcessCount cfg s.nextSlotNumber c)).2 := by
  have hskip : ¬ cfg.maxLagCount < (slotsDue cfg s c).2.1 := by omega
  have hpre := reconcileDecision_fst cfg s c
  simp only [hskip, false_and, ite_false] at hpre
  dsimp only
  rw [wakeupReconciler_fst, (position_processSlots cfg sent _ (by rw [hpre]; exact hn)).1,
    processSlots_skippedSlotsCount, processSlots_lastProcessCount, reconcileDecision_count,
    if_neg hskip, hpre]
  exact ⟨rfl, by simp only [position], rfl⟩

theorem wakeupReconciler_nextSlotNumber_lt (sent : ℕ → Bool) {s : SchedulerClass} {c : ℕ}
    (hn : s.nextSlotNumber < cfg.schtblSlots) (hc : c < cfg.schtblSlots) :
    (wakeupReconciler cfg sent s c).1.nextSlotNumber < cfg.schtblSlots := by
  rw [wakeupReconciler_fst]
  exact processSlots_lt cfg sent (reconcileDecision_nextSlotNumber_lt hn hc)

/-- One wakeup at a clock reading `T'` at most two slots past the last reading `T`, from a
position `u` (modulo the wrap) in `[T, T + 2]` that is at `T + 2` only after a full-table
correction and only if the clock has moved since: no skip, and the same holds at `T'`. -/
theorem wakeupReconciler_in_step (hS : 4 ≤ cfg.schtblSlots) (hlag : 3 ≤ cfg.maxLagCount)
    (hspw : 2 ≤ cfg.maxSlotsPerWakeup) (sent : ℕ → Bool) {s : SchedulerClass} {u T T' : ℕ}
    (hn : s.nextSlotNumber < cfg.schtblSlots) (hu : position cfg s = u % positionWrap cfg)
    (hlo : T ≤ u) (hhi : u ≤ T + 2)
    (hahead : u = T + 2 → s.lastProcessCount = cfg.schtblSlots ∧ T < T')
    (hT : T ≤ T') (hT' : T' ≤ T + 2) :
    let r := (wakeupReconciler cfg sent s (T' % cfg.schtblSlots)).1
    r.skippedSlotsCount = s.skippedSlotsCount ∧
      ∃ u', position cfg r = u' % positionWrap cfg ∧ T' ≤ u' ∧ u' ≤ T' + 2 ∧
        (u' = T' + 2 → r.lastProcessCount = cfg.schtblSlots ∧ T' = T ∧ u = T' + 1) := by
  have hahead' : u ≠ T + 2 ∨ (s.lastProcessCount = cfg.schtblSlots ∧ T < T') := by
    by_cases h : u = T + 2
    · exact .inr (hahead h)
    · exact .inl h
  have hfpc := firstProcessCount_position (T := T') hn (mod_slots_of_position hn hu) (by omega)
  -- the clock reads the position's slot, one of the two after it, or the one before it
  have hE : (T' + cfg.schtblSlots - u) % cfg.schtblSlots = T' - u ∧ u ≤ T' ∨
      (T' + cfg.schtblSlots - u) % cfg.schtblSlots = cfg.schtblSlots - 1 ∧ T' + 1 = u := by
    rcases Nat.lt_or_ge T' u with h | h
    · refine .inr ⟨?_, by omega⟩
      rw [show T' + cfg.schtblSlots - u = cfg.schtblSlots - 1 by omega]
      exact Nat.mod_eq_of_lt (by omega)
    · refine .inl ⟨?_, h⟩
      rw [show T' + cfg.schtblSlots - u = T' - u + cfg.schtblSlots by omega, Nat.add_mod_right]
      exact Nat.mod_eq_of_lt (by omega)
  have hJ := jitterCorrection_cases cfg s.lastProcessCount
    (firstProcessCount cfg s.nextSlotNumber (T' % cfg.schtblSlots))
  have hdue := @slotsDue_count cfg s (T' % cfg.schtblSlots)
  rw [hfpc] at hJ hdue
  dsimp only at hdue
  obtain ⟨hsk, hpos, hL⟩ := wakeupReconciler_of_le_lag sent (c := T' % cfg.schtblSlots) hn
    (by rw [hdue]; split_ifs <;> omega)
  rw [hfpc] at hL
  refine ⟨hsk, u + throughputCap cfg (slotsDue cfg s (T' % cfg.schtblSlots)).2.1,
    by rw [hpos, hu, Nat.mod_add_mod], ?_⟩
  rw [hL, hdue, throughputCap]
  clear hahead hfpc hdue hpos hL hsk hu
  rcases hE with ⟨hD, hle⟩ | ⟨hD, hback⟩ <;> rw [hD] at hJ ⊢
  · -- at or past the position: the correction keeps from `T' - u` to one more slot
    split_ifs <;> omega
  · -- one slot behind: one slot, or none after a full-table correction
    split_ifs <;> omega

/-! ## `SCHEDULER_Execute` over a run -/

/-- `SCHEDULER_Execute`'s wakeup at a clock reading `T'`: see `wakeupReconciler_in_step`. -/
theorem schedulerExecute_in_step (hS : 4 ≤ cfg.schtblSlots) (hlag : 3 ≤ cfg.maxLagCount)
    (hspw : 2 ≤ cfg.maxSlotsPerWakeup) (sent : ℕ → Bool) {s : SchedulerClass} {u T T' us : ℕ}
    (hn : s.nextSlotNumber < cfg.schtblSlots)
    (hread : getCurrentSlotNumber cfg s us = T' % cfg.schtblSlots)
    (hu : position cfg s = u % positionWrap cfg) (hlo : T ≤ u) (hhi : u ≤ T + 2)
    (hahead : u = T + 2 → s.lastProcessCount = cfg.schtblSlots ∧ T < T')
    (hT : T ≤ T') (hT' : T' ≤ T + 2) :
    let r := (schedulerExecute cfg sent s true us).1
    r.nextSlotNumber < cfg.schtblSlots ∧ r.skippedSlotsCount = s.skippedSlotsCount ∧
      ∃ u', position cfg r = u' % positionWrap cfg ∧ T' ≤ u' ∧ u' ≤ T' + 2 ∧
        (u' = T' + 2 → r.lastProcessCount = cfg.schtblSlots ∧ T' = T ∧ u = T' + 1) := by
  have h0 := noisyMajorFrameCheck_fst s
  have hn0 : (noisyMajorFrameCheck s).1.nextSlotNumber < cfg.schtblSlots := by rw [h0]; exact hn
  obtain ⟨hsk, hin⟩ := wakeupReconciler_in_step hS hlag hspw sent hn0
    (by rw [position_noisyMajorFrameCheck]; exact hu) hlo hhi (by rw [h0]; exact hahead) hT hT'
  rw [schedulerExecute_true, getCurrentSlotNumber_noisyMajorFrameCheck, hread]
  dsimp only
  exact ⟨wakeupReconciler_nextSlotNumber_lt sent hn0 (Nat.mod_lt _ (by omega)),
    by rw [hsk, h0], hin⟩

/-- Operations other than `SCHEDULER_Execute` and `SCHEDULER_ResetStatus` leave the slot
position, `LastProcessCount` and the skip count. -/
theorem run_slotFields {s : SchedulerClass} (ops : List Op)
    (hops : ∀ op ∈ ops, op ≠ .resetStatus ∧ ∀ take us sent, op ≠ .execute take us sent) :
    (run cfg s ops).nextSlotNumber = s.nextSlotNumber ∧
      position cfg (run cfg s ops) = position cfg s ∧
      (run cfg s ops).lastProcessCount = s.lastProcessCount ∧
      (run cfg s ops).skippedSlotsCount = s.skippedSlotsCount := by
  induction ops generalizing s with
  | nil => exact ⟨rfl, rfl, rfl, rfl⟩
  | cons op ops ih =>
    have hop := hops op (List.mem_cons_self _ _)
    obtain ⟨h₁, h₂, h₃, h₄⟩ := step_slotFields (s := s) hop.1 hop.2
    obtain ⟨g₁, g₂, g₃, g₄⟩ := ih fun o ho => hops o (List.mem_cons_of_mem _ ho)
    rw [run_cons, g₁, g₂, g₃, g₄, h₁, h₃, h₄, position, h₁, h₂]
    exact ⟨rfl, rfl, rfl, rfl⟩

/-- `n` wakeups with successful takes, the `j`-th after the operations `between j`, at the MET
reading `us j` and with the dispatch outcomes `sent j`. -/
def wakeups (between : ℕ → List Op) (us : ℕ → ℕ) (sent : ℕ → ℕ → Bool) : ℕ → List Op
  | 0 => []
  | n + 1 => wakeups between us sent n ++ (between n ++ [.execute true (us n) (sent n)])

theorem run_wakeups_succ (between : ℕ → List Op) (us : ℕ → ℕ) (sent : ℕ → ℕ → Bool)
    (s : SchedulerClass) (n : ℕ) :
    run cfg s (wakeups between us sent (n + 1)) =
      (schedulerExecute cfg (sent n) (run cfg s (wakeups between us sent n ++ between n)) true
        (us n)).1 := by
  rw [wakeups, ← List.append_assoc, run_append, run_cons, run_nil]
  dsimp only [step]

/-- On a clock that moves at most two slots between wakeups and at least one every two
wakeups, wakeups from a position at the clock count no skip, and after wakeup `i` the position
is in `[Tᵢ, Tᵢ + 2]`, modulo the wrap of the pass count. -/
theorem execute_in_step (hS : 4 ≤ cfg.schtblSlots) (hlag : 3 ≤ cfg.maxLagCount)
    (hspw : 2 ≤ cfg.maxSlotsPerWakeup) {s : SchedulerClass}
    (hn : s.nextSlotNumber < cfg.schtblSlots) (T : ℕ → ℕ) (between : ℕ → List Op)
    (us : ℕ → ℕ) (sent : ℕ → ℕ → Bool)
    (hbetween : ∀ j, ∀ op ∈ between j,
      op ≠ .resetStatus ∧ ∀ take u f, op ≠ .execute take u f)
    (hread : ∀ i, getCurrentSlotNumber cfg (run cfg s (wakeups between us sent i ++ between i))
      (us i) = T i % cfg.schtblSlots)
    (hmono : ∀ i, T i ≤ T (i + 1)) (hstep : ∀ i, T (i + 1) ≤ T i + 2)
    (hmove : ∀ i, T i < T (i + 2)) (hstart : position cfg s = T 0 % positionWrap cfg) (i : ℕ) :
    (run cfg s (wakeups between us sent (i + 1))).skippedSlotsCount = s.skippedSlotsCount ∧
      ∃ δ ≤ 2, position cfg (run cfg s (wakeups between us sent (i + 1))) =
        (T i + δ) % positionWrap cfg := by
  have key : ∀ i, let s' := run cfg s (wakeups between us sent (i + 1))
      s'.nextSlotNumber < cfg.schtblSlots ∧ s'.skippedSlotsCount = s.skippedSlotsCount ∧
        ∃ u, position cfg s' = u % positionWrap cfg ∧ T i ≤ u ∧ u ≤ T i + 2 ∧
          (u = T i + 2 → s'.lastProcessCount = cfg.schtblSlots ∧ 0 < i ∧ T i = T (i - 1)) := by
    intro i
    induction i with
    | zero =>
      obtain ⟨f₁, f₂, -, f₄⟩ := @run_slotFields cfg s (between 0) (hbetween 0)
      obtain ⟨h1, h2, u, h3, h4, h5, h6⟩ := schedulerExecute_in_step hS hlag hspw (sent 0)
        (T := T 0) (u := T 0) (f₁ ▸ hn) (hread 0) (f₂ ▸ hstart) le_rfl (by omega)
        (fun h => absurd h (by omega)) le_rfl (by omega)
      rw [run_wakeups_succ]
      exact ⟨h1, h2.trans f₄, u, h3, h4, h5, fun h => absurd (h6 h).2.2 (by omega)⟩
    | succ i ih =>
      obtain ⟨hn', hsk, u, hu, hlo, hhi, hahead⟩ := ih
      obtain ⟨f₁, f₂, f₃, f₄⟩ := @run_slotFields cfg (run cfg s (wakeups between us sent (i + 1)))
        (between (i + 1)) (hbetween (i + 1))
      -- at `T i + 2` the last reading repeated, so this one has moved
      have hmoved : u = T i + 2 →
          (run cfg s (wakeups between us sent (i + 1))).lastProcessCount = cfg.schtblSlots ∧
            T i < T (i + 1) := fun h => by
        obtain ⟨hL, hi, hrep⟩ := hahead h
        obtain ⟨j, rfl⟩ : ∃ j, i = j + 1 := ⟨i - 1, by omega⟩
        have hm : T j < T (j + 1 + 1) := hmove j
        rw [Nat.add_sub_cancel] at hrep
        exact ⟨hL, by omega⟩
      obtain ⟨h1, h2, u', h3, h4, h5, h6⟩ := schedulerExecute_in_step hS hlag hspw (sent (i + 1))
        (f₁ ▸ hn') (by rw [← run_append]; exact hread (i + 1)) (f₂ ▸ hu) hlo hhi
        (by rw [f₃]; exact hmoved) (hmono i) (hstep i)
      rw [run_wakeups_succ, run_append]
      exact ⟨h1, h2.trans (f₄.trans hsk), u', h3, h4, h5,
        fun h => ⟨(h6 h).1, by omega, (h6 h).2.1⟩⟩
  obtain ⟨-, hsk, u, hu, hlo, hhi, -⟩ := key i
  exact ⟨hsk, u - T i, by omega, by rw [hu, Nat.add_sub_cancel' hlo]⟩

/-- Nominal operation after the first tone: its wakeup, then a minor frame before each further
wakeup. -/
def minorFrameBetween (j : ℕ) : List Op := if j = 0 then [] else [.minorFrame 0]

/-- Along those wakeups the clock runs free, not synchronized to MET, and reads `i` modulo the
table at wakeup `i`. -/
theorem run_minorFrameBetween (us : ℕ → ℕ) (sent : ℕ → ℕ → Bool) (i : ℕ) :
    FreeRunning demoConfig
        (run demoConfig toneAccepted (wakeups minorFrameBetween us sent i ++ minorFrameBetween i)) ∧
      (run demoConfig toneAccepted
        (wakeups minorFrameBetween us sent i ++ minorFrameBetween i)).syncToMET = synchFalse ∧
      (run demoConfig toneAccepted
        (wakeups minorFrameBetween us sent i ++ minorFrameBetween i)).minorFramesSinceTone =
        i % 4 := by
  induction i with
  | zero =>
    rw [show wakeups minorFrameBetween us sent 0 ++ minorFrameBetween 0 = [] from rfl, run_nil]
    exact ⟨⟨by decide, by decide, by decide⟩, by decide, by decide⟩
  | succ i ih =>
    have e : wakeups minorFrameBetween us sent (i + 1) ++ minorFrameBetween (i + 1) =
        (wakeups minorFrameBetween us sent i ++ minorFrameBetween i) ++
          [.execute true (us i) (sent i), .minorFrame 0] := by
      simp [wakeups, minorFrameBetween]
    rw [e, run_append]
    generalize run demoConfig toneAccepted
      (wakeups minorFrameBetween us sent i ++ minorFrameBetween i) = t at ih ⊢
    obtain ⟨hf, hsync, hm⟩ := ih
    -- the wakeup leaves the clock, and the minor frame counts one more
    obtain ⟨e₁, e₂, e₃, -⟩ :=
      @step_clock_idle demoConfig t (.execute true (us i) (sent i)) rfl nofun
    simp only [run_cons, run_nil]
    generalize (step demoConfig t (.execute true (us i) (sent i))).1 = t₁ at e₁ e₂ e₃ ⊢
    have hf₁ : FreeRunning demoConfig t₁ :=
      ⟨e₂ ▸ hf.source, by rw [e₂, e₃]; exact hf.settled, e₁ ▸ hf.count_lt⟩
    obtain ⟨c₁, c₂, -, -⟩ := minorFrameCallback_clock hf₁ 0
    refine ⟨c₁, ?_, ?_⟩
    · show (minorFrameCallback demoConfig t₁ 0).1.syncToMET = synchFalse
      rw [minorFrameCallback_freeRunning hf₁]
      split_ifs <;> exact e₃.trans hsync
    · show (minorFrameCallback demoConfig t₁ 0).1.minorFramesSinceTone = (i + 1) % 4
      rw [c₂, e₁, hm]
      show (i % 4 + 1) % 4 = (i + 1) % 4
      omega

theorem execute_in_step_free_running :
    (run demoConfig toneAccepted
        (wakeups minorFrameBetween (fun _ => 0) (fun _ _ => true) (5 + 1))).skippedSlotsCount =
        toneAccepted.skippedSlotsCount ∧
      ∃ δ ≤ 2, position demoConfig (run demoConfig toneAccepted
        (wakeups minorFrameBetween (fun _ => 0) (fun _ _ => true) (5 + 1))) =
        (5 + δ) % positionWrap demoConfig :=
  execute_in_step (by decide) (by decide) (by decide) (by decide) (fun i => i) minorFrameBetween
    (fun _ => 0) (fun _ _ => true)
    (fun j op h => by
      unfold minorFrameBetween at h
      split_ifs at h
      · cases h
      · rw [List.mem_singleton.1 h]; exact ⟨nofun, fun _ _ _ => nofun⟩)
    (fun i => by
      obtain ⟨-, hs, hm⟩ := run_minorFrameBetween (fun _ => 0) (fun _ _ => true) i
      rw [getCurrentSlotNumber, if_neg (not_not.2 hs), hm]
      rfl)
    (fun i => Nat.le_succ i) (fun i => by dsimp only; omega) (fun i => by dsimp only; omega)
    (by decide) 5

/-- From a reachable state in step with the clock at `T = 1` (`LastProcessCount = 1`), three
wakeups at the same reading count no skip but leave the position at `5 = T + 4`. -/
theorem execute_runs_ahead :
    let s := run demoConfig (initial demoConfig true 20) [.execute true 0 fun _ => true]
    let wakeup : Op := .execute true 250000 fun _ => true
    position demoConfig s = 1 ∧ s.lastProcessCount = 1 ∧
      getCurrentSlotNumber demoConfig s 250000 = 1 ∧
      (run demoConfig s [wakeup, wakeup, wakeup]).skippedSlotsCount = s.skippedSlotsCount ∧
      position demoConfig (run demoConfig s [wakeup, wakeup, wakeup]) = 1 + 4 := by
  decide

end KitSch
