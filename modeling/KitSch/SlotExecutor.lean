import Mathlib.Data.Nat.Bitwise
import KitSch.State

/-!
# The slot executor: `ProcessNextSlot`

`processNextSlot` walks the `SCHTBL_ACTIVITIES_PER_SLOT` entries of slot `NextSlotNumber`,
dispatches every enabled entry whose `Period` and `Offset` select the current table pass, and
disables an entry whose dispatch failed; then it advances `NextSlotNumber`, and
`TablePassCount` on the rollover. `processSlots` is the `while` loop of `SCHEDULER_Execute`
that calls it a number of times. The outcome of each dispatch (`MSGTBL_GetMsgPtr`, then
`CFE_SB_TransmitMsg`) is the oracle `sent`, indexed by the entry's table index.

* `processEntries_eq`: the entry loop changes the schedule table and the two activity
  counters, and no other field;
* `processEntries_schTbl`: it leaves each entry as it was or disabled;
* `processNextSlot_spec`: one call, where the C evaluates it (every enabled entry of the slot
  has a nonzero `Period`);
* `position_processSlots`: `k` calls from a slot in range advance the absolute slot position
  `TablePassCount * SCHTBL_SLOTS + NextSlotNumber` by `k` modulo `positionWrap`, the
  `2^32 * SCHTBL_SLOTS` positions of the `uint32` pass count, and the calls evaluate the
  consecutive positions from the first one, modulo the same.
-/

namespace KitSch

/-- Whether an entry fires in table pass `pass`: it is enabled and `pass % Period = Offset`.
With `Period = 0` the C remainder traps (a division by zero); Lean's `% 0` leaves `pass`, so the
results below are stated where every entry it is evaluated on has `Period ≥ 1`
(`SlotDefined`). -/
def SchTblEntry.fires (e : SchTblEntry) (pass : ℕ) : Bool :=
  e.enabled && pass % e.period == e.offset

variable (cfg : SchedulerConfig) (sent : ℕ → Bool)

/-- The body of the entry loop of `ProcessNextSlot`, for `NextEntry` at table index
`slotIndex + entryNumber`. -/
def processEntry (slotIndex : ℕ) (s : SchedulerClass) (entryNumber : ℕ) :
    SchedulerClass × List Dispatch :=
  let i := slotIndex + entryNumber
  let nextEntry := s.schTbl i
  if nextEntry.fires s.tablePassCount.toNat then
    if sent i then
      ({ s with scheduleActivitySuccessCount := s.scheduleActivitySuccessCount + 1 },
        [⟨entryNumber, true⟩])
    else
      ({ s with
          schTbl := Function.update s.schTbl i { nextEntry with enabled := false }
          scheduleActivityFailureCount := s.scheduleActivityFailureCount + 1 },
        [⟨entryNumber, false⟩])
  else (s, [])

/-- The entry loop of `ProcessNextSlot` over the activity numbers `entries`. -/
def processEntries (slotIndex : ℕ) : List ℕ → SchedulerClass → SchedulerClass × List Dispatch
  | [], s => (s, [])
  | e :: es, s =>
    let r := processEntry sent slotIndex s e
    let r' := processEntries slotIndex es r.1
    (r'.1, r.2 ++ r'.2)

/-- Advance `NextSlotNumber`, and `TablePassCount` on the rollover (lines 1256-1262). -/
def advanceSlot (s : SchedulerClass) : SchedulerClass :=
  if s.nextSlotNumber + 1 = cfg.schtblSlots then
    { s with nextSlotNumber := 0, tablePassCount := s.tablePassCount + 1 }
  else { s with nextSlotNumber := s.nextSlotNumber + 1 }

/-- The entry loop over the activities of slot `NextSlotNumber`. -/
def slotEntries (s : SchedulerClass) : SchedulerClass × List Dispatch :=
  processEntries sent (s.nextSlotNumber * cfg.schtblActivitiesPerSlot)
    (List.range cfg.schtblActivitiesPerSlot) s

/-- `ProcessNextSlot`. Its `Result` is `CFE_SUCCESS` on every return. -/
def processNextSlot (s : SchedulerClass) : SchedulerClass × SlotRun :=
  let r := slotEntries cfg sent s
  let s' := advanceSlot cfg r.1
  ({ s' with slotsProcessedCount := s'.slotsProcessedCount + 1 },
    ⟨s.tablePassCount, s.nextSlotNumber, r.2⟩)

/-- The loop `while (ProcessCount != 0 && Result == CFE_SUCCESS)` of `SCHEDULER_Execute`. -/
def processSlots : ℕ → SchedulerClass → SchedulerClass × List SlotRun
  | 0, s => (s, [])
  | k + 1, s =>
    let r := processNextSlot cfg sent s
    let r' := processSlots k r.1
    (r'.1, r.2 :: r'.2)

/-- The absolute slot position: slots executed since the table pass count was zero, modulo
`positionWrap`. -/
def position (s : SchedulerClass) : ℕ :=
  s.tablePassCount.toNat * cfg.schtblSlots + s.nextSlotNumber

/-- The positions of the `uint32` pass count, `2^32` table passes: `position` wraps to `0`
there. -/
def positionWrap : ℕ := 2 ^ 32 * cfg.schtblSlots

/-- The absolute position a call of `ProcessNextSlot` evaluated: its pass count and its slot. -/
def SlotRun.position (r : SlotRun) : ℕ := r.pass.toNat * cfg.schtblSlots + r.slot

/-- `TablePassCount % Period` (line 1209), which the C evaluates for the enabled entries of slot
`NextSlotNumber` only, has a value: each of them has a nonzero `Period`. -/
def SlotDefined (s : SchedulerClass) : Prop :=
  ∀ a < cfg.schtblActivitiesPerSlot,
    (s.schTbl (s.nextSlotNumber * cfg.schtblActivitiesPerSlot + a)).enabled = true →
      0 < (s.schTbl (s.nextSlotNumber * cfg.schtblActivitiesPerSlot + a)).period

instance (s : SchedulerClass) : Decidable (SlotDefined cfg s) :=
  inferInstanceAs (Decidable (∀ a < _, _))

/-! ## The entry loop -/

theorem processEntry_eq (slotIndex : ℕ) (s : SchedulerClass) (e : ℕ) :
    (processEntry sent slotIndex s e).1 =
      { s with
        schTbl := (processEntry sent slotIndex s e).1.schTbl
        scheduleActivitySuccessCount := (processEntry sent slotIndex s e).1.scheduleActivitySuccessCount
        scheduleActivityFailureCount :=
          (processEntry sent slotIndex s e).1.scheduleActivityFailureCount } := by
  unfold processEntry; dsimp only; split_ifs <;> rfl

/-- The entry loop changes the schedule table and the activity counters, nothing else. -/
theorem processEntries_eq (slotIndex : ℕ) (es : List ℕ) (s : SchedulerClass) :
    (processEntries sent slotIndex es s).1 =
      { s with
        schTbl := (processEntries sent slotIndex es s).1.schTbl
        scheduleActivitySuccessCount :=
          (processEntries sent slotIndex es s).1.scheduleActivitySuccessCount
        scheduleActivityFailureCount :=
          (processEntries sent slotIndex es s).1.scheduleActivityFailureCount } := by
  induction es generalizing s with
  | nil => rfl
  | cons e es ih =>
    simp only [processEntries]
    rw [ih, processEntry_eq]

theorem processEntry_schTbl (slotIndex : ℕ) (s : SchedulerClass) (e j : ℕ) :
    (processEntry sent slotIndex s e).1.schTbl j = s.schTbl j ∨
      (processEntry sent slotIndex s e).1.schTbl j = { s.schTbl j with enabled := false } := by
  unfold processEntry
  dsimp only
  split_ifs
  · exact .inl rfl
  · by_cases hj : j = slotIndex + e
    · subst hj; simp
    · simp [Function.update_noteq hj]
  · exact .inl rfl

/-- The entry loop leaves every entry as it was or disables it. -/
theorem processEntries_schTbl (slotIndex : ℕ) (es : List ℕ) (s : SchedulerClass) (j : ℕ) :
    (processEntries sent slotIndex es s).1.schTbl j = s.schTbl j ∨
      (processEntries sent slotIndex es s).1.schTbl j = { s.schTbl j with enabled := false } := by
  induction es generalizing s with
  | nil => exact .inl rfl
  | cons e es ih =>
    simp only [processEntries]
    rcases processEntry_schTbl sent slotIndex s e j with h | h <;>
      rcases ih (processEntry sent slotIndex s e).1 with h' | h' <;> simp [h, h']

/-! ## What the entry loop dispatches -/

section Dispatch

variable {slotIndex : ℕ}

theorem toNat_add_one (x : UInt32) : (x + 1).toNat = (x.toNat + 1) % 2 ^ 32 := rfl

theorem processEntry_tablePassCount (s : SchedulerClass) (e : ℕ) :
    (processEntry sent slotIndex s e).1.tablePassCount = s.tablePassCount := by
  rw [processEntry_eq]

/-- One entry: it fires on the table and pass count it is given; a failed dispatch disables it
and is counted as a failure, a successful one as a success. -/
theorem processEntry_spec (s : SchedulerClass) (e : ℕ) :
    let i := slotIndex + e
    let f := (s.schTbl i).fires s.tablePassCount.toNat
    let r := processEntry sent slotIndex s e
    r.2 = (if f then [⟨e, sent i⟩] else []) ∧
      r.1.schTbl = (if f && !sent i then
        Function.update s.schTbl i { s.schTbl i with enabled := false } else s.schTbl) ∧
      r.1.scheduleActivitySuccessCount.toNat =
        (s.scheduleActivitySuccessCount.toNat + if f && sent i then 1 else 0) % 2 ^ 32 ∧
      r.1.scheduleActivityFailureCount.toNat =
        (s.scheduleActivityFailureCount.toNat + if f && !sent i then 1 else 0) % 2 ^ 32 := by
  have h1 := s.scheduleActivitySuccessCount.toNat_lt_size
  have h2 := s.scheduleActivityFailureCount.toNat_lt_size
  unfold processEntry
  dsimp only
  split_ifs with hf hs <;> simp_all [toNat_add_one, Nat.mod_eq_of_lt]

/-- The entry loop over distinct activities dispatches, in order, the activities whose entries
fire, each evaluated on the pass count it started with; it disables exactly the dispatched
entries whose dispatch failed and counts the successes and failures. -/
theorem processEntries_spec (es : List ℕ) (hes : es.Nodup) (s : SchedulerClass) :
    let f := fun a => (s.schTbl (slotIndex + a)).fires s.tablePassCount.toNat
    let r := processEntries sent slotIndex es s
    r.2 = (es.filter f).map (fun a => ⟨a, sent (slotIndex + a)⟩) ∧
      (∀ i, r.1.schTbl i = if ∃ a ∈ es.filter f, i = slotIndex + a ∧ sent i = false then
        { s.schTbl i with enabled := false } else s.schTbl i) ∧
      r.1.scheduleActivitySuccessCount.toNat = (s.scheduleActivitySuccessCount.toNat +
        es.countP fun a => f a && sent (slotIndex + a)) % 2 ^ 32 ∧
      r.1.scheduleActivityFailureCount.toNat = (s.scheduleActivityFailureCount.toNat +
        es.countP fun a => f a && !sent (slotIndex + a)) % 2 ^ 32 := by
  induction es generalizing s with
  | nil => simp [processEntries, Nat.mod_eq_of_lt (UInt32.toNat_lt_size _)]
  | cons e es ih =>
    obtain ⟨he, hes⟩ := List.nodup_cons.1 hes
    obtain ⟨d₁, t₁, c₁, c₁'⟩ := @processEntry_spec sent slotIndex s e
    obtain ⟨d, t, c, c'⟩ := ih hes (processEntry sent slotIndex s e).1
    have hne : ∀ a ∈ es, slotIndex + a ≠ slotIndex + e := fun a ha h =>
      he (Nat.add_left_cancel h ▸ ha)
    -- the later entries of the slot are read as `s` has them
    have hrest : ∀ a ∈ es, ((processEntry sent slotIndex s e).1.schTbl (slotIndex + a)).fires
        (processEntry sent slotIndex s e).1.tablePassCount.toNat =
        (s.schTbl (slotIndex + a)).fires s.tablePassCount.toNat := by
      intro a ha
      rw [t₁, processEntry_tablePassCount]
      split_ifs <;> simp [Function.update_noteq (hne a ha)]
    have hcount : ∀ g : ℕ → Bool,
        es.countP (fun a => ((processEntry sent slotIndex s e).1.schTbl (slotIndex + a)).fires
          (processEntry sent slotIndex s e).1.tablePassCount.toNat && g a) =
        es.countP (fun a => (s.schTbl (slotIndex + a)).fires s.tablePassCount.toNat && g a) :=
      fun g => List.countP_congr fun a ha => by rw [hrest a ha]
    rw [List.filter_congr hrest] at d t
    rw [hcount] at c c'
    intro f r
    have hr : r = ((processEntries sent slotIndex es (processEntry sent slotIndex s e).1).1,
        (processEntry sent slotIndex s e).2 ++
          (processEntries sent slotIndex es (processEntry sent slotIndex s e).1).2) := rfl
    rw [hr]
    simp only [f]
    refine ⟨?_, fun i => ?_, ?_, ?_⟩
    · simp only [d₁, d, List.filter_cons]
      split <;> rfl
    · rw [t i, t₁]
      by_cases hi : i = slotIndex + e
      · subst hi
        by_cases hf : (s.schTbl (slotIndex + e)).fires s.tablePassCount.toNat <;>
          by_cases hs : sent (slotIndex + e) <;> simp [hf, hs, he, List.filter_cons]
      · have hT : (if ((s.schTbl (slotIndex + e)).fires s.tablePassCount.toNat &&
            !sent (slotIndex + e)) = true then Function.update s.schTbl (slotIndex + e)
              { s.schTbl (slotIndex + e) with enabled := false } else s.schTbl) i = s.schTbl i := by
          split_ifs <;> simp [Function.update_noteq hi]
        have hex : (∃ a ∈ (e :: es).filter fun a => (s.schTbl (slotIndex + a)).fires
              s.tablePassCount.toNat, i = slotIndex + a ∧ sent i = false) ↔
            ∃ a ∈ es.filter fun a => (s.schTbl (slotIndex + a)).fires s.tablePassCount.toNat,
              i = slotIndex + a ∧ sent i = false := by
          rw [List.filter_cons]; split <;> simp [hi]
        rw [hT]
        simp only [hex]
    · rw [c, c₁, Nat.mod_add_mod, List.countP_cons]
      congr 1; omega
    · rw [c', c₁', Nat.mod_add_mod, List.countP_cons]
      congr 1; omega

end Dispatch

/-! ## Slot advance and position -/

theorem advanceSlot_lt {s : SchedulerClass} (h : s.nextSlotNumber < cfg.schtblSlots) :
    (advanceSlot cfg s).nextSlotNumber < cfg.schtblSlots := by
  unfold advanceSlot; split_ifs <;> simp <;> omega

theorem advanceSlot_nextSlotNumber {s : SchedulerClass} (h : s.nextSlotNumber < cfg.schtblSlots) :
    (advanceSlot cfg s).nextSlotNumber = (s.nextSlotNumber + 1) % cfg.schtblSlots := by
  unfold advanceSlot
  split_ifs with h1
  · simp [h1]
  · simp only; exact (Nat.mod_eq_of_lt (by omega)).symm

/-- A position of a slot in range is below the wrap. -/
theorem position_lt {s : SchedulerClass} (h : s.nextSlotNumber < cfg.schtblSlots) :
    position cfg s < positionWrap cfg :=
  calc position cfg s < (s.tablePassCount.toNat + 1) * cfg.schtblSlots := by
        rw [position, Nat.succ_mul]; omega
    _ ≤ 2 ^ 32 * cfg.schtblSlots := Nat.mul_le_mul_right _ s.tablePassCount.toNat_lt_size

/-- A position written with an unbounded pass count `t`, taken modulo the wrap, is the position
with the pass count modulo `2^32`. -/
theorem mul_add_mod_positionWrap {t n : ℕ} (hn : n < cfg.schtblSlots) :
    (t * cfg.schtblSlots + n) % positionWrap cfg = t % 2 ^ 32 * cfg.schtblSlots + n := by
  have hlt : t % 2 ^ 32 * cfg.schtblSlots + n < positionWrap cfg :=
    calc t % 2 ^ 32 * cfg.schtblSlots + n < (t % 2 ^ 32 + 1) * cfg.schtblSlots := by
          rw [Nat.succ_mul]; omega
      _ ≤ positionWrap cfg := Nat.mul_le_mul_right _ (Nat.mod_lt _ (Nat.two_pow_pos 32))
  conv_lhs => rw [← Nat.mod_add_div t (2 ^ 32), Nat.add_mul, Nat.add_right_comm, Nat.mul_assoc,
    Nat.mul_comm (t / 2 ^ 32), ← Nat.mul_assoc]
  rw [← positionWrap, Nat.add_mul_mod_self_left, Nat.mod_eq_of_lt hlt]

/-- The pass count of a position taken modulo the wrap. -/
theorem mod_positionWrap_div {t n : ℕ} (hS : 0 < cfg.schtblSlots) :
    (t * cfg.schtblSlots + n) % positionWrap cfg / cfg.schtblSlots =
      (t + n / cfg.schtblSlots) % 2 ^ 32 := by
  have e : t * cfg.schtblSlots + n =
      (t + n / cfg.schtblSlots) * cfg.schtblSlots + n % cfg.schtblSlots := by
    rw [Nat.add_mul, Nat.add_assoc, Nat.mul_comm (n / _), Nat.div_add_mod]
  rw [e, mul_add_mod_positionWrap cfg (Nat.mod_lt _ hS), Nat.mul_comm, Nat.mul_add_div hS,
    Nat.div_eq_of_lt (Nat.mod_lt _ hS), Nat.add_zero]

/-- The slot advance moves one position on, and past the last slot of pass `2^32 - 1` wraps
to `0`. -/
theorem position_advanceSlot {s : SchedulerClass} (h : s.nextSlotNumber < cfg.schtblSlots) :
    position cfg (advanceSlot cfg s) = (position cfg s + 1) % positionWrap cfg := by
  unfold advanceSlot
  split_ifs with h1
  · have e : position cfg s + 1 = (s.tablePassCount.toNat + 1) * cfg.schtblSlots := by
      rw [position, Nat.succ_mul]; omega
    rw [e, positionWrap, Nat.mul_mod_mul_right]
    simp only [position, toNat_add_one, Nat.add_zero]
  · have hlt : position cfg s + 1 < positionWrap cfg :=
      lt_of_eq_of_lt (by rw [position]; rfl) (position_lt cfg (s := { s with
        nextSlotNumber := s.nextSlotNumber + 1 }) (by dsimp only; omega))
    rw [Nat.mod_eq_of_lt hlt]
    rfl

/-- `ProcessNextSlot` moves only `NextSlotNumber`, `TablePassCount`, the schedule table and the
three counters it increments. -/
theorem processNextSlot_eq (s : SchedulerClass) :
    (processNextSlot cfg sent s).1 =
      { advanceSlot cfg s with
        schTbl := (slotEntries cfg sent s).1.schTbl
        scheduleActivitySuccessCount := (slotEntries cfg sent s).1.scheduleActivitySuccessCount
        scheduleActivityFailureCount := (slotEntries cfg sent s).1.scheduleActivityFailureCount
        slotsProcessedCount := s.slotsProcessedCount + 1 } := by
  simp only [processNextSlot, slotEntries, advanceSlot]
  rw [processEntries_eq]
  split_ifs <;> rfl

/-- What one call reports: the pass count and slot it evaluated, and, in activity order, the
activities of the slot whose entries fire in that pass, with their outcomes. -/
theorem processNextSlot_snd (s : SchedulerClass) :
    (processNextSlot cfg sent s).2 = ⟨s.tablePassCount, s.nextSlotNumber,
      ((List.range cfg.schtblActivitiesPerSlot).filter fun a =>
        (s.schTbl (s.nextSlotNumber * cfg.schtblActivitiesPerSlot + a)).fires
          s.tablePassCount.toNat).map
        fun a => ⟨a, sent (s.nextSlotNumber * cfg.schtblActivitiesPerSlot + a)⟩⟩ := by
  rw [processNextSlot, slotEntries,
    (processEntries_spec sent _ (List.nodup_range cfg.schtblActivitiesPerSlot) s).1]

/-- One call disables exactly the dispatched entries of its slot whose dispatch failed. -/
theorem processNextSlot_schTbl (s : SchedulerClass) (i : ℕ) :
    let A := cfg.schtblActivitiesPerSlot
    (processNextSlot cfg sent s).1.schTbl i =
      if ∃ a ∈ (List.range A).filter (fun a =>
          (s.schTbl (s.nextSlotNumber * A + a)).fires s.tablePassCount.toNat),
          i = s.nextSlotNumber * A + a ∧ sent i = false
        then { s.schTbl i with enabled := false } else s.schTbl i := by
  rw [processNextSlot_eq]
  exact (processEntries_spec sent _ (List.nodup_range cfg.schtblActivitiesPerSlot) s).2.1 i

theorem processNextSlot_nextSlotNumber (s : SchedulerClass) :
    (processNextSlot cfg sent s).1.nextSlotNumber = (advanceSlot cfg s).nextSlotNumber := by
  rw [processNextSlot_eq]

theorem processNextSlot_tablePassCount (s : SchedulerClass) :
    (processNextSlot cfg sent s).1.tablePassCount = (advanceSlot cfg s).tablePassCount := by
  rw [processNextSlot_eq]

theorem position_processNextSlot {s : SchedulerClass} (h : s.nextSlotNumber < cfg.schtblSlots) :
    position cfg (processNextSlot cfg sent s).1 = (position cfg s + 1) % positionWrap cfg := by
  rw [← position_advanceSlot cfg h]
  simp only [position, processNextSlot_nextSlotNumber, processNextSlot_tablePassCount]

theorem processNextSlot_lt {s : SchedulerClass} (h : s.nextSlotNumber < cfg.schtblSlots) :
    (processNextSlot cfg sent s).1.nextSlotNumber < cfg.schtblSlots := by
  rw [processNextSlot_nextSlotNumber]; exact advanceSlot_lt cfg h

/-! ## The loop of `SCHEDULER_Execute` -/

theorem processSlots_lt {k : ℕ} {s : SchedulerClass} (h : s.nextSlotNumber < cfg.schtblSlots) :
    (processSlots cfg sent k s).1.nextSlotNumber < cfg.schtblSlots := by
  induction k generalizing s with
  | zero => exact h
  | succ k ih => exact ih (processNextSlot_lt cfg sent h)

theorem processSlots_length (k : ℕ) (s : SchedulerClass) :
    (processSlots cfg sent k s).2.length = k := by
  induction k generalizing s with
  | zero => rfl
  | succ k ih => simp [processSlots, ih]

/-- `k` calls from a slot in range advance the position by `k`, and call `j` evaluates position
`position s + j`, its pass and slot the quotient and remainder of that position: all modulo the
wrap of the pass count. -/
theorem position_processSlots (k : ℕ) {s : SchedulerClass}
    (h : s.nextSlotNumber < cfg.schtblSlots) :
    position cfg (processSlots cfg sent k s).1 = (position cfg s + k) % positionWrap cfg ∧
      (processSlots cfg sent k s).2.map (SlotRun.position cfg) =
        (List.range k).map fun j => (position cfg s + j) % positionWrap cfg := by
  induction k generalizing s with
  | zero => exact ⟨(Nat.mod_eq_of_lt (position_lt cfg h)).symm, rfl⟩
  | succ k ih =>
    obtain ⟨h1, h2⟩ := ih (processNextSlot_lt cfg sent h)
    rw [position_processNextSlot cfg sent h] at h1 h2
    refine ⟨by rw [processSlots, h1, Nat.mod_add_mod, Nat.add_assoc, Nat.add_comm 1 k], ?_⟩
    simp only [processSlots, List.map_cons, h2, List.range_succ_eq_map, List.map_map]
    refine congrArg₂ _ (Nat.mod_eq_of_lt (position_lt cfg h)).symm
      (List.map_congr_left fun j _ => ?_)
    simp only [Function.comp, Nat.mod_add_mod]
    congr 1
    omega

/-- The slots the loop executes are the consecutive slots from `NextSlotNumber`, modulo
`SCHTBL_SLOTS`. -/
theorem processSlots_slots {k : ℕ} {s : SchedulerClass} (h : s.nextSlotNumber < cfg.schtblSlots) :
    (processSlots cfg sent k s).2.map SlotRun.slot =
      (List.range k).map (fun j => (s.nextSlotNumber + j) % cfg.schtblSlots) := by
  induction k generalizing s with
  | zero => rfl
  | succ k ih =>
    simp only [processSlots, List.map_cons, ih (processNextSlot_lt cfg sent h),
      processNextSlot_nextSlotNumber, advanceSlot_nextSlotNumber cfg h, List.range_succ_eq_map,
      List.map_map]
    congr 1
    · exact (Nat.mod_eq_of_lt h).symm
    · congr 1
      funext j
      simp only [Function.comp, Nat.succ_eq_add_one, Nat.mod_add_mod]
      congr 1
      omega

end KitSch
