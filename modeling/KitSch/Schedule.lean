import Mathlib.Data.List.Sort
import KitSch.Jitter
import KitSch.Table

/-!
# The scheduler executes its table

What the schedule table is for, stated without the scheduler: the slots follow one another
through the absolute positions `pass * SLOTS + slot`, and at position `q` slot `q % SLOTS`
dispatches, in activity order, the activities of the slot whose entries are due in table pass
`q / SLOTS`. An entry is due when it is enabled, its `Period` is at least one and the pass leaves
the remainder `Offset` by it (`SchTblEntry.due`). The pass is the `uint32` `TablePassCount`, so it
is counted modulo `2^32`, and what position `q` prescribes is what `q % (2^32 * SLOTS)` does.
`timeline` lists those dispatches between two positions; it is the abstract model, and
`SCHEDULER_Execute` with its reconciler, its `ProcessNextSlot` loop and its entry loop is the
implementation. On a table whose enabled entries have `Offset < Period` the remainder of line
1209 is defined, and the entry loop's test is `due` (`TableValid.fires_eq_due`).

* `processSlots_follows`, `step_follows`, `run_follows`: along a run of the callbacks from a valid
  table, each slot run dispatches what the table prescribes for its position, the table being the
  run's first one with the entries disabled by failed dispatches (`SlotRun.Follows`);
* `executes_timeline`: from a state in the slot invariant with a valid table, along every run of
  the callbacks with no `SCHEDULER_ResetStatus`, no skipped slot and no failed dispatch, the table
  is unchanged, the slots run at consecutive positions and the activities dispatched are the
  table's timeline over them, across the wrap of `TablePassCount` too;
* `dispatches_within_timeline`: with skipped slots and failed dispatches, they are a sublist of
  the timeline over the positions the run moves over, counted past the wrap.
-/

namespace KitSch

open scoped List

variable (cfg : SchedulerConfig)

/-- When the table prescribes entry `e` in table pass `pass`: an enabled entry, with a `Period` of
at least one, in the passes that leave the remainder `Offset` by it. -/
def SchTblEntry.due (e : SchTblEntry) (pass : ℕ) : Bool :=
  e.enabled && 0 < e.period && pass % e.period == e.offset

/-- The dispatches slot `slot` of table pass `pass` makes by the table `tbl`, as
`(pass, slot, activity)`, in activity order: the activities whose entries are due in that pass. -/
def slotActivities (tbl : ℕ → SchTblEntry) (pass slot : ℕ) : List (ℕ × ℕ × ℕ) :=
  ((List.range cfg.schtblActivitiesPerSlot).filter fun a =>
    (tbl (slot * cfg.schtblActivitiesPerSlot + a)).due pass).map fun a => (pass, slot, a)

/-- The dispatches of the absolute position `q`: slot `q % SLOTS` of table pass `q / SLOTS`,
counted modulo `2^32` as `TablePassCount` is. -/
def positionActivities (tbl : ℕ → SchTblEntry) (q : ℕ) : List (ℕ × ℕ × ℕ) :=
  slotActivities cfg tbl (q / cfg.schtblSlots % 2 ^ 32) (q % cfg.schtblSlots)

/-- The table's timeline: the dispatches of the positions from `a` up to `b`, in order. -/
def timeline (tbl : ℕ → SchTblEntry) (a b : ℕ) : List (ℕ × ℕ × ℕ) :=
  (List.range' a (b - a)).flatMap (positionActivities cfg tbl)

/-- What one call of `ProcessNextSlot` dispatched, as `(pass, slot, activity)`. -/
def SlotRun.activities (r : SlotRun) : List (ℕ × ℕ × ℕ) :=
  r.dispatched.map fun d => (r.pass.toNat, r.slot, d.activity)

/-- A table whose entry `i` fires in the table passes of the parity of `i`. -/
def alternatingTable (i : ℕ) : SchTblEntry := ⟨true, 2, i % 2, i⟩

example : timeline demoConfig alternatingTable 3 6 =
    [(0, 3, 0), (1, 0, 1), (1, 1, 1)] := by decide

theorem flatMap_sublist_flatMap {α β : Type} {l : List α} {f g : α → List β}
    (h : ∀ x ∈ l, f x <+ g x) : l.flatMap f <+ l.flatMap g := by
  induction l with
  | nil => exact .slnil
  | cons x l ih =>
    simp only [List.flatMap_cons]
    exact (h x (List.mem_cons_self _ _)).append (ih fun y hy => h y (List.mem_cons_of_mem _ hy))

theorem flatMap_sublist_of_sublist {α β : Type} {l₁ l₂ : List α} (h : l₁ <+ l₂)
    (f : α → List β) : l₁.flatMap f <+ l₂.flatMap f := by
  induction h with
  | slnil => exact .slnil
  | cons a _ ih => simp only [List.flatMap_cons]; exact ih.trans (List.sublist_append_right _ _)
  | cons₂ a _ ih => simp only [List.flatMap_cons]; exact (List.Sublist.refl _).append ih

/-- Strictly increasing positions from `a` on and below `b` are some of the positions from `a` up
to `b`, in order. -/
theorem sublist_range'_of_lt {P : List ℕ} {a b : ℕ} (hP : P.Pairwise (· < ·))
    (hab : ∀ p ∈ P, a ≤ p ∧ p < b) : P <+ List.range' a (b - a) :=
  List.sublist_of_subperm_of_sorted (r := (· ≤ ·))
    (List.subperm_of_subset hP.nodup fun p hp => List.mem_range'_1.2 (by have := hab p hp; omega))
    (hP.imp Nat.le_of_lt) ((List.pairwise_lt_range' a (b - a)).imp Nat.le_of_lt)

variable {cfg}

/-- Where the C computes the remainder, its test is the table's: on a valid table an entry fires
exactly in the passes it is due. -/
theorem TableValid.fires_eq_due {tbl : ℕ → SchTblEntry} (hv : TableValid tbl) (i pass : ℕ) :
    (tbl i).fires pass = (tbl i).due pass := by
  cases hen : (tbl i).enabled
  · simp [SchTblEntry.fires, SchTblEntry.due, hen]
  · simp [SchTblEntry.fires, SchTblEntry.due, hen, Nat.lt_of_le_of_lt (Nat.zero_le _) (hv i hen)]

/-- A table due only where `tbl` is due prescribes, at each position, some of what `tbl`
prescribes there. -/
theorem positionActivities_sublist {t tbl : ℕ → SchTblEntry}
    (hf : ∀ i pass, (t i).due pass = true → (tbl i).due pass = true) (q : ℕ) :
    positionActivities cfg t q <+ positionActivities cfg tbl q :=
  ((List.range _).monotone_filter_right fun _ => hf _ _).map _

/-- What a position prescribes is what it prescribes after the wrap of `TablePassCount`. -/
theorem positionActivities_mod (tbl : ℕ → SchTblEntry) (q : ℕ) :
    positionActivities cfg tbl (q % positionWrap cfg) = positionActivities cfg tbl q := by
  rw [positionActivities, positionActivities, positionWrap, Nat.mod_mul_left_div_self,
    Nat.mod_mul_left_mod, Nat.mod_mod]

theorem positionActivities_position (tbl : ℕ → SchTblEntry) {r : SlotRun}
    (h : r.slot < cfg.schtblSlots) :
    positionActivities cfg tbl (r.position cfg) = slotActivities cfg tbl r.pass.toNat r.slot := by
  have hS : 0 < cfg.schtblSlots := Nat.lt_of_le_of_lt (Nat.zero_le _) h
  rw [positionActivities, SlotRun.position, Nat.add_comm, Nat.add_mul_div_right _ _ hS,
    Nat.div_eq_of_lt h, Nat.zero_add, Nat.add_mul_mod_self_right, Nat.mod_eq_of_lt h,
    Nat.mod_eq_of_lt (show r.pass.toNat < 2 ^ 32 from r.pass.toNat_lt_size)]

/-- Slot runs at the positions `Q` taken modulo the wrap read the prescriptions of `Q`. -/
theorem flatMap_positionActivities (tbl : ℕ → SchTblEntry) {runs : List SlotRun} {Q : List ℕ}
    (hP : runs.map (SlotRun.position cfg) = Q.map (· % positionWrap cfg)) :
    runs.flatMap (fun r => positionActivities cfg tbl (r.position cfg)) =
      Q.flatMap (positionActivities cfg tbl) := by
  rw [← List.flatMap_map, hP, List.flatMap_map]
  simp only [positionActivities_mod]

/-- A table step whose dispatches all succeeded leaves the table as it was. -/
theorem TableStep.eq_of_sent {tbl tbl' : ℕ → SchTblEntry} {rs : List (ℕ × Bool)}
    (h : TableStep tbl tbl' rs) (hok : ∀ x ∈ rs, x.2 = true) : tbl' = tbl :=
  funext fun j => (h.same_or_disabled j).resolve_right fun ⟨_, _, hj⟩ => nomatch hok _ hj

/-- A table step only disables entries, so an entry is due afterwards only where it was due
before. -/
theorem TableStep.due_of {tbl tbl' : ℕ → SchTblEntry} {rs : List (ℕ × Bool)}
    (h : TableStep tbl tbl' rs) (i pass : ℕ) (hf : (tbl' i).due pass = true) :
    (tbl i).due pass = true := by
  rcases h.same_or_disabled i with e | ⟨-, e, -⟩ <;> rw [e] at hf
  · exact hf
  · simp [SchTblEntry.due] at hf

variable (cfg) in
/-- A slot run follows the table `tbl` when it dispatched what a table `t` prescribes for its
position, where `t` is due only where `tbl` is due, and is `tbl` itself when `ok` holds. -/
def SlotRun.Follows (tbl : ℕ → SchTblEntry) (ok : Prop) (r : SlotRun) : Prop :=
  ∃ t : ℕ → SchTblEntry,
    (∀ i pass, (t i).due pass = true → (tbl i).due pass = true) ∧ (ok → t = tbl) ∧
      r.activities = positionActivities cfg t (r.position cfg)

theorem SlotRun.Follows.mono {tbl : ℕ → SchTblEntry} {ok ok' : Prop} {r : SlotRun}
    (h : r.Follows cfg tbl ok') (hok : ok → ok') : r.Follows cfg tbl ok :=
  let ⟨t, hf, he, ha⟩ := h
  ⟨t, hf, fun o => he (hok o), ha⟩

/-- Following the table after a table step is following the table before it; when the step's
dispatches succeeded, the two tables are one. -/
theorem SlotRun.Follows.of_tableStep {tbl tbl' : ℕ → SchTblEntry} {rs : List (ℕ × Bool)}
    {ok ok' : Prop} {r : SlotRun} (h : r.Follows cfg tbl' ok') (hst : TableStep tbl tbl' rs)
    (hok : ok → (∀ x ∈ rs, x.2 = true) ∧ ok') : r.Follows cfg tbl ok :=
  let ⟨t, hf, he, ha⟩ := h
  ⟨t, fun i p hp => hst.due_of i p (hf i p hp),
    fun o => (he (hok o).2).trans (hst.eq_of_sent (hok o).1), ha⟩

variable (sent : ℕ → Bool)

/-- `ProcessNextSlot` on a valid table dispatches what the table prescribes for the position it
runs at. -/
theorem processNextSlot_follows {s : SchedulerClass} (hv : TableValid s.schTbl)
    (h : s.nextSlotNumber < cfg.schtblSlots) :
    (processNextSlot cfg sent s).2.activities =
      positionActivities cfg s.schTbl ((processNextSlot cfg sent s).2.position cfg) := by
  rw [processNextSlot_snd, positionActivities_position _ h]
  simp only [SlotRun.activities, slotActivities, List.map_map, hv.fires_eq_due]
  rfl

theorem processSlots_follows (k : ℕ) {s : SchedulerClass} (hv : TableValid s.schTbl)
    (h : s.nextSlotNumber < cfg.schtblSlots) :
    ∀ r ∈ (processSlots cfg sent k s).2, r.Follows cfg s.schTbl
      (∀ x ∈ (processSlots cfg sent k s).2.flatMap (SlotRun.records cfg), x.2 = true) := by
  induction k generalizing s with
  | zero => nofun
  | succ k ih =>
    have hst := @processNextSlot_tableStep cfg sent s
    simp only [processSlots, List.flatMap_cons, List.mem_append, List.mem_cons]
    rintro r (rfl | hr)
    · exact ⟨_, fun _ _ h => h, fun _ => rfl, processNextSlot_follows sent hv h⟩
    · exact (ih (hst.tableValid hv) (processNextSlot_lt cfg sent h) r hr).of_tableStep hst
        fun hok => ⟨fun x hx => hok x (.inl hx), fun x hx => hok x (.inr hx)⟩

theorem step_follows {s : SchedulerClass} {op : Op} (hs : SlotInv cfg s) (hv : TableValid s.schTbl)
    (hop : op.MetValid cfg) :
    ∀ r ∈ (step cfg s op).2.runs,
      r.Follows cfg s.schTbl (∀ x ∈ (step cfg s op).2.records cfg, x.2 = true) := by
  cases op with
  | execute take us sent =>
    cases take
    · nofun
    · have h0 := noisyMajorFrameCheck_slotInv hs
      have hT : (reconcileDecision cfg (noisyMajorFrameCheck s).1
          (getCurrentSlotNumber cfg (noisyMajorFrameCheck s).1 us)).1.schTbl = s.schTbl := by
        rw [reconcileDecision_fst, noisyMajorFrameCheck_fst]
      simp only [step, schedulerExecute_true, Output.records, Output.runs, wakeupReconciler_snd]
      rw [← hT] at hv ⊢
      exact processSlots_follows sent _ hv
        (reconcileDecision_slotInv h0 (getCurrentSlotNumber_slotInv h0 (hop us rfl))).next
  | _ => nofun

variable (cfg) in
/-- Along a run of the callbacks from a valid table, every slot run follows the table the run
started from. -/
theorem run_follows {s : SchedulerClass} (hs : SlotInv cfg s) (hv : TableValid s.schTbl)
    (ops : List Op) (hops : ∀ op ∈ ops, op.MetValid cfg ∧ op.IsCore) :
    ∀ r ∈ (trace cfg s ops).flatMap Output.runs, r.Follows cfg s.schTbl
      (∀ x ∈ (trace cfg s ops).flatMap (Output.records cfg), x.2 = true) := by
  induction ops generalizing s with
  | nil => nofun
  | cons op ops ih =>
    have hop := hops op (List.mem_cons_self _ _)
    have hst := (@step_tableStep cfg s op hop.2).2
    simp only [trace, List.flatMap_cons, List.mem_append]
    rintro r (hr | hr)
    · exact (step_follows hs hv hop.1 r hr).mono fun hok x hx => hok x (.inl hx)
    · exact (ih (slotInv_step hop.1 hs) (hst.tableValid hv)
        (fun o ho => hops o (List.mem_cons_of_mem _ ho)) r hr).of_tableStep hst
          fun hok => ⟨fun x hx => hok x (.inl hx), fun x hx => hok x (.inr hx)⟩

variable (cfg) in
/-- Along a run of the callbacks from a valid table in which no dispatch fails, slot runs at the
positions `Q` taken modulo the wrap dispatch the table's prescriptions for `Q`. -/
theorem run_activities {s : SchedulerClass} (hs : SlotInv cfg s) (hv : TableValid s.schTbl)
    (ops : List Op) (hops : ∀ op ∈ ops, op.MetValid cfg ∧ op.IsCore)
    (hok : ∀ x ∈ (trace cfg s ops).flatMap (Output.records cfg), x.2 = true) {Q : List ℕ}
    (hP : ((trace cfg s ops).flatMap Output.runs).map (SlotRun.position cfg) =
      Q.map (· % positionWrap cfg)) :
    ((trace cfg s ops).flatMap Output.runs).flatMap SlotRun.activities =
      Q.flatMap (positionActivities cfg s.schTbl) := by
  rw [← flatMap_positionActivities s.schTbl hP]
  refine List.flatMap_congr fun r hr => ?_
  obtain ⟨t, -, he, ha⟩ := run_follows cfg hs hv ops hops r hr
  rw [ha, he hok]

/-- The scheduler refines its table's timeline: from a state in the slot invariant whose table is
valid, along a run of the callbacks with no `SCHEDULER_ResetStatus`, in which no wakeup skips
slots and no dispatch fails, the table is unchanged, the slots run at the consecutive positions
from where the run started, taken modulo the wrap of `TablePassCount`, and the activities
dispatched, in order, are the table's timeline over those positions. -/
theorem executes_timeline {s : SchedulerClass} (hs : SlotInv cfg s) (hv : TableValid s.schTbl)
    (ops : List Op) (hops : ∀ op ∈ ops, op.MetValid cfg ∧ op.IsCore ∧ op ≠ .resetStatus)
    (hskip : (trace cfg s ops).all (fun o => !o.skips) = true)
    (hok : ∀ x ∈ (trace cfg s ops).flatMap (Output.records cfg), x.2 = true) :
    (run cfg s ops).schTbl = s.schTbl ∧
      ((trace cfg s ops).flatMap Output.runs).map (SlotRun.position cfg) =
        (List.range' (position cfg s) ((trace cfg s ops).flatMap Output.runs).length).map
          (· % positionWrap cfg) ∧
      position cfg (run cfg s ops) =
        (position cfg s + ((trace cfg s ops).flatMap Output.runs).length) % positionWrap cfg ∧
      ((trace cfg s ops).flatMap Output.runs).flatMap SlotRun.activities =
        timeline cfg s.schTbl (position cfg s)
          (position cfg s + ((trace cfg s ops).flatMap Output.runs).length) := by
  obtain ⟨Q, hP, -, -, hcons⟩ :=
    run_positions hs ops fun op h => ⟨(hops op h).1, (hops op h).2.2⟩
  obtain ⟨hQ, hadv⟩ := hcons hskip
  have hlen : Q.length = ((trace cfg s ops).flatMap Output.runs).length := by
    simpa using (congrArg List.length hP).symm
  rw [hlen] at hQ hadv
  rw [hQ] at hP
  refine ⟨(run_tableStep cfg s ops fun op h => (hops op h).2.1).2.eq_of_sent hok, hP,
    by rw [position_run hs ops fun op h => (hops op h).1, hadv], ?_⟩
  rw [timeline, Nat.add_sub_cancel_left]
  exact run_activities cfg hs hv ops (fun op h => ⟨(hops op h).1, (hops op h).2.1⟩) hok hP

/-- The state the constructor leaves, with `alternatingTable` loaded. -/
def alternatingState : SchedulerClass :=
  { initial demoConfig false 0 with schTbl := alternatingTable }

theorem alternatingState_slotInv : SlotInv demoConfig alternatingState :=
  ⟨by decide, by decide, by decide, by decide⟩

theorem alternatingTable_valid : TableValid alternatingTable := fun i _ =>
  Nat.mod_lt i (by decide)

/-- Two wakeups, one slot and then two slots on. -/
def twoWakeups : List Op :=
  [.execute true 250000 fun _ => true, .execute true 700000 fun _ => true]

theorem executes_timeline_two_wakeups :
    SlotInv demoConfig alternatingState ∧ TableValid alternatingState.schTbl ∧
      (∀ op ∈ twoWakeups, op.MetValid demoConfig ∧ op.IsCore ∧ op ≠ .resetStatus) ∧
      (trace demoConfig alternatingState twoWakeups).all (fun o => !o.skips) = true ∧
      (∀ x ∈ (trace demoConfig alternatingState twoWakeups).flatMap (Output.records demoConfig),
        x.2 = true) ∧
      ((trace demoConfig alternatingState twoWakeups).flatMap Output.runs).flatMap
          SlotRun.activities =
        timeline demoConfig alternatingState.schTbl (position demoConfig alternatingState)
          (position demoConfig alternatingState +
            ((trace demoConfig alternatingState twoWakeups).flatMap Output.runs).length) := by
  have hops : ∀ op ∈ twoWakeups,
      op.MetValid demoConfig ∧ op.IsCore ∧ op ≠ .resetStatus := by
    simp only [twoWakeups, List.mem_cons, List.not_mem_nil, or_false]
    rintro op (rfl | rfl) <;> exact ⟨fun us h => by cases h; decide, trivial, nofun⟩
  have hskip : (trace demoConfig alternatingState twoWakeups).all (fun o => !o.skips) = true := by
    decide
  have hok : ∀ x ∈ (trace demoConfig alternatingState twoWakeups).flatMap
      (Output.records demoConfig), x.2 = true := by decide
  exact ⟨alternatingState_slotInv, alternatingTable_valid, hops, hskip, hok,
    (executes_timeline alternatingState_slotInv alternatingTable_valid twoWakeups hops hskip
      hok).2.2.2⟩

/-- A wakeup whose dispatch fails, then one at the last microsecond of the major frame. -/
def failingWakeups : List Op :=
  [.execute true 250000 fun _ => false, .execute true 999999 fun _ => true]

end KitSch
