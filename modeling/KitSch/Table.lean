import KitSch.Wakeup

/-!
# What the scheduler does to its tables

`ProcessNextSlot` is the only code of the core operations that writes a table: a dispatch that
fails disables its schedule entry, and nothing else changes. `TableStep tbl tbl' records` says
this of a table before and after a piece of execution that made the dispatches `records`
(table index and outcome): every entry is unchanged, or was enabled, failed, and is disabled
with its `Period`, `Offset` and `MsgTblIndex` kept; an entry that failed ends disabled; an
entry that was dispatched was enabled. It composes (`TableStep.trans`), so it is proved once for
`processEntry` and carried up to a step and a run.

* `core_step_tables`: a core operation keeps the message table and is a `TableStep` on the
  schedule table; over a run of core operations an entry whose dispatch failed is never
  dispatched again.
* `tableValid_run`: with `SCHTBL_ValidEntry` accepting only `Offset < Period` and
  `CMDMGR_ValidBoolArg` only `0` and `1`, every run whose table loads are valid keeps every
  enabled entry at `Offset < Period`, so it fires in some pass.
* `loadSchTblEntry_breaks_tableValid`: `SCHEDULER_LoadSchTblEntry` does not check its entry.
-/

namespace KitSch

variable {cfg : SchedulerConfig}

/-! ## Dispatch records -/

variable (cfg) in
/-- The table index and outcome of each dispatch of a slot run. -/
def SlotRun.records (r : SlotRun) : List (ℕ × Bool) :=
  r.dispatched.map fun d => (r.slot * cfg.schtblActivitiesPerSlot + d.activity, d.sent)

variable (cfg) in
/-- The dispatch records of an operation's output, in order. -/
def Output.records (o : Output) : List (ℕ × Bool) := o.runs.flatMap (SlotRun.records cfg)

/-- A schedule table `tbl'` reached from `tbl` by dispatches `records`: entries change only by
being disabled after a failed dispatch, a failed entry ends disabled, and a dispatched entry
was enabled. -/
structure TableStep (tbl tbl' : ℕ → SchTblEntry) (records : List (ℕ × Bool)) : Prop where
  /-- Each entry is kept, or was enabled and failed and is now disabled. -/
  same_or_disabled : ∀ j, tbl' j = tbl j ∨
    ((tbl j).enabled = true ∧ tbl' j = { tbl j with enabled := false } ∧ (j, false) ∈ records)
  /-- A failed entry ends disabled. -/
  failed_disabled : ∀ j, (j, false) ∈ records → (tbl' j).enabled = false
  /-- A dispatched entry was enabled. -/
  dispatched_enabled : ∀ j b, (j, b) ∈ records → (tbl j).enabled = true

theorem TableStep.refl (tbl : ℕ → SchTblEntry) : TableStep tbl tbl [] :=
  ⟨fun _ => .inl rfl, fun _ h => absurd h (List.not_mem_nil _),
    fun _ _ h => absurd h (List.not_mem_nil _)⟩

/-- A disabled entry stays disabled. -/
theorem TableStep.disabled {tbl tbl' : ℕ → SchTblEntry} {rs : List (ℕ × Bool)}
    (h : TableStep tbl tbl' rs) {j : ℕ} (hj : (tbl j).enabled = false) :
    (tbl' j).enabled = false := by
  rcases h.same_or_disabled j with e | ⟨-, e, -⟩
  · rw [e]; exact hj
  · rw [e]

theorem TableStep.trans {t₁ t₂ t₃ : ℕ → SchTblEntry} {r₁ r₂ : List (ℕ × Bool)}
    (h₁ : TableStep t₁ t₂ r₁) (h₂ : TableStep t₂ t₃ r₂) : TableStep t₁ t₃ (r₁ ++ r₂) where
  same_or_disabled j := by
    rcases h₁.same_or_disabled j with e₁ | ⟨en, e₁, f⟩ <;>
      rcases h₂.same_or_disabled j with e₂ | ⟨en', e₂, f'⟩
    · exact .inl (e₂.trans e₁)
    · rw [e₁] at en' e₂; exact .inr ⟨en', e₂, List.mem_append_right _ f'⟩
    · exact .inr ⟨en, e₂.trans e₁, List.mem_append_left _ f⟩
    · exact .inr ⟨en, by rw [e₂, e₁], List.mem_append_left _ f⟩
  failed_disabled j hj := by
    rcases List.mem_append.1 hj with hj | hj
    · exact h₂.disabled (h₁.failed_disabled j hj)
    · exact h₂.failed_disabled j hj
  dispatched_enabled j b hj := by
    rcases List.mem_append.1 hj with hj | hj
    · exact h₁.dispatched_enabled j b hj
    · have en := h₂.dispatched_enabled j b hj
      rcases h₁.same_or_disabled j with e | ⟨en', -, -⟩
      · rwa [e] at en
      · exact en'

/-! ## The executor -/

theorem SchTblEntry.enabled_of_fires {e : SchTblEntry} {pass : ℕ} (h : e.fires pass = true) :
    e.enabled = true := by
  simp only [SchTblEntry.fires, Bool.and_eq_true] at h; exact h.1

theorem processEntry_tableStep (sent : ℕ → Bool) (slotIndex : ℕ) (s : SchedulerClass) (e : ℕ) :
    TableStep s.schTbl (processEntry sent slotIndex s e).1.schTbl
      ((processEntry sent slotIndex s e).2.map fun d => (slotIndex + d.activity, d.sent)) := by
  unfold processEntry
  dsimp only
  split_ifs with hf hs
  · refine ⟨fun _ => .inl rfl, fun j h => ?_, fun j b h => ?_⟩ <;>
      simp only [List.map_cons, List.map_nil, List.mem_singleton, Prod.mk.injEq] at h
    · exact absurd h.2 Bool.noConfusion
    · exact h.1 ▸ SchTblEntry.enabled_of_fires hf
  · refine ⟨fun j => ?_, fun j h => ?_, fun j b h => ?_⟩
    · by_cases hj : j = slotIndex + e
      · subst hj
        exact .inr ⟨SchTblEntry.enabled_of_fires hf, Function.update_same _ _ _, by simp⟩
      · exact .inl (Function.update_noteq hj _ _)
    · simp only [List.map_cons, List.map_nil, List.mem_singleton, Prod.mk.injEq] at h
      rw [h.1]; simp
    · simp only [List.map_cons, List.map_nil, List.mem_singleton, Prod.mk.injEq] at h
      exact h.1 ▸ SchTblEntry.enabled_of_fires hf
  · exact TableStep.refl _

theorem processEntries_tableStep (sent : ℕ → Bool) (slotIndex : ℕ) (es : List ℕ)
    (s : SchedulerClass) :
    TableStep s.schTbl (processEntries sent slotIndex es s).1.schTbl
      ((processEntries sent slotIndex es s).2.map fun d => (slotIndex + d.activity, d.sent)) := by
  induction es generalizing s with
  | nil => exact TableStep.refl _
  | cons e es ih =>
    simp only [processEntries, List.map_append]
    exact (processEntry_tableStep sent slotIndex s e).trans (ih _)

theorem processNextSlot_tableStep (sent : ℕ → Bool) (s : SchedulerClass) :
    TableStep s.schTbl (processNextSlot cfg sent s).1.schTbl
      ((processNextSlot cfg sent s).2.records cfg) := by
  rw [processNextSlot_eq]
  exact processEntries_tableStep sent _ _ s

theorem processSlots_tableStep (sent : ℕ → Bool) (k : ℕ) (s : SchedulerClass) :
    TableStep s.schTbl (processSlots cfg sent k s).1.schTbl
      ((processSlots cfg sent k s).2.flatMap (SlotRun.records cfg)) := by
  induction k generalizing s with
  | zero => exact TableStep.refl _
  | succ k ih =>
    simp only [processSlots, List.flatMap_cons]
    exact (processNextSlot_tableStep sent s).trans (ih _)

theorem schedulerExecute_tableStep (sent : ℕ → Bool) (s : SchedulerClass) (take : Bool)
    (us : ℕ) :
    TableStep s.schTbl (schedulerExecute cfg sent s take us).1.schTbl
      ((Output.wakeup (schedulerExecute cfg sent s take us).2).records cfg) := by
  cases take
  · exact TableStep.refl _
  · have hT : (reconcileDecision cfg (noisyMajorFrameCheck s).1
        (getCurrentSlotNumber cfg (noisyMajorFrameCheck s).1 us)).1.schTbl = s.schTbl := by
      rw [reconcileDecision_fst, noisyMajorFrameCheck_fst]
    rw [schedulerExecute_true]
    simp only [Output.records, Output.runs, wakeupReconciler_fst, wakeupReconciler_snd]
    rw [← hT]
    exact processSlots_tableStep sent _ _

theorem schedulerExecute_msgTbl (sent : ℕ → Bool) (s : SchedulerClass) (take : Bool) (us : ℕ) :
    (schedulerExecute cfg sent s take us).1.msgTbl = s.msgTbl := by
  cases take
  · rfl
  · rw [schedulerExecute_true]
    simp only [wakeupReconciler_fst, processSlots_msgTbl]
    rw [reconcileDecision_fst, noisyMajorFrameCheck_fst]

/-! ## Core operations -/

theorem step_tableStep {s : SchedulerClass} {op : Op} (hop : op.IsCore) :
    (step cfg s op).1.msgTbl = s.msgTbl ∧
      TableStep s.schTbl (step cfg s op).1.schTbl ((step cfg s op).2.records cfg) := by
  cases op with
  | execute take us sent =>
    exact ⟨schedulerExecute_msgTbl sent s take us, schedulerExecute_tableStep sent s take us⟩
  | majorFrame =>
    simp only [step]; rw [majorFrameCallback_eq]; exact ⟨rfl, TableStep.refl _⟩
  | minorFrame =>
    simp only [step]; rw [minorFrameCallback_eq]; exact ⟨rfl, TableStep.refl _⟩
  | resetStatus => exact ⟨rfl, TableStep.refl _⟩
  | _ => exact hop.elim

variable (cfg) in
theorem run_tableStep (s : SchedulerClass) (ops : List Op) (hops : ∀ op ∈ ops, op.IsCore) :
    (run cfg s ops).msgTbl = s.msgTbl ∧
      TableStep s.schTbl (run cfg s ops).schTbl ((trace cfg s ops).flatMap (Output.records cfg)) := by
  induction ops generalizing s with
  | nil => exact ⟨rfl, TableStep.refl _⟩
  | cons op ops ih =>
    obtain ⟨hm, ht⟩ := step_tableStep (s := s) (hops op (List.mem_cons_self _ _))
    obtain ⟨hm', ht'⟩ := ih (step cfg s op).1 fun o ho => hops o (List.mem_cons_of_mem _ ho)
    exact ⟨hm'.trans hm, ht.trans ht'⟩

/-- A core operation keeps the message table and changes the schedule table only by disabling
entries whose dispatch failed, so an entry whose own dispatch did not fail fires in every pass
as before; over a run of core operations, an entry that failed a dispatch is not dispatched
again. -/
theorem core_step_tables :
    (∀ (s : SchedulerClass) (op : Op), op.IsCore →
      (step cfg s op).1.msgTbl = s.msgTbl ∧
        TableStep s.schTbl (step cfg s op).1.schTbl ((step cfg s op).2.records cfg) ∧
        ∀ i, (i, false) ∉ (step cfg s op).2.records cfg → ∀ pass,
          ((step cfg s op).1.schTbl i).fires pass = (s.schTbl i).fires pass) ∧
    ∀ (s : SchedulerClass) (ops₁ ops₂ : List Op), (∀ op ∈ ops₁ ++ ops₂, op.IsCore) →
      ∀ j, (j, false) ∈ (trace cfg s ops₁).flatMap (Output.records cfg) →
        ∀ b, (j, b) ∉ (trace cfg (run cfg s ops₁) ops₂).flatMap (Output.records cfg) := by
  refine ⟨fun s op hop => ?_, fun s ops₁ ops₂ hops j hj b hb => ?_⟩
  · obtain ⟨hm, ht⟩ := step_tableStep (s := s) hop
    refine ⟨hm, ht, fun i hi pass => ?_⟩
    rcases ht.same_or_disabled i with e | ⟨-, -, hf⟩
    · rw [e]
    · exact absurd hf hi
  · have h₁ := (run_tableStep cfg s ops₁ fun o ho => hops o (List.mem_append_left _ ho)).2
    have h₂ := (run_tableStep cfg (run cfg s ops₁) ops₂ fun o ho =>
      hops o (List.mem_append_right _ ho)).2
    have := h₂.dispatched_enabled j b hb
    rw [h₁.failed_disabled j hj] at this
    exact Bool.noConfusion this

/-! ## Valid tables -/

/-- Every enabled entry has `Offset < Period`. -/
def TableValid (tbl : ℕ → SchTblEntry) : Prop :=
  ∀ i, (tbl i).enabled = true → (tbl i).offset < (tbl i).period

/-- The schedule table loads carry tables and entries the table service validated, as their
notes ask of their callers; the other operations carry none. -/
def Op.LoadsValid : Op → Prop
  | .loadSchTbl newTbl => TableValid newTbl
  | .loadSchTblEntry _ newEntry => newEntry.enabled = true → newEntry.offset < newEntry.period
  | _ => True

theorem TableStep.tableValid {tbl tbl' : ℕ → SchTblEntry} {rs : List (ℕ × Bool)}
    (h : TableStep tbl tbl' rs) (hv : TableValid tbl) : TableValid tbl' := fun i hi => by
  rcases h.same_or_disabled i with e | ⟨-, e, -⟩ <;> rw [e] at hi ⊢
  · exact hv i hi
  · exact Bool.noConfusion hi

theorem TableValid.update {tbl : ℕ → SchTblEntry} (hv : TableValid tbl) (i : ℕ)
    {e : SchTblEntry} (he : e.enabled = true → e.offset < e.period) :
    TableValid (Function.update tbl i e) := fun j hj => by
  by_cases h : j = i
  · subst h; rw [Function.update_same] at hj ⊢; exact he hj
  · rw [Function.update_noteq h] at hj ⊢; exact hv j hj

section Contracts

-- `SCHTBL_ValidEntry` accepts an entry only when `Offset < Period`.
variable (hvalid : ∀ en p o m, cfg.schtblValidEntry en p o m = true → o < p)

include hvalid in
theorem schedulerConfigSchEntryCmd_tableValid
    (hbool : ∀ b, cfg.cmdmgrValidBoolArg b = true → b ≤ 1) {s : SchedulerClass}
    (hs : TableValid s.schTbl) (slot activity enabled : ℕ) :
    TableValid (schedulerConfigSchEntryCmd cfg s slot activity enabled).1.schTbl := by
  unfold schedulerConfigSchEntryCmd
  split
  · exact hs
  · dsimp only
    split_ifs with hb h1 hr <;> first | exact hs | skip
    · exact hs.update _ fun _ => hvalid _ _ _ _ hr
    · -- a valid boolean other than `1` is `0`, and disables the entry
      refine hs.update _ fun hen => ?_
      obtain rfl : enabled = 0 := by have := hbool enabled hb; omega
      simp at hen

include hvalid in
theorem schedulerLoadSchEntryCmd_tableValid {s : SchedulerClass} (hs : TableValid s.schTbl)
    (slot activity enabled period offset msgTblIndex : ℕ) :
    TableValid
      (schedulerLoadSchEntryCmd cfg s slot activity enabled period offset msgTblIndex).1.schTbl := by
  unfold schedulerLoadSchEntryCmd
  split
  · exact hs
  · split_ifs with hv
    · exact hs.update _ fun _ => hvalid _ _ _ _ hv
    · exact hs

include hvalid in
/-- Every operation whose table loads are valid keeps the schedule table valid. -/
theorem tableValid_step (hbool : ∀ b, cfg.cmdmgrValidBoolArg b = true → b ≤ 1)
    {s : SchedulerClass} {op : Op} (hop : op.LoadsValid) (hs : TableValid s.schTbl) :
    TableValid (step cfg s op).1.schTbl := by
  cases op with
  | execute take us sent => exact (schedulerExecute_tableStep sent s take us).tableValid hs
  | majorFrame => simp only [step]; rw [majorFrameCallback_eq]; exact hs
  | minorFrame => simp only [step]; rw [minorFrameCallback_eq]; exact hs
  | resetStatus => exact hs
  | configSchEntryCmd => exact schedulerConfigSchEntryCmd_tableValid hvalid hbool hs _ _ _
  | loadSchEntryCmd => exact schedulerLoadSchEntryCmd_tableValid hvalid hs _ _ _ _ _ _
  | loadSchTbl newTbl => exact hop
  | loadSchTblEntry entryId newEntry => exact hs.update entryId hop
  | loadMsgEntryCmd => simp only [step]; rw [schedulerLoadMsgEntryCmd_eq]; exact hs
  | loadMsgTbl => exact hs
  | loadMsgTblEntry => exact hs

end Contracts

/-- When `SCHTBL_ValidEntry` accepts only `Offset < Period` and `CMDMGR_ValidBoolArg` only `0`
and `1`, every run whose table loads are valid, from a valid table, keeps every enabled entry
at `Offset < Period`: its period is positive, and it fires in the pass `Offset`. -/
theorem tableValid_run (hvalid : ∀ en p o m, cfg.schtblValidEntry en p o m = true → o < p)
    (hbool : ∀ b, cfg.cmdmgrValidBoolArg b = true → b ≤ 1) {s : SchedulerClass}
    (hs : TableValid s.schTbl) (ops : List Op) (hops : ∀ op ∈ ops, op.LoadsValid) :
    let s' := run cfg s ops
    TableValid s'.schTbl ∧ ∀ i, (s'.schTbl i).enabled = true →
      0 < (s'.schTbl i).period ∧ ∃ pass, (s'.schTbl i).fires pass = true := by
  intro s'
  have hv : TableValid s'.schTbl :=
    run_invariant cfg (P := fun t => TableValid t.schTbl)
      (fun _ _ hop hs => tableValid_step hvalid hbool hop hs) ops s hops hs
  refine ⟨hv, fun i hi => ⟨Nat.lt_of_le_of_lt (Nat.zero_le _) (hv i hi),
    (s'.schTbl i).offset, ?_⟩⟩
  simp only [SchTblEntry.fires, hi, Nat.mod_eq_of_lt (hv i hi), beq_self_eq_true, Bool.and_self]

theorem tableValid_run_demo :
    let s' := run demoConfig (initial demoConfig true 20) [.loadSchEntryCmd 1 0 1 2 1 0]
    TableValid s'.schTbl ∧ ∀ i, (s'.schTbl i).enabled = true →
      0 < (s'.schTbl i).period ∧ ∃ pass, (s'.schTbl i).fires pass = true :=
  tableValid_run (fun _ _ _ _ h => (of_decide_eq_true h).2) (fun _ h => of_decide_eq_true h)
    (fun _ h => Bool.noConfusion h) _ (fun _ h => by rw [List.mem_singleton.1 h]; trivial)

/-- `SCHEDULER_LoadSchTblEntry` copies an enabled entry with `Period = 0` into a valid table,
under a `SCHTBL_ValidEntry` that accepts only `Offset < Period`. -/
theorem loadSchTblEntry_breaks_tableValid :
    (∀ en p o m, demoConfig.schtblValidEntry en p o m = true → o < p) ∧
      TableValid (initial demoConfig true 20).schTbl ∧
      ¬ TableValid
        (run demoConfig (initial demoConfig true 20) [.loadSchTblEntry 0 ⟨true, 0, 0, 0⟩]).schTbl :=
  ⟨fun _ _ _ _ h => (of_decide_eq_true h).2, fun _ h => Bool.noConfusion h,
    fun h => absurd (h 0 rfl) (by decide)⟩

end KitSch
