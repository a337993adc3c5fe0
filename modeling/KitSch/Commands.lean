import KitSch.State

/-!
# The constructor, the status reset and the table commands

`schedulerConstructor` sets the fields `SCHEDULER_Constructor` assigns and leaves the others as
the object had them; the application's object is in static storage (`staticStorage`).
`schedulerResetStatus` is `SCHEDULER_ResetStatus`. The table commands write the schedule and
message tables: the two schedule entry commands validate through `SCHTBL_ValidEntry`, the
table and entry loads copy what they are given without a check, as their notes say.
-/

namespace KitSch

variable (cfg : SchedulerConfig)

/-- `SCHEDULER_Constructor` on the object `obj`: `timerCreated` is whether `OS_TimerCreate`
succeeded and `clockAccuracy` the accuracy it then reported. -/
def schedulerConstructor (obj : SchedulerClass) (timerCreated : Bool) (clockAccuracy : UInt32) :
    SchedulerClass :=
  let s := { obj with
    slotsProcessedCount := 0
    skippedSlotsCount := 0
    multipleSlotsCount := 0
    sameSlotCount := 0
    scheduleActivitySuccessCount := 0
    scheduleActivityFailureCount := 0
    sendNoisyMajorFrameMsg := true
    ignoreMajorFrame := false
    unexpectedMajorFrame := false
    syncToMET := synchFalse
    majorFrameSource := .none
    nextSlotNumber := 0
    minorFramesSinceTone := cfg.timeSyncSlot
    lastSyncMETSlot := 0
    syncAttemptsLeft := 0
    unexpectedMajorFrameCount := 0
    missedMajorFrameCount := 0
    validMajorFrameCount := 0
    worstCaseSlotsPerMinorFrame := 1
    clockAccuracy := cfg.worstClockAccuracy }
  if timerCreated then
    let s := { s with clockAccuracy := clockAccuracy }
    if s.clockAccuracy > cfg.worstClockAccuracy then
      { s with
        syncToMET := cfg.synchToMinor
        worstCaseSlotsPerMinorFrame :=
          s.clockAccuracy * 2 / UInt32.ofNat cfg.normalSlotPeriod + 1 }
    else s
  else s

/-- `SCHEDULER_ResetStatus`. -/
def schedulerResetStatus (s : SchedulerClass) : SchedulerClass :=
  { s with
    slotsProcessedCount := 0
    skippedSlotsCount := 0
    multipleSlotsCount := 0
    sameSlotCount := 0
    scheduleActivitySuccessCount := 0
    scheduleActivityFailureCount := 0
    validMajorFrameCount := 0
    missedMajorFrameCount := 0
    unexpectedMajorFrameCount := 0
    tablePassCount := 0
    consecutiveNoisyFrameCounter := 0
    ignoreMajorFrame := false }

/-- `SCHEDULER_ConfigSchEntryCmd`: enabling validates the stored entry first. -/
def schedulerConfigSchEntryCmd (s : SchedulerClass) (slot activity enabled : ℕ) :
    SchedulerClass × Bool :=
  match cfg.schtblGetEntryIndex slot activity with
  | none => (s, false)
  | some index =>
    if cfg.cmdmgrValidBoolArg enabled then
      let entry := s.schTbl index
      let retStatus := if enabled = 1 then
        cfg.schtblValidEntry entry.enabled.toNat entry.period entry.offset entry.msgTblIndex
        else true
      if retStatus then
        ({ s with
            schTbl := (Function.update s.schTbl index
              { entry with enabled := decide (enabled ≠ 0) }) }, true)
      else (s, false)
    else (s, false)

/-- `SCHEDULER_LoadSchEntryCmd`: the commanded entry replaces the stored one if it is valid. -/
def schedulerLoadSchEntryCmd (s : SchedulerClass)
    (slot activity enabled period offset msgTblIndex : ℕ) : SchedulerClass × Bool :=
  match cfg.schtblGetEntryIndex slot activity with
  | none => (s, false)
  | some index =>
    if cfg.schtblValidEntry enabled period offset msgTblIndex then
      ({ s with
          schTbl := (Function.update s.schTbl index
            ⟨decide (enabled ≠ 0), period, offset, msgTblIndex⟩) }, true)
    else (s, false)

/-- `SCHEDULER_LoadSchTbl`: no validity checks are performed on the table data. -/
def schedulerLoadSchTbl (s : SchedulerClass) (newTbl : ℕ → SchTblEntry) : SchedulerClass :=
  { s with schTbl := newTbl }

/-- `SCHEDULER_LoadSchTblEntry`: range checking is not performed on the parameters. -/
def schedulerLoadSchTblEntry (s : SchedulerClass) (entryId : ℕ) (newEntry : SchTblEntry) :
    SchedulerClass :=
  { s with schTbl := Function.update s.schTbl entryId newEntry }

/-- `SCHEDULER_LoadMsgEntryCmd`: initialise entry `index` for message `msgId`. -/
def schedulerLoadMsgEntryCmd (s : SchedulerClass) (index msgId : ℕ) : SchedulerClass × Bool :=
  if index < cfg.msgtblMaxEntries then
    ({ s with msgTbl := Function.update s.msgTbl index (cfg.cfeMsgInit (s.msgTbl index) msgId) },
      true)
  else (s, false)

/-- `SCHEDULER_LoadMsgTbl`. -/
def schedulerLoadMsgTbl (s : SchedulerClass) (newTbl : ℕ → MsgTblEntry) : SchedulerClass :=
  { s with msgTbl := newTbl }

/-- `SCHEDULER_LoadMsgTblEntry`: copy the first `size` bytes of `newEntry`, the size
`CFE_MSG_GetSize` reads from its header. -/
def schedulerLoadMsgTblEntry (s : SchedulerClass) (index size : ℕ) (newEntry : MsgTblEntry) :
    SchedulerClass :=
  { s with
    msgTbl := (Function.update s.msgTbl index
      ⟨newEntry.buffer.take size ++ (s.msgTbl index).buffer.drop size⟩) }

theorem schedulerConfigSchEntryCmd_eq (s : SchedulerClass) (slot activity enabled : ℕ) :
    (schedulerConfigSchEntryCmd cfg s slot activity enabled).1 =
      { s with schTbl := (schedulerConfigSchEntryCmd cfg s slot activity enabled).1.schTbl } := by
  unfold schedulerConfigSchEntryCmd
  split
  · rfl
  · dsimp only; split_ifs <;> rfl

theorem schedulerLoadSchEntryCmd_eq (s : SchedulerClass) (slot activity enabled period offset
    msgTblIndex : ℕ) :
    (schedulerLoadSchEntryCmd cfg s slot activity enabled period offset msgTblIndex).1 =
      { s with schTbl :=
        (schedulerLoadSchEntryCmd cfg s slot activity enabled period offset msgTblIndex).1.schTbl } := by
  unfold schedulerLoadSchEntryCmd
  split
  · rfl
  · split_ifs <;> rfl

theorem schedulerLoadMsgEntryCmd_eq (s : SchedulerClass) (index msgId : ℕ) :
    (schedulerLoadMsgEntryCmd cfg s index msgId).1 =
      { s with msgTbl := (schedulerLoadMsgEntryCmd cfg s index msgId).1.msgTbl } := by
  unfold schedulerLoadMsgEntryCmd; split_ifs <;> rfl

end KitSch
