import Mathlib.Data.UInt
import Mathlib.Logic.Function.Basic

/-!
# The scheduler object of `scheduler.c`

`SchedulerClass` is the part of `SCHEDULER_Class` that the functions of `scheduler.c` read or
write: the slot clock, the synchronization state, the diagnostic counters and the two tables.
The timer and semaphore handles and the telemetry packets are left out; each callback's timer
programming and semaphore release are returned as `Signals` instead.

The configuration macros come from `scheduler.h`, `schtbl.h` and `msgtbl.h`, which are not
part of the source, so `SchedulerConfig` takes each one as a parameter, together with the
external functions the commands call (`SCHTBL_GetEntryIndex`, `SCHTBL_ValidEntry`,
`CMDMGR_ValidBoolArg`, `CFE_MSG_Init`). The field widths are declared in
`scheduler.h` too: the nine diagnostic counters and `TablePassCount` are `UInt32` and wrap as
the C increments do, as are `ClockAccuracy` (the OSAL writes it as a `uint32`) and
`WorstCaseSlotsPerMinorFrame`; every other field is a natural number, and the lemmas of the
later modules show that the slot arithmetic never leaves its range.
-/

namespace KitSch

/-- `MSGTBL_Entry`: a message buffer, as bytes. -/
structure MsgTblEntry where
  buffer : List ℕ
deriving DecidableEq, Repr, Inhabited

/-- The configuration constants and external collaborators that `scheduler.c` uses. -/
structure SchedulerConfig where
  schtblSlots : ℕ
  schtblActivitiesPerSlot : ℕ
  normalSlotPeriod : ℕ
  shortSlotPeriod : ℕ
  syncSlotPeriod : ℕ
  timeSyncSlot : ℕ
  maxLagCount : ℕ
  maxSlotsPerWakeup : ℕ
  maxNoisyMf : ℕ
  maxSyncAttempts : ℕ
  synchToMinor : ℕ
  synchToMajor : ℕ
  synchMajorPending : ℕ
  worstClockAccuracy : UInt32
  msgtblMaxEntries : ℕ
  /-- `SCHTBL_GetEntryIndex`: the table index of a (slot, activity) pair, if it is valid. -/
  schtblGetEntryIndex : ℕ → ℕ → Option ℕ
  /-- `SCHTBL_ValidEntry` on (Enabled, Period, Offset, MsgTblIndex). -/
  schtblValidEntry : ℕ → ℕ → ℕ → ℕ → Bool
  cmdmgrValidBoolArg : ℕ → Bool
  /-- `CFE_MSG_Init` of a message table entry for a message ID. -/
  cfeMsgInit : MsgTblEntry → ℕ → MsgTblEntry

/-- A small configuration for the examples: four slots of a quarter second with two activities
each, the time sync slot last, the NASA flag values, and the external checks a table loader
makes. -/
def demoConfig : SchedulerConfig where
  schtblSlots := 4
  schtblActivitiesPerSlot := 2
  normalSlotPeriod := 250000
  shortSlotPeriod := 100000
  syncSlotPeriod := 400000
  timeSyncSlot := 3
  maxLagCount := 3
  maxSlotsPerWakeup := 2
  maxNoisyMf := 2
  maxSyncAttempts := 2
  synchToMinor := 1
  synchToMajor := 2
  synchMajorPending := 4
  worstClockAccuracy := 10
  msgtblMaxEntries := 8
  schtblGetEntryIndex slot activity := if slot < 4 ∧ activity < 2 then some (slot * 2 + activity) else none
  schtblValidEntry enabled period offset _ := decide (enabled ≤ 1 ∧ offset < period)
  cmdmgrValidBoolArg b := decide (b ≤ 1)
  cfeMsgInit entry _ := entry

/-- `SCHEDULER_SYNCH_FALSE`: no MET synchronization (the spec's `SyncToMET == false`). -/
def synchFalse : ℕ := 0

/-- `SCHTBL_Entry`. -/
structure SchTblEntry where
  enabled : Bool
  period : ℕ
  offset : ℕ
  msgTblIndex : ℕ
deriving DecidableEq, Repr, Inhabited

/-- `SCHEDULER_MF_SOURCE_*` (the constructor spells the first one `SCHEDULER_MF_SRC_NONE`). -/
inductive MajorFrameSource where
  | none
  | cfeTime
  | minorFrameTimer
deriving DecidableEq, Repr

/-- The fields of `SCHEDULER_Class` that the modelled functions use. -/
structure SchedulerClass where
  slotsProcessedCount : UInt32
  skippedSlotsCount : UInt32
  multipleSlotsCount : UInt32
  sameSlotCount : UInt32
  scheduleActivitySuccessCount : UInt32
  scheduleActivityFailureCount : UInt32
  validMajorFrameCount : UInt32
  missedMajorFrameCount : UInt32
  unexpectedMajorFrameCount : UInt32
  tablePassCount : UInt32
  consecutiveNoisyFrameCounter : ℕ
  sendNoisyMajorFrameMsg : Bool
  ignoreMajorFrame : Bool
  unexpectedMajorFrame : Bool
  syncToMET : ℕ
  majorFrameSource : MajorFrameSource
  nextSlotNumber : ℕ
  minorFramesSinceTone : ℕ
  lastSyncMETSlot : ℕ
  syncAttemptsLeft : ℕ
  lastProcessCount : ℕ
  clockAccuracy : UInt32
  worstCaseSlotsPerMinorFrame : UInt32
  schTbl : ℕ → SchTblEntry
  msgTbl : ℕ → MsgTblEntry

/-- The application's object in static storage, before the constructor runs: all zero. -/
def staticStorage : SchedulerClass where
  slotsProcessedCount := 0
  skippedSlotsCount := 0
  multipleSlotsCount := 0
  sameSlotCount := 0
  scheduleActivitySuccessCount := 0
  scheduleActivityFailureCount := 0
  validMajorFrameCount := 0
  missedMajorFrameCount := 0
  unexpectedMajorFrameCount := 0
  tablePassCount := 0
  consecutiveNoisyFrameCounter := 0
  sendNoisyMajorFrameMsg := false
  ignoreMajorFrame := false
  unexpectedMajorFrame := false
  syncToMET := 0
  majorFrameSource := .none
  nextSlotNumber := 0
  minorFramesSinceTone := 0
  lastSyncMETSlot := 0
  syncAttemptsLeft := 0
  lastProcessCount := 0
  clockAccuracy := 0
  worstCaseSlotsPerMinorFrame := 0
  schTbl := fun _ => default
  msgTbl := fun _ => default

/-- What one activity dispatch did: its activity number in the slot and whether the message
lookup and its transmission both succeeded. -/
structure Dispatch where
  activity : ℕ
  sent : Bool
deriving DecidableEq, Repr

/-- One call of `ProcessNextSlot`: the pass count and slot it evaluated and its dispatches. -/
structure SlotRun where
  pass : UInt32
  slot : ℕ
  dispatched : List Dispatch
deriving DecidableEq, Repr

/-- The events `SCHEDULER_Execute` reports (its debug events apart). -/
inductive Event where
  | noisyMajorFrame (slot : ℕ)
  | sameSlot (slot : ℕ)
  | skippedSlots (slot count : ℕ)
  | multiSlots (slot count : ℕ)
deriving DecidableEq, Repr

/-- What one `SCHEDULER_Execute` past its semaphore take reports: its events and the calls of
`ProcessNextSlot`, in order. -/
structure Wakeup where
  events : List Event
  runs : List SlotRun
deriving DecidableEq, Repr

/-- What a timer callback does outside the object: each `OS_TimerSet` as (start, interval), in
order, and whether it gave the wakeup semaphore. -/
structure Signals where
  timerSets : List (ℕ × ℕ)
  semGive : Bool
deriving DecidableEq, Repr

end KitSch
