import KitSch.Reconciler
import KitSch.Callbacks
import KitSch.Commands

/-!
# The scheduler as a state machine

The scheduler's state is changed by its exported functions and its two callbacks, each taken as
one atomic step (`Op`); an operation carries what the external calls it makes return: the
semaphore take, the MET reading, the clock state and the dispatch outcomes. `step` runs one,
`run` a list of them from a state, and `trace` collects what each one returned. A state
reachable from construction is `run cfg (initial ...) ops`.

* `run_invariant`: a property that holds of a state and that every allowed step keeps holds
  after every run of allowed steps.
-/

namespace KitSch

/-- One call into the scheduler, with the results of the external calls it makes. -/
inductive Op where
  /-- `SCHEDULER_Execute`: the semaphore take, the MET reading, the dispatch outcomes. -/
  | execute (take : Bool) (microSeconds : ℕ) (sent : ℕ → Bool)
  | majorFrame (flying : Bool) (microSeconds : ℕ)
  | minorFrame (microSeconds : ℕ)
  | resetStatus
  | configSchEntryCmd (slot activity enabled : ℕ)
  | loadSchEntryCmd (slot activity enabled period offset msgTblIndex : ℕ)
  | loadSchTbl (newTbl : ℕ → SchTblEntry)
  | loadSchTblEntry (entryId : ℕ) (newEntry : SchTblEntry)
  | loadMsgEntryCmd (index msgId : ℕ)
  | loadMsgTbl (newTbl : ℕ → MsgTblEntry)
  | loadMsgTblEntry (index size : ℕ) (newEntry : MsgTblEntry)

/-- What a call returned: the wakeup of `SCHEDULER_Execute` (`none` for a failed take), the
signals of a callback, or a command's status. -/
inductive Output where
  | wakeup (w : Option Wakeup)
  | signals (sig : Signals)
  | status (ok : Bool)

/-- The MET reading an operation carries. -/
def Op.microSeconds : Op → Option ℕ
  | .execute _ us _ => some us
  | .majorFrame _ us => some us
  | .minorFrame us => some us
  | _ => none

/-- The core operations: the wakeup, the two callbacks and the status reset. -/
def Op.IsCore : Op → Prop
  | .execute .. | .majorFrame .. | .minorFrame .. | .resetStatus => True
  | _ => False

variable (cfg : SchedulerConfig)

/-- Every MET reading the operation carries is one the slot clock can be given. -/
def Op.MetValid (op : Op) : Prop := ∀ us, op.microSeconds = some us → MetReading cfg us

/-- One atomic step. -/
def step (s : SchedulerClass) : Op → SchedulerClass × Output
  | .execute take us sent =>
    let r := schedulerExecute cfg sent s take us
    (r.1, .wakeup r.2)
  | .majorFrame flying us =>
    let r := majorFrameCallback cfg s flying us
    (r.1, .signals r.2)
  | .minorFrame us =>
    let r := minorFrameCallback cfg s us
    (r.1, .signals r.2)
  | .resetStatus => (schedulerResetStatus s, .status true)
  | .configSchEntryCmd slot activity enabled =>
    let r := schedulerConfigSchEntryCmd cfg s slot activity enabled
    (r.1, .status r.2)
  | .loadSchEntryCmd slot activity enabled period offset msgTblIndex =>
    let r := schedulerLoadSchEntryCmd cfg s slot activity enabled period offset msgTblIndex
    (r.1, .status r.2)
  | .loadSchTbl newTbl => (schedulerLoadSchTbl s newTbl, .status true)
  | .loadSchTblEntry entryId newEntry => (schedulerLoadSchTblEntry s entryId newEntry, .status true)
  | .loadMsgEntryCmd index msgId =>
    let r := schedulerLoadMsgEntryCmd cfg s index msgId
    (r.1, .status r.2)
  | .loadMsgTbl newTbl => (schedulerLoadMsgTbl s newTbl, .status true)
  | .loadMsgTblEntry index size newEntry =>
    (schedulerLoadMsgTblEntry s index size newEntry, .status true)

/-- The state after a sequence of steps. -/
def run (s : SchedulerClass) : List Op → SchedulerClass
  | [] => s
  | op :: ops => run (step cfg s op).1 ops

/-- What each step of a sequence returned. -/
def trace (s : SchedulerClass) : List Op → List Output
  | [] => []
  | op :: ops => (step cfg s op).2 :: trace (step cfg s op).1 ops

/-- The state the constructor leaves in the application's static object. -/
def initial (timerCreated : Bool) (clockAccuracy : UInt32) : SchedulerClass :=
  schedulerConstructor cfg staticStorage timerCreated clockAccuracy

@[simp] theorem run_nil (s : SchedulerClass) : run cfg s [] = s := rfl

@[simp] theorem run_cons (s : SchedulerClass) (op : Op) (ops : List Op) :
    run cfg s (op :: ops) = run cfg (step cfg s op).1 ops := rfl

theorem run_append (s : SchedulerClass) (ops ops' : List Op) :
    run cfg s (ops ++ ops') = run cfg (run cfg s ops) ops' := by
  induction ops generalizing s with
  | nil => rfl
  | cons op ops ih => exact ih _

/-- An invariant of every allowed step is an invariant of every run of allowed steps. -/
theorem run_invariant {P : SchedulerClass → Prop} {Q : Op → Prop}
    (hstep : ∀ s op, Q op → P s → P (step cfg s op).1) :
    ∀ (ops : List Op) (s : SchedulerClass), (∀ op ∈ ops, Q op) → P s → P (run cfg s ops)
  | [], _, _, hs => hs
  | op :: ops, s, hq, hs =>
    run_invariant hstep ops _ (fun o ho => hq o (List.mem_cons_of_mem _ ho))
      (hstep s op (hq op (List.mem_cons_self _ _)) hs)

end KitSch
