import KitSch.State

/-!
# The table entry telemetry

`SCHEDULER_SendSchEntryCmd` and `SCHEDULER_SendMsgEntryCmd` fill the table entry packet
`TblEntryPkt`, which the object keeps between calls, through `SendTblEntryTlm`: the position and
fields of a schedule entry, or undefined values when there is none, and the words of a message
entry. `SCHEDULER_SendMsgEntryCmd` finds the schedule entry with a do-while search over the
schedule table (`schEntrySearch`, with the loop's bound as fuel).

The header sizes, `MSGTBL_MAX_MSG_WORDS`, `SCHTBL_MAX_ENTRIES`, the undefined value, the message
type reader `CFE_MSG_GetType`, the host's reading of a buffer word and `CFE_MAKE_BIG16` come from
headers and libraries outside the source, so `TelemetryConfig` takes them as parameters.

* `schEntrySearch_eq_find`: the search returns the first schedule entry that references the
  message, or `SCHTBL_MAX_ENTRIES` and not found;
* `sendMsgEntryCmd_reports_first`: a message entry command that passes its checks reports that
  first schedule entry, named by a slot and activity that give back its index.
-/

namespace KitSch

/-- `CFE_MSG_Type_t`. -/
inductive MsgType where
  | invalid
  | cmd
  | tlm
deriving DecidableEq, Repr

/-- The constants and external functions the telemetry commands use besides those of
`SchedulerConfig`. -/
structure TelemetryConfig where
  schtblMaxEntries : ℕ
  undefSchtblEntryVal : ℕ
  /-- `PKTUTIL_PRI_HDR_WORDS`. -/
  priHdrWords : ℕ
  /-- `sizeof(CFE_MSG_CommandHeader_t)/2`. -/
  cmdHdrWords : ℕ
  /-- `sizeof(CFE_MSG_TelemetryHeader_t)/2`. -/
  tlmHdrWords : ℕ
  msgtblMaxMsgWords : ℕ
  /-- `CFE_MSG_GetType`. -/
  msgType : MsgTblEntry → MsgType
  /-- `Buffer[i]` of a message entry, as the host reads the `uint16` word. -/
  word : MsgTblEntry → ℕ → ℕ
  /-- `CFE_MAKE_BIG16`. -/
  makeBig16 : ℕ → ℕ

/-- `SCHEDULER_TblEntryPkt` past its telemetry header: the schedule entry's slot, activity and
fields, and the words of the message entry. -/
structure TblEntryPkt where
  slot : ℕ
  activity : ℕ
  schTblEntry : SchTblEntry
  msgWords : ℕ → ℕ

variable (cfg : SchedulerConfig) (tc : TelemetryConfig)

/-- The do-while search of `SCHEDULER_SendMsgEntryCmd` (lines 440-450) from `SchIndex`, for at
most `fuel` more iterations: it stops at the first entry whose `MsgTblIndex` is `msgIndex`, or
past the last entry. -/
def schEntrySearch (tbl : ℕ → SchTblEntry) (msgIndex maxEntries : ℕ) : ℕ → ℕ → ℕ × Bool
  | 0, schIndex => (schIndex, false)
  | fuel + 1, schIndex =>
    if (tbl schIndex).msgTblIndex = msgIndex then (schIndex, true)
    else if schIndex + 1 < maxEntries then schEntrySearch tbl msgIndex maxEntries fuel (schIndex + 1)
    else (schIndex + 1, false)

/-- `SendTblEntryTlm` into the packet `pkt` the object holds; `transmitted` is whether
`CFE_SB_TransmitMsg` succeeded. The primary header words are converted to big endian and the
words from `MsgDataIndex` on are copied; the words in between are left as they were. -/
def sendTblEntryTlm (s : SchedulerClass) (pkt : TblEntryPkt) (schTblIndex msgTblIndex : ℕ)
    (useSchTblIndex transmitted : Bool) : TblEntryPkt × Bool :=
  let pkt := if useSchTblIndex then
      { pkt with
        slot := schTblIndex / cfg.schtblActivitiesPerSlot
        activity := schTblIndex % cfg.schtblActivitiesPerSlot
        schTblEntry := s.schTbl schTblIndex }
    else
      { pkt with
        slot := tc.undefSchtblEntryVal
        activity := tc.undefSchtblEntryVal
        schTblEntry :=
          ⟨false, tc.undefSchtblEntryVal, tc.undefSchtblEntryVal, tc.undefSchtblEntryVal⟩ }
  if msgTblIndex = cfg.msgtblMaxEntries then ({ pkt with msgWords := fun _ => 0 }, transmitted)
  else
    let entry := s.msgTbl msgTblIndex
    let header := fun i => if i < tc.priHdrWords then tc.makeBig16 (tc.word entry i) else pkt.msgWords i
    let msgDataIndex := if tc.msgType entry = .cmd then tc.cmdHdrWords else tc.tlmHdrWords
    ({ pkt with msgWords := fun i =>
        if msgDataIndex ≤ i ∧ i < tc.msgtblMaxMsgWords then tc.word entry i else header i },
      transmitted)

/-- `SCHEDULER_SendSchEntryCmd`: the entry `SCHTBL_GetEntryIndex` finds for (slot, activity),
with its message entry. -/
def schedulerSendSchEntryCmd (s : SchedulerClass) (pkt : TblEntryPkt) (slot activity : ℕ)
    (transmitted : Bool) : TblEntryPkt × Bool :=
  match cfg.schtblGetEntryIndex slot activity with
  | some index => sendTblEntryTlm cfg tc s pkt index (s.schTbl index).msgTblIndex true transmitted
  | none => (pkt, false)

/-- `SCHEDULER_SendMsgEntryCmd`: a command or telemetry message entry, with the first schedule
entry that references it. -/
def schedulerSendMsgEntryCmd (s : SchedulerClass) (pkt : TblEntryPkt) (msgIndex : ℕ)
    (transmitted : Bool) : TblEntryPkt × Bool :=
  if msgIndex < cfg.msgtblMaxEntries then
    if tc.msgType (s.msgTbl msgIndex) = .invalid then (pkt, false)
    else
      let r := schEntrySearch s.schTbl msgIndex tc.schtblMaxEntries tc.schtblMaxEntries 0
      sendTblEntryTlm cfg tc s pkt r.1 msgIndex r.2 transmitted
  else (pkt, false)

/-- A configuration for the examples with the cFE header sizes on a little-endian host: three
primary header words, a command header of four words and a telemetry header of eight, the
message type bit of the first byte, and `CFE_MAKE_BIG16` swapping the two bytes of a word. -/
def demoTelemetry : TelemetryConfig where
  schtblMaxEntries := 8
  undefSchtblEntryVal := 0xFFFF
  priHdrWords := 3
  cmdHdrWords := 4
  tlmHdrWords := 8
  msgtblMaxMsgWords := 32
  msgType e := if e.buffer.headD 0 / 16 % 2 = 1 then .cmd else .tlm
  word e i := e.buffer.getD (2 * i) 0 + 256 * e.buffer.getD (2 * i + 1) 0
  makeBig16 w := w % 256 * 256 + w / 256

/-- The table entry packet in static storage. -/
def zeroPkt : TblEntryPkt := ⟨0, 0, default, fun _ => 0⟩

/-- A command message at index `0` of the message table and a telemetry message elsewhere. -/
def demoMsgState : SchedulerClass :=
  { staticStorage with msgTbl := fun i => if i = 0 then ⟨[0x18, 0x80, 0xC0, 0x00, 0x00, 0x03,
    0x01, 0x00, 0x2A, 0x00, 0x07, 0x00]⟩ else ⟨[0x08, 0x81, 0xC0, 0x00, 0x00, 0x0F]⟩ }

/-! ## The search -/

section Search

variable (tbl : ℕ → SchTblEntry) (msgIndex maxEntries : ℕ)

/-- What the search finds from `schIndex`: the first entry up to `maxEntries` that references the
message, or `maxEntries` and not found. -/
def firstReference (schIndex : ℕ) : ℕ × Bool :=
  match (List.range' schIndex (maxEntries - schIndex)).find? (fun i => (tbl i).msgTblIndex = msgIndex) with
  | some i => (i, true)
  | none => (maxEntries, false)

/-- With fuel for the entries left, the loop from `schIndex` finds what `firstReference` says. -/
theorem schEntrySearch_eq (fuel : ℕ) :
    ∀ schIndex, schIndex < maxEntries → maxEntries - schIndex ≤ fuel →
      schEntrySearch tbl msgIndex maxEntries fuel schIndex =
        firstReference tbl msgIndex maxEntries schIndex := by
  induction fuel with
  | zero => intro i hi hf; omega
  | succ fuel ih =>
    intro i hi hf
    obtain ⟨k, hk⟩ : ∃ k, maxEntries - i = k + 1 := ⟨maxEntries - i - 1, by omega⟩
    have hr : maxEntries - (i + 1) = k := by omega
    simp only [schEntrySearch, firstReference, hk, List.range'_succ, List.find?_cons]
    by_cases hm : (tbl i).msgTblIndex = msgIndex
    · simp only [hm, decide_True, ↓reduceIte]
    · simp only [hm, decide_False, ↓reduceIte]
      split_ifs with hn
      · rw [ih (i + 1) hn (by omega), firstReference, hr]
      · obtain rfl : k = 0 := by omega
        simp only [List.range'_zero, List.find?_nil]
        congr 1; omega

/-- The search of `SCHEDULER_SendMsgEntryCmd` over a table of at least one entry returns the
first entry that references the message, or `SCHTBL_MAX_ENTRIES` and not found. -/
theorem schEntrySearch_eq_find (h : 1 ≤ maxEntries) :
    schEntrySearch tbl msgIndex maxEntries maxEntries 0 =
      match (List.range maxEntries).find? (fun i => (tbl i).msgTblIndex = msgIndex) with
      | some i => (i, true)
      | none => (maxEntries, false) := by
  rw [schEntrySearch_eq tbl msgIndex maxEntries maxEntries 0 h (Nat.sub_le _ _), firstReference,
    Nat.sub_zero, List.range_eq_range']

end Search

/-! ## The packet -/

section Packet

variable {cfg tc} (s : SchedulerClass) (pkt : TblEntryPkt) (schTblIndex msgTblIndex : ℕ)
  (useSchTblIndex transmitted : Bool)

@[simp] theorem sendTblEntryTlm_snd :
    (sendTblEntryTlm cfg tc s pkt schTblIndex msgTblIndex useSchTblIndex transmitted).2 =
      transmitted := by
  unfold sendTblEntryTlm; split_ifs <;> rfl

/-- The schedule part of the packet for a schedule entry: the entry at `SchTblIndex` with its
slot and activity. -/
theorem sendTblEntryTlm_entry :
    let r := (sendTblEntryTlm cfg tc s pkt schTblIndex msgTblIndex true transmitted).1
    r.slot = schTblIndex / cfg.schtblActivitiesPerSlot ∧
      r.activity = schTblIndex % cfg.schtblActivitiesPerSlot ∧
      r.schTblEntry = s.schTbl schTblIndex := by
  unfold sendTblEntryTlm; split_ifs <;> first | exact ⟨rfl, rfl, rfl⟩ | contradiction

/-- Without a schedule entry, the schedule part of the packet is the undefined values. -/
theorem sendTblEntryTlm_undef :
    let r := (sendTblEntryTlm cfg tc s pkt schTblIndex msgTblIndex false transmitted).1
    r.slot = tc.undefSchtblEntryVal ∧ r.activity = tc.undefSchtblEntryVal ∧
      r.schTblEntry =
        ⟨false, tc.undefSchtblEntryVal, tc.undefSchtblEntryVal, tc.undefSchtblEntryVal⟩ := by
  unfold sendTblEntryTlm; split_ifs <;> first | exact ⟨rfl, rfl, rfl⟩ | contradiction

end Packet

/-- A message entry command that passes its checks, on a schedule table of at least one entry,
reports the first schedule entry that references the message, named by a slot and activity that
give back its table index, or the undefined values when no entry references it; it returns what
the transmission returned. -/
theorem sendMsgEntryCmd_reports_first (hmax : 1 ≤ tc.schtblMaxEntries) (s : SchedulerClass)
    (pkt : TblEntryPkt) (msgIndex : ℕ) (transmitted : Bool) (hi : msgIndex < cfg.msgtblMaxEntries)
    (ht : tc.msgType (s.msgTbl msgIndex) ≠ .invalid) :
    let r := schedulerSendMsgEntryCmd cfg tc s pkt msgIndex transmitted
    r.2 = transmitted ∧
      match (List.range tc.schtblMaxEntries).find? (fun i => (s.schTbl i).msgTblIndex = msgIndex) with
      | some i => r.1.slot * cfg.schtblActivitiesPerSlot + r.1.activity = i ∧ r.1.schTblEntry = s.schTbl i
      | none => r.1.slot = tc.undefSchtblEntryVal ∧ r.1.activity = tc.undefSchtblEntryVal ∧
          r.1.schTblEntry =
            ⟨false, tc.undefSchtblEntryVal, tc.undefSchtblEntryVal, tc.undefSchtblEntryVal⟩ := by
  intro r
  have hr : r = sendTblEntryTlm cfg tc s pkt
      (schEntrySearch s.schTbl msgIndex tc.schtblMaxEntries tc.schtblMaxEntries 0).1 msgIndex
      (schEntrySearch s.schTbl msgIndex tc.schtblMaxEntries tc.schtblMaxEntries 0).2
      transmitted := by
    simp only [r, schedulerSendMsgEntryCmd, if_pos hi, if_neg ht]
  rw [hr, sendTblEntryTlm_snd, schEntrySearch_eq_find _ _ _ hmax]
  refine ⟨rfl, ?_⟩
  split <;> dsimp only
  · obtain ⟨h₁, h₂, h₃⟩ := sendTblEntryTlm_entry s pkt _ msgIndex transmitted
    exact ⟨by rw [h₁, h₂, Nat.mul_comm, Nat.div_add_mod], h₃⟩
  · exact sendTblEntryTlm_undef s pkt _ msgIndex transmitted

theorem sendMsgEntryCmd_reports_first_demo :
    1 ≤ demoTelemetry.schtblMaxEntries ∧ 0 < demoConfig.msgtblMaxEntries ∧
      demoTelemetry.msgType (demoMsgState.msgTbl 0) ≠ .invalid ∧
      (schedulerSendMsgEntryCmd demoConfig demoTelemetry demoMsgState zeroPkt 0 true).2 = true :=
  ⟨by decide, by decide, by decide, (sendMsgEntryCmd_reports_first demoConfig demoTelemetry
    (by decide) demoMsgState zeroPkt 0 true (by decide) (by decide)).1⟩

end KitSch
