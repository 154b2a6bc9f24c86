import GMediaRender.Runs
import Mathlib.Data.Int.Init
import Mathlib.Tactic.SplitIfs

/-!
The output module output_silan.c: the commands it sends to the player over a message
queue, the messages it receives, the infra-red keys and the watchdog of its main loop.
Each function takes the state of the module and returns the new one; what the
environment decides (whether msgsnd succeeds, when a reply arrives, the SPDIF lock) is an
argument.
-/
namespace GMediaRender.OutputSilan

/-- The commands that `output_silan_send_cmd` knows. -/
inductive Cmd where
  | slmpGetMute
  | slmpGetVolume
  | slmpGetTimePos
  | dmrGetTotalTime
  | spdifIn
  | setPadMux
  | slmpPlayUri
  | slmpPause
  | slmpStop
  | slmpSeek
  | slmpMute
  | slmpSetVolume
  deriving DecidableEq

/-- The bits of `silan_data.status`. -/
inductive StatusBit where
  | dataMute
  | dataVolume
  | dataDuration
  | dataPosition
  | spdifin
  | ampMute
  | ampPower
  deriving DecidableEq

/-- A call of `output_silan_send_cmd`, and whether msgsnd took the message. -/
structure SentCmd where
  cmd : Cmd
  param : ℤ
  data : Option String
  delivered : Bool
  deriving DecidableEq

/-- The pins written by the amplifier switches. -/
inductive Gpio where
  | ampMute
  | ampPower
  deriving DecidableEq

/-- `silan_data` with the records of the commands sent and the pins written. -/
structure SilanData where
  state : ℤ
  status : StatusBit → Bool
  uri : Option String
  uriNext : Option String
  mute : ℤ
  volume : ℤ
  duration : ℤ
  position : ℤ
  padmux : ℤ
  sent : List SentCmd
  gpio : List (Gpio × ℤ)

/-- How one send goes: the result of msgsnd, and the value of a reply with the number of
waits after which the receiver has stored it. -/
structure SendOutcome where
  msgsnd : Bool
  reply : Option (ℕ × ℤ)
  deriving DecidableEq

/-- The outcomes of the sends of one step; no step sends one command twice. -/
abbrev Env := Cmd → SendOutcome

def slmpStateStop : ℤ := 0
def slmpStatePause : ℤ := 1
def slmpStatePlay : ℤ := 2

def silanAutoPowerOff : ℕ := 300
def silanAutoSpdifin : ℕ := 120
def silanAmpUnmute : ℕ := 3
def silanRecvRetry : ℕ := 10

namespace SilanData

def setStatus (d : SilanData) (b : StatusBit) (v : Bool) : SilanData :=
  { d with status := Function.update d.status b v }

def record (d : SilanData) (c : SentCmd) : SilanData := { d with sent := d.sent ++ [c] }

def gpioWrite (d : SilanData) (num : Gpio) (value : ℤ) : SilanData :=
  { d with gpio := d.gpio ++ [(num, value)] }

/-- Store a value that was asked for and clear its bit, as the receiver does. -/
def storeData (d : SilanData) (b : StatusBit) (param : ℤ) : SilanData :=
  match b with
  | .dataMute => { d with mute := param }.setStatus .dataMute false
  | .dataVolume => { d with volume := param }.setStatus .dataVolume false
  | .dataDuration => { d with duration := param }.setStatus .dataDuration false
  | .dataPosition => { d with position := param }.setStatus .dataPosition false
  | _ => d

end SilanData

section Send

/-- The bit that the reply to a command clears. -/
def Cmd.bit : Cmd → Option StatusBit
  | slmpGetMute => some .dataMute
  | slmpGetVolume => some .dataVolume
  | slmpGetTimePos => some .dataPosition
  | dmrGetTotalTime => some .dataDuration
  | _ => none

/-- The reply that arrives during the wait with the given number. -/
def arrive (b : StatusBit) (reply : Option (ℕ × ℤ)) (cnt : ℕ) (d : SilanData) : SilanData :=
  match reply with
  | some (k, param) => if k = cnt then d.storeData b param else d
  | none => d

/-- The waiting loop with so many waits left; returns the number of waits made. -/
def waitData (b : StatusBit) (reply : Option (ℕ × ℤ)) : ℕ → ℕ → SilanData → SilanData × ℕ
  | 0, cnt, d => (d, cnt)
  | left + 1, cnt, d =>
    if d.status b then waitData b reply left (cnt + 1) (arrive b reply (cnt + 1) d)
    else (d, cnt)

/-- What a call of `output_silan_send_cmd` leaves and returns, and how often it waited. -/
structure SendResult where
  data : SilanData
  rc : ℤ
  waits : ℕ

/-- `output_silan_send_cmd` with SILAN_RECV_RETRY as an argument. -/
def sendCmdRetry (retry : ℕ) (env : Env) (d : SilanData) (cmd : Cmd) (param : ℤ)
    (data : Option String) : SendResult :=
  let d := match cmd.bit with
    | some b => d.setStatus b true
    | none => d
  let d := d.record ⟨cmd, param, data, (env cmd).msgsnd⟩
  if (env cmd).msgsnd then
    match cmd.bit with
    | some b =>
      let r := waitData b (env cmd).reply retry 0 (arrive b (env cmd).reply 0 d)
      ⟨r.1, if r.2 ≥ retry then -1 else 0, r.2⟩
    | none => ⟨d, 0, 0⟩
  else ⟨d, -1, 0⟩

/-- `output_silan_send_cmd` -/
def outputSilanSendCmd (env : Env) (d : SilanData) (cmd : Cmd) (param : ℤ)
    (data : Option String) : SilanData × ℤ :=
  let r := sendCmdRetry silanRecvRetry env d cmd param data
  (r.data, r.rc)

@[simp] theorem setStatus_status (d : SilanData) (b : StatusBit) (v : Bool) :
    (d.setStatus b v).status = Function.update d.status b v := rfl

/-- A command without a data bit is recorded, and that is all. -/
theorem sendCmd_of_bit_none (env : Env) (d : SilanData) (cmd : Cmd) (param : ℤ)
    (data : Option String) (h : cmd.bit = none) :
    outputSilanSendCmd env d cmd param data =
      (d.record ⟨cmd, param, data, (env cmd).msgsnd⟩, if (env cmd).msgsnd then 0 else -1) := by
  unfold outputSilanSendCmd sendCmdRetry
  rw [h]
  split_ifs <;> rfl

/-- A command with a data bit is recorded with the bit set, and waits for the reply if it has been
sent. -/
theorem sendCmd_of_bit (env : Env) (d : SilanData) (cmd : Cmd) (param : ℤ) (data : Option String)
    {b : StatusBit} (h : cmd.bit = some b) :
    outputSilanSendCmd env d cmd param data =
      let asked := (d.setStatus b true).record ⟨cmd, param, data, (env cmd).msgsnd⟩
      let r := waitData b (env cmd).reply silanRecvRetry 0 (arrive b (env cmd).reply 0 asked)
      if (env cmd).msgsnd then (r.1, if r.2 ≥ silanRecvRetry then -1 else 0) else (asked, -1) := by
  unfold outputSilanSendCmd sendCmdRetry
  rw [h]
  by_cases hsnd : (env cmd).msgsnd = true
  · simp only [hsnd, if_true]
  · simp only [hsnd, Bool.false_eq_true, if_false]

theorem waitData_of_clear (b : StatusBit) (reply : Option (ℕ × ℤ)) (left cnt : ℕ)
    (d : SilanData) (h : d.status b = false) : waitData b reply left cnt d = (d, cnt) := by
  cases left with
  | zero => rfl
  | succ left => simp [waitData, h]

/-- A reply clears the bit that was waited for. -/
theorem storeData_status {cmd : Cmd} {b : StatusBit} (hbit : cmd.bit = some b) (d : SilanData)
    (param : ℤ) : (d.storeData b param).status b = false := by
  cases cmd <;> cases hbit <;> simp [SilanData.storeData]

/-- The loop waits for the reply, or as often as it may. -/
theorem waitData_eq {cmd : Cmd} {b : StatusBit} (hbit : cmd.bit = some b)
    (reply : Option (ℕ × ℤ)) (left cnt : ℕ) (d : SilanData) (h : d.status b = true) :
    waitData b reply left cnt d =
      match reply with
      | some (k, p) =>
        if cnt < k ∧ k ≤ cnt + left then (d.storeData b p, k) else (d, cnt + left)
      | none => (d, cnt + left) := by
  induction left generalizing cnt with
  | zero =>
    cases reply with
    | none => rfl
    | some r =>
      have hrange : ¬ (cnt < r.1 ∧ r.1 ≤ cnt) := by omega
      simp only [waitData, Nat.add_zero, if_neg hrange]
  | succ left ih =>
    have hcnt : cnt + 1 + left = cnt + (left + 1) := by omega
    rw [waitData, if_pos h]
    cases reply with
    | none => rw [← hcnt]; exact ih (cnt + 1)
    | some r =>
      by_cases hk : r.1 = cnt + 1
      · have hrange : cnt < r.1 ∧ r.1 ≤ cnt + (left + 1) := by omega
        have hclear := storeData_status hbit d r.2
        simp only [arrive, hk, if_true] at hrange ⊢
        rw [waitData_of_clear _ _ _ _ _ hclear, if_pos hrange]
      · have harrive : arrive b (some r) (cnt + 1) d = d := by
          simp [arrive, hk]
        rw [harrive, ih (cnt + 1)]
        have hiff : (cnt + 1 < r.1 ∧ r.1 ≤ cnt + 1 + left) ↔
            (cnt < r.1 ∧ r.1 ≤ cnt + (left + 1)) := by omega
        simp only [hiff]
        rw [hcnt]

/-- The reply to a request for the position, if it arrives in time. -/
def positionReply (env : Env) : Option ℤ :=
  if (env .slmpGetTimePos).msgsnd then
    match (env .slmpGetTimePos).reply with
    | some (k, p) => if k ≤ silanRecvRetry then some p else none
    | none => none
  else none

/-- What a request for the position does: the reply counts if it comes in time. -/
theorem sendCmd_position (env : Env) (d : SilanData) :
    (outputSilanSendCmd env d .slmpGetTimePos 0 none).1 =
      let asked := (d.setStatus .dataPosition true).record
        ⟨.slmpGetTimePos, 0, none, (env .slmpGetTimePos).msgsnd⟩
      match positionReply env with
      | some p => asked.storeData .dataPosition p
      | none => asked := by
  have hset : ((d.setStatus .dataPosition true).record
      ⟨.slmpGetTimePos, 0, none, (env .slmpGetTimePos).msgsnd⟩).status .dataPosition = true := by
    simp [SilanData.record]
  have hbit : Cmd.slmpGetTimePos.bit = some .dataPosition := rfl
  rw [sendCmd_of_bit env d .slmpGetTimePos 0 none hbit, positionReply]
  by_cases hsnd : (env .slmpGetTimePos).msgsnd = true
  · rw [if_pos hsnd, if_pos hsnd]
    cases hreply : (env .slmpGetTimePos).reply with
    | none =>
      simp only [arrive, waitData_eq hbit _ _ _ _ hset]
    | some r =>
      by_cases hzero : r.1 = 0
      · simp only [arrive, hzero, if_true, Nat.zero_le]
        rw [waitData_of_clear _ _ _ _ _ (storeData_status hbit _ r.2)]
      · simp only [arrive, hzero, if_false]
        rw [waitData_eq hbit _ _ _ _ hset]
        have hiff : (0 < r.1 ∧ r.1 ≤ 0 + silanRecvRetry) ↔ r.1 ≤ silanRecvRetry := by omega
        simp only [hiff]
        split_ifs <;> rfl
  · rw [if_neg hsnd, if_neg hsnd]

end Send

section Commands

variable (env : Env) (d : SilanData)

/-- `output_silan_set_spdifin` -/
def outputSilanSetSpdifin : SilanData :=
  if d.status .spdifin then d
  else
    let d := d.setStatus .spdifin true
    let d := (outputSilanSendCmd env d .setPadMux d.padmux none).1
    (outputSilanSendCmd env d .spdifIn 0 none).1

/-- The URI as it is kept: an empty one counts as none. -/
def nonEmpty (uri : String) : Option String := if uri = "" then none else some uri

theorem nonEmpty_eq_some {uri v : String} : nonEmpty uri = some v ↔ uri = v ∧ v ≠ "" := by
  unfold nonEmpty
  split_ifs with h
  · simp only [false_iff, not_and, not_not]
    exact fun hv => hv ▸ h
  · simp only [Option.some.injEq, iff_self_and]
    exact fun hv => hv ▸ h

def outputSilanSetUri (uri : String) : SilanData := { d with uri := nonEmpty uri }

def outputSilanSetNextUri (uri : String) : SilanData := { d with uriNext := nonEmpty uri }

/-- `output_silan_play`: a URI that was set is played and given up, else playing resumes. -/
def outputSilanPlay : SilanData × ℤ :=
  match d.uri with
  | some uri =>
    let d := { d.setStatus .spdifin false with duration := 0, position := 0 }
    let r := outputSilanSendCmd env d .slmpPlayUri 0 (some uri)
    ({ r.1 with uri := none }, r.2)
  | none =>
    if d.state = slmpStatePause then outputSilanSendCmd env d .slmpPause 0 none
    else (d, -1)

def outputSilanStop : SilanData × ℤ := outputSilanSendCmd env d .slmpStop 0 none

def outputSilanPause : SilanData × ℤ := outputSilanSendCmd env d .slmpPause 0 none

theorem outputSilanStop_eq : outputSilanStop env d =
    (d.record ⟨.slmpStop, 0, none, (env .slmpStop).msgsnd⟩,
      if (env .slmpStop).msgsnd then 0 else -1) :=
  sendCmd_of_bit_none env d .slmpStop 0 none rfl

theorem outputSilanPause_eq : outputSilanPause env d =
    (d.record ⟨.slmpPause, 0, none, (env .slmpPause).msgsnd⟩,
      if (env .slmpPause).msgsnd then 0 else -1) :=
  sendCmd_of_bit_none env d .slmpPause 0 none rfl

/-- The module after it has given up its URI to play it. -/
def playedUri (uri : String) (ok : Bool) : SilanData :=
  { (d.setStatus .spdifin false).record ⟨.slmpPlayUri, 0, some uri, ok⟩ with
    uri := none, duration := 0, position := 0 }

theorem outputSilanPlay_some (uri : String) (h : d.uri = some uri) : outputSilanPlay env d =
    (playedUri d uri (env .slmpPlayUri).msgsnd, if (env .slmpPlayUri).msgsnd then 0 else -1) := by
  simp only [outputSilanPlay, h]
  rw [sendCmd_of_bit_none _ _ .slmpPlayUri 0 _ rfl]
  rfl

theorem outputSilanPlay_none (h : d.uri = none) : outputSilanPlay env d =
    if d.state = slmpStatePause then outputSilanPause env d else (d, -1) := by
  simp only [outputSilanPlay, h]
  rfl

def outputSilanSeek (position : ℤ) : SilanData × ℤ :=
  outputSilanSendCmd env d .slmpSeek position none

theorem outputSilanSeek_eq (position : ℤ) : outputSilanSeek env d position =
    (d.record ⟨.slmpSeek, position, none, (env .slmpSeek).msgsnd⟩,
      if (env .slmpSeek).msgsnd then 0 else -1) :=
  sendCmd_of_bit_none env d .slmpSeek position none rfl

/-- `output_silan_get_position`: the data as they are, whether or not the player answered. -/
def outputSilanGetPosition : SilanData × ℤ × ℤ :=
  let d := (outputSilanSendCmd env d .slmpGetTimePos 0 none).1
  (d, d.duration, d.position)

def outputSilanSetVolume (v : ℤ) : SilanData × ℤ :=
  outputSilanSendCmd env { d with mute := 0, volume := v } .slmpSetVolume v none

/-- `output_silan_set_mute`: the player is told of a change only. -/
def outputSilanSetMute (m : ℤ) : SilanData × ℤ :=
  let r := if (m == 0) != (d.mute == 0) then outputSilanSendCmd env d .slmpMute m none else (d, 0)
  ({ r.1 with mute := m }, r.2)

def outputSilanSetAmpMute (m : Bool) : SilanData :=
  (if m ≠ d.status .ampMute then d.gpioWrite .ampMute (if m then 1 else 0) else d).setStatus
    .ampMute m

def outputSilanSetAmpPower (m : Bool) : SilanData :=
  (if m ≠ d.status .ampPower
    then (outputSilanSetAmpMute d true).gpioWrite .ampPower (if m then 0 else 1)
    else d).setStatus .ampPower m

end Commands

section Receive

/-- The feedback passed to the transport callback. -/
inductive PlayFeedback where
  | playStopped
  | playStartedNextStream
  deriving DecidableEq

/-- The commands of received messages. -/
inductive MsgCmd where
  | slmpGetMute
  | slmpGetVolume
  | slmpSetTimePos
  | slmpSetTotalTime
  | slmpPlayState
  | other (code : ℕ)
  deriving DecidableEq

structure Message where
  des : ℕ
  cmd : MsgCmd
  param : ℤ
  deriving DecidableEq

def swaSignalUi : ℕ := 2

/-- What `output_silan_recv_cmd` stores of a message that is for this process. -/
def storeMessage (d : SilanData) (m : Message) : SilanData :=
  match m.cmd with
  | .slmpGetMute => d.storeData .dataMute m.param
  | .slmpGetVolume => d.storeData .dataVolume m.param
  | .slmpSetTimePos => d.storeData .dataPosition m.param
  | .slmpSetTotalTime => d.storeData .dataDuration m.param
  | .slmpPlayState => { d with state := m.param }
  | .other _ => d

/-- The end-of-stream test after a CMD_SlmpPlayState has been stored. -/
def endOfStream (d : SilanData) : Bool :=
  d.state = slmpStateStop && d.duration ≠ 0 && d.position = d.duration

/-- The queued next URI becomes the current one. -/
def takeNext (d : SilanData) : SilanData := { d with uri := d.uriNext, uriNext := none }

/-- The rest of the end-of-stream branch, and the feedback for the callback. -/
def finishStream (env : Env) (d : SilanData) : SilanData × PlayFeedback :=
  match d.uriNext with
  | some uri =>
    ((outputSilanSendCmd env (takeNext d) .slmpPlayUri 0 (some uri)).1, .playStartedNextStream)
  | none => (d, .playStopped)

/-- One round of `output_silan_recv_cmd`, with the feedback for the transport callback. -/
def outputSilanRecvCmd (env : Env) (d : SilanData) (m : Message) :
    SilanData × Option PlayFeedback :=
  if m.des ≠ swaSignalUi then (d, none)
  else
    let d := storeMessage d m
    if m.cmd = .slmpPlayState && endOfStream d
    then ((finishStream env d).1, some (finishStream env d).2)
    else (d, none)

end Receive

section Loop

/-- The counters of `output_silan_loop`. -/
structure Counters where
  cntStop : ℕ
  cntUnlock : ℕ
  cntMute : ℕ
  deriving DecidableEq

/-- The watchdog while the output plays SPDIF; `lock` is the reading of the lock, if any. -/
def watchSpdifin (c : Counters) (d : SilanData) (lock : Option ℤ) : Counters × SilanData :=
  if lock.any (· ≠ 0) then
    if d.status .ampPower then ({ c with cntUnlock := 0 }, d)
    else ({ c with cntUnlock := 0, cntMute := 0 }, outputSilanSetAmpPower d true)
  else if c.cntUnlock < silanAutoPowerOff then ({ c with cntUnlock := c.cntUnlock + 1 }, d)
  else if c.cntUnlock = silanAutoPowerOff then
    ({ c with cntUnlock := c.cntUnlock + 1 },
      if d.status .ampPower then outputSilanSetAmpPower d false else d)
  else (c, d)

/-- The watchdog while the output plays streams. -/
def watchPlayer (env : Env) (c : Counters) (d : SilanData) : Counters × SilanData :=
  if d.state = slmpStatePlay then
    if d.status .ampPower then ({ c with cntStop := 0 }, d)
    else ({ c with cntStop := 0, cntMute := 0 }, outputSilanSetAmpPower d true)
  else if c.cntStop < silanAutoSpdifin then ({ c with cntStop := c.cntStop + 1 }, d)
  else if c.cntStop = silanAutoSpdifin then
    ({ c with cntStop := c.cntStop + 1 }, outputSilanSetSpdifin env d)
  else (c, d)

/-- The delayed unmuting of a powered amplifier. -/
def watchAmpMute (c : Counters) (d : SilanData) : Counters × SilanData :=
  if d.status .ampPower && d.status .ampMute then
    if c.cntMute < silanAmpUnmute then ({ c with cntMute := c.cntMute + 1 }, d)
    else if c.cntMute = silanAmpUnmute then
      ({ c with cntMute := c.cntMute + 1 }, outputSilanSetAmpMute d false)
    else (c, d)
  else (c, d)

/-- A pass of `output_silan_loop` without a key. -/
def idlePass (env : Env) (c : Counters) (d : SilanData) (lock : Option ℤ) :
    Counters × SilanData :=
  let r := if d.status .spdifin then watchSpdifin c d lock else watchPlayer env c d
  watchAmpMute r.1 r.2

/-- The volume that `output_silan_volume_change` asks for. -/
def volumeChange (volume dir : ℤ) : ℤ :=
  let dir := if volume > 50 then dir * 5 else if volume > 20 then dir * 4
    else if volume > 10 then dir * 2 else dir
  max 0 (min 100 (volume + dir))

end Loop

/-- `output_silan_init` with the numbers read from the files. -/
def outputSilanInit (env : Env) (padmux volume mute : ℤ) : SilanData :=
  let d : SilanData := ⟨slmpStateStop, fun _ => false, none, none, mute, volume, 0, 0, padmux,
    [], []⟩
  outputSilanSetSpdifin env (outputSilanSetAmpPower d true)

end GMediaRender.OutputSilan
