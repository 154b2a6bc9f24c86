import GMediaRender.RendererSystem
import GMediaRender.Unwinding

/-!
The AVTransport service, the RenderingControl service and the watchdog share one output module.
What each of them holds of it, the commands it has sent to the player and the answers of its
actions are what they would be without the others, except that the watchdog goes by what the
transport plays. The events are handled one after another: `output_silan_send_cmd` sets its bit
of `status` under no mutex, and two that run at once could lose one.
-/
namespace GMediaRender.ServiceIsolation

open XmlDoc StateVariables ActionRequest OutputSilan UpnpTime UpnpTransport UpnpControl
  RendererSystem Runs Unwinding

section Parts

inductive Part where
  | avTransport
  | renderingControl
  | watchdog
  deriving DecidableEq

/-- Nobody asks the player for volume or mute, but it may tell them. -/
def MsgCmd.part : MsgCmd → Part
  | .slmpGetMute | .slmpGetVolume => .renderingControl
  | _ => .avTransport

def Event.part : Event → Part
  | .action (.transport _) _ _ => .avTransport
  | .action (.control _) _ _ => .renderingControl
  | .key .radio _ => .avTransport
  | .key _ _ => .renderingControl
  | .message m _ => MsgCmd.part m.cmd
  | .idlePass _ _ => .watchdog

def sharing : Policy Event Part where
  party := Event.part
  acts p q := p = q || (p = .avTransport && q = .watchdog)
  acts_self p := by simp

def Cmd.part : Cmd → Part
  | .slmpGetMute | .slmpGetVolume | .slmpMute | .slmpSetVolume => .renderingControl
  | .spdifIn | .setPadMux => .watchdog
  | _ => .avTransport

/-- The commands of a part, in the order in which they were sent. -/
def sentBy (p : Part) (d : SilanData) : List SentCmd := d.sent.filter fun c => Cmd.part c.cmd = p

/-- What the streams need of the output module. -/
structure Streams where
  state : ℤ
  uri : Option String
  uriNext : Option String
  duration : ℤ
  position : ℤ
  sent : List SentCmd

structure Levels where
  mute : ℤ
  volume : ℤ
  sent : List SentCmd

/-- The choice of the input and the amplifier. -/
structure Inputs where
  spdifin : Bool
  ampMute : Bool
  ampPower : Bool
  padmux : ℤ
  gpio : List (Gpio × ℤ)
  sent : List SentCmd

def streams (d : SilanData) : Streams :=
  ⟨d.state, d.uri, d.uriNext, d.duration, d.position, sentBy .avTransport d⟩

def levels (d : SilanData) : Levels := ⟨d.mute, d.volume, sentBy .renderingControl d⟩

def inputs (d : SilanData) : Inputs :=
  ⟨d.status .spdifin, d.status .ampMute, d.status .ampPower, d.padmux, d.gpio,
    sentBy .watchdog d⟩

abbrev View : Part → Type
  | .avTransport => TransportState × Store TransportVar × Streams
  | .renderingControl => Store ControlVar × Levels
  | .watchdog => (TransportState × Store TransportVar × Streams) × Inputs × Counters

def view : (p : Part) → Renderer → View p
  | .avTransport, s => (s.transport.transportState, s.transport.vars, streams s.silan)
  | .renderingControl, s => (s.control, levels s.silan)
  | .watchdog, s =>
    ((s.transport.transportState, s.transport.vars, streams s.silan), inputs s.silan, s.counters)

/-- The event and the return code of an action. -/
def answer (s : Renderer) : Event → Option (ActionEvent × ℤ)
  | .action a doc env => some ((s.handleAction a doc env).event, (s.handleAction a doc env).rc)
  | _ => none

end Parts

section Output

theorem sentBy_record (p : Part) (d : SilanData) (c : SentCmd) :
    sentBy p (d.record c) = if Cmd.part c.cmd = p then sentBy p d ++ [c] else sentBy p d := by
  simp only [sentBy, SilanData.record, List.filter_append]
  split_ifs with hpart <;> simp [hpart]

theorem streams_record (d : SilanData) (c : SentCmd) : streams (d.record c) =
    if Cmd.part c.cmd = .avTransport then { streams d with sent := (streams d).sent ++ [c] }
    else streams d := by
  simp only [streams, sentBy_record]
  split_ifs <;> rfl

theorem levels_record (d : SilanData) (c : SentCmd) : levels (d.record c) =
    if Cmd.part c.cmd = .renderingControl then { levels d with sent := (levels d).sent ++ [c] }
    else levels d := by
  simp only [levels, sentBy_record]
  split_ifs <;> rfl

theorem inputs_record (d : SilanData) (c : SentCmd) : inputs (d.record c) =
    if Cmd.part c.cmd = .watchdog then { inputs d with sent := (inputs d).sent ++ [c] }
    else inputs d := by
  simp only [inputs, sentBy_record]
  split_ifs <;> rfl

/-- Two states of the output module with the same streams, and the same inputs if they are
watched; the levels of the first are the ones given. -/
structure Related (watched : Prop) (l : Levels) (d d' : SilanData) : Prop where
  streams_eq : streams d = streams d'
  inputs_eq : watched → inputs d = inputs d'
  levels_eq : levels d = l

variable {watched : Prop} {l : Levels} {d d' : SilanData}

theorem Related.record (h : Related watched l d d') (c : SentCmd)
    (hc : Cmd.part c.cmd ≠ .renderingControl) :
    Related watched l (d.record c) (d'.record c) where
  streams_eq := by rw [streams_record, streams_record, h.streams_eq]
  inputs_eq hw := by rw [inputs_record, inputs_record, h.inputs_eq hw]
  levels_eq := by rw [levels_record, if_neg hc, h.levels_eq]

theorem Related.setSpdifin (h : Related watched l d d') (v : Bool) :
    Related watched l (d.setStatus .spdifin v) (d'.setStatus .spdifin v) where
  streams_eq := h.streams_eq
  inputs_eq hw := congrArg (fun i : Inputs => { i with spdifin := v }) (h.inputs_eq hw)
  levels_eq := h.levels_eq

theorem Related.uri (h : Related watched l d d') : d.uri = d'.uri :=
  congrArg Streams.uri h.streams_eq

theorem Related.uriNext (h : Related watched l d d') : d.uriNext = d'.uriNext :=
  congrArg Streams.uriNext h.streams_eq

theorem Related.state (h : Related watched l d d') : d.state = d'.state :=
  congrArg Streams.state h.streams_eq

theorem Related.times (h : Related watched l d d') :
    d.duration = d'.duration ∧ d.position = d'.position :=
  ⟨congrArg Streams.duration h.streams_eq, congrArg Streams.position h.streams_eq⟩

/-- The values of the streams are the same after the same change. -/
theorem Related.change (h : Related watched l d d') (f : SilanData → SilanData)
    (g : Streams → Streams) (hstreams : ∀ d, streams (f d) = g (streams d))
    (hinputs : ∀ d, inputs (f d) = inputs d)
    (hlevels : ∀ d, levels (f d) = levels d) :
    Related watched l (f d) (f d') where
  streams_eq := by rw [hstreams, hstreams, h.streams_eq]
  inputs_eq hw := by rw [hinputs, hinputs, h.inputs_eq hw]
  levels_eq := by rw [hlevels, h.levels_eq]

theorem Related.setUri (h : Related watched l d d') (uri : Option String) :
    Related watched l { d with uri := uri } { d' with uri := uri } :=
  h.change (fun d => { d with uri := uri }) (fun s => { s with uri := uri }) (fun _ => rfl)
    (fun _ => rfl) fun _ => rfl

theorem Related.setUriNext (h : Related watched l d d') (uri : Option String) :
    Related watched l { d with uriNext := uri } { d' with uriNext := uri } :=
  h.change (fun d => { d with uriNext := uri }) (fun s => { s with uriNext := uri }) (fun _ => rfl)
    (fun _ => rfl) fun _ => rfl

theorem Related.setTimes (h : Related watched l d d') (duration position : ℤ) :
    Related watched l { d with duration := duration, position := position }
      { d' with duration := duration, position := position } :=
  h.change (fun d => { d with duration := duration, position := position })
    (fun s => { s with duration := duration, position := position }) (fun _ => rfl) (fun _ => rfl)
    fun _ => rfl

theorem Related.setState (h : Related watched l d d') (state : ℤ) :
    Related watched l { d with state := state } { d' with state := state } :=
  h.change (fun d => { d with state := state }) (fun s => { s with state := state }) (fun _ => rfl)
    (fun _ => rfl) fun _ => rfl

/-- The bits for position and duration are nobody's. -/
theorem Related.setData (h : Related watched l d d') (b : StatusBit)
    (hb : b = .dataPosition ∨ b = .dataDuration) (v : Bool) :
    Related watched l (d.setStatus b v) (d'.setStatus b v) := by
  refine h.change (fun d => d.setStatus b v) id (fun _ => rfl) (fun d => ?_) fun _ => rfl
  rcases hb with rfl | rfl <;> rfl

theorem Related.storePosition (h : Related watched l d d') (param : ℤ) :
    Related watched l (d.storeData .dataPosition param) (d'.storeData .dataPosition param) :=
  (h.change (fun d => { d with position := param }) (fun s => { s with position := param })
    (fun _ => rfl) (fun _ => rfl) fun _ => rfl).setData .dataPosition (Or.inl rfl) false

theorem Related.storeDuration (h : Related watched l d d') (param : ℤ) :
    Related watched l (d.storeData .dataDuration param) (d'.storeData .dataDuration param) :=
  (h.change (fun d => { d with duration := param }) (fun s => { s with duration := param })
    (fun _ => rfl) (fun _ => rfl) fun _ => rfl).setData .dataDuration (Or.inr rfl) false

end Output

section Calls

variable {watched : Prop} {l : Levels} {d d' : SilanData} (env : Env)

/-- A command without an answer goes out as it is, whatever else the output module does. -/
theorem Related.send (h : Related watched l d d') (cmd : Cmd) (param : ℤ) (data : Option String)
    (hbit : cmd.bit = none) (hc : Cmd.part cmd ≠ .renderingControl) :
    Related watched l (outputSilanSendCmd env d cmd param data).1
        (outputSilanSendCmd env d' cmd param data).1 ∧
      (outputSilanSendCmd env d cmd param data).2 =
        (outputSilanSendCmd env d' cmd param data).2 := by
  rw [sendCmd_of_bit_none env d cmd param data hbit, sendCmd_of_bit_none env d' cmd param data hbit]
  exact ⟨h.record _ hc, rfl⟩

theorem Related.getPosition (h : Related watched l d d') :
    Related watched l (outputSilanGetPosition env d).1 (outputSilanGetPosition env d').1 ∧
      (outputSilanGetPosition env d).2 = (outputSilanGetPosition env d').2 := by
  have hrelated : Related watched l (outputSilanGetPosition env d).1
      (outputSilanGetPosition env d').1 := by
    have hasked := (h.setData .dataPosition (Or.inl rfl) true).record
      ⟨.slmpGetTimePos, 0, none, (env .slmpGetTimePos).msgsnd⟩ nofun
    simp only [outputSilanGetPosition, sendCmd_position]
    cases positionReply env with
    | none => exact hasked
    | some p => exact hasked.storePosition p
  obtain ⟨hduration, hposition⟩ := hrelated.times
  exact ⟨hrelated, Prod.ext hduration hposition⟩

theorem Related.play (h : Related watched l d d') :
    Related watched l (outputSilanPlay env d).1 (outputSilanPlay env d').1 ∧
      (outputSilanPlay env d).2 = (outputSilanPlay env d').2 := by
  cases huri : d.uri with
  | some uri =>
    rw [outputSilanPlay_some env d uri huri, outputSilanPlay_some env d' uri (h.uri ▸ huri)]
    have hsent := (h.setSpdifin false).record
      ⟨.slmpPlayUri, 0, some uri, (env .slmpPlayUri).msgsnd⟩ nofun
    exact ⟨(hsent.setUri none).setTimes 0 0, rfl⟩
  | none =>
    rw [outputSilanPlay_none env d huri, outputSilanPlay_none env d' (h.uri ▸ huri), ← h.state]
    split_ifs
    · exact h.send env .slmpPause 0 none rfl (by decide)
    · exact ⟨h, rfl⟩

theorem streams_setSpdifin (d : SilanData) : streams (outputSilanSetSpdifin env d) = streams d := by
  unfold outputSilanSetSpdifin
  split_ifs
  · rfl
  · simp only [sendCmd_of_bit_none env _ .setPadMux _ none rfl,
      sendCmd_of_bit_none env _ .spdifIn _ none rfl, streams_record]
    rfl

theorem levels_setSpdifin (d : SilanData) : levels (outputSilanSetSpdifin env d) = levels d := by
  unfold outputSilanSetSpdifin
  split_ifs
  · rfl
  · simp only [sendCmd_of_bit_none env _ .setPadMux _ none rfl,
      sendCmd_of_bit_none env _ .spdifIn _ none rfl, levels_record]
    rfl

theorem inputs_setSpdifin (h : inputs d = inputs d') :
    inputs (outputSilanSetSpdifin env d) = inputs (outputSilanSetSpdifin env d') := by
  have hspdifin : d.status .spdifin = d'.status .spdifin := congrArg Inputs.spdifin h
  have hpadmux : d.padmux = d'.padmux := congrArg Inputs.padmux h
  have hset : inputs (d.setStatus .spdifin true) = inputs (d'.setStatus .spdifin true) :=
    congrArg (fun i : Inputs => { i with spdifin := true }) h
  unfold outputSilanSetSpdifin
  rw [hspdifin]
  split_ifs
  · exact h
  · simp only [sendCmd_of_bit_none env _ .setPadMux _ none rfl,
      sendCmd_of_bit_none env _ .spdifIn _ none rfl, inputs_record, hset]
    simp only [SilanData.setStatus, hpadmux]

theorem Related.toSpdifin (h : Related watched l d d') :
    Related watched l (outputSilanSetSpdifin env d) (outputSilanSetSpdifin env d') where
  streams_eq := by rw [streams_setSpdifin, streams_setSpdifin, h.streams_eq]
  inputs_eq hw := inputs_setSpdifin env (h.inputs_eq hw)
  levels_eq := by rw [levels_setSpdifin, h.levels_eq]

theorem Related.storeMessage (h : Related watched l d d') (m : Message)
    (hm : MsgCmd.part m.cmd = .avTransport) :
    Related watched l (storeMessage d m) (storeMessage d' m) := by
  obtain ⟨des, cmd, param⟩ := m
  cases cmd with
  | slmpGetMute => nomatch hm
  | slmpGetVolume => nomatch hm
  | slmpSetTimePos => exact h.storePosition param
  | slmpSetTotalTime => exact h.storeDuration param
  | slmpPlayState => exact h.setState param
  | other code => exact h

theorem Related.finishStream (h : Related watched l d d') :
    Related watched l (finishStream env d).1 (finishStream env d').1 ∧
      (finishStream env d).2 = (finishStream env d').2 := by
  unfold OutputSilan.finishStream
  rw [← h.uriNext]
  cases hnext : d.uriNext with
  | none => exact ⟨h, rfl⟩
  | some uri =>
    have htaken : Related watched l (takeNext d) (takeNext d') := by
      unfold takeNext
      rw [← h.uriNext]
      exact (h.setUri d.uriNext).setUriNext none
    exact ⟨(htaken.send env .slmpPlayUri 0 (some uri) rfl (by decide)).1, rfl⟩

theorem Related.recvCmd (h : Related watched l d d') (m : Message)
    (hm : MsgCmd.part m.cmd = .avTransport) :
    Related watched l (outputSilanRecvCmd env d m).1 (outputSilanRecvCmd env d' m).1 ∧
      (outputSilanRecvCmd env d m).2 = (outputSilanRecvCmd env d' m).2 := by
  have hstored := h.storeMessage m hm
  obtain ⟨hduration, hposition⟩ := hstored.times
  have hended : endOfStream (OutputSilan.storeMessage d m) =
      endOfStream (OutputSilan.storeMessage d' m) := by
    rw [endOfStream, endOfStream, hstored.state, hduration, hposition]
  unfold outputSilanRecvCmd
  simp only [hended]
  split_ifs
  · exact ⟨h, rfl⟩
  · obtain ⟨hrelated, hfeedback⟩ := hstored.finishStream env
    exact ⟨hrelated, congrArg some hfeedback⟩
  · exact ⟨hstored, rfl⟩

end Calls

section Transport

/-- Two states of the AVTransport service that differ at most in what is not its own. -/
structure Agree (watched : Prop) (l : Levels) (s t : AvTransport) : Prop where
  transportState : s.transportState = t.transportState
  vars : s.vars = t.vars
  silan : Related watched l s.silan t.silan

structure Answered (watched : Prop) (l : Levels) (r r' : Handled AvTransport) : Prop where
  event : r.event = r'.event
  rc : r.rc = r'.rc
  state : Agree watched l r.state r'.state

variable {watched : Prop} {l : Levels} {s t : AvTransport} (env : Env) (e : ActionEvent)

theorem withInstanceid_answered (h : Agree watched l s t)
    {body body' : ActionEvent → Handled AvTransport}
    (hbody : ∀ e, Answered watched l (body e) (body' e)) :
    Answered watched l (withInstanceid s e body) (withInstanceid t e body') := by
  unfold withInstanceid
  rcases obtainInstanceid e with ⟨e', _ | _⟩
  · exact ⟨rfl, rfl, h⟩
  · exact hbody e'

theorem reportVariables_answered (h : Agree watched l s t) (vs : List (TransportVar × String)) :
    Answered watched l (reportVariables s e vs) (reportVariables t e vs) :=
  withInstanceid_answered e h fun e => ⟨by simp only [h.vars], rfl, h⟩

theorem Agree.changeTransportState (h : Agree watched l s t) (new : TransportState)
    (hnew : new ≠ .noMediaPresent) :
    Agree watched l (changeTransportState s new hnew) (changeTransportState t new hnew) where
  transportState := rfl
  vars := by simp only [UpnpTransport.changeTransportState, h.vars]
  silan := h.silan

theorem Agree.setVars (h : Agree watched l s t) {v w : Store TransportVar} (hvw : v = w) :
    Agree watched l { s with vars := v } { t with vars := w } :=
  ⟨h.transportState, hvw, h.silan⟩

theorem Agree.setSilan (h : Agree watched l s t) {d d' : SilanData} (hd : Related watched l d d') :
    Agree watched l { s with silan := d } { t with silan := d' } :=
  ⟨h.transportState, h.vars, hd⟩

theorem transitionNa_eq (h : Agree watched l s t) (action : String) :
    transitionNa s e action = transitionNa t e action := by
  simp only [transitionNa, h.vars]

theorem setAvtransportUri_answered (h : Agree watched l s t) :
    Answered watched l (setAvtransportUri s e) (setAvtransportUri t e) := by
  refine withInstanceid_answered e h fun e => ?_
  rcases upnpGetString e "CurrentURI" with ⟨e', _ | uri⟩
  · exact ⟨rfl, rfl, h⟩
  · have hset := h.setSilan (h.silan.setUri (nonEmpty uri))
    exact ⟨rfl, rfl, hset.setVars (by simp only [h.vars, h.transportState])⟩

theorem setNextAvtransportUri_answered (h : Agree watched l s t) :
    Answered watched l (setNextAvtransportUri s e) (setNextAvtransportUri t e) := by
  refine withInstanceid_answered e h fun e => ?_
  rcases upnpGetString e "NextURI" with ⟨e', _ | uri⟩
  · exact ⟨rfl, rfl, h⟩
  · have hset := h.setSilan (h.silan.setUriNext (nonEmpty uri))
    simp only
    rcases upnpGetString e' "NextURIMetaData" with ⟨e'', _ | metadata⟩
    · exact ⟨rfl, rfl, hset.setVars (by simp only [h.vars])⟩
    · exact ⟨rfl, rfl, hset.setVars (by simp only [h.vars])⟩

theorem getPositionInfo_answered (h : Agree watched l s t) :
    Answered watched l (getPositionInfo env s e) (getPositionInfo env t e) := by
  refine withInstanceid_answered e h fun e => ?_
  obtain ⟨hrelated, htimes⟩ := h.silan.getPosition env
  have hupdated : Agree watched l (updateTrackTime env s) (updateTrackTime env t) :=
    (h.setSilan hrelated).setVars (by simp only [htimes, h.vars])
  exact ⟨by simp only [hupdated.vars], rfl, hupdated⟩

theorem stop_answered (h : Agree watched l s t) :
    Answered watched l (stop env s e) (stop env t e) := by
  refine withInstanceid_answered e h fun e => ?_
  have hstop : Agree watched l (toStopped { s with silan := (outputSilanStop env s.silan).1 })
      (toStopped { t with silan := (outputSilanStop env t.silan).1 }) :=
    (h.setSilan (h.silan.send env .slmpStop 0 none rfl (by decide)).1).changeTransportState _ _
  rw [h.transportState, transitionNa_eq e h]
  cases t.transportState with
  | stopped | noMediaPresent => exact ⟨rfl, rfl, h⟩
  | _ => exact ⟨rfl, rfl, hstop⟩

theorem startPlaying_answered (h : Agree watched l s t) :
    Answered watched l (startPlaying env s e) (startPlaying env t e) := by
  obtain ⟨hrelated, hrc⟩ := h.silan.play env
  have hset := h.setSilan hrelated
  unfold startPlaying
  simp only [hrc]
  split_ifs
  · exact ⟨rfl, rfl, hset⟩
  · have hplaying := hset.changeTransportState .playing (by decide)
    exact ⟨rfl, rfl, hplaying.setVars (by simp only [toPlaying, hplaying.vars])⟩

theorem play_answered (h : Agree watched l s t) :
    Answered watched l (play env s e) (play env t e) := by
  refine withInstanceid_answered e h fun e => ?_
  rw [h.transportState, transitionNa_eq e h]
  cases t.transportState with
  | playing => exact ⟨rfl, rfl, h⟩
  | stopped => exact startPlaying_answered env e ⟨rfl, by rw [h.vars], h.silan⟩
  | pausedPlayback => exact startPlaying_answered env e h
  | _ => exact ⟨rfl, rfl, h⟩

theorem pauseStream_answered (h : Agree watched l s t) :
    Answered watched l (pauseStream env s e) (pauseStream env t e) := by
  refine withInstanceid_answered e h fun e => ?_
  rw [h.transportState, transitionNa_eq e h]
  cases t.transportState with
  | playing =>
    obtain ⟨hrelated, hrc⟩ := h.silan.send env .slmpPause 0 none rfl (by decide)
    have hpause : Agree watched l ⟨.playing, s.vars, (outputSilanPause env s.silan).1⟩
        ⟨.playing, t.vars, (outputSilanPause env t.silan).1⟩ := ⟨rfl, h.vars, hrelated⟩
    change (outputSilanPause env s.silan).2 = (outputSilanPause env t.silan).2 at hrc
    simp only
    rw [hrc]
    split_ifs
    · exact ⟨rfl, rfl, hpause⟩
    · exact ⟨rfl, rfl, hpause.changeTransportState .pausedPlayback (by decide)⟩
  | _ => exact ⟨rfl, rfl, h⟩

theorem seek_answered (h : Agree watched l s t) :
    Answered watched l (seek env s e) (seek env t e) := by
  refine withInstanceid_answered e h fun e => ?_
  rcases upnpGetString e "Unit" with ⟨e', _ | unit⟩
  · exact ⟨rfl, rfl, h⟩
  · simp only
    split_ifs
    · rcases upnpGetString e' "Target" with ⟨e'', _ | target⟩
      · exact ⟨rfl, rfl, h⟩
      · have hsent : ∀ sent, Related watched l
            (s.silan.record ⟨.slmpSeek, parseUpnpTime target, none, sent⟩)
            (t.silan.record ⟨.slmpSeek, parseUpnpTime target, none, sent⟩) :=
          fun sent => h.silan.record _ nofun
        simp only [outputSilanSeek_eq]
        cases (env .slmpSeek).msgsnd with
        | true =>
          have hvars : s.vars.replaceVar .relTimePos target =
              t.vars.replaceVar .relTimePos target := by rw [h.vars]
          exact ⟨rfl, rfl, h.transportState, hvars, hsent true⟩
        | false => exact ⟨rfl, rfl, h.transportState, h.vars, hsent false⟩
    · exact ⟨rfl, rfl, h⟩

theorem transportActions_answered (h : Agree watched l s t) (cmd : TransportCmd) :
    Answered watched l (transportActions env s e cmd) (transportActions env t e cmd) := by
  cases cmd with
  | pause => exact pauseStream_answered env e h
  | play => exact play_answered env e h
  | seek => exact seek_answered env e h
  | setAvTransportUri => exact setAvtransportUri_answered e h
  | stop => exact stop_answered env e h
  | setNextAvTransportUri => exact setNextAvtransportUri_answered e h
  | getPositionInfo => exact getPositionInfo_answered env e h
  | _ => exact reportVariables_answered e h _

theorem Agree.feedback (h : Agree watched l s t) (fb : PlayFeedback) :
    Agree watched l (transitionFromOutput s fb) (transitionFromOutput t fb) := by
  cases fb with
  | playStopped =>
    exact (h.setVars (by rw [h.vars])).changeTransportState .stopped (by decide)
  | playStartedNextStream => exact h.setVars (by simp only [h.vars])

theorem Agree.receive (h : Agree watched l s t) (m : Message)
    (hm : MsgCmd.part m.cmd = .avTransport) :
    Agree watched l (receive s m env) (receive t m env) := by
  obtain ⟨hrelated, hfeedback⟩ := h.silan.recvCmd env m hm
  have hset := h.setSilan hrelated
  unfold RendererSystem.receive
  simp only
  rw [hfeedback]
  cases (outputSilanRecvCmd env t.silan m).2 with
  | none => exact hset
  | some fb => exact hset.feedback fb

end Transport

section Control

/-- Two states of the output module with the same levels; the rest of the first is given. -/
structure Tuned (p : Streams) (i : Inputs) (d d' : SilanData) : Prop where
  levels_eq : levels d = levels d'
  streams_eq : streams d = p
  inputs_eq : inputs d = i

variable {p : Streams} {i : Inputs} {d d' : SilanData}

theorem Tuned.record (h : Tuned p i d d') (c : SentCmd)
    (hc : Cmd.part c.cmd = .renderingControl) : Tuned p i (d.record c) (d'.record c) where
  levels_eq := by rw [levels_record, levels_record, h.levels_eq]
  streams_eq := by rw [streams_record, hc, if_neg nofun, h.streams_eq]
  inputs_eq := by rw [inputs_record, hc, if_neg nofun, h.inputs_eq]

theorem Tuned.setMute (h : Tuned p i d d') (mute : ℤ) :
    Tuned p i { d with mute := mute } { d' with mute := mute } where
  levels_eq := congrArg (fun l : Levels => { l with mute := mute }) h.levels_eq
  streams_eq := h.streams_eq
  inputs_eq := h.inputs_eq

theorem Tuned.setVolume (h : Tuned p i d d') (volume : ℤ) :
    Tuned p i { d with volume := volume } { d' with volume := volume } where
  levels_eq := congrArg (fun l : Levels => { l with volume := volume }) h.levels_eq
  streams_eq := h.streams_eq
  inputs_eq := h.inputs_eq

theorem Tuned.setData (h : Tuned p i d d') (b : StatusBit) (hb : b = .dataMute ∨ b = .dataVolume)
    (v : Bool) : Tuned p i (d.setStatus b v) (d'.setStatus b v) where
  levels_eq := h.levels_eq
  streams_eq := h.streams_eq
  inputs_eq := by rcases hb with rfl | rfl <;> exact h.inputs_eq

theorem Tuned.mute (h : Tuned p i d d') : d.mute = d'.mute := congrArg Levels.mute h.levels_eq

theorem Tuned.volume (h : Tuned p i d d') : d.volume = d'.volume :=
  congrArg Levels.volume h.levels_eq

/-- A message with the volume or the mute. -/
theorem Tuned.storeMessage (h : Tuned p i d d') (m : Message)
    (hm : MsgCmd.part m.cmd = .renderingControl) :
    Tuned p i (storeMessage d m) (storeMessage d' m) := by
  obtain ⟨des, cmd, param⟩ := m
  cases cmd with
  | slmpGetMute => exact (h.setMute param).setData .dataMute (Or.inl rfl) false
  | slmpGetVolume => exact (h.setVolume param).setData .dataVolume (Or.inr rfl) false
  | slmpSetTimePos | slmpSetTotalTime | slmpPlayState | other code => nomatch hm

structure ControlAgree (p : Streams) (i : Inputs) (s t : Control) : Prop where
  vars : s.vars = t.vars
  silan : Tuned p i s.silan t.silan

structure ControlAnswered (p : Streams) (i : Inputs) (r r' : Handled Control) : Prop where
  event : r.event = r'.event
  rc : r.rc = r'.rc
  state : ControlAgree p i r.state r'.state

variable {s t : Control} (env : Env) (e : ActionEvent)

theorem setVolume_agree (h : ControlAgree p i s t) (value : ℤ) :
    ControlAgree p i (upnpControlSetVolume env s value).1 (upnpControlSetVolume env t value).1 ∧
      (upnpControlSetVolume env s value).2 = (upnpControlSetVolume env t value).2 := by
  rw [upnpControlSetVolume_eq, upnpControlSetVolume_eq]
  exact ⟨⟨by rw [h.vars], ((h.silan.setMute 0).setVolume (clampVolume value)).record _ rfl⟩, rfl⟩

theorem setMute_agree (h : ControlAgree p i s t) (value : ℤ) :
    ControlAgree p i (upnpControlSetMute env s value).1 (upnpControlSetMute env t value).1 ∧
      (upnpControlSetMute env s value).2 = (upnpControlSetMute env t value).2 := by
  have hsent := h.silan.record ⟨.slmpMute, value, none, (env .slmpMute).msgsnd⟩ rfl
  simp only [upnpControlSetMute, outputSilanSetMute,
    sendCmd_of_bit_none env _ .slmpMute value none rfl, h.silan.mute]
  by_cases hdiffer : ((value == 0) != (t.silan.mute == 0)) = true
  · rw [if_pos hdiffer, if_pos hdiffer]
    exact ⟨⟨by rw [h.vars], hsent.setMute value⟩, rfl⟩
  · rw [if_neg hdiffer, if_neg hdiffer]
    exact ⟨⟨by rw [h.vars], h.silan.setMute value⟩, rfl⟩

theorem cmdObtainVariable_answered (h : ControlAgree p i s t) (varnum : ControlVar)
    (paramname : String) :
    ControlAnswered p i (cmdObtainVariable s e varnum paramname)
      (cmdObtainVariable t e varnum paramname) := by
  unfold cmdObtainVariable
  rcases upnpGetString e "InstanceID" with ⟨e', _ | id⟩
  · exact ⟨rfl, rfl, h⟩
  · exact ⟨by simp only [h.vars], rfl, h⟩

theorem controlActions_answered (h : ControlAgree p i s t) (cmd : ControlCmd) :
    ControlAnswered p i (controlActions env s e cmd) (controlActions env t e cmd) := by
  cases cmd with
  | listPresets | getMute | getVol => exact cmdObtainVariable_answered e h _ _
  | setMute =>
    simp only [controlActions, setMute]
    rcases upnpGetString e "DesiredMute" with ⟨e', _ | value⟩
    · exact ⟨rfl, rfl, h⟩
    · obtain ⟨hstate, hrc⟩ := setMute_agree env h (atoi value)
      exact ⟨rfl, hrc, hstate⟩
  | setVol =>
    simp only [controlActions, setVolume]
    rcases upnpGetString e "DesiredVolume" with ⟨e', _ | value⟩
    · exact ⟨rfl, rfl, h⟩
    · obtain ⟨hstate, hrc⟩ := setVolume_agree env h (atoi value)
      exact ⟨rfl, hrc, hstate⟩

theorem volumeKey_agree (h : ControlAgree p i s t) (dir : ℤ) :
    ControlAgree p i (volumeKey env s dir) (volumeKey env t dir) := by
  unfold volumeKey
  rw [h.silan.volume]
  split_ifs
  · have hset : ControlAgree p i
        { s with silan := { s.silan with volume := volumeChange t.silan.volume dir } }
        { t with silan := { t.silan with volume := volumeChange t.silan.volume dir } } :=
      ⟨h.vars, h.silan.setVolume _⟩
    exact (setVolume_agree env hset _).1
  · exact h

theorem muteKey_agree (h : ControlAgree p i s t) :
    ControlAgree p i (muteKey env s) (muteKey env t) := by
  unfold muteKey
  rw [h.silan.mute]
  exact (setMute_agree env h _).1

end Control

section Watchdog

/-- Two states of the output module with the same inputs and the same given streams; the levels
of the first are given. -/
structure Guarded (p : Streams) (l : Levels) (d d' : SilanData) : Prop where
  inputs_eq : inputs d = inputs d'
  streams_eq : streams d = p
  streams_eq' : streams d' = p
  levels_eq : levels d = l

variable {p : Streams} {l : Levels} {d d' : SilanData} (env : Env) (c : Counters)

theorem Guarded.state (h : Guarded p l d d') : d.state = d'.state :=
  congrArg Streams.state (h.streams_eq.trans h.streams_eq'.symm)

theorem Guarded.ampMute (h : Guarded p l d d') : d.status .ampMute = d'.status .ampMute :=
  congrArg Inputs.ampMute h.inputs_eq

theorem Guarded.ampPower (h : Guarded p l d d') : d.status .ampPower = d'.status .ampPower :=
  congrArg Inputs.ampPower h.inputs_eq

theorem Guarded.spdifin (h : Guarded p l d d') : d.status .spdifin = d'.status .spdifin :=
  congrArg Inputs.spdifin h.inputs_eq

theorem Guarded.gpioWrite (h : Guarded p l d d') (num : Gpio) (value : ℤ) :
    Guarded p l (d.gpioWrite num value) (d'.gpioWrite num value) :=
  ⟨congrArg (fun i : Inputs => { i with gpio := i.gpio ++ [(num, value)] }) h.inputs_eq,
    h.streams_eq, h.streams_eq', h.levels_eq⟩

theorem Guarded.setAmp (h : Guarded p l d d') (b : StatusBit) (hb : b = .ampMute ∨ b = .ampPower)
    (m : Bool) : Guarded p l (d.setStatus b m) (d'.setStatus b m) := by
  refine ⟨?_, h.streams_eq, h.streams_eq', h.levels_eq⟩
  rcases hb with rfl | rfl
  · exact congrArg (fun i : Inputs => { i with ampMute := m }) h.inputs_eq
  · exact congrArg (fun i : Inputs => { i with ampPower := m }) h.inputs_eq

theorem Guarded.setAmpMute (h : Guarded p l d d') (m : Bool) :
    Guarded p l (outputSilanSetAmpMute d m) (outputSilanSetAmpMute d' m) := by
  unfold outputSilanSetAmpMute
  rw [h.ampMute]
  by_cases hdiffers : m ≠ d'.status .ampMute
  · rw [if_pos hdiffers, if_pos hdiffers]
    exact (h.gpioWrite _ _).setAmp .ampMute (Or.inl rfl) m
  · rw [if_neg hdiffers, if_neg hdiffers]
    exact h.setAmp .ampMute (Or.inl rfl) m

theorem Guarded.setAmpPower (h : Guarded p l d d') (m : Bool) :
    Guarded p l (outputSilanSetAmpPower d m) (outputSilanSetAmpPower d' m) := by
  unfold outputSilanSetAmpPower
  rw [h.ampPower]
  by_cases hdiffers : m ≠ d'.status .ampPower
  · rw [if_pos hdiffers, if_pos hdiffers]
    exact ((h.setAmpMute true).gpioWrite _ _).setAmp .ampPower (Or.inr rfl) m
  · rw [if_neg hdiffers, if_neg hdiffers]
    exact h.setAmp .ampPower (Or.inr rfl) m

theorem Guarded.toSpdifin (h : Guarded p l d d') :
    Guarded p l (outputSilanSetSpdifin env d) (outputSilanSetSpdifin env d') where
  inputs_eq := inputs_setSpdifin env h.inputs_eq
  streams_eq := (streams_setSpdifin env d).trans h.streams_eq
  streams_eq' := (streams_setSpdifin env d').trans h.streams_eq'
  levels_eq := (levels_setSpdifin env d).trans h.levels_eq

/-- A part of a pass counts alike, and goes on with the inputs and the amplifier alike. -/
structure Passed (p : Streams) (l : Levels) (r r' : Counters × SilanData) : Prop where
  counters : r.1 = r'.1
  silan : Guarded p l r.2 r'.2

theorem watchSpdifin_passed (h : Guarded p l d d') (lock : Option ℤ) :
    Passed p l (watchSpdifin c d lock) (watchSpdifin c d' lock) := by
  unfold watchSpdifin
  rw [h.ampPower]
  split_ifs
  · exact ⟨rfl, h⟩
  · exact ⟨rfl, h.setAmpPower true⟩
  · exact ⟨rfl, h⟩
  · exact ⟨rfl, h.setAmpPower false⟩
  · exact ⟨rfl, h⟩
  · exact ⟨rfl, h⟩

theorem watchPlayer_passed (h : Guarded p l d d') :
    Passed p l (watchPlayer env c d) (watchPlayer env c d') := by
  unfold watchPlayer
  rw [h.ampPower, h.state]
  split_ifs
  · exact ⟨rfl, h⟩
  · exact ⟨rfl, h.setAmpPower true⟩
  · exact ⟨rfl, h⟩
  · exact ⟨rfl, h.toSpdifin env⟩
  · exact ⟨rfl, h⟩

theorem watchAmpMute_passed (h : Guarded p l d d') :
    Passed p l (watchAmpMute c d) (watchAmpMute c d') := by
  unfold watchAmpMute
  rw [h.ampPower, h.ampMute]
  split_ifs
  · exact ⟨rfl, h⟩
  · exact ⟨rfl, h.setAmpMute false⟩
  · exact ⟨rfl, h⟩
  · exact ⟨rfl, h⟩

theorem idlePass_passed (h : Guarded p l d d') (lock : Option ℤ) :
    Passed p l (idlePass env c d lock) (idlePass env c d' lock) := by
  unfold idlePass
  rw [h.spdifin]
  split_ifs
  · obtain ⟨hcounters, hwatched⟩ := watchSpdifin_passed c h lock
    simp only [hcounters]
    exact watchAmpMute_passed _ hwatched
  · obtain ⟨hcounters, hwatched⟩ := watchPlayer_passed env c h
    simp only [hcounters]
    exact watchAmpMute_passed _ hwatched

end Watchdog

section Steps

variable {s t : Renderer} {e : Event}

theorem transport_step {watched : Prop} {l : Levels} (he : Event.part e = .avTransport)
    (h : Agree watched l s.transport t.transport) :
    Agree watched l (s.step e).transport (t.step e).transport ∧ answer s e = answer t e := by
  rcases e with ⟨cmd | cmd, doc, env⟩ | ⟨_ | _ | _ | _, env⟩ | ⟨m, env⟩ | ⟨lock, env⟩
  case key.radio => exact ⟨(h.setSilan (h.silan.toSpdifin env)).feedback .playStopped, rfl⟩
  case message => exact ⟨h.receive env m he, rfl⟩
  case action.transport =>
    obtain ⟨hevent, hrc, hstate⟩ := transportActions_answered env (newRequest doc) h cmd
    exact ⟨hstate, congrArg some (Prod.ext hevent hrc)⟩
  all_goals nomatch he

/-- The AVTransport service leaves the rest of the renderer alone. -/
theorem transport_step_rest (he : Event.part e = .avTransport) :
    (s.step e).control = s.control ∧ (s.step e).counters = s.counters := by
  rcases e with ⟨cmd | cmd, doc, env⟩ | ⟨_ | _ | _ | _, env⟩ | ⟨m, env⟩ | ⟨lock, env⟩
  case key.radio | message | action.transport => exact ⟨rfl, rfl⟩
  all_goals nomatch he

/-- A message with the volume or the mute is stored, and that is all. -/
theorem handleMessage_levels (s : Renderer) (m : Message) (env : Env)
    (hm : MsgCmd.part m.cmd = .renderingControl) : s.handleMessage m env =
      s.setSilan (if m.des ≠ swaSignalUi then s.silan else storeMessage s.silan m) := by
  have hother : (m.cmd = .slmpPlayState) = False := by
    refine eq_false fun hcmd => ?_
    rw [hcmd] at hm
    nomatch hm
  simp only [Renderer.handleMessage, receive, outputSilanRecvCmd, hother, decide_false,
    Bool.false_and, Bool.false_eq_true, if_false, Renderer.setSilan, Renderer.silan]
  split_ifs <;> rfl

theorem control_step {p : Streams} {i : Inputs} (he : Event.part e = .renderingControl)
    (h : ControlAgree p i s.controlPart t.controlPart) :
    ControlAgree p i (s.step e).controlPart (t.step e).controlPart ∧ answer s e = answer t e := by
  rcases e with ⟨cmd | cmd, doc, env⟩ | ⟨_ | _ | _ | _, env⟩ | ⟨m, env⟩ | ⟨lock, env⟩
  case key.volumeUp => exact ⟨volumeKey_agree env h 1, rfl⟩
  case key.volumeDown => exact ⟨volumeKey_agree env h (-1), rfl⟩
  case key.mute => exact ⟨muteKey_agree env h, rfl⟩
  case action.control =>
    obtain ⟨hevent, hrc, hstate⟩ := controlActions_answered env (newRequest doc) h cmd
    exact ⟨hstate, congrArg some (Prod.ext hevent hrc)⟩
  case message =>
    have hstored := h.silan.storeMessage m he
    simp only [Renderer.step, handleMessage_levels _ m env he]
    refine ⟨⟨h.vars, ?_⟩, rfl⟩
    split_ifs
    · exact h.silan
    · exact hstored
  all_goals nomatch he

/-- The RenderingControl service leaves the rest of the renderer alone. -/
theorem control_step_rest (he : Event.part e = .renderingControl) :
    (s.step e).transport.transportState = s.transport.transportState ∧
      (s.step e).transport.vars = s.transport.vars ∧ (s.step e).counters = s.counters := by
  rcases e with ⟨cmd | cmd, doc, env⟩ | ⟨_ | _ | _ | _, env⟩ | ⟨m, env⟩ | ⟨lock, env⟩
  case message =>
    simp only [Renderer.step, handleMessage_levels _ m env he]
    exact ⟨rfl, rfl, rfl⟩
  case key.volumeUp | key.volumeDown | key.mute | action.control => exact ⟨rfl, rfl, rfl⟩
  all_goals nomatch he

theorem watchdog_step {p : Streams} {l : Levels} (he : Event.part e = .watchdog)
    (h : Guarded p l s.silan t.silan) (hcounters : s.counters = t.counters) :
    Guarded p l (s.step e).silan (t.step e).silan ∧ (s.step e).counters = (t.step e).counters := by
  rcases e with ⟨cmd | cmd, doc, env⟩ | ⟨_ | _ | _ | _, env⟩ | ⟨m, env⟩ | ⟨lock, env⟩
  case idlePass =>
    obtain ⟨hpassed, hguarded⟩ := idlePass_passed env t.counters h lock
    simp only [Renderer.step, Renderer.handleIdlePass, hcounters]
    exact ⟨hguarded, hpassed⟩
  case message =>
    obtain ⟨des, cmd, param⟩ := m
    cases cmd <;> nomatch he
  all_goals nomatch he

/-- The watchdog leaves the rest of the renderer alone. -/
theorem watchdog_step_rest (he : Event.part e = .watchdog) :
    (s.step e).transport.transportState = s.transport.transportState ∧
      (s.step e).transport.vars = s.transport.vars ∧ (s.step e).control = s.control := by
  rcases e with ⟨cmd | cmd, doc, env⟩ | ⟨_ | _ | _ | _, env⟩ | ⟨m, env⟩ | ⟨lock, env⟩
  case idlePass => exact ⟨rfl, rfl, rfl⟩
  case message =>
    obtain ⟨des, cmd, param⟩ := m
    cases cmd <;> nomatch he
  all_goals nomatch he

theorem concerns_iff {p : Part} : sharing.concerns p e = true ↔
    Event.part e = p ∨ (Event.part e = .avTransport ∧ p = .watchdog) := by
  simp [Policy.concerns, sharing]

theorem agree_of_view (h : view .avTransport s = view .avTransport t) :
    Agree False (levels s.silan) s.transport t.transport :=
  ⟨congrArg Prod.fst h, congrArg (fun v => v.2.1) h, congrArg (fun v => v.2.2) h, nofun, rfl⟩

theorem agree_of_watched (h : view .watchdog s = view .watchdog t) :
    Agree True (levels s.silan) s.transport t.transport :=
  ⟨congrArg (fun v => v.1.1) h, congrArg (fun v => v.1.2.1) h, congrArg (fun v => v.1.2.2) h,
    fun _ => congrArg (fun v => v.2.1) h, rfl⟩

theorem controlAgree_of_view (h : view .renderingControl s = view .renderingControl t) :
    ControlAgree (streams s.silan) (inputs s.silan) s.controlPart t.controlPart :=
  ⟨congrArg Prod.fst h, congrArg Prod.snd h, rfl, rfl⟩

theorem guarded_of_view (h : view .watchdog s = view .watchdog t) :
    Guarded (streams s.silan) (levels s.silan) s.silan t.silan :=
  ⟨congrArg (fun v => v.2.1) h, rfl, (congrArg (fun v => v.1.2.2) h).symm, rfl⟩

theorem guarded_refl (s : Renderer) :
    Guarded (streams s.silan) (levels s.silan) s.silan s.silan := ⟨rfl, rfl, rfl, rfl⟩

theorem view_eq_of_transport (he : Event.part e = .avTransport)
    (h : view .avTransport s = view .avTransport t) :
    view .avTransport (s.step e) = view .avTransport (t.step e) := by
  obtain ⟨hagree, -⟩ := transport_step he (agree_of_view h)
  exact Prod.ext hagree.transportState (Prod.ext hagree.vars hagree.silan.streams_eq)

theorem view_eq_of_control (he : Event.part e = .renderingControl)
    (h : view .renderingControl s = view .renderingControl t) :
    view .renderingControl (s.step e) = view .renderingControl (t.step e) := by
  obtain ⟨hagree, -⟩ := control_step he (controlAgree_of_view h)
  exact Prod.ext hagree.vars hagree.silan.levels_eq

/-- The watchdog goes on alike after its own passes and after the steps of the transport. -/
theorem view_eq_of_watched (he : Event.part e = .watchdog ∨ Event.part e = .avTransport)
    (h : view .watchdog s = view .watchdog t) :
    view .watchdog (s.step e) = view .watchdog (t.step e) := by
  have hcounters : s.counters = t.counters := congrArg (fun v => v.2.2) h
  rcases he with he | he
  · obtain ⟨hguarded, hpassed⟩ := watchdog_step he (guarded_of_view h) hcounters
    obtain ⟨hstate, hvars, -⟩ := watchdog_step_rest (s := s) he
    obtain ⟨hstate', hvars', -⟩ := watchdog_step_rest (s := t) he
    have hagree := agree_of_watched h
    refine Prod.ext (Prod.ext ?_ (Prod.ext ?_ ?_)) (Prod.ext hguarded.inputs_eq hpassed)
    · exact hstate.trans (hagree.transportState.trans hstate'.symm)
    · exact hvars.trans (hagree.vars.trans hvars'.symm)
    · exact hguarded.streams_eq.trans hguarded.streams_eq'.symm
  · obtain ⟨hagree, -⟩ := transport_step he (agree_of_watched h)
    have hcount : (s.step e).counters = (t.step e).counters :=
      (transport_step_rest he).2.trans (hcounters.trans (transport_step_rest he).2.symm)
    exact Prod.ext (Prod.ext hagree.transportState (Prod.ext hagree.vars hagree.silan.streams_eq))
      (Prod.ext (hagree.silan.inputs_eq trivial) hcount)

theorem view_step_transport (he : Event.part e ≠ .avTransport) :
    view .avTransport (s.step e) = view .avTransport s := by
  cases hpart : Event.part e with
  | avTransport => exact absurd hpart he
  | renderingControl =>
    obtain ⟨hagree, -⟩ := control_step hpart (controlAgree_of_view (rfl : view _ s = view _ s))
    obtain ⟨hstate, hvars, -⟩ := control_step_rest (s := s) hpart
    exact Prod.ext hstate (Prod.ext hvars hagree.silan.streams_eq)
  | watchdog =>
    obtain ⟨hguarded, -⟩ := watchdog_step hpart (guarded_refl s) rfl
    obtain ⟨hstate, hvars, -⟩ := watchdog_step_rest (s := s) hpart
    exact Prod.ext hstate (Prod.ext hvars hguarded.streams_eq)

theorem view_step_control (he : Event.part e ≠ .renderingControl) :
    view .renderingControl (s.step e) = view .renderingControl s := by
  cases hpart : Event.part e with
  | renderingControl => exact absurd hpart he
  | avTransport =>
    obtain ⟨hagree, -⟩ := transport_step hpart (agree_of_view (rfl : view _ s = view _ s))
    exact Prod.ext (transport_step_rest hpart).1 hagree.silan.levels_eq
  | watchdog =>
    obtain ⟨hguarded, -⟩ := watchdog_step hpart (guarded_refl s) rfl
    exact Prod.ext (watchdog_step_rest hpart).2.2 hguarded.levels_eq

theorem view_step_watchdog (he : Event.part e = .renderingControl) :
    view .watchdog (s.step e) = view .watchdog s := by
  obtain ⟨hagree, -⟩ := control_step he (controlAgree_of_view (rfl : view _ s = view _ s))
  obtain ⟨hstate, hvars, hcounters⟩ := control_step_rest (s := s) he
  exact Prod.ext (Prod.ext hstate (Prod.ext hvars hagree.silan.streams_eq))
    (Prod.ext hagree.silan.inputs_eq hcounters)

/-- A pass of the watchdog is not an action. -/
theorem answer_watchdog (he : Event.part e = .watchdog) : answer s e = none := by
  rcases e with ⟨cmd | cmd, doc, env⟩ | ⟨k, env⟩ | ⟨m, env⟩ | ⟨lock, env⟩
  case key | message | idlePass => rfl
  all_goals nomatch he

theorem unwinds : Unwinds sharing Renderer.step answer view where
  output_eq s t e hview := by
    change view (Event.part e) s = view (Event.part e) t at hview
    cases hpart : Event.part e with
    | avTransport =>
      rw [hpart] at hview
      exact (transport_step hpart (agree_of_view hview)).2
    | renderingControl =>
      rw [hpart] at hview
      exact (control_step hpart (controlAgree_of_view hview)).2
    | watchdog => rw [answer_watchdog hpart, answer_watchdog hpart]
  step_eq p s t e hconcerns hview := by
    have hpart := concerns_iff.mp hconcerns
    cases p with
    | avTransport => exact view_eq_of_transport (by simpa using hpart) hview
    | renderingControl => exact view_eq_of_control (by simpa using hpart) hview
    | watchdog => exact view_eq_of_watched (by simpa using hpart) hview
  step_apart p s e hconcerns := by
    have hpart := mt concerns_iff.mpr (Bool.eq_false_iff.mp hconcerns)
    cases p with
    | avTransport => exact view_step_transport (by simpa using hpart)
    | renderingControl => exact view_step_control (by simpa using hpart)
    | watchdog =>
      refine view_step_watchdog ?_
      cases hevent : Event.part e with
      | renderingControl => rfl
      | avTransport | watchdog => simp [hevent] at hpart

/-- Each part of the renderer is, at the end of a run whose events are handled one after another,
as if only the events that act upon it had come, and its actions have been answered so. -/
theorem services_isolated (p : Part) (s : Renderer) (es : List Event) :
    view p (run Renderer.step s es) = view p (run Renderer.step s (sharing.purge p es)) ∧
      outputs sharing Renderer.step answer p s es =
        outputs sharing Renderer.step answer p s (sharing.purge p es) :=
  ⟨unwinds.view_run p rfl es, unwinds.outputs_run p rfl es⟩

end Steps

end GMediaRender.ServiceIsolation
