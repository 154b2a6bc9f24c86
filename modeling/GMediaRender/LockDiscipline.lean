import GMediaRender.LockOrder
import GMediaRender.PlayerMessages
import GMediaRender.UpnpDevice

/-!
The mutexes of the renderer and what its threads do with them: the requests that libupnp
hands to `event_handler`, the messages of the player, the infra-red keys and the passes of
the watchdog. The device's mutex is locked before that of a service, no mutex is locked
twice, and the one command whose reply a handler waits for is sent with nothing locked. A
command is a message to the player's queue, and sending it waits for room there, in most
handlers with the mutex of the service locked.
-/
namespace GMediaRender.LockDiscipline

open ActionRequest LockOrder OutputSilan UpnpTransport UpnpControl UpnpConnmgr RendererSystem
open UpnpDevice OutputCalls PlayerMessages Watchdog

/-- `device_mutex` and the `service_mutex` of each service. -/
inductive Mutex where
  | device
  | service (svc : ServiceName)
  deriving DecidableEq

def rank : Mutex → ℕ
  | .device => 0
  | .service _ => 1

section Pieces

/-- One step of work. -/
def work : Code Mutex := .work .done

/-- What may be skipped: an early return, a test. -/
def maybe (c : Code Mutex) : Code Mutex := .branch c .done

/-- `output_silan_send_cmd`: `msgsnd` without `IPC_NOWAIT`, and then the reply is waited for if
the command has a data bit. -/
def sendCmd (cmd : Cmd) : Code Mutex := .post (if cmd.bit.isSome then .await .done else .done)

/-- One of some commands is sent, or none. -/
def sendOneOf (cmds : List Cmd) : Code Mutex :=
  cmds.foldr (fun cmd c => .branch (sendCmd cmd) c) .done

def sendInTurn (cmds : List Cmd) : Code Mutex := cmds.foldr (fun cmd c => (sendCmd cmd).seq c) .done

/-- A piece of code under the mutex of a service. -/
def locked (svc : ServiceName) (body : Code Mutex) : Code Mutex :=
  .lock (.service svc) (body.seq (.unlock (.service svc) .done))

/-- Between `service_lock` and `service_unlock`, which start and finish a transaction. -/
def serviceSection (svc : ServiceName) (body : Code Mutex) : Code Mutex :=
  locked svc ((work.seq body).seq work)

/-- `upnp_append_variable`, so many times. -/
def appendVariables (svc : ServiceName) (n : ℕ) : Code Mutex :=
  (List.replicate n (locked svc work)).foldr Code.seq .done

/-- The call of `trans_callback`, if it is set: `transition_from_output`. -/
def transCallback : Code Mutex := maybe (serviceSection .transport work)

end Pieces

section Sends

/-- The commands that a handler of AVTransport may send; it sends at most one. -/
def transportSends : TransportCmd → List Cmd
  | .getPositionInfo => [.slmpGetTimePos]
  | .pause => [.slmpPause]
  | .play => [.slmpPlayUri, .slmpPause]
  | .seek => [.slmpSeek]
  | .stop => [.slmpStop]
  | _ => []

def controlSends : ControlCmd → List Cmd
  | .setMute => [.slmpMute]
  | .setVol => [.slmpSetVolume]
  | _ => []

def keySends : Key → List Cmd
  | .radio => [.setPadMux, .spdifIn]
  | .volumeUp | .volumeDown => [.slmpSetVolume]
  | .mute => [.slmpMute]

end Sends

section Handlers

/-- The handlers of AVTransport, after the check of the InstanceID. -/
def transportBody : TransportCmd → Code Mutex
  | .getCurrentTransportActions => appendVariables .transport 1
  | .getDeviceCapabilities | .getTransportSettings => .done
  | .getMediaInfo => appendVariables .transport 9
  | .getTransportInfo => appendVariables .transport 3
  | .getPositionInfo =>
    (sendOneOf (transportSends .getPositionInfo)).seq
      ((serviceSection .transport work).seq (appendVariables .transport 8))
  | .setAvTransportUri | .setNextAvTransportUri => maybe (serviceSection .transport work)
  | .pause => serviceSection .transport (work.seq (sendOneOf (transportSends .pause)))
  | .play => serviceSection .transport (work.seq (sendOneOf (transportSends .play)))
  | .stop => serviceSection .transport (work.seq (sendOneOf (transportSends .stop)))
  | .seek => maybe (serviceSection .transport ((sendOneOf (transportSends .seek)).seq work))

def transportHandler (cmd : TransportCmd) : Code Mutex := maybe (transportBody cmd)

def controlHandler : ControlCmd → Code Mutex
  | .listPresets | .getMute | .getVol => maybe (appendVariables .control 1)
  | .setMute => maybe (serviceSection .control (work.seq (sendOneOf (controlSends .setMute))))
  | .setVol => maybe (serviceSection .control (work.seq (sendOneOf (controlSends .setVol))))

def connmgrHandler : ConnmgrCmd → Code Mutex
  | .getProtocolInfo => appendVariables .connmgr 2
  | .getCurrentConnectionIds => work
  | .prepareForConnection => appendVariables .connmgr 3
  | .setCurrentConnectionInfo => maybe (appendVariables .connmgr 7)

def handler : DeviceAction → Code Mutex
  | .renderer (.transport cmd) => transportHandler cmd
  | .renderer (.control cmd) => controlHandler cmd
  | .connmgr cmd => connmgrHandler cmd

/-- The start or the finish around a handler, if the service has a collector. -/
def bracket (svc : ServiceName) : Code Mutex := maybe (locked svc work)

/-- `handle_action_request` -/
def handleActionRequest (a : DeviceAction) : Code Mutex :=
  (bracket a.service).seq ((handler a).seq (bracket a.service))

/-- `handle_var_request` -/
def handleVarRequest (svc : ServiceName) : Code Mutex := locked svc work

/-- `handle_subscription_request` -/
def handleSubscriptionRequest (svc : ServiceName) : Code Mutex :=
  .lock .device ((locked svc work).seq (work.seq (.unlock .device .done)))

/-- One message of `output_silan_recv_cmd`. -/
def recvCmd : Code Mutex :=
  work.seq (maybe ((sendOneOf [.slmpPlayUri]).seq transCallback))

/-- One key of `output_silan_loop`. -/
def key : Key → Code Mutex
  | .radio => (maybe (sendInTurn (keySends .radio))).seq transCallback
  | .volumeUp => maybe (serviceSection .control (work.seq (sendOneOf (keySends .volumeUp))))
  | .volumeDown => maybe (serviceSection .control (work.seq (sendOneOf (keySends .volumeDown))))
  | .mute => serviceSection .control (work.seq (sendOneOf (keySends .mute)))

end Handlers

/-- What a thread is given to do. -/
inductive Entry where
  | action (a : DeviceAction)
  | varRequest (svc : ServiceName)
  | subscription (svc : ServiceName)
  /-- An unknown service, action or event. -/
  | rejected
  | message
  | key (k : Key)
  | idlePass

def Entry.code : Entry → Code Mutex
  | .action a => handleActionRequest a
  | .varRequest svc => handleVarRequest svc
  | .subscription svc => handleSubscriptionRequest svc
  | .rejected => work
  | .message => recvCmd
  | .key k => LockDiscipline.key k
  | .idlePass => work.seq (maybe (sendInTurn (keySends .radio)))

def entries : Set (Code Mutex) := Set.range Entry.code

/-- All code of the renderer keeps to the order. -/
theorem entries_ordered (c : Code Mutex) (hc : c ∈ entries) : c.Ordered rank [] := by
  obtain ⟨e, rfl⟩ := hc
  cases e with
  | action a =>
    rcases a with (cmd | cmd) | cmd <;> cases cmd <;> decide
  | varRequest svc => cases svc <;> decide
  | subscription svc => cases svc <;> decide
  | rejected => decide
  | message => decide
  | key k => cases k <;> decide
  | idlePass => decide

section Connection

/-- The commands that the code of an event may send. -/
def sendsOf : Event → List Cmd
  | .action (.transport cmd) _ _ => transportSends cmd
  | .action (.control cmd) _ _ => controlSends cmd
  | .key k _ => keySends k
  | .message _ _ => [.slmpPlayUri]
  | .idlePass _ _ => keySends .radio

/-- The commands sent on the way from `d` to `d'` are among those of `l`. -/
def Sends (l : List Cmd) (d d' : SilanData) : Prop :=
  ∃ new, d'.sent = d.sent ++ new ∧ ∀ c ∈ new, c.cmd ∈ l

variable {l : List Cmd} {d d' d'' : SilanData} (env : Env)

theorem Sends.of_eq (h : d'.sent = d.sent) : Sends l d d' := ⟨[], by simp [h], by simp⟩

theorem Sends.trans (h : Sends l d d') (h' : Sends l d' d'') : Sends l d d'' := by
  obtain ⟨new, hnew, hall⟩ := h
  obtain ⟨new', hnew', hall'⟩ := h'
  refine ⟨new ++ new', by rw [hnew', hnew, List.append_assoc], fun c hc => ?_⟩
  rcases List.mem_append.mp hc with hc | hc
  · exact hall c hc
  · exact hall' c hc

theorem storeData_sent (d : SilanData) (b : StatusBit) (param : ℤ) :
    (d.storeData b param).sent = d.sent := by
  cases b <;> rfl

theorem arrive_sent (b : StatusBit) (reply : Option (ℕ × ℤ)) (cnt : ℕ) (d : SilanData) :
    (arrive b reply cnt d).sent = d.sent := by
  unfold arrive
  cases reply with
  | none => rfl
  | some r =>
    simp only
    split_ifs
    · exact storeData_sent d b r.2
    · rfl

theorem waitData_sent (b : StatusBit) (reply : Option (ℕ × ℤ)) (left cnt : ℕ) (d : SilanData) :
    (waitData b reply left cnt d).1.sent = d.sent := by
  induction left generalizing cnt d with
  | zero => rfl
  | succ left ih =>
    unfold waitData
    split_ifs
    · rw [ih, arrive_sent]
    · rfl

theorem sendCmd_sends (d : SilanData) (cmd : Cmd) (param : ℤ) (data : Option String)
    (hcmd : cmd ∈ l) : Sends l d (outputSilanSendCmd env d cmd param data).1 := by
  refine ⟨[⟨cmd, param, data, (env cmd).msgsnd⟩], ?_, by simpa using hcmd⟩
  cases hbit : cmd.bit with
  | none =>
    rw [sendCmd_of_bit_none env d cmd param data hbit]
    rfl
  | some b =>
    rw [sendCmd_of_bit env d cmd param data hbit]
    by_cases hsnd : (env cmd).msgsnd = true
    · simp only [if_pos hsnd, waitData_sent, arrive_sent]
      rfl
    · simp only [if_neg hsnd]
      rfl

theorem play_sends (d : SilanData) :
    Sends (transportSends .play) d (outputSilanPlay env d).1 := by
  cases huri : d.uri with
  | some uri =>
    rw [outputSilanPlay_some env d uri huri]
    exact ⟨[⟨.slmpPlayUri, 0, some uri, (env .slmpPlayUri).msgsnd⟩], rfl,
      by simp [transportSends]⟩
  | none =>
    rw [outputSilanPlay_none env d huri]
    split_ifs
    · exact sendCmd_sends env d .slmpPause 0 none (by decide)
    · exact .of_eq rfl

theorem setSpdifin_sends (d : SilanData) :
    Sends (keySends .radio) d (outputSilanSetSpdifin env d) := by
  unfold outputSilanSetSpdifin
  split_ifs
  · exact .of_eq rfl
  · have hfirst := sendCmd_sends env (d.setStatus .spdifin true) .setPadMux
      (d.setStatus .spdifin true).padmux none (l := keySends .radio) (by decide)
    have hstart : Sends (keySends .radio) d (d.setStatus .spdifin true) := .of_eq rfl
    exact (hstart.trans hfirst).trans (sendCmd_sends env _ .spdifIn 0 none (by decide))

theorem setMute_sends (d : SilanData) (m : ℤ) :
    Sends [.slmpMute] d (outputSilanSetMute env d m).1 := by
  unfold outputSilanSetMute
  simp only
  split_ifs
  · exact sendCmd_sends env d .slmpMute m none (by decide)
  · exact .of_eq rfl

theorem withInstanceid_sends (s : AvTransport) (body : ActionEvent → Handled AvTransport)
    (h : ∀ e, Sends l s.silan (body e).state.silan) (e : ActionEvent) :
    Sends l s.silan (withInstanceid s e body).state.silan := by
  unfold withInstanceid
  cases hid : obtainInstanceid e with
  | mk e' found =>
    cases found with
    | true => exact h e'
    | false => exact .of_eq rfl

theorem startPlaying_sends (s : AvTransport) (e : ActionEvent) :
    Sends (transportSends .play) s.silan (startPlaying env s e).state.silan := by
  have hplay := play_sends env s.silan
  unfold startPlaying
  simp only
  split_ifs
  · exact hplay
  · simpa only [toPlaying, changeTransportState_silan] using hplay

/-- A handler of AVTransport sends what its code may send. -/
theorem transportActions_sends (s : AvTransport) (e : ActionEvent) (cmd : TransportCmd) :
    Sends (transportSends cmd) s.silan (transportActions env s e cmd).state.silan := by
  cases cmd with
  | getPositionInfo =>
    refine withInstanceid_sends s _ (fun e => ?_) e
    exact sendCmd_sends env s.silan .slmpGetTimePos 0 none (by decide)
  | play =>
    refine withInstanceid_sends s _ (fun e => ?_) e
    cases s.transportState with
    | stopped => exact startPlaying_sends env { s with
        transportState := .stopped, vars := s.vars.replaceVar .relTimePos kZeroTime } e
    | pausedPlayback => exact startPlaying_sends env s e
    | _ => exact .of_eq rfl
  | pause =>
    refine withInstanceid_sends s _ (fun e => ?_) e
    have hpause : Sends (transportSends .pause) s.silan (outputSilanPause env s.silan).1 :=
      sendCmd_sends env s.silan .slmpPause 0 none (by decide)
    cases s.transportState with
    | playing =>
      simp only
      split_ifs
      · exact hpause
      · simpa only [toPausedPlayback, changeTransportState_silan] using hpause
    | _ => exact .of_eq rfl
  | stop =>
    refine withInstanceid_sends s _ (fun e => ?_) e
    have hstop : Sends (transportSends .stop) s.silan (outputSilanStop env s.silan).1 :=
      sendCmd_sends env s.silan .slmpStop 0 none (by decide)
    cases s.transportState with
    | stopped => exact .of_eq rfl
    | noMediaPresent => exact .of_eq rfl
    | _ => simpa only [toStopped, changeTransportState_silan] using hstop
  | seek =>
    refine withInstanceid_sends s _ (fun e => ?_) e
    rcases upnpGetString e "Unit" with ⟨e', _ | unit⟩
    · exact .of_eq rfl
    · simp only
      split_ifs
      · rcases upnpGetString e' "Target" with ⟨e'', _ | target⟩
        · exact .of_eq rfl
        · have hseek : Sends (transportSends .seek) s.silan
              (outputSilanSeek env s.silan (UpnpTime.parseUpnpTime target)).1 :=
            sendCmd_sends env s.silan .slmpSeek _ none (by decide)
          simp only
          split_ifs <;> exact hseek
      · exact .of_eq rfl
  | setAvTransportUri =>
    refine withInstanceid_sends s _ (fun e => ?_) e
    rcases upnpGetString e "CurrentURI" with ⟨e', _ | uri⟩
    · exact .of_eq rfl
    · exact .of_eq rfl
  | setNextAvTransportUri =>
    refine withInstanceid_sends s _ (fun e => ?_) e
    rcases upnpGetString e "NextURI" with ⟨e', _ | uri⟩
    · exact .of_eq rfl
    · simp only
      rcases upnpGetString e' "NextURIMetaData" with ⟨e'', _ | metadata⟩
      · exact .of_eq rfl
      · exact .of_eq rfl
  | _ => exact withInstanceid_sends s _ (fun e => .of_eq rfl) e

theorem upnpControlSetVolume_sends (s : Control) (value : ℤ) :
    Sends [.slmpSetVolume] s.silan (upnpControlSetVolume env s value).1.silan := by
  rw [upnpControlSetVolume_eq]
  exact ⟨[⟨.slmpSetVolume, clampVolume value, none, (env .slmpSetVolume).msgsnd⟩], rfl,
    by simp⟩

theorem controlActions_sends (s : Control) (e : ActionEvent) (cmd : ControlCmd) :
    Sends (controlSends cmd) s.silan (controlActions env s e cmd).state.silan := by
  cases cmd with
  | setMute =>
    simp only [controlActions, setMute]
    rcases upnpGetString e "DesiredMute" with ⟨e', _ | value⟩
    · exact .of_eq rfl
    · exact setMute_sends env s.silan _
  | setVol =>
    simp only [controlActions, setVolume]
    rcases upnpGetString e "DesiredVolume" with ⟨e', _ | value⟩
    · exact .of_eq rfl
    · exact upnpControlSetVolume_sends env s _
  | listPresets => exact .of_eq (by rw [controlActions, listPresets, cmdObtainVariable_state])
  | getMute => exact .of_eq (by rw [controlActions, getMute, cmdObtainVariable_state])
  | getVol => exact .of_eq (by rw [controlActions, getVolume, cmdObtainVariable_state])

theorem volumeKey_sends (s : Control) (dir : ℤ) :
    Sends [.slmpSetVolume] s.silan (volumeKey env s dir).silan := by
  unfold volumeKey
  split_ifs
  · exact upnpControlSetVolume_sends env _ _
  · exact .of_eq rfl

theorem handleKey_sends (s : Renderer) (k : Key) :
    Sends (keySends k) s.silan (s.handleKey k env).silan := by
  cases k with
  | radio =>
    have hspdifin := setSpdifin_sends env s.silan
    simpa only [Renderer.handleKey, Renderer.silan, Renderer.setSilan, transitionFromOutput_silan]
      using hspdifin
  | volumeUp => exact volumeKey_sends env s.controlPart 1
  | volumeDown => exact volumeKey_sends env s.controlPart (-1)
  | mute => exact setMute_sends env s.silan _

theorem finishStream_sends (d : SilanData) :
    Sends [.slmpPlayUri] d (finishStream env d).1 := by
  unfold finishStream
  cases d.uriNext with
  | none => exact .of_eq rfl
  | some uri => exact sendCmd_sends env (takeNext d) .slmpPlayUri 0 (some uri) (by decide)

theorem recvCmd_sends (d : SilanData) (m : Message) :
    Sends [.slmpPlayUri] d (outputSilanRecvCmd env d m).1 := by
  have hstore : Sends [.slmpPlayUri] d (storeMessage d m) := by
    refine .of_eq ?_
    unfold storeMessage
    cases m.cmd <;> rfl
  unfold outputSilanRecvCmd
  by_cases hdes : m.des ≠ swaSignalUi
  · rw [if_pos hdes]
    exact .of_eq rfl
  · rw [if_neg hdes]
    simp only
    split_ifs
    · exact hstore.trans (finishStream_sends env _)
    · exact hstore

theorem idlePass_sends (c : Counters) (d : SilanData) (lock : Option ℤ) :
    Sends (keySends .radio) d (idlePass env c d lock).2 := by
  have hwatch : Sends (keySends .radio) d (watch env c d lock).2 := by
    obtain ⟨r, hr⟩ : ∃ r, r = watch env c d lock := ⟨_, rfl⟩
    have hcase : Watched env c d lock r := hr ▸ watch_watched env c d lock
    rw [← hr]
    cases hcase with
    | lockedUp | powerOff | playingUp => exact .of_eq (setAmpPower_sent d _)
    | toSpdifin => exact setSpdifin_sends env d
    | locked | unlocked | unlockedOn | playing | still | stillOn => exact .of_eq rfl
  exact hwatch.trans (.of_eq (watchAmpMute_sent _ _))

/-- In a step the renderer sends commands that the code of the event has. -/
theorem step_sends (s : Renderer) (e : Event) : Sends (sendsOf e) s.silan (s.step e).silan := by
  cases e with
  | action a doc env =>
    cases a with
    | transport cmd => exact transportActions_sends env s.transport _ cmd
    | control cmd => exact controlActions_sends env s.controlPart _ cmd
  | key k env => exact handleKey_sends env s k
  | message m env =>
    have hrecv := recvCmd_sends env s.silan m
    have hsilan : (s.step (.message m env)).silan = (outputSilanRecvCmd env s.silan m).1 := by
      simp only [Renderer.step, Renderer.handleMessage, Renderer.silan, receive]
      split
      · exact transitionFromOutput_silan _ _
      · rfl
    rwa [hsilan]
  | idlePass lock env => exact idlePass_sends env s.counters s.silan lock

end Connection

section Completion

variable {τ : Type*} [Fintype τ] [DecidableEq τ]

/-- The threads come to an end of what they have been given, in a bounded number of steps
and whatever turns they take, and then no mutex is locked; nothing but a full queue of the player
can hold them up, and only until there is room. While one waits for a reply of the player, it
owns no mutex. -/
theorem threads_complete {s s' : State Mutex τ} {n : ℕ} (hs : Reachable entries s)
    (hsteps : Steps s n s') :
    n ≤ total s ∧
      ((∃ t s'', Step t s' s'') ∨ ((∀ t, s'.code t = .done) ∧ ∀ m, s'.owner m = none) ∨
        Full s' ∧ ∀ room, 0 < room → ∃ t s'', Step t { s' with room := room } s'') ∧
      ∀ t rest, s'.code t = .await rest → ∀ m, s'.owner m ≠ some t := by
  obtain ⟨hbound, hhalt⟩ := completes entries_ordered hs hsteps
  refine ⟨hbound, hhalt, fun t rest hc m => ?_⟩
  exact awaits_free entries_ordered (hsteps.reachable hs) hc m

/-- A subscription and a Play action, given to two threads. -/
def subscribedAndPlayed : State Mutex Bool :=
  ((idle 0).goto false (Entry.subscription .transport).code).goto true
    (Entry.action (.renderer (.transport .play))).code

/-- The state after the subscription has locked both mutexes. -/
def snapshotTaken : State Mutex Bool :=
  let rest := work.seq ((Code.unlock (.service .transport) .done).seq
    (work.seq (.unlock .device .done)))
  let s := (subscribedAndPlayed.setOwner .device (some false)).goto false
    (.lock (.service .transport) rest)
  (s.setOwner (.service .transport) (some false)).goto false rest

theorem subscribedAndPlayed_reachable : Reachable entries subscribedAndPlayed := by
  let subscribed : State Mutex Bool := (idle 0).goto false (Entry.subscription .transport).code
  have hfirst : Move entries (idle 0) subscribed :=
    Or.inr (Or.inl (.enter false (Entry.subscription .transport).code rfl ⟨_, rfl⟩))
  have hsecond : Move entries subscribed subscribedAndPlayed :=
    Or.inr (Or.inl (.enter true (Entry.action (.renderer (.transport .play))).code rfl ⟨_, rfl⟩))
  exact (Relation.ReflTransGen.single hfirst).tail hsecond

theorem steps_snapshotTaken : Steps subscribedAndPlayed 2 snapshotTaken :=
  .tail false (.tail false .refl (.lock Mutex.device _ rfl rfl))
    (.lock (Mutex.service .transport) _ rfl rfl)

theorem threads_complete_contended : 2 ≤ total subscribedAndPlayed ∧
    ((∃ t s'', Step t snapshotTaken s'') ∨
      ((∀ t, snapshotTaken.code t = .done) ∧ ∀ m, snapshotTaken.owner m = none) ∨
      Full snapshotTaken ∧ ∀ room, 0 < room →
        ∃ t s'', Step t { snapshotTaken with room := room } s'') ∧
    ∀ t rest, snapshotTaken.code t = .await rest → ∀ m, snapshotTaken.owner m ≠ some t :=
  threads_complete subscribedAndPlayed_reachable steps_snapshotTaken

end Completion

end GMediaRender.LockDiscipline
