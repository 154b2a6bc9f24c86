import GMediaRender.UpnpTransport
import GMediaRender.UpnpControl

/-!
The renderer as one system: controller actions, infra-red keys, messages of the player
and passes of the watchdog, each an atomic step. What the environment decides in a step
is part of the event.
-/
namespace GMediaRender.RendererSystem

open XmlDoc StateVariables ActionRequest OutputSilan UpnpTransport UpnpControl Runs

structure Renderer where
  transport : AvTransport
  control : Store ControlVar
  counters : Counters

/-- The actions of the AVTransport and RenderingControl services. -/
inductive Action where
  | transport (cmd : TransportCmd)
  | control (cmd : ControlCmd)
  deriving DecidableEq

/-- The keys that `output_silan_loop` knows. -/
inductive Key where
  | radio
  | volumeUp
  | volumeDown
  | mute
  deriving DecidableEq

inductive Event where
  | action (a : Action) (doc : Option (List Node)) (env : Env)
  | key (k : Key) (env : Env)
  | message (m : Message) (env : Env)
  | idlePass (lock : Option ℤ) (env : Env)

def Event.isPlay : Event → Bool
  | .action (.transport .play) _ _ => true
  | _ => false

theorem Event.isPlay_iff {e : Event} :
    e.isPlay = true ↔ ∃ doc env, e = .action (.transport .play) doc env := by
  unfold Event.isPlay
  split
  · simp
  · rename_i hne
    simpa using hne

/-- A message, with the call of the transport callback if there is feedback. -/
def receive (s : AvTransport) (m : Message) (env : Env) : AvTransport :=
  let r := outputSilanRecvCmd env s.silan m
  let s := { s with silan := r.1 }
  match r.2 with
  | some fb => transitionFromOutput s fb
  | none => s

namespace Renderer

def silan (s : Renderer) : SilanData := s.transport.silan

def setSilan (s : Renderer) (d : SilanData) : Renderer :=
  { s with transport := { s.transport with silan := d } }

/-- The part of the state that the RenderingControl service works on. -/
def controlPart (s : Renderer) : Control := ⟨s.control, s.silan⟩

def setControlPart (s : Renderer) (c : Control) : Renderer :=
  { s.setSilan c.silan with control := c.vars }

/-- Run the handler of an action on a request. -/
def handleAction (s : Renderer) (a : Action) (doc : Option (List Node)) (env : Env) :
    Handled Renderer :=
  match a with
  | .transport cmd =>
    let r := transportActions env s.transport (newRequest doc) cmd
    ⟨r.event, { s with transport := r.state }, r.rc⟩
  | .control cmd =>
    let r := controlActions env s.controlPart (newRequest doc) cmd
    ⟨r.event, s.setControlPart r.state, r.rc⟩

/-- A key; KEY_RADIO switches to SPDIF-in and tells the transport that playing stopped. -/
def handleKey (s : Renderer) (k : Key) (env : Env) : Renderer :=
  match k with
  | .radio =>
    let s := s.setSilan (outputSilanSetSpdifin env s.silan)
    { s with transport := transitionFromOutput s.transport .playStopped }
  | .volumeUp => s.setControlPart (volumeKey env s.controlPart 1)
  | .volumeDown => s.setControlPart (volumeKey env s.controlPart (-1))
  | .mute => s.setControlPart (muteKey env s.controlPart)

def handleMessage (s : Renderer) (m : Message) (env : Env) : Renderer :=
  { s with transport := receive s.transport m env }

def handleIdlePass (s : Renderer) (lock : Option ℤ) (env : Env) : Renderer :=
  let r := idlePass env s.counters s.silan lock
  { s.setSilan r.2 with counters := r.1 }

def step (s : Renderer) : Event → Renderer
  | .action a doc env => (s.handleAction a doc env).state
  | .key k env => s.handleKey k env
  | .message m env => s.handleMessage m env
  | .idlePass lock env => s.handleIdlePass lock env

end Renderer

/-- The renderer after start-up: the output module is initialised, then the services. -/
def startUp (env : Env) (padmux volume mute : ℤ) : Renderer :=
  let d := outputSilanInit env padmux volume mute
  ⟨⟨.stopped, ⟨transportDefaultValues, []⟩, d⟩, (upnpControlInit d).vars, ⟨0, 0, 0⟩⟩

/-- The commands sent in a step. -/
def newlySent (s s' : Renderer) : List SentCmd := s'.silan.sent.drop s.silan.sent.length

section Requests

/-- Every send succeeds, and no reply comes. -/
def allSent : Env := fun _ => ⟨true, none⟩

def setUriAction (uri : String) : Event :=
  .action (.transport .setAvTransportUri)
    (requestDoc "SetAVTransportURI" [("InstanceID", "0"), ("CurrentURI", uri)]) allSent

def setNextUriAction (uri : String) : Event :=
  .action (.transport .setNextAvTransportUri)
    (requestDoc "SetNextAVTransportURI" [("InstanceID", "0"), ("NextURI", uri)]) allSent

def playRequest : Option (List Node) := requestDoc "Play" [("InstanceID", "0"), ("Speed", "1")]

def playAction : Event := .action (.transport .play) playRequest allSent

def pauseAction : Event :=
  .action (.transport .pause) (requestDoc "Pause" [("InstanceID", "0")]) allSent

def stopAction : Event :=
  .action (.transport .stop) (requestDoc "Stop" [("InstanceID", "0")]) allSent

def playerMessage (cmd : MsgCmd) (param : ℤ) : Event := .message ⟨swaSignalUi, cmd, param⟩ allSent

end Requests

end GMediaRender.RendererSystem
