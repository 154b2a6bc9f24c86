import GMediaRender.RendererSystem
import GMediaRender.UpnpConnmgr

/-!
The device of upnp_device.c over its three services: how an action request finds its
handler, and what becomes of the handler's return code and response.
-/
namespace GMediaRender.UpnpDevice

open XmlDoc StateVariables ActionRequest OutputSilan UpnpTransport UpnpControl UpnpConnmgr
  RendererSystem

structure Device where
  renderer : Renderer
  connmgr : Store ConnmgrVar

/-- The actions of the three services. -/
inductive DeviceAction where
  | renderer (a : Action)
  | connmgr (cmd : ConnmgrCmd)
  deriving DecidableEq

/-- The services, in the order of `upnp_services`. -/
inductive ServiceName where
  | transport
  | connmgr
  | control
  deriving DecidableEq

namespace DeviceAction

def service : DeviceAction → ServiceName
  | .renderer (.transport _) => .transport
  | .renderer (.control _) => .control
  | .connmgr _ => .connmgr

def serviceId : DeviceAction → String
  | .renderer (.transport _) => "urn:upnp-org:serviceId:AVTransport"
  | .renderer (.control _) => "urn:upnp-org:serviceId:RenderingControl"
  | .connmgr _ => "urn:upnp-org:serviceId:ConnectionManager"

def actionName : DeviceAction → String
  | .renderer (.transport .getCurrentTransportActions) => "GetCurrentTransportActions"
  | .renderer (.transport .getDeviceCapabilities) => "GetDeviceCapabilities"
  | .renderer (.transport .getMediaInfo) => "GetMediaInfo"
  | .renderer (.transport .setAvTransportUri) => "SetAVTransportURI"
  | .renderer (.transport .setNextAvTransportUri) => "SetNextAVTransportURI"
  | .renderer (.transport .getTransportInfo) => "GetTransportInfo"
  | .renderer (.transport .getPositionInfo) => "GetPositionInfo"
  | .renderer (.transport .getTransportSettings) => "GetTransportSettings"
  | .renderer (.transport .stop) => "Stop"
  | .renderer (.transport .play) => "Play"
  | .renderer (.transport .pause) => "Pause"
  | .renderer (.transport .seek) => "Seek"
  | .renderer (.control .listPresets) => "ListPresets"
  | .renderer (.control .getMute) => "GetMute"
  | .renderer (.control .setMute) => "SetMute"
  | .renderer (.control .getVol) => "GetVolume"
  | .renderer (.control .setVol) => "SetVolume"
  | .connmgr .getProtocolInfo => "GetProtocolInfo"
  | .connmgr .getCurrentConnectionIds => "GetCurrentConnectionIDs"
  | .connmgr .setCurrentConnectionInfo => "GetCurrentConnectionInfo"
  | .connmgr .prepareForConnection => "PrepareForConnection"

/-- The actions of the services, each service's in the order of its table. -/
def all : List DeviceAction :=
  [.renderer (.transport .getCurrentTransportActions),
    .renderer (.transport .getDeviceCapabilities), .renderer (.transport .getMediaInfo),
    .renderer (.transport .getPositionInfo), .renderer (.transport .getTransportInfo),
    .renderer (.transport .getTransportSettings), .renderer (.transport .pause),
    .renderer (.transport .play), .renderer (.transport .seek),
    .renderer (.transport .setAvTransportUri), .renderer (.transport .stop),
    .renderer (.transport .setNextAvTransportUri), .connmgr .getCurrentConnectionIds,
    .connmgr .setCurrentConnectionInfo, .connmgr .getProtocolInfo, .connmgr .prepareForConnection,
    .renderer (.control .listPresets), .renderer (.control .getMute),
    .renderer (.control .setMute), .renderer (.control .getVol), .renderer (.control .setVol)]

end DeviceAction

/-- `find_service` and `find_action` -/
def findAction (serviceId name : String) : Option DeviceAction :=
  DeviceAction.all.find? fun a => a.serviceId == serviceId && a.actionName == name

/-- The action's callback. -/
def callback (env : Env) (s : Device) (e : ActionEvent) : DeviceAction → Handled Device
  | .renderer (.transport cmd) =>
    let r := transportActions env s.renderer.transport e cmd
    ⟨r.event, { s with renderer := { s.renderer with transport := r.state } }, r.rc⟩
  | .renderer (.control cmd) =>
    let r := controlActions env s.renderer.controlPart e cmd
    ⟨r.event, { s with renderer := s.renderer.setControlPart r.state }, r.rc⟩
  | .connmgr cmd =>
    let r := connmgrActions s.connmgr e cmd
    ⟨r.event, { s with connmgr := r.state }, r.rc⟩

/-- What `handle_action_request` does after the callback: a return code of 0 overrides the
error, and a missing response becomes an empty one. -/
def finishRequest (e : ActionEvent) (rc : ℤ) : ActionEvent :=
  { e with
    errCode := if rc = 0 then upnpESuccess else e.errCode
    actionResult := some (e.actionResult.getD []) }

/-- `handle_action_request`, without the bracket around the changes. -/
def handleActionRequest (env : Env) (s : Device) (e : ActionEvent) (serviceId name : String) :
    Handled Device :=
  match findAction serviceId name with
  | none => ⟨{ e with actionResult := none, errCode := 401 }, s, -1⟩
  | some a =>
    let r := callback env s e a
    ⟨finishRequest r.event r.rc, r.state, 0⟩

/-- An action is found under its own name. -/
theorem findAction_actionName (a : DeviceAction) :
    findAction a.serviceId a.actionName = some a := by
  rcases a with (cmd | cmd) | cmd <;> cases cmd <;> decide +kernel

end GMediaRender.UpnpDevice
