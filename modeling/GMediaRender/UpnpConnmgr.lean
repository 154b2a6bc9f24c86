import GMediaRender.ActionRequest

/-!
The ConnectionManager service of upnp_connmgr.c. Its variables do not change in a request
and are not evented, so there is no collector.
-/
namespace GMediaRender.UpnpConnmgr

open StateVariables ActionRequest

/-- The indices CONNMGR_VAR_… -/
inductive ConnmgrVar where
  | aatConnMgr
  | sinkProtoInfo
  | aatConnStatus
  | aatAvtId
  | aatDir
  | aatRcsId
  | aatProtoInfo
  | aatConnId
  | srcProtoInfo
  | curConnIds
  | unknown
  deriving DecidableEq

def connmgrDefaultValues : ConnmgrVar → String
  | .srcProtoInfo => ""
  | .sinkProtoInfo => "http-get:*:audio/mpeg:*"
  | .curConnIds => "0"
  | .aatConnStatus => "Unknown"
  | .aatConnMgr => "/"
  | .aatDir => "Input"
  | .aatProtoInfo => ":::"
  | .aatConnId => "-1"
  | .aatAvtId => "0"
  | .aatRcsId => "0"
  | .unknown => ""

section Handlers

variable (s : Store ConnmgrVar) (e : ActionEvent)

def getProtocolInfo : Handled (Store ConnmgrVar) :=
  let e := appendVariables e s [(.srcProtoInfo, "Source"), (.sinkProtoInfo, "Sink")]
  ⟨e, s, e.status⟩

/-- The return code stays at its initial value: what would set it is commented out. -/
def getCurrentConnIds : Handled (Store ConnmgrVar) :=
  ⟨upnpAddResponse e "ConnectionIDs" "0", s, -1⟩

def prepareForConnection : Handled (Store ConnmgrVar) :=
  ⟨appendVariables e s [(.curConnIds, "ConnectionID"), (.aatAvtId, "AVTransportID"),
    (.aatRcsId, "RcsID")], s, 0⟩

def getCurrentConnInfo : Handled (Store ConnmgrVar) :=
  match upnpGetString e "ConnectionID" with
  | (e, none) => ⟨e, s, -1⟩
  | (e, some _) =>
    ⟨appendVariables e s [(.aatRcsId, "RcsID"), (.aatAvtId, "AVTransportID"),
      (.aatProtoInfo, "ProtocolInfo"), (.aatConnMgr, "PeerConnectionManager"),
      (.aatConnId, "PeerConnectionID"), (.aatDir, "Direction"), (.aatConnStatus, "Status")], s, 0⟩

/-- The actions of the service. -/
inductive ConnmgrCmd where
  | getCurrentConnectionIds
  | setCurrentConnectionInfo
  | getProtocolInfo
  | prepareForConnection
  deriving DecidableEq

/-- The handler that `connmgr_actions` gives for an action. -/
def connmgrActions : ConnmgrCmd → Handled (Store ConnmgrVar)
  | .getProtocolInfo => getProtocolInfo s e
  | .getCurrentConnectionIds => getCurrentConnIds s e
  | .setCurrentConnectionInfo => getCurrentConnInfo s e
  | .prepareForConnection => prepareForConnection s e

end Handlers

end GMediaRender.UpnpConnmgr
