import GMediaRender.DeviceDescription
import GMediaRender.UpnpDevice

/-!
The descriptions of the renderer itself. The tables that they are made of stand beside the
handlers and the variable containers, not in them; what they list is what the device answers.
-/
namespace GMediaRender.RendererDescription

open XmlDoc XmlReader StateVariables ActionRequest OutputSilan UpnpTransport UpnpControl
  UpnpConnmgr RendererSystem UpnpDevice ErrorReports PublishedConstraints Signatures
  ServiceDescription DeviceDescription HeapBlock Webserver

section Tables

def aatPresetnames : List String := ["FactoryDefaults"]

def aatChannels : List String := ["Master", "LF", "RF", "CF", "LFE", "LS", "RS"]

def volumeRange : ParamRange := ⟨volumeRangeMin, volumeRangeMax, 1⟩

def controlVarMeta : ControlVar → VarMeta
  | .lastChange => ⟨.yes, .string, none, none, none⟩
  | .presetNameList => ⟨.no, .string, none, none, none⟩
  | .aatChannel => ⟨.no, .string, some aatChannels, none, none⟩
  | .aatInstanceId => ⟨.no, .ui4, none, none, none⟩
  | .aatPresetName => ⟨.no, .string, some aatPresetnames, none, none⟩
  | .mute => ⟨.no, .boolean, none, none, none⟩
  | .volume => ⟨.no, .ui2, none, some volumeRange, none⟩
  | .unknown => ⟨.no, .unknown, none, none, none⟩

def connmgrVariableNames : ConnmgrVar → Option String
  | .srcProtoInfo => some "SourceProtocolInfo"
  | .sinkProtoInfo => some "SinkProtocolInfo"
  | .curConnIds => some "CurrentConnectionIDs"
  | .aatConnStatus => some "A_ARG_TYPE_ConnectionStatus"
  | .aatConnMgr => some "A_ARG_TYPE_ConnectionManager"
  | .aatDir => some "A_ARG_TYPE_Direction"
  | .aatProtoInfo => some "A_ARG_TYPE_ProtocolInfo"
  | .aatConnId => some "A_ARG_TYPE_ConnectionID"
  | .aatAvtId => some "A_ARG_TYPE_AVTransportID"
  | .aatRcsId => some "A_ARG_TYPE_RcsID"
  | .unknown => none

def connstatusValues : List String :=
  ["OK", "ContentFormatMismatch", "InsufficientBandwidth", "UnreliableChannel", "Unknown"]

def directionValues : List String := ["Input", "Output"]

def connmgrVarMeta : ConnmgrVar → VarMeta
  | .srcProtoInfo | .sinkProtoInfo | .curConnIds => ⟨.yes, .string, none, none, none⟩
  | .aatConnStatus => ⟨.no, .string, some connstatusValues, none, none⟩
  | .aatConnMgr | .aatProtoInfo => ⟨.no, .string, none, none, none⟩
  | .aatDir => ⟨.no, .string, some directionValues, none, none⟩
  | .aatConnId | .aatAvtId | .aatRcsId => ⟨.no, .i4, none, none, none⟩
  | .unknown => ⟨.no, .unknown, none, none, none⟩

/-- The variables in the order of their indices. -/
def connmgrVars : List ConnmgrVar :=
  [.aatConnMgr, .sinkProtoInfo, .aatConnStatus, .aatAvtId, .aatDir, .aatRcsId, .aatProtoInfo,
    .aatConnId, .srcProtoInfo, .curConnIds, .unknown]

theorem mem_connmgrVars (i : ConnmgrVar) : i ∈ connmgrVars := by
  cases i <;> decide

theorem connmgrVariableNames_injective (i j : ConnmgrVar) (n : String)
    (hi : connmgrVariableNames i = some n) (hj : connmgrVariableNames j = some n) : i = j := by
  have hall : ∀ i ∈ connmgrVars, ∀ j ∈ connmgrVars,
      connmgrVariableNames i = connmgrVariableNames j → connmgrVariableNames i ≠ none →
        i = j := by decide
  exact hall i (mem_connmgrVars i) j (mem_connmgrVars j) (hi.trans hj.symm) (by simp [hi])

end Tables

section Services

/-- The actions of a service in the order of its table, and their argument lists. -/
def serviceActions {ι κ : Type} (cmds : List κ) (action : κ → DeviceAction)
    (arguments : κ → List (Argument ι)) : List (ServiceAction ι) :=
  cmds.map fun cmd => ⟨(action cmd).actionName, some (arguments cmd)⟩

def transportTables : ServiceTables TransportVar where
  actions := serviceActions [.getCurrentTransportActions, .getDeviceCapabilities, .getMediaInfo,
    .getPositionInfo, .getTransportInfo, .getTransportSettings, .pause, .play, .seek,
    .setAvTransportUri, .stop, .setNextAvTransportUri] (.renderer ∘ .transport) transportArguments
  stateVariables := transportVars.takeWhile (· ≠ .unknown)
  variableNames := transportVariableNames
  variableMeta := transportVarMeta

def controlTables : ServiceTables ControlVar where
  actions := serviceActions [.listPresets, .getMute, .setMute, .getVol, .setVol]
    (.renderer ∘ .control) controlArguments
  stateVariables := controlVars.takeWhile (· ≠ .unknown)
  variableNames := controlVariableNames
  variableMeta := controlVarMeta

def connmgrTables : ServiceTables ConnmgrVar where
  actions := serviceActions [.getCurrentConnectionIds, .setCurrentConnectionInfo,
    .getProtocolInfo, .prepareForConnection] .connmgr connmgrArguments
  stateVariables := connmgrVars.takeWhile (· ≠ .unknown)
  variableNames := connmgrVariableNames
  variableMeta := connmgrVarMeta

def Var : ServiceName → Type
  | .transport => TransportVar
  | .connmgr => ConnmgrVar
  | .control => ControlVar

instance decidableEqVar : (svc : ServiceName) → DecidableEq (Var svc)
  | .transport => inferInstanceAs (DecidableEq TransportVar)
  | .connmgr => inferInstanceAs (DecidableEq ConnmgrVar)
  | .control => inferInstanceAs (DecidableEq ControlVar)

def tables : (svc : ServiceName) → ServiceTables (Var svc)
  | .transport => transportTables
  | .connmgr => connmgrTables
  | .control => controlTables

/-- The strings of the services. -/
def entry : ServiceName → ServiceEntry
  | .transport => ⟨"urn:schemas-upnp-org:service:AVTransport:1",
      "urn:upnp-org:serviceId:AVTransport", "/upnp/rendertransportSCPD.xml",
      "/upnp/control/rendertransport1", "/upnp/event/rendertransport1"⟩
  | .connmgr => ⟨"urn:schemas-upnp-org:service:ConnectionManager:1",
      "urn:upnp-org:serviceId:ConnectionManager", "/upnp/renderconnmgrSCPD.xml",
      "/upnp/control/renderconnmgr1", "/upnp/event/renderconnmgr1"⟩
  | .control => ⟨"urn:schemas-upnp-org:service:RenderingControl:1",
      "urn:upnp-org:serviceId:RenderingControl", "/upnp/rendercontrolSCPD.xml",
      "/upnp/control/rendercontrol1", "/upnp/event/rendercontrol1"⟩

/-- The `upnp_services` of `upnp_renderer_init`. -/
def upnpServices : List ServiceName := [.transport, .connmgr, .control]

def service (svc : ServiceName) : Service := ⟨Var svc, entry svc, tables svc⟩

def icon1 : Icon := ⟨64, 64, 24, "/upnp/grender-64x64.png", "image/png"⟩

def icon2 : Icon := ⟨128, 128, 24, "/upnp/grender-128x128.png", "image/png"⟩

/-- The texts that the build puts into the descriptor. -/
structure Package where
  string : String
  name : String
  compileVersion : String

/-- `upnp_renderer_descriptor`, after `upnp_renderer_init` has set the services. -/
def upnpRendererDescriptor (package : Package) (friendlyName uuid : String) : Descriptor where
  strings :=
    { deviceType := "urn:schemas-upnp-org:device:MediaRenderer:1"
      presentationUrl := ""
      friendlyName
      manufacturer := "Ivo Clarysse, Henner Zeller"
      manufacturerUrl := "http://github.com/hzeller/gmrender-resurrect"
      modelDescription := package.string
      modelName := package.name
      modelNumber := package.compileVersion
      modelUrl := "http://github.com/hzeller/gmrender-resurrect"
      udn := "uuid:" ++ uuid }
  icons := [icon1, icon2]
  services := upnpServices.map service

end Services

section Requests

def findService (serviceId : String) : Option ServiceName :=
  upnpServices.find? fun svc => (entry svc).serviceId == serviceId

/-- The variables of a service's container. -/
def containerVars : (svc : ServiceName) → List (Var svc)
  | .transport => transportVars
  | .connmgr => connmgrVars
  | .control => controlVars

structure VarReply where
  errCode : ℤ
  currentVal : Option String
  deriving DecidableEq

def upnpSoapEInvalidVar : ℤ := 404

/-- The loop of `handle_var_request`: the first variable with the name. -/
def findVariable (values : (svc : ServiceName) → Var svc → String) (svc : ServiceName)
    (name : String) : Option String :=
  (containerVars svc).findSome? fun i =>
    match (tables svc).variableNames i with
    | some varname => if name = varname then some (values svc i) else none
    | none => none

/-- `handle_var_request` -/
def handleVarRequest (values : (svc : ServiceName) → Var svc → String)
    (serviceId stateVarName : String) : VarReply :=
  match findService serviceId with
  | none => ⟨upnpSoapEInvalidArgs, none⟩
  | some svc =>
    match findVariable values svc stateVarName with
    | none => ⟨upnpSoapEInvalidVar, none⟩
    | some result => ⟨upnpESuccess, some result⟩

end Requests

section Consistent

/-- The arguments of a service's actions stand for variables of the service. -/
theorem arguments_in_table (svc : ServiceName) : ∀ act ∈ (tables svc).actions, ∀ arglist,
    act.arguments = some arglist → ∀ arg ∈ arglist, arg.statevar ∈ (tables svc).stateVariables := by
  have htransport (cmd : TransportCmd) : ∀ arg ∈ transportArguments cmd,
      arg.statevar ∈ transportTables.stateVariables := by cases cmd <;> decide
  have hconnmgr (cmd : ConnmgrCmd) : ∀ arg ∈ connmgrArguments cmd,
      arg.statevar ∈ connmgrTables.stateVariables := by cases cmd <;> decide
  have hcontrol (cmd : ControlCmd) : ∀ arg ∈ controlArguments cmd,
      arg.statevar ∈ controlTables.stateVariables := by cases cmd <;> decide
  intro act hact arglist hargs
  cases svc with
  | transport =>
    obtain ⟨cmd, -, rfl⟩ := List.mem_map.mp hact
    obtain rfl := Option.some.inj hargs
    exact htransport cmd
  | connmgr =>
    obtain ⟨cmd, -, rfl⟩ := List.mem_map.mp hact
    obtain rfl := Option.some.inj hargs
    exact hconnmgr cmd
  | control =>
    obtain ⟨cmd, -, rfl⟩ := List.mem_map.mp hact
    obtain rfl := Option.some.inj hargs
    exact hcontrol cmd

/-- The variables of a service have names and data types. -/
theorem variables_named (svc : ServiceName) : ∀ i ∈ (tables svc).stateVariables,
    VariableNamed (tables svc) i := by
  have hnamed : ∀ i ∈ (tables svc).stateVariables, ((tables svc).variableNames i).isSome ∧
      (paramDatatypeNames ((tables svc).variableMeta i).datatype).isSome := by
    cases svc <;> decide +kernel
  exact hnamed

theorem tables_complete (svc : ServiceName) : Complete (tables svc) where
  actions act hact arglist hargs arg harg :=
    (variables_named svc _ (arguments_in_table svc act hact arglist hargs arg harg)).1
  stateVariables := variables_named svc

/-- The actions of a service in its table are the ones that are found for it. -/
theorem actions_eq (svc : ServiceName) : (tables svc).actions.map ServiceAction.actionName =
    (DeviceAction.all.filter fun a => a.serviceId == (entry svc).serviceId).map
      DeviceAction.actionName := by
  cases svc <;> decide +kernel

theorem findAction_isSome (serviceId name : String) : (findAction serviceId name).isSome ↔
    name ∈ (DeviceAction.all.filter fun a => a.serviceId == serviceId).map
      DeviceAction.actionName := by
  rw [findAction, List.find?_isSome]
  simp [and_assoc]

variable (values : (svc : ServiceName) → Var svc → String)

theorem names_injective (svc : ServiceName) (i j : Var svc) (name : String)
    (hi : (tables svc).variableNames i = some name)
    (hj : (tables svc).variableNames j = some name) : i = j := by
  cases svc with
  | transport => exact transportVariableNames_injective i j name hi hj
  | connmgr => exact connmgrVariableNames_injective i j name hi hj
  | control => exact controlVariableNames_injective i j name hi hj

/-- The variables with a name are the ones in the state table. -/
theorem mem_stateVariables (svc : ServiceName) (i : Var svc)
    (hi : ((tables svc).variableNames i).isSome) :
    i ∈ (tables svc).stateVariables ∧ i ∈ containerVars svc := by
  have htransport (i : TransportVar) (hi : (transportVariableNames i).isSome) :
      i ∈ transportTables.stateVariables ∧ i ∈ transportVars := by
    cases i <;> first | decide | cases hi
  have hconnmgr (i : ConnmgrVar) (hi : (connmgrVariableNames i).isSome) :
      i ∈ connmgrTables.stateVariables ∧ i ∈ connmgrVars := by
    cases i <;> first | decide | cases hi
  have hcontrol (i : ControlVar) (hi : (controlVariableNames i).isSome) :
      i ∈ controlTables.stateVariables ∧ i ∈ controlVars := by
    cases i <;> first | decide | cases hi
  cases svc with
  | transport => exact htransport i hi
  | connmgr => exact hconnmgr i hi
  | control => exact hcontrol i hi

/-- A variable that has the name is the one that is found. -/
theorem findVariable_named (svc : ServiceName) {i : Var svc} {name : String}
    (hi : (tables svc).variableNames i = some name) :
    findVariable values svc name = some (values svc i) := by
  have hmem := (mem_stateVariables svc i (by rw [hi]; rfl)).2
  cases hfound : findVariable values svc name with
  | none =>
    have hnone := List.findSome?_eq_none_iff.mp hfound i hmem
    simp [hi] at hnone
  | some value =>
    obtain ⟨j, -, hj⟩ := List.exists_of_findSome?_eq_some hfound
    cases hname : (tables svc).variableNames j with
    | none => simp [hname] at hj
    | some varname =>
      by_cases hsame : name = varname
      · simp only [hname, if_pos hsame] at hj
        rw [← Option.some.inj hj, names_injective svc i j name hi (hsame ▸ hname)]
      · simp [hname, hsame] at hj

theorem findVariable_unnamed (svc : ServiceName) {name : String}
    (hnone : ∀ i, (tables svc).variableNames i ≠ some name) :
    findVariable values svc name = none := by
  refine List.findSome?_eq_none_iff.mpr fun i _ => ?_
  cases hname : (tables svc).variableNames i with
  | none => rfl
  | some varname =>
    have hne : name ≠ varname := fun heq => hnone i (heq ▸ hname)
    exact if_neg hne

theorem findService_serviceId (svc : ServiceName) :
    findService (entry svc).serviceId = some svc := by
  cases svc <;> decide +kernel

/-- A query is answered with the value if the description has the variable, and refused if it
has not. -/
theorem query_described (svc : ServiceName) {info : ServiceInfo}
    (hinfo : describe (tables svc) = some info) (name : String) :
    ((∃ v ∈ info.stateTable, v.name = name) ↔
      (handleVarRequest values (entry svc).serviceId name).errCode = upnpESuccess) ∧
    ∀ i, (tables svc).variableNames i = some name →
      handleVarRequest values (entry svc).serviceId name = ⟨upnpESuccess, some (values svc i)⟩ := by
  have hvalue (i : Var svc) (hi : (tables svc).variableNames i = some name) :
      handleVarRequest values (entry svc).serviceId name =
        ⟨upnpESuccess, some (values svc i)⟩ := by
    simp [handleVarRequest, findService_serviceId, findVariable_named values svc hi]
  refine ⟨?_, hvalue⟩
  rw [mem_stateTable hinfo]
  constructor
  · rintro ⟨i, -, hi⟩
    rw [hvalue i hi]
  · intro hsuccess
    by_contra hnone
    have hunnamed : ∀ i, (tables svc).variableNames i ≠ some name := by
      intro i hi
      exact hnone ⟨i, (mem_stateVariables svc i (by rw [hi]; rfl)).1, hi⟩
    rw [handleVarRequest, findService_serviceId] at hsuccess
    simp only [findVariable_unnamed values svc hunnamed] at hsuccess
    exact absurd hsuccess (by decide)

/-- What the description of a service lists is what the device answers: the actions are those
that are found for its service id, the variables of their arguments are in the state table,
and the variables of the state table are those that can be queried, for their values. -/
theorem description_answered (svc : ServiceName) : ∃ info, describe (tables svc) = some info ∧
    (∀ name, (∃ a ∈ info.actions, a.name = name) ↔
      (findAction (entry svc).serviceId name).isSome) ∧
    (∀ a ∈ info.actions, ∀ args, a.arguments = some args → ∀ arg ∈ args,
      ∃ v ∈ info.stateTable, v.name = arg.relatedStateVariable) ∧
    ∀ values name, ((∃ v ∈ info.stateTable, v.name = name) ↔
        (handleVarRequest values (entry svc).serviceId name).errCode = upnpESuccess) ∧
      ∀ i, (tables svc).variableNames i = some name →
        handleVarRequest values (entry svc).serviceId name =
          ⟨upnpESuccess, some (values svc i)⟩ := by
  obtain ⟨info, hinfo⟩ := Option.isSome_iff_exists.mp
    ((describe_isSome (tables svc)).mpr (tables_complete svc))
  refine ⟨info, hinfo, fun name => ?_, fun a ha args hargs arg harg => ?_,
    fun values name => query_described values svc hinfo name⟩
  · rw [findAction_isSome, ← actions_eq, ← describe_actions hinfo]
    simp
  · exact related_mem_stateTable hinfo (arguments_in_table svc) ha hargs harg

end Consistent

section Discovery

theorem found_services (write : Node → String) (memory : String → Bool) (l : List ServiceName)
    (files : List VirtualFile) :
    ∃ files', (l.map service).foldlM (registerScpd write memory) files = some files' := by
  induction l generalizing files with
  | nil => exact ⟨files, rfl⟩
  | cons svc l ih =>
    obtain ⟨buf, hbuf⟩ := Option.isSome_iff_exists.mp
      ((upnpGetScpd_isSome (tables svc) write).mpr (tables_complete svc))
    obtain ⟨files', hfiles⟩ :=
      ih (webserverRegisterBuf files (scpdRegistration memory (service svc) buf)).1
    refine ⟨files', ?_⟩
    have hfirst : registerScpd write memory files (service svc) =
        some (webserverRegisterBuf files (scpdRegistration memory (service svc) buf)).1 := by
      rw [registerScpd, show upnpGetScpd write (service svc).tables = some buf from hbuf]
      rfl
    rw [List.map_cons, List.foldlM_cons, hfirst]
    exact hfiles

/-- The renderer comes up with whatever icons the disk has. -/
theorem upnpDeviceInit_renderer (write : Node → String) (disk : String → Option (List UInt8))
    (memory : String → Bool) (package : Package) (friendlyName uuid : String) : ∃ files,
      upnpDeviceInit write disk memory (upnpRendererDescriptor package friendlyName uuid) =
        some files :=
  found_services write memory upnpServices _

theorem plain_scpd (svc : ServiceName) : ∀ root ∈ generateScpd (tables svc), Plain root := by
  cases svc <;> decide +kernel

theorem discovery_renderer : ∃ files,
    upnpDeviceInit ixmlDocumentToString (fun _ => none) (fun _ => true)
      (upnpRendererDescriptor ⟨"gmediarender 0.0.7", "gmediarender", "0.0.7"⟩ "silan" "1") =
        some files ∧
    ∀ s ∈ upnpServices.map service, ∃ text info,
      Served ⟨31, le_rfl⟩ files s.entry.scpdUrl text ∧
      (readDocument text).bind readService = some info ∧ describe s.tables = some info := by
  obtain ⟨files, hinit⟩ := upnpDeviceInit_renderer ixmlDocumentToString (fun _ => none)
    (fun _ => true) ⟨"gmediarender 0.0.7", "gmediarender", "0.0.7"⟩ "silan" "1"
  refine ⟨files, hinit, (discovery ⟨31, le_rfl⟩ readsBack_readDocument _ _ _ hinit (by decide)
    (fun _ _ => rfl) ?_ ?_).2.2⟩
  · decide +kernel
  · intro s hs
    obtain ⟨svc, -, rfl⟩ := List.mem_map.mp hs
    exact plain_scpd svc

end Discovery

section Requests

/-- Every argument that is asked for is in the request, and the instance is not empty. -/
structure Follows (wanted : List (String × ParamDir)) (doc : Option (List Node)) : Prop where
  present : ∀ arg ∈ wanted, arg.2 = .dirIn → hasArgument doc arg.1 = true
  instanceId : ∀ arg ∈ wanted, arg.1 = "InstanceID" → Given doc "InstanceID"

def wanted {ι : Type} (l : List (Argument ι)) : List (String × ParamDir) :=
  l.map fun arg => (arg.name, arg.direction)

variable {doc : Option (List Node)}

theorem upnpGetString_present {key : String} (h : hasArgument doc key = true) :
    ∃ value, upnpGetString (newRequest doc) key = (newRequest doc, value) := by
  cases hget : upnpGetString (newRequest doc) key with
  | mk e' value =>
    refine ⟨value, ?_⟩
    cases value with
    | some value => rw [(upnpGetString_some hget).1]
    | none =>
      obtain ⟨-, ⟨-, rfl⟩ | ⟨hmissing, -⟩⟩ := upnpGetString_none hget
      · rfl
      · exact absurd (h.symm.trans hmissing) (by decide)

/-- The handler has not found fault with the arguments. -/
def Accepted {σ : Type} (r : Handled σ) : Prop := upnpSoapEInvalidArgs ∉ r.event.errors

theorem accepted_appendVariables {ι σ : Type} (vars : Store ι) (l : List (ι × String)) (s : σ)
    (rc : ℤ) : Accepted (⟨appendVariables (newRequest doc) vars l, s, rc⟩ : Handled σ) := by
  rw [Accepted, (appendVariables_clean vars l _).1]
  exact List.not_mem_nil

theorem accepted_same {σ : Type} (s : σ) (rc : ℤ) :
    Accepted (⟨newRequest doc, s, rc⟩ : Handled σ) := List.not_mem_nil

theorem accepted_setError {σ : Type} {code : ℤ} (text : String) (s : σ) (rc : ℤ)
    (hcode : upnpSoapEInvalidArgs ≠ code) :
    Accepted (⟨upnpSetError (newRequest doc) code text, s, rc⟩ : Handled σ) := by
  rw [Accepted]
  exact fun hmem => hcode (List.mem_singleton.mp hmem)

theorem accepted_startPlaying (env : Env) (s : AvTransport) :
    Accepted (startPlaying env s (newRequest doc)) := by
  unfold startPlaying
  simp only
  split_ifs
  · exact accepted_setError _ _ _ (by decide)
  · exact accepted_same _ _

theorem accepted_transportActions (env : Env) (s : AvTransport) (cmd : TransportCmd)
    (h : Follows (wanted (transportArguments cmd)) doc) :
    Accepted (transportActions env s (newRequest doc) cmd) := by
  have hid : Given doc "InstanceID" :=
    h.instanceId ("InstanceID", .dirIn) (by cases cmd <;> simp [wanted, transportArguments]) rfl
  have hbody (body : ActionEvent → Handled AvTransport) (hb : Accepted (body (newRequest doc))) :
      Accepted (withInstanceid s (newRequest doc) body) := by
    rw [withInstanceid_given s body (newRequest doc) hid]
    exact hb
  have hlookup (key : String) (hkey : (key, ParamDir.dirIn) ∈ wanted (transportArguments cmd)) :=
    upnpGetString_present (h.present _ hkey rfl)
  cases cmd with
  | pause =>
    refine hbody _ ?_
    cases s.transportState with
    | pausedPlayback => exact accepted_same _ _
    | playing =>
      simp only
      split_ifs
      · exact accepted_setError _ _ _ (by decide)
      · exact accepted_same _ _
    | _ => exact accepted_setError _ _ _ (by decide)
  | play =>
    refine hbody _ ?_
    cases s.transportState with
    | playing => exact accepted_same _ _
    | stopped => exact accepted_startPlaying env _
    | pausedPlayback => exact accepted_startPlaying env _
    | _ => exact accepted_setError _ _ _ (by decide)
  | stop =>
    refine hbody _ ?_
    cases s.transportState with
    | noMediaPresent => exact accepted_setError _ _ _ (by decide)
    | _ => exact accepted_same _ _
  | seek =>
    obtain ⟨unit, hunit⟩ := hlookup "Unit" (by simp [wanted, transportArguments])
    obtain ⟨target, htarget⟩ := hlookup "Target" (by simp [wanted, transportArguments])
    refine hbody _ ?_
    simp only [hunit]
    cases unit with
    | none => exact accepted_same _ _
    | some unit =>
      simp only [htarget]
      split_ifs
      · cases target <;> exact accepted_same _ _
      · exact accepted_same _ _
  | setAvTransportUri =>
    obtain ⟨uri, huri⟩ := hlookup "CurrentURI" (by simp [wanted, transportArguments])
    obtain ⟨metadata, hmeta⟩ := hlookup "CurrentURIMetaData" (by simp [wanted, transportArguments])
    refine hbody _ ?_
    simp only [huri]
    cases uri with
    | none => exact accepted_same _ _
    | some uri =>
      simp only [hmeta]
      exact accepted_same _ _
  | setNextAvTransportUri =>
    obtain ⟨uri, huri⟩ := hlookup "NextURI" (by simp [wanted, transportArguments])
    obtain ⟨metadata, hmeta⟩ := hlookup "NextURIMetaData" (by simp [wanted, transportArguments])
    refine hbody _ ?_
    simp only [huri]
    cases uri with
    | none => exact accepted_same _ _
    | some uri =>
      simp only [hmeta]
      cases metadata <;> exact accepted_same _ _
  | _ => exact hbody _ (accepted_appendVariables _ _ _ _)

theorem accepted_controlActions (env : Env) (s : Control) (cmd : ControlCmd)
    (h : Follows (wanted (controlArguments cmd)) doc) :
    Accepted (controlActions env s (newRequest doc) cmd) := by
  have hlookup (key : String) (hkey : (key, ParamDir.dirIn) ∈ wanted (controlArguments cmd)) :=
    upnpGetString_present (h.present _ hkey rfl)
  have hobtain (i : ControlVar) (paramname : String) :
      Accepted (cmdObtainVariable s (newRequest doc) i paramname) := by
    obtain ⟨id, hid⟩ := hlookup "InstanceID" (by cases cmd <;> simp [wanted, controlArguments])
    rw [cmdObtainVariable, hid]
    cases id with
    | none => exact accepted_same _ _
    | some id => exact accepted_appendVariables s.vars [(i, paramname)] s 0
  cases cmd with
  | setMute =>
    obtain ⟨value, hvalue⟩ := hlookup "DesiredMute" (by simp [wanted, controlArguments])
    simp only [controlActions, setMute, hvalue]
    cases value <;> exact accepted_same _ _
  | setVol =>
    obtain ⟨value, hvalue⟩ := hlookup "DesiredVolume" (by simp [wanted, controlArguments])
    simp only [controlActions, setVolume, hvalue]
    cases value <;> exact accepted_same _ _
  | _ => exact hobtain _ _

theorem accepted_connmgrActions (s : Store ConnmgrVar) (cmd : ConnmgrCmd)
    (h : Follows (wanted (connmgrArguments cmd)) doc) :
    Accepted (connmgrActions s (newRequest doc) cmd) := by
  cases cmd with
  | getProtocolInfo => exact accepted_appendVariables _ _ _ _
  | getCurrentConnectionIds =>
    rw [Accepted]
    simp only [connmgrActions, getCurrentConnIds, upnpAddResponse_errors]
    exact List.not_mem_nil
  | prepareForConnection => exact accepted_appendVariables _ _ _ _
  | setCurrentConnectionInfo =>
    obtain ⟨id, hid⟩ := upnpGetString_present
      (h.present ("ConnectionID", .dirIn) (by simp [wanted, connmgrArguments]) rfl)
    simp only [connmgrActions, getCurrentConnInfo, hid]
    cases id with
    | none => exact accepted_same _ _
    | some id => exact accepted_appendVariables _ _ _ _

/-- The arguments of an action in the table of its service. -/
def argumentsOf : DeviceAction → List (String × ParamDir)
  | .renderer (.transport cmd) => wanted (transportArguments cmd)
  | .renderer (.control cmd) => wanted (controlArguments cmd)
  | .connmgr cmd => wanted (connmgrArguments cmd)

theorem accepted_callback (env : Env) (s : Device) (a : DeviceAction)
    (h : Follows (argumentsOf a) doc) : Accepted (callback env s (newRequest doc) a) := by
  rcases a with (cmd | cmd) | cmd
  · exact accepted_transportActions env s.renderer.transport cmd h
  · exact accepted_controlActions env s.renderer.controlPart cmd h
  · exact accepted_connmgrActions s.connmgr cmd h

/-- The arguments that an entry of a description has. -/
def listedArguments (info : ActionInfo) : List (String × ParamDir) :=
  (info.arguments.getD []).map fun arg => (arg.name, arg.direction)

theorem wanted_describeAction {ι : Type} {varnames : ι → Option String} {act : ServiceAction ι}
    {info : ActionInfo} (h : describeAction varnames act = some info) :
    listedArguments info = wanted (act.arguments.getD []) := by
  unfold describeAction at h
  cases hargs : act.arguments with
  | none =>
    rw [hargs] at h
    obtain rfl := Option.some.inj h
    rfl
  | some arglist =>
    rw [hargs] at h
    obtain ⟨args, hlist, rfl⟩ := Option.map_eq_some_iff.mp h
    refine map_of_mapM (fun arg described hd => ?_) hlist
    obtain ⟨statevar, -, rfl⟩ := Option.map_eq_some_iff.mp hd
    rfl

/-- An action of the table is known by its name. -/
theorem arguments_of_name (a : DeviceAction) : ∀ act ∈ (tables a.service).actions,
    act.actionName = a.actionName → wanted (act.arguments.getD []) = argumentsOf a := by
  have htransport (cmd : TransportCmd) : ∀ act ∈ transportTables.actions,
      act.actionName = (DeviceAction.renderer (.transport cmd)).actionName →
        wanted (act.arguments.getD []) = wanted (transportArguments cmd) := by
    cases cmd <;> decide
  have hcontrol (cmd : ControlCmd) : ∀ act ∈ controlTables.actions,
      act.actionName = (DeviceAction.renderer (.control cmd)).actionName →
        wanted (act.arguments.getD []) = wanted (controlArguments cmd) := by
    cases cmd <;> decide
  have hconnmgr (cmd : ConnmgrCmd) : ∀ act ∈ connmgrTables.actions,
      act.actionName = (DeviceAction.connmgr cmd).actionName →
        wanted (act.arguments.getD []) = wanted (connmgrArguments cmd) := by
    cases cmd <;> decide
  rcases a with (cmd | cmd) | cmd
  · exact htransport cmd
  · exact hcontrol cmd
  · exact hconnmgr cmd

theorem serviceId_eq (a : DeviceAction) : a.serviceId = (entry a.service).serviceId := by
  rcases a with (cmd | cmd) | cmd <;> rfl

theorem service_of_serviceId (a : DeviceAction) (svc : ServiceName)
    (h : a.serviceId = (entry svc).serviceId) : a.service = svc := by
  have hsame := findService_serviceId a.service
  rw [← serviceId_eq, h, findService_serviceId] at hsame
  exact (Option.some.inj hsame).symm

/-- The listed actions of a service are actions of the device. -/
theorem listed_action (svc : ServiceName) {info : ServiceInfo}
    (hinfo : describe (tables svc) = some info) {listed : ActionInfo}
    (hlisted : listed ∈ info.actions) :
    ∃ a : DeviceAction, a.service = svc ∧ a.serviceId = (entry svc).serviceId ∧
      a.actionName = listed.name := by
  have hmem : listed.name ∈ (tables svc).actions.map ServiceAction.actionName := by
    rw [← describe_actions hinfo]
    exact List.mem_map_of_mem hlisted
  rw [actions_eq] at hmem
  obtain ⟨a, ha, hname⟩ := List.mem_map.mp hmem
  have hid : a.serviceId = (entry svc).serviceId := by simpa using (List.mem_filter.mp ha).2
  exact ⟨a, service_of_serviceId a svc hid, hid, hname⟩

theorem argumentsOf_listed (a : DeviceAction) {info : ServiceInfo}
    (hinfo : describe (tables a.service) = some info) {listed : ActionInfo}
    (hlisted : listed ∈ info.actions) (hname : a.actionName = listed.name) :
    listedArguments listed = argumentsOf a := by
  obtain ⟨act, hact, hdescribe⟩ := mem_of_mapM (describe_eq_some hinfo).2.1 hlisted
  have hactName := name_describeAction hdescribe
  rw [wanted_describeAction hdescribe]
  exact arguments_of_name a act hact (hactName.symm.trans hname.symm)

/-- A request that follows the description of an action is never refused for its arguments,
whatever the device is doing. -/
theorem described_request_accepted (env : Env) (s : Device) (svc : ServiceName)
    {info : ServiceInfo} (hinfo : describe (tables svc) = some info) {listed : ActionInfo}
    (hlisted : listed ∈ info.actions) (h : Follows (listedArguments listed) doc) :
    Accepted (handleActionRequest env s (newRequest doc) (entry svc).serviceId listed.name) := by
  obtain ⟨a, rfl, hid, hname⟩ := listed_action svc hinfo hlisted
  rw [argumentsOf_listed a hinfo hlisted hname] at h
  have haccepted := accepted_callback env s a h
  rw [← hid, ← hname, handleActionRequest, findAction_actionName]
  exact haccepted

theorem described_request_accepted_stop : ∃ info listed, describe (tables .transport) = some info ∧
    listed ∈ info.actions ∧ listed.name = "Stop" ∧
    Accepted (handleActionRequest allSent started
      (newRequest (requestDoc "Stop" [("InstanceID", "0")]))
      "urn:upnp-org:serviceId:AVTransport" listed.name) := by
  obtain ⟨info, hinfo⟩ := Option.isSome_iff_exists.mp
    ((describe_isSome (tables .transport)).mpr (tables_complete .transport))
  have hstop : "Stop" ∈ info.actions.map ActionInfo.name := by
    rw [describe_actions hinfo]
    decide
  obtain ⟨listed, hlisted, hname⟩ := List.mem_map.mp hstop
  refine ⟨info, listed, hinfo, hlisted, hname, ?_⟩
  refine described_request_accepted allSent started .transport hinfo hlisted ?_
  rw [argumentsOf_listed (.renderer (.transport .stop)) hinfo hlisted hname.symm]
  constructor
  · decide
  · intro arg _ _
    exact (rfl : (argument (requestDoc "Stop" [("InstanceID", "0")]) "InstanceID").isSome = true)

end Requests

end GMediaRender.RendererDescription
