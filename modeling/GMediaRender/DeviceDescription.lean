import GMediaRender.ServiceDescription
import GMediaRender.Webserver

/-!
The description of a device and the documents that its web server has: upnp_device.c writes
the one, with the addresses of the service descriptions, and registers the others under these
addresses. A controller that starts with the device description comes to every service.
-/
namespace GMediaRender.DeviceDescription

open XmlDoc XmlReader ActionRequest UpnpTime PublishedConstraints ServiceDescription HeapBlock
  Webserver

section Descriptor

/-- `struct icon` -/
structure Icon where
  width : ℤ
  height : ℤ
  depth : ℤ
  url : String
  mimetype : String
  deriving DecidableEq

/-- The strings of `struct service` that the device description has. -/
structure ServiceEntry where
  serviceType : String
  serviceId : String
  scpdUrl : String
  controlUrl : String
  eventUrl : String
  deriving DecidableEq

/-- The strings of `struct upnp_device_descriptor` that the device description has. -/
structure DeviceStrings where
  deviceType : String
  presentationUrl : String
  friendlyName : String
  manufacturer : String
  manufacturerUrl : String
  modelDescription : String
  modelName : String
  modelNumber : String
  modelUrl : String
  udn : String
  deriving DecidableEq

/-- What a device description says. -/
structure DeviceInfo where
  strings : DeviceStrings
  icons : Option (List Icon)
  services : List ServiceEntry
  deriving DecidableEq

end Descriptor

section Generator

/-- `gen_desc_iconlist`, one round. -/
def iconElement (icon : Icon) : Node :=
  .element "icon" [] [valueElement "mimetype" icon.mimetype, valueElementInt "width" icon.width,
    valueElementInt "height" icon.height, valueElementInt "depth" icon.depth,
    valueElement "url" icon.url]

/-- `gen_desc_servicelist`, one round. -/
def serviceElement (srv : ServiceEntry) : Node :=
  .element "service" [] [valueElement "serviceType" srv.serviceType,
    valueElement "serviceId" srv.serviceId, valueElement "SCPDURL" srv.scpdUrl,
    valueElement "controlURL" srv.controlUrl, valueElement "eventSubURL" srv.eventUrl]

/-- The children of the device element of `generate_desc`. -/
def deviceChildren (d : DeviceInfo) : List Node :=
  [valueElement "deviceType" d.strings.deviceType,
    valueElement "presentationURL" d.strings.presentationUrl,
    valueElement "friendlyName" d.strings.friendlyName,
    valueElement "manufacturer" d.strings.manufacturer,
    valueElement "manufacturerURL" d.strings.manufacturerUrl,
    valueElement "modelDescription" d.strings.modelDescription,
    valueElement "modelName" d.strings.modelName,
    valueElement "modelNumber" d.strings.modelNumber,
    valueElement "modelURL" d.strings.modelUrl, valueElement "UDN" d.strings.udn] ++
  (d.icons.map fun icons => .element "iconList" [] (icons.map iconElement)).toList ++
  [.element "serviceList" [] (d.services.map serviceElement)]

/-- `generate_desc` -/
def generateDesc (d : DeviceInfo) : Node :=
  newTopElement "root" (some "urn:schemas-upnp-org:device-1-0")
    [genSpecversion 1 0, .element "device" [] (deviceChildren d)]

/-- `upnp_create_device_desc`, where `write` gives the text of a document. -/
def upnpCreateDeviceDesc (write : Node → String) (d : DeviceInfo) : String :=
  write (generateDesc d)

end Generator

section Reader

def readIcon (n : Node) : Option Icon :=
  (readNumber n "width").bind fun width => (readNumber n "height").bind fun height =>
    (readNumber n "depth").bind fun depth => (readValue n "url").bind fun url =>
      (readValue n "mimetype").map fun mimetype => ⟨width, height, depth, url, mimetype⟩

def readEntry (n : Node) : Option ServiceEntry :=
  (readValue n "serviceType").bind fun serviceType =>
    (readValue n "serviceId").bind fun serviceId => (readValue n "SCPDURL").bind fun scpdUrl =>
      (readValue n "controlURL").bind fun controlUrl =>
        (readValue n "eventSubURL").map fun eventUrl =>
          ⟨serviceType, serviceId, scpdUrl, controlUrl, eventUrl⟩

def readStrings (n : Node) : Option DeviceStrings :=
  (readValue n "deviceType").bind fun deviceType =>
    (readValue n "presentationURL").bind fun presentationUrl =>
      (readValue n "friendlyName").bind fun friendlyName =>
        (readValue n "manufacturer").bind fun manufacturer =>
          (readValue n "manufacturerURL").bind fun manufacturerUrl =>
            (readValue n "modelDescription").bind fun modelDescription =>
              (readValue n "modelName").bind fun modelName =>
                (readValue n "modelNumber").bind fun modelNumber =>
                  (readValue n "modelURL").bind fun modelUrl =>
                    (readValue n "UDN").map fun udn =>
                      ⟨deviceType, presentationUrl, friendlyName, manufacturer,
                        manufacturerUrl, modelDescription, modelName, modelNumber, modelUrl,
                        udn⟩

def readIcons (n : Node) : Option (Option (List Icon)) :=
  match findElement n "iconList" with
  | none => some none
  | some l => ((childrenNamed l "icon").mapM readIcon).map some

def readEntries (n : Node) : Option (List ServiceEntry) :=
  (findElement n "serviceList").bind fun l => (childrenNamed l "service").mapM readEntry

/-- What a controller learns about a device from its description. -/
def readDevice (n : Node) : Option DeviceInfo :=
  (findElement n "device").bind fun device =>
    (readStrings device).bind fun strings => (readIcons device).bind fun icons =>
      (readEntries device).map fun services => ⟨strings, icons, services⟩

end Reader

section ReadBack

theorem readIcon_iconElement (icon : Icon) : readIcon (normal (iconElement icon)) = some icon := by
  have hnumber (key : String) (value : ℤ) (hkey : key ≠ "#text")
      (h : findElement (iconElement icon) key = some (valueElementInt key value)) :
      readNumber (normal (iconElement icon)) key = some value := readNumber_normal hkey _ h
  rw [readIcon, hnumber "width" icon.width (by decide) rfl,
    hnumber "height" icon.height (by decide) rfl, hnumber "depth" icon.depth (by decide) rfl]
  simp [readValue_normal, iconElement, findElement_element, valueElementInt]

theorem readEntry_serviceElement (srv : ServiceEntry) :
    readEntry (normal (serviceElement srv)) = some srv := by
  simp [readEntry, readValue_normal, serviceElement, findElement_element]

/-- The elements of a list that is made without a test, as they are read. -/
theorem childrenNamed_map {α : Type} {g : α → Node} {r : Node → Option α} (tag : String)
    {key : String} (hkey : key ≠ "#text") (hname : ∀ a, nodeName (g a) = key)
    (h : ∀ a, r (normal (g a)) = some a) (l : List α) :
    (childrenNamed (normal (.element tag [] (l.map g))) key).mapM r = some l := by
  have hlist := childrenNamed_list (g := fun a => some (g a)) (d := some) tag hkey
    (fun a n hn => Option.some.inj hn ▸ hname a) h l
  have hmap : l.mapM (fun a => some (g a)) = some (l.map g) := List.mapM_pure
  have hid : l.mapM some = some (l.map id) := List.mapM_pure
  rw [List.map_id] at hid
  rwa [hmap, Option.map_some, Option.bind_some, hid] at hlist

theorem named_device (d : DeviceInfo) : Named (.element "device" [] (deviceChildren d)) := by
  have hvalue (tag value : String) (htag : IsName tag) := named_valueElement htag value
  refine ⟨by decide, by simp, (allNamed_iff _).mpr fun n hn => ?_⟩
  simp only [deviceChildren, List.mem_append, List.mem_cons, List.not_mem_nil, or_false,
    Option.mem_toList, Option.map_eq_some_iff] at hn
  rcases hn with ((rfl | rfl | rfl | rfl | rfl | rfl | rfl | rfl | rfl | rfl) |
    ⟨icons, -, rfl⟩) | rfl
  · exact hvalue _ _ (by decide)
  · exact hvalue _ _ (by decide)
  · exact hvalue _ _ (by decide)
  · exact hvalue _ _ (by decide)
  · exact hvalue _ _ (by decide)
  · exact hvalue _ _ (by decide)
  · exact hvalue _ _ (by decide)
  · exact hvalue _ _ (by decide)
  · exact hvalue _ _ (by decide)
  · exact hvalue _ _ (by decide)
  · refine ⟨by decide, by simp, (allNamed_iff _).mpr fun n hn => ?_⟩
    obtain ⟨icon, -, rfl⟩ := List.mem_map.mp hn
    exact ⟨by decide, by simp, hvalue _ _ (by decide), hvalue _ _ (by decide),
      hvalue _ _ (by decide), hvalue _ _ (by decide), hvalue _ _ (by decide), trivial⟩
  · refine ⟨by decide, by simp, (allNamed_iff _).mpr fun n hn => ?_⟩
    obtain ⟨srv, -, rfl⟩ := List.mem_map.mp hn
    exact ⟨by decide, by simp, hvalue _ _ (by decide), hvalue _ _ (by decide),
      hvalue _ _ (by decide), hvalue _ _ (by decide), hvalue _ _ (by decide), trivial⟩

theorem named_generateDesc (d : DeviceInfo) : Named (generateDesc d) :=
  ⟨by decide, by simp; decide, named_genSpecversion 1 0, named_device d, trivial⟩

/-- A controller reads from a device description what the descriptor says. -/
theorem desc_readBack (d : DeviceInfo) : readDevice (normal (generateDesc d)) = some d := by
  have hdevice : findElement (normal (generateDesc d)) "device" =
      some (normal (.element "device" [] (deviceChildren d))) := by
    rw [findElement_normal (by decide)]
    rfl
  have hicons := childrenNamed_map "iconList" (show "icon" ≠ "#text" by decide)
    (fun _ => rfl) readIcon_iconElement
  have hservices := childrenNamed_map "serviceList" (show "service" ≠ "#text" by decide)
    (fun _ => rfl) readEntry_serviceElement d.services
  obtain ⟨strings, icons, services⟩ := d
  have hstrings : readStrings (normal (.element "device" []
      (deviceChildren ⟨strings, icons, services⟩))) = some strings := by
    simp [readStrings, readValue_normal, findElement_element, deviceChildren]
  have hiconList : readIcons (normal (.element "device" []
      (deviceChildren ⟨strings, icons, services⟩))) = some icons := by
    cases icons with
    | none =>
      simp [readIcons, findElement_normal, findElement_element, deviceChildren, nodeName_element]
    | some icons =>
      simp [readIcons, findElement_normal, findElement_element, deviceChildren, nodeName_element,
        hicons]
  have hentries : readEntries (normal (.element "device" []
      (deviceChildren ⟨strings, icons, services⟩))) = some services := by
    cases icons <;>
      simp [readEntries, findElement_normal, findElement_element, deviceChildren,
        nodeName_element, hservices]
  rw [readDevice, hdevice, Option.bind_some, hstrings, Option.bind_some,
    hiconList, Option.bind_some, hentries, Option.map_some]

end ReadBack

section Registration

/-- `struct service` with its tables. -/
structure Service where
  Var : Type
  entry : ServiceEntry
  tables : ServiceTables Var

/-- `struct upnp_device_descriptor`, with icons. -/
structure Descriptor where
  strings : DeviceStrings
  icons : List Icon
  services : List Service

def Descriptor.info (d : Descriptor) : DeviceInfo :=
  ⟨d.strings, some d.icons, d.services.map Service.entry⟩

/-- `webserver_register_file`: `file` is what the local file has, if it can be read and there
is memory for it. -/
def webserverRegisterFile (virtualFiles : List VirtualFile) (path contentType : String)
    (file : Option (List UInt8)) : List VirtualFile × ℤ :=
  match file with
  | some contents => (⟨path, contents, contentType, contents.length, le_rfl⟩ :: virtualFiles, 0)
  | none => (virtualFiles, -1)

def scpdRegistration (memory : String → Bool) (srv : Service) (buf : String) : Registration :=
  ⟨srv.entry.scpdUrl, .ofString buf, "text/xml", memory srv.entry.scpdUrl⟩

variable (write : Node → String)

/-- A service in the loop of `upnp_device_init`. -/
def registerScpd (memory : String → Bool) (files : List VirtualFile) (srv : Service) :
    Option (List VirtualFile) :=
  (upnpGetScpd write srv.tables).map fun buf =>
    (webserverRegisterBuf files (scpdRegistration memory srv buf)).1

/-- The documents that `upnp_device_init` registers, with what is on the disk and the paths for
which there is memory. -/
def upnpDeviceInit (disk : String → Option (List UInt8)) (memory : String → Bool)
    (d : Descriptor) : Option (List VirtualFile) :=
  d.services.foldlM (registerScpd write memory) (d.icons.foldl (fun files icon =>
    (webserverRegisterFile files icon.url "image/png" (disk icon.url)).1) [])

variable {write} {memory : String → Bool} {files files' : List VirtualFile} {srv : Service}

def lookup (files : List VirtualFile) (path : String) : Option VirtualFile :=
  files.find? fun vf => path = vf.virtualFname

theorem lookup_registerScpd_of_ne (h : registerScpd write memory files srv = some files')
    {path : String} (hpath : path ≠ srv.entry.scpdUrl) :
    lookup files' path = lookup files path := by
  obtain ⟨buf, -, rfl⟩ := Option.map_eq_some_iff.mp h
  unfold webserverRegisterBuf
  split_ifs
  · simp [lookup, scpdRegistration, hpath]
  · rfl

theorem lookup_registerScpd (h : registerScpd write memory files srv = some files')
    (hmemory : memory srv.entry.scpdUrl = true) : ∃ buf, upnpGetScpd write srv.tables = some buf ∧
      lookup files' srv.entry.scpdUrl = some ⟨srv.entry.scpdUrl,
        (scpdRegistration memory srv buf).buffer, "text/xml",
        (CString.ofString buf).bytes.length, (scpdRegistration memory srv buf).len_le⟩ := by
  obtain ⟨buf, hbuf, rfl⟩ := Option.map_eq_some_iff.mp h
  refine ⟨buf, hbuf, ?_⟩
  simp [lookup, webserverRegisterBuf, scpdRegistration, hmemory]

theorem lookup_foldlM_of_notMem {services : List Service} {path : String}
    (h : services.foldlM (registerScpd write memory) files = some files')
    (hpath : path ∉ services.map fun s => s.entry.scpdUrl) :
    lookup files' path = lookup files path := by
  induction services generalizing files with
  | nil =>
    obtain rfl : files = files' := Option.some.inj h
    rfl
  | cons srv services ih =>
    rw [List.foldlM_cons, Option.bind_eq_bind, Option.bind_eq_some_iff] at h
    obtain ⟨next, hnext, hrest⟩ := h
    rw [List.map_cons, List.mem_cons, not_or] at hpath
    rw [ih hrest hpath.2, lookup_registerScpd_of_ne hnext hpath.1]

/-- Under the address of a service its description is found. -/
theorem lookup_foldlM {services : List Service}
    (h : services.foldlM (registerScpd write memory) files = some files')
    (hurls : (services.map fun s => s.entry.scpdUrl).Nodup) (hsrv : srv ∈ services)
    (hmemory : memory srv.entry.scpdUrl = true) : ∃ buf, upnpGetScpd write srv.tables = some buf ∧
      lookup files' srv.entry.scpdUrl = some ⟨srv.entry.scpdUrl,
        (scpdRegistration memory srv buf).buffer, "text/xml",
        (CString.ofString buf).bytes.length, (scpdRegistration memory srv buf).len_le⟩ := by
  induction services generalizing files with
  | nil => cases hsrv
  | cons first services ih =>
    rw [List.foldlM_cons, Option.bind_eq_bind, Option.bind_eq_some_iff] at h
    obtain ⟨next, hnext, hrest⟩ := h
    rw [List.map_cons, List.nodup_cons] at hurls
    rcases List.mem_cons.mp hsrv with rfl | hsrv
    · rw [lookup_foldlM_of_notMem hrest hurls.1]
      exact lookup_registerScpd hnext hmemory
    · exact ih hrest hurls.2 hsrv

end Registration

section Discovery

/-- Under its address a service has the document `text`: it has the type of an XML document and
reading it to its end gives the whole of it. -/
structure Served (w : OffT) (files : List VirtualFile) (path text : String) : Prop where
  info : webserverGetInfo w path files =
    some ⟨w.wrap (CString.ofString text).bytes.length, 0, false, true, "text/xml"⟩
  contents : (CString.ofString text).bytes.length < 2 ^ 31 →
    ∀ buffers : List ℕ, (∀ buflen ∈ buffers, 0 < buflen ∧ buflen < 2 ^ 31) →
      (CString.ofString text).bytes.length < buffers.length →
      (webserverOpen path .read files).bind (readUntilZero w buffers) =
        some (CString.ofString text).bytes

/-- From the description of the device a controller learns the addresses of the service
descriptions, and there it is served descriptions that say what the tables of the services
say. No description has a control character. -/
theorem discovery (w : OffT) {write : Node → String} {parse : String → Option Node}
    (hparse : ReadsBack write parse) (d : Descriptor) (disk : String → Option (List UInt8))
    (memory : String → Bool) {files : List VirtualFile}
    (hinit : upnpDeviceInit write disk memory d = some files)
    (hurls : (d.services.map fun s => s.entry.scpdUrl).Nodup)
    (hmemory : ∀ s ∈ d.services, memory s.entry.scpdUrl = true)
    (hdesc : Plain (generateDesc d.info))
    (hscpds : ∀ s ∈ d.services, ∀ root ∈ generateScpd s.tables, Plain root) :
    (parse (upnpCreateDeviceDesc write d.info)).bind readDevice = some d.info ∧
    d.info.services = d.services.map Service.entry ∧
    ∀ s ∈ d.services, ∃ text info, Served w files s.entry.scpdUrl text ∧
      (parse text).bind readService = some info ∧ describe s.tables = some info := by
  have hread : parse (upnpCreateDeviceDesc write d.info) = some (normal (generateDesc d.info)) :=
    hparse.parse_write _ _ _ (named_generateDesc d.info) hdesc
  refine ⟨by rw [hread, Option.bind_some, desc_readBack], rfl, fun s hs => ?_⟩
  obtain ⟨text, htext, hlookup⟩ := lookup_foldlM hinit hurls hs (hmemory s hs)
  obtain ⟨root, hroot, rfl⟩ := Option.map_eq_some_iff.mp htext
  have hscpd := scpd_read s.tables
  rw [hroot, Option.bind_some] at hscpd
  obtain ⟨info, hinfo⟩ := Option.isSome_iff_exists.mp ((describe_isSome s.tables).mpr
    ((generateScpd_isSome s.tables).mp (by rw [hroot]; rfl)))
  have hparsed : (parse (write root)).bind readService = some info := by
    rw [parse_generateScpd hparse hroot (hscpds s hs root hroot), Option.bind_some, hscpd, hinfo]
  let r := scpdRegistration memory s (write root)
  refine ⟨write root, info, ⟨?_, fun hlength buffers hbuffers hmany => ?_⟩, hparsed, hinfo⟩
  · rw [webserverGetInfo_eq]
    exact congrArg (Option.map _) hlookup
  · have hopen : webserverOpen s.entry.scpdUrl .read files = some r.handle := by
      rw [webserverOpen_eq]
      exact congrArg (Option.map _) hlookup
    have hstart : r.contents.bytes.length - r.handle.pos.toNat < buffers.length := hmany
    have hall := r.handle_serves.readUntilZero (w := w) hlength hbuffers hstart
    rw [hopen, Option.bind_some]
    exact hall

end Discovery

end GMediaRender.DeviceDescription
