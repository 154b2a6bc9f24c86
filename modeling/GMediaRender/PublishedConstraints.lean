import GMediaRender.TransportInvariants

/-!
The constraints that the AVTransport service publishes for its variables: lists of allowed
values and ranges of numbers. They stand in a table of their own, beside the default values
and the code that writes the variables. The service description repeats the table, so a
controller that reads it relies on the same constraints.
-/
namespace GMediaRender.PublishedConstraints

open XmlDoc StateVariables ActionRequest OutputSilan UpnpTime UpnpTransport TransportValues
  TransportSteps TransportInvariants RendererSystem Runs

/-- DATATYPE_… -/
inductive ParamDatatype where
  | string
  | boolean
  | i2
  | i4
  | ui2
  | ui4
  | unknown
  deriving DecidableEq

def paramDatatypeNames : ParamDatatype → Option String
  | .string => some "string"
  | .boolean => some "boolean"
  | .i2 => some "i2"
  | .i4 => some "i4"
  | .ui2 => some "ui2"
  | .ui4 => some "ui4"
  | .unknown => none

/-- SENDEVENT_… -/
inductive ParamEvent where
  | no
  | yes
  deriving DecidableEq

structure ParamRange where
  min : ℤ
  max : ℤ
  step : ℤ
  deriving DecidableEq

structure VarMeta where
  sendevents : ParamEvent
  datatype : ParamDatatype
  allowedValues : Option (List String)
  allowedRange : Option ParamRange
  defaultValue : Option String

section Tables

def transportStateNames : List String :=
  ["STOPPED", "PLAYING", "TRANSITIONING", "PAUSED_PLAYBACK", "PAUSED_RECORDING", "RECORDING",
    "NO_MEDIA_PRESENT"]

def transportStati : List String := ["OK", "ERROR_OCCURRED", " vendor-defined "]

def media : List String :=
  ["UNKNOWN", "DV", "MINI-DV", "VHS", "W-VHS", "S-VHS", "D-VHS", "VHSC", "VIDEO8", "HI8",
    "CD-ROM", "CD-DA", "CD-R", "CD-RW", "VIDEO-CD", "SACD", "MD-AUDIO", "MD-PICTURE", "DVD-ROM",
    "DVD-VIDEO", "DVD-R", "DVD+RW", "DVD-RW", "DVD-RAM", "DVD-AUDIO", "DAT", "LD", "HDD",
    "MICRO-MV", "NETWORK", "NONE", "NOT_IMPLEMENTED", " vendor-defined "]

def playmodi : List String := ["NORMAL", "REPEAT_ALL", "INTRO"]

def playspeeds : List String := ["1", " vendor-defined "]

def recWriteStati : List String :=
  ["WRITABLE", "PROTECTED", "NOT_WRITABLE", "UNKNOWN", "NOT_IMPLEMENTED"]

def recQualityModi : List String :=
  ["0:EP", "1:LP", "2:SP", "0:BASIC", "1:MEDIUM", "2:HIGH", "NOT_IMPLEMENTED", " vendor-defined "]

def aatSeekmodi : List String :=
  ["ABS_TIME", "REL_TIME", "ABS_COUNT", "REL_COUNT", "TRACK_NR", "CHANNEL_FREQ", "TAPE-INDEX",
    "FRAME"]

def trackRange : ParamRange := ⟨0, 4294967295, 1⟩

/-- There is no step. -/
def trackNrRange : ParamRange := ⟨0, 4294967295, 0⟩

def transportVarMeta : TransportVar → VarMeta
  | .transportState => ⟨.no, .string, some transportStateNames, none, none⟩
  | .transportStatus => ⟨.no, .string, some transportStati, none, none⟩
  | .playMedium => ⟨.no, .string, some media, none, none⟩
  | .recMedium => ⟨.no, .string, some media, none, none⟩
  | .curPlayMode => ⟨.no, .string, some playmodi, none, some "NORMAL"⟩
  | .transportPlaySpeed => ⟨.no, .string, some playspeeds, none, none⟩
  | .recMediumWrStatus => ⟨.no, .string, some recWriteStati, none, none⟩
  | .curRecQualMode => ⟨.no, .string, some recQualityModi, none, none⟩
  | .nrTracks => ⟨.no, .ui4, none, some trackNrRange, none⟩
  | .curTrack => ⟨.no, .ui4, none, some trackRange, none⟩
  | .relCtrPos => ⟨.no, .i4, none, none, none⟩
  | .absCtrPos => ⟨.no, .i4, none, none, none⟩
  | .lastChange => ⟨.yes, .string, none, none, none⟩
  | .aatSeekMode => ⟨.no, .string, some aatSeekmodi, none, none⟩
  | .aatInstanceId => ⟨.no, .ui4, none, none, none⟩
  | .unknown => ⟨.no, .unknown, none, none, none⟩
  | _ => ⟨.no, .string, none, none, none⟩

end Tables

section Description

/-- `add_value_element` on a new element. -/
def valueElement (tagname value : String) : Node := .element tagname [] [.text value]

theorem nodeName_element (tag : String) (attributes : List (String × String))
    (children : List Node) : nodeName (.element tag attributes children) = tag := rfl

@[simp] theorem nodeName_valueElement (tagname value : String) :
    nodeName (valueElement tagname value) = tagname := rfl

@[simp] theorem getNodeValue_valueElement (tagname value : String) :
    getNodeValue (valueElement tagname value) = value := rfl

/-- `add_value_element_long` -/
def valueElementLong (tagname : String) (value : ℤ) : Node :=
  valueElement tagname (printInt value)

def allowedValueRange (range : ParamRange) : Node :=
  .element "allowedValueRange" [] ([valueElementLong "minimum" range.min,
    valueElementLong "maximum" range.max] ++
      if range.step ≠ 0 then [valueElementLong "step" range.step] else [])

/-- `gen_scpd_statevar`; the names of the data types cover every variable in use. -/
def genScpdStatevar (name : String) (m : VarMeta) : Node :=
  .element "stateVariable" [("sendEvents", if m.sendevents = .yes then "yes" else "no")]
    ([valueElement "name" name,
      valueElement "dataType" ((paramDatatypeNames m.datatype).getD "")] ++
      (m.allowedValues.map fun l =>
        .element "allowedValueList" [] (l.map (valueElement "allowedValue"))).toList ++
      (m.allowedRange.map allowedValueRange).toList ++
      (m.defaultValue.map (valueElement "defaultValue")).toList)

/-- The list of allowed values that a reader of the description finds. -/
def describedValues (n : Node) : Option (List String) :=
  (findElement n "allowedValueList").map fun l => (nodeChildren l).map getNodeValue

/-- The bounds that a reader of the description finds. -/
def describedBounds (n : Node) : Option (Option String × Option String) :=
  (findElement n "allowedValueRange").map fun r =>
    ((findElement r "minimum").map getNodeValue, (findElement r "maximum").map getNodeValue)

/-- The description carries the constraints of the table. -/
theorem described_genScpdStatevar (name : String) (m : VarMeta) :
    describedValues (genScpdStatevar name m) = m.allowedValues ∧
    describedBounds (genScpdStatevar name m) = m.allowedRange.map fun range =>
      (some (printInt range.min), some (printInt range.max)) := by
  have hvalues : getNodeValue ∘ valueElement "allowedValue" = id := rfl
  obtain ⟨sendevents, datatype, values, range, default⟩ := m
  constructor
  · cases values <;> cases range <;> cases default <;>
      simp [describedValues, genScpdStatevar, findElement, allowedValueRange, nodeChildren,
        nodeName_element, hvalues]
  · cases values <;> cases range <;> cases default <;>
      simp [describedBounds, genScpdStatevar, findElement, valueElementLong, allowedValueRange,
        nodeChildren, nodeName_element]

end Description

section Invariant

/-- A value that keeps to the constraints of its variable. -/
structure Obeys (m : VarMeta) (value : String) : Prop where
  allowed : ∀ l, m.allowedValues = some l → value ∈ l
  range : ∀ r, m.allowedRange = some r → ∃ n : ℤ, r.min ≤ n ∧ n ≤ r.max ∧ value = printInt n

/-- The variables that no action and no feedback writes. -/
def untouched : TransportVar → Bool
  | .transportStatus | .relCtrPos | .aatInstanceId | .aatSeekTarget | .playMedium | .recMedia
  | .curPlayMode | .transportPlaySpeed | .playMedia | .absTimePos | .absCtrPos | .curRecQualMode
  | .curMediaDur | .aatSeekMode | .recMedium | .recMediumWrStatus | .posRecQualMode => true
  | _ => false

variable {st : TransportState} {v : Values}

theorem untouched_switched (new : TransportState) {i : TransportVar} (hi : untouched i = true) :
    switched new v i = v i := by
  refine switched_of_ne new v i ?_ ?_ <;> rintro rfl <;> exact nomatch hi

theorem untouched_trackStarted {i : TransportVar} (hi : untouched i = true) :
    trackStarted v i = v i := by
  cases i <;> first | rfl | exact nomatch hi

/-- A move leaves the untouched variables alone. -/
theorem untouched_moved {l : Label} {st' : TransportState} {v' : Values}
    (hmoved : Moved l st v st' v') {i : TransportVar} (hi : untouched i = true) :
    v' i = v i := by
  cases hmoved with
  | started =>
    rw [untouched_trackStarted hi, untouched_switched _ hi]
    cases i <;> first | rfl | exact nomatch hi
  | resumed => rw [untouched_trackStarted hi, untouched_switched _ hi]
  | paused => exact untouched_switched _ hi
  | stopped => exact untouched_switched _ hi
  | cleared =>
    rw [untouched_switched _ hi]
    cases i <;> first | rfl | exact nomatch hi
  | _ => cases i <;> first | rfl | exact nomatch hi

/-- A list of allowed values is the whole constraint of its variable. -/
theorem obeys_list {m : VarMeta} {l : List String} {value : String}
    (hallowed : m.allowedValues = some l) (hrange : m.allowedRange = none) :
    Obeys m value ↔ value ∈ l := by
  constructor
  · intro h
    exact h.allowed l hallowed
  · intro hmem
    refine ⟨fun l' hl' => ?_, fun r hr => ?_⟩
    · obtain rfl := Option.some.inj (hallowed.symm.trans hl')
      exact hmem
    · rw [hrange] at hr
      exact nomatch hr

/-- The number of tracks is in both ranges. -/
theorem obeys_tracks {m : VarMeta} {r : ParamRange} (uri : String)
    (hallowed : m.allowedValues = none) (hrange : m.allowedRange = some r) (hmin : r.min = 0)
    (hmax : r.max = 4294967295) : Obeys m (tracks uri) := by
  refine ⟨fun l hl => ?_, fun r' hr' => ?_⟩
  · rw [hallowed] at hl
    exact nomatch hl
  · obtain rfl := Option.some.inj (hrange.symm.trans hr')
    unfold tracks
    split_ifs
    · exact ⟨0, by omega, by omega, rfl⟩
    · exact ⟨1, by omega, by omega, rfl⟩

theorem obeys_unconstrained {m : VarMeta} (value : String) (hallowed : m.allowedValues = none)
    (hrange : m.allowedRange = none) : Obeys m value := by
  constructor
  · intro l hl
    rw [hallowed] at hl
    exact nomatch hl
  · intro r hr
    rw [hrange] at hr
    exact nomatch hr

theorem transportStates_mem (st : TransportState) : transportStates st ∈ transportStateNames := by
  cases st <;> decide

/-- Every default keeps to the constraints of its variable but one. -/
theorem obeys_default (i : TransportVar) (hi : untouched i = true) :
    Obeys (transportVarMeta i) (transportDefaultValues i) ↔ i ≠ .playMedium := by
  cases hvalues : (transportVarMeta i).allowedValues with
  | none =>
    have hrange : (transportVarMeta i).allowedRange = none := by
      cases i <;> first | rfl | exact nomatch hi
    have hne : i ≠ .playMedium := by
      rintro rfl
      exact nomatch hvalues
    simp [obeys_unconstrained _ hvalues hrange, hne]
  | some l =>
    have hrange : (transportVarMeta i).allowedRange = none := by
      cases i <;> first | rfl | exact nomatch hvalues
    rw [obeys_list hvalues hrange]
    cases i with
    | transportStatus | playMedium | recMedium | curPlayMode | transportPlaySpeed
    | recMediumWrStatus | curRecQualMode | aatSeekMode =>
      obtain rfl := Option.some.inj hvalues
      decide
    | transportState => exact nomatch hi
    | _ => exact nomatch hvalues

/-- The values keep to the published constraints, but for one variable that keeps its
default. -/
theorem obeys_of_invariants (hstep : InStep st v) (htracks : TracksAgree st v)
    (hdefault : ∀ i, untouched i = true → v i = transportDefaultValues i) (i : TransportVar) :
    Obeys (transportVarMeta i) (v i) ↔ i ≠ .playMedium := by
  by_cases hi : untouched i = true
  · rw [hdefault i hi]
    exact obeys_default i hi
  · have hne : i ≠ .playMedium := by
      rintro rfl
      exact hi rfl
    refine iff_of_true ?_ hne
    cases i with
    | transportState =>
      rw [hstep.name]
      exact (obeys_list rfl rfl).mpr (transportStates_mem st)
    | nrTracks =>
      rw [htracks.nrTracks]
      exact obeys_tracks _ rfl rfl rfl rfl
    | curTrack =>
      rw [htracks.curTrack]
      exact obeys_tracks _ rfl rfl rfl rfl
    | _ => first | exact obeys_unconstrained _ rfl rfl | exact absurd rfl hi

end Invariant

section Main

variable (d : SilanData) (ls : List Label)

theorem untouched_run {i : TransportVar} (hi : untouched i = true) :
    (run step (initial d) ls).vars.values i = transportDefaultValues i :=
  initial_invariant d ls (I := fun _ v => v i = transportDefaultValues i) rfl
    fun _ _ _ _ _ h hmoved => (untouched_moved hmoved hi).trans h

/-- After every sequence of actions, output outcomes and feedback a variable keeps to its
published constraints, unless it is PlaybackStorageMedium. -/
theorem obeys_run (i : TransportVar) :
    Obeys (transportVarMeta i) ((run step (initial d) ls).vars.values i) ↔ i ≠ .playMedium := by
  have hdefault (j : TransportVar) (hj : untouched j = true) := untouched_run d ls hj
  exact obeys_of_invariants (inStep_kept d ls) (tracksAgree_kept d ls) hdefault i

/-- The medium that is played from at start-up is not one of the published media. -/
theorem playMedium_not_published :
    (initial (outputSilanInit allSent 0 50 0)).vars.values .playMedium = "SPDIF" ∧
    ¬ Obeys (transportVarMeta .playMedium)
      ((initial (outputSilanInit allSent 0 50 0)).vars.values .playMedium) :=
  ⟨rfl, fun h => (obeys_default .playMedium rfl).mp h rfl⟩

end Main

end GMediaRender.PublishedConstraints
