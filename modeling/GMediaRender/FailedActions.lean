import GMediaRender.ErrorReports

/-!
What a failed action leaves behind. Most handlers change nothing before they know that they
succeed; SetNextAVTransportURI, Play, SetMute and SetVolume change something first, and the
condition under which a failure of theirs goes unnoticed says what that is.
-/
namespace GMediaRender.FailedActions

open XmlDoc StateVariables ActionRequest OutputSilan UpnpTime UpnpTransport UpnpControl
  RendererSystem ErrorReports

/-- What an action sets in the output module. -/
structure SameOutput (d d' : SilanData) : Prop where
  uri : d'.uri = d.uri
  uriNext : d'.uriNext = d.uriNext
  volume : d'.volume = d.volume
  mute : d'.mute = d.mute

/-- The transport state, the variables of both services and the settings of the output module
are as they were; so are the lists of changes. -/
structure Unchanged (s s' : Renderer) : Prop where
  transportState : s'.transport.transportState = s.transport.transportState
  transportVars : s'.transport.vars = s.transport.vars
  controlVars : s'.control = s.control
  output : SameOutput s.silan s'.silan

/-- The action leaves everything as it was if it fails. -/
def FailsSafely (env : Env) (s : Renderer) (doc : Option (List Node)) (a : Action) : Prop :=
  (s.handleAction a doc env).rc ≠ 0 → Unchanged s (s.handleAction a doc env).state

section Conditions

variable (doc : Option (List Node)) (env : Env)

/-- A next URI without metadata is the one that is already set. -/
def NextUriHeld (s : AvTransport) : Prop :=
  ∀ uri, argument doc "NextURI" = some uri → ¬ Given doc "NextURIMetaData" →
    s.vars.values .nextAvUri = uri ∧ s.silan.uriNext = nonEmpty uri

/-- If playing cannot start there is no URI to lose and no time to reset. -/
def PlayIdle (s : AvTransport) : Prop :=
  (s.transportState = .stopped ∨ s.transportState = .pausedPlayback) → ¬ Playable env s.silan →
    s.silan.uri = none ∧
      (s.transportState = .stopped → s.vars.values .relTimePos = kZeroTime)

/-- A mute that differs from the current one can be sent. -/
def MuteSent (d : SilanData) : Prop :=
  ∀ value, argument doc "DesiredMute" = some value → ¬ (atoi value = 0 ↔ d.mute = 0) →
    (env .slmpMute).msgsnd = true

/-- A volume that cannot be sent is the one that is already set, without mute. -/
def VolumeHeld (s : Control) : Prop :=
  ∀ value, argument doc "DesiredVolume" = some value → (env .slmpSetVolume).msgsnd = false →
    s.vars.values .volume = printInt (clampVolume (atoi value)) ∧
      s.silan.volume = clampVolume (atoi value) ∧ s.silan.mute = 0

/-- When a failed action leaves everything as it was. -/
def LeavesAlone (s : Renderer) : Action → Prop
  | .transport .setNextAvTransportUri => Given doc "InstanceID" → NextUriHeld doc s.transport
  | .transport .play => Given doc "InstanceID" → PlayIdle env s.transport
  | .control .setMute => MuteSent doc env s.silan
  | .control .setVol => VolumeHeld doc env s.controlPart
  | _ => True

end Conditions

section Transport

/-- What an AVTransport handler may have changed. -/
structure TransportUnchanged (s s' : AvTransport) : Prop where
  transportState : s'.transportState = s.transportState
  vars : s'.vars = s.vars
  output : SameOutput s.silan s'.silan

def TransportSafe (s : AvTransport) (r : Handled AvTransport) : Prop :=
  r.rc ≠ 0 → TransportUnchanged s r.state

theorem TransportUnchanged.refl (s : AvTransport) : TransportUnchanged s s :=
  ⟨rfl, rfl, rfl, rfl, rfl, rfl⟩

variable {s : AvTransport} {r : Handled AvTransport}

theorem safe_of_success (h : r.rc = 0) : TransportSafe s r := fun hrc => absurd h hrc

theorem safe_of_same (h : r.state = s) : TransportSafe s r := fun _ => h ▸ .refl s

variable (s) (env : Env) (doc : Option (List Node))

theorem safe_withInstanceid (body : ActionEvent → Handled AvTransport) :
    TransportSafe s (withInstanceid s (newRequest doc) body) ↔
      (Given doc "InstanceID" → TransportSafe s (body (newRequest doc))) := by
  by_cases hgiven : Given doc "InstanceID"
  · rw [withInstanceid_some _ _ _ hgiven]
    exact ⟨fun h _ => h, fun h => h hgiven⟩
  · exact iff_of_true (safe_of_same (withInstanceid_none s doc body hgiven))
      fun h => absurd h hgiven

theorem safe_setAvtransportUri : TransportSafe s (setAvtransportUri s (newRequest doc)) := by
  refine (safe_withInstanceid s doc _).mpr fun _ => ?_
  cases hget : upnpGetString (newRequest doc) "CurrentURI" with
  | mk e arg =>
    cases arg with
    | none => exact safe_of_same rfl
    | some uri => exact safe_of_success rfl

/-- The next URI is set before its metadata is looked up. -/
theorem safe_setNextAvtransportUri : TransportSafe s (setNextAvtransportUri s (newRequest doc)) ↔
    (Given doc "InstanceID" → NextUriHeld doc s) := by
  refine (safe_withInstanceid s doc _).trans (imp_congr_right fun _ => ?_)
  cases hget : upnpGetString (newRequest doc) "NextURI" with
  | mk e arg =>
    cases arg with
    | none =>
      have hnone : argument doc "NextURI" = none := (upnpGetString_none hget).1
      exact iff_of_true (safe_of_same rfl) fun uri huri => absurd (hnone.symm.trans huri) (by simp)
    | some uri =>
      obtain ⟨rfl, huri⟩ := upnpGetString_some hget
      have huri' : argument doc "NextURI" = some uri := huri
      simp only
      cases hget' : upnpGetString (newRequest doc) "NextURIMetaData" with
      | mk e' arg' =>
        cases arg' with
        | none =>
          have hmeta : ¬ Given doc "NextURIMetaData" :=
            not_given_of_none (upnpGetString_none hget').1
          constructor
          · intro h uri' huri'' _
            obtain rfl := Option.some.inj (huri'.symm.trans huri'')
            obtain ⟨-, hvars, -, hnext, -, -⟩ := h (show (-1 : ℤ) ≠ 0 by decide)
            exact ⟨((Store.replaceVar_eq_self ..).mp hvars).symm, hnext.symm⟩
          · intro h _
            obtain ⟨hvalue, hnext⟩ := h uri huri' hmeta
            exact ⟨rfl, (Store.replaceVar_eq_self ..).mpr hvalue.symm, rfl, hnext.symm, rfl, rfl⟩
        | some metadata =>
          have hmeta : Given doc "NextURIMetaData" :=
            given_of_some (upnpGetString_some hget').2
          exact iff_of_true (safe_of_success rfl) fun _ _ h => absurd hmeta h

theorem safe_pauseStream : TransportSafe s (pauseStream env s (newRequest doc)) := by
  refine (safe_withInstanceid s doc _).mpr fun _ => ?_
  cases hstate : s.transportState with
  | pausedPlayback => exact safe_of_success rfl
  | playing =>
    simp only [outputSilanPause_eq]
    by_cases hsend : (env .slmpPause).msgsnd = true
    · rw [if_neg (by simp [hsend])]
      exact safe_of_success rfl
    · rw [if_pos (by simp [hsend])]
      exact fun _ => ⟨hstate.symm, rfl, rfl, rfl, rfl, rfl⟩
  | _ => exact safe_of_same rfl

theorem safe_stop : TransportSafe s (UpnpTransport.stop env s (newRequest doc)) := by
  refine (safe_withInstanceid s doc _).mpr fun _ => ?_
  cases s.transportState <;> exact safe_of_success rfl

theorem safe_seek : TransportSafe s (seek env s (newRequest doc)) := by
  refine (safe_withInstanceid s doc _).mpr fun _ => ?_
  cases hget : upnpGetString (newRequest doc) "Unit" with
  | mk e arg =>
    cases arg with
    | none => exact safe_of_same rfl
    | some unit =>
      simp only
      split_ifs
      · cases hget' : upnpGetString e "Target" with
        | mk e' arg' =>
          cases arg' with
          | none => exact safe_of_same rfl
          | some target => exact safe_of_success rfl
      · exact safe_of_success rfl

/-- A failed start gives up the URI that was to be played. -/
theorem safe_startPlaying (t : AvTransport) (e : ActionEvent)
    (hstate : t.transportState = s.transportState) (hsilan : t.silan = s.silan) :
    TransportSafe s (startPlaying env t e) ↔
      (¬ Playable env s.silan → s.silan.uri = none ∧ t.vars = s.vars) := by
  unfold startPlaying
  by_cases hplay : Playable env s.silan
  · have hrc : (outputSilanPlay env t.silan).2 = 0 :=
      (outputSilanPlay_snd env t.silan).mpr (hsilan ▸ hplay)
    rw [if_neg (by simp [hrc])]
    exact iff_of_true (safe_of_success rfl) fun h => absurd hplay h
  · have hrc : (outputSilanPlay env t.silan).2 ≠ 0 :=
      mt (outputSilanPlay_snd env t.silan).mp (hsilan ▸ hplay)
    have hfailed : (-1 : ℤ) ≠ 0 := by decide
    rw [if_pos hrc]
    rcases Option.eq_none_or_eq_some s.silan.uri with huri | ⟨uri, huri⟩
    · have hsame : SameOutput s.silan (outputSilanPlay env t.silan).1 := by
        rw [hsilan, outputSilanPlay_none env _ huri, outputSilanPause_eq]
        split_ifs <;> exact ⟨rfl, rfl, rfl, rfl⟩
      exact ⟨fun h _ => ⟨huri, (h hfailed).vars⟩,
        fun h _ => ⟨hstate, (h hplay).2, hsame⟩⟩
    · have hlost : (outputSilanPlay env t.silan).1.uri = none := by
        rw [hsilan, outputSilanPlay_some env _ uri huri]
        rfl
      constructor
      · intro h
        have hkept := (h hfailed).output.uri
        exact absurd (huri.symm.trans (hkept.symm.trans hlost)) (by simp)
      · intro h
        exact absurd (huri.symm.trans (h hplay).1) (by simp)

theorem safe_play : TransportSafe s (UpnpTransport.play env s (newRequest doc)) ↔
    (Given doc "InstanceID" → PlayIdle env s) := by
  refine (safe_withInstanceid s doc _).trans (imp_congr_right fun _ => ?_)
  unfold PlayIdle
  cases hstate : s.transportState with
  | playing => exact iff_of_true (safe_of_success rfl) (by simp)
  | stopped =>
    refine (safe_startPlaying s env ⟨.stopped, s.vars.replaceVar .relTimePos kZeroTime, s.silan⟩ _
      hstate.symm rfl).trans ?_
    simp only [Store.replaceVar_eq_self]
    simp [eq_comm]
  | pausedPlayback =>
    refine (safe_startPlaying s env _ _ rfl rfl).trans ?_
    simp
  | _ => exact iff_of_true (safe_of_same rfl) (by simp)

end Transport

section Control

/-- What a RenderingControl handler may have changed. -/
structure ControlUnchanged (s s' : Control) : Prop where
  vars : s'.vars = s.vars
  output : SameOutput s.silan s'.silan

def ControlSafe (s : Control) (r : Handled Control) : Prop :=
  r.rc ≠ 0 → ControlUnchanged s r.state

theorem controlSafe_of_same {s : Control} {r : Handled Control} (h : r.state = s) :
    ControlSafe s r := fun _ => h ▸ ⟨rfl, rfl, rfl, rfl, rfl⟩

variable (s : Control) (env : Env) (doc : Option (List Node))

theorem controlSafe_cmdObtainVariable (i : ControlVar) (paramname : String) :
    ControlSafe s (cmdObtainVariable s (newRequest doc) i paramname) := by
  unfold cmdObtainVariable
  cases hget : upnpGetString (newRequest doc) "InstanceID" with
  | mk e arg => cases arg <;> exact controlSafe_of_same rfl

/-- A mute that cannot be sent is stored all the same. -/
theorem controlSafe_setMute :
    ControlSafe s (setMute env s (newRequest doc)) ↔ MuteSent doc env s.silan := by
  unfold setMute
  cases hget : upnpGetString (newRequest doc) "DesiredMute" with
  | mk e arg =>
    cases arg with
    | none =>
      have hnone : argument doc "DesiredMute" = none := (upnpGetString_none hget).1
      exact iff_of_true (controlSafe_of_same rfl)
        fun value h => absurd (hnone.symm.trans h) (by simp)
    | some value =>
      have hvalue : argument doc "DesiredMute" = some value := (upnpGetString_some hget).2
      have hrc := upnpControlSetMute_snd env s (atoi value)
      obtain ⟨sent, hstate⟩ := upnpControlSetMute_fst env s (atoi value)
      simp only
      generalize upnpControlSetMute env s (atoi value) = r at hrc hstate ⊢
      constructor
      · intro h value' hvalue' hdiffers
        obtain rfl := Option.some.inj (hvalue.symm.trans hvalue')
        by_contra hsend
        have hfailed : r.2 ≠ 0 := fun h0 => (hrc.mp h0).elim hdiffers hsend
        have hmute : r.1.silan.mute = s.silan.mute := (h hfailed).output.mute
        rw [hstate] at hmute
        exact hdiffers (by rw [← hmute])
      · intro h hfailed
        have hdiffers : ¬ (atoi value = 0 ↔ s.silan.mute = 0) :=
          fun hsame => hfailed (hrc.mpr (Or.inl hsame))
        exact absurd (hrc.mpr (Or.inr (h value hvalue hdiffers))) hfailed

/-- A volume that cannot be sent is stored all the same, and lifts the mute. -/
theorem controlSafe_setVolume :
    ControlSafe s (setVolume env s (newRequest doc)) ↔ VolumeHeld doc env s := by
  unfold setVolume
  cases hget : upnpGetString (newRequest doc) "DesiredVolume" with
  | mk e arg =>
    cases arg with
    | none =>
      have hnone : argument doc "DesiredVolume" = none := (upnpGetString_none hget).1
      exact iff_of_true (controlSafe_of_same rfl)
        fun value h => absurd (hnone.symm.trans h) (by simp)
    | some value =>
      have hvalue : argument doc "DesiredVolume" = some value := (upnpGetString_some hget).2
      simp only [upnpControlSetVolume_eq]
      by_cases hsend : (env .slmpSetVolume).msgsnd = true
      · rw [if_pos hsend]
        exact iff_of_true (fun h => absurd rfl h) fun _ _ h => absurd (hsend.symm.trans h) (by simp)
      · have hfailed : (-1 : ℤ) ≠ 0 := by decide
        rw [if_neg hsend]
        constructor
        · intro h value' hvalue' _
          obtain rfl := Option.some.inj (hvalue.symm.trans hvalue')
          obtain ⟨hvars, -, -, hvolume, hmute⟩ := h hfailed
          exact ⟨((Store.replaceVar_eq_self ..).mp hvars).symm, hvolume.symm, hmute.symm⟩
        · intro h _
          obtain ⟨hvars, hvolume, hmute⟩ := h value hvalue (by simpa using hsend)
          exact ⟨(Store.replaceVar_eq_self ..).mpr hvars.symm, rfl, rfl, hvolume.symm, hmute.symm⟩

end Control

section Main

variable (env : Env) (s : Renderer) (doc : Option (List Node))

theorem failsSafely_transport (cmd : TransportCmd) : FailsSafely env s doc (.transport cmd) ↔
    TransportSafe s.transport (transportActions env s.transport (newRequest doc) cmd) :=
  imp_congr_right fun _ => ⟨fun h => ⟨h.transportState, h.transportVars, h.output⟩,
    fun h => ⟨h.transportState, h.vars, rfl, h.output⟩⟩

theorem failsSafely_control (cmd : ControlCmd) : FailsSafely env s doc (.control cmd) ↔
    ControlSafe s.controlPart (controlActions env s.controlPart (newRequest doc) cmd) :=
  imp_congr_right fun _ => ⟨fun h => ⟨h.controlVars, h.output⟩,
    fun h => ⟨rfl, rfl, h.vars, h.output⟩⟩

/-- A failed action leaves the state as it was, whatever the action, the state, the request and
the outcomes of the sends, exactly when it had nothing to change before it failed. -/
theorem failsSafely_iff (a : Action) : FailsSafely env s doc a ↔ LeavesAlone doc env s a := by
  cases a with
  | transport cmd =>
    rw [failsSafely_transport]
    cases cmd with
    | setNextAvTransportUri => exact safe_setNextAvtransportUri s.transport doc
    | play => exact safe_play s.transport env doc
    | setAvTransportUri => exact iff_of_true (safe_setAvtransportUri s.transport doc) trivial
    | stop => exact iff_of_true (safe_stop s.transport env doc) trivial
    | pause => exact iff_of_true (safe_pauseStream s.transport env doc) trivial
    | seek => exact iff_of_true (safe_seek s.transport env doc) trivial
    | _ =>
      exact iff_of_true ((safe_withInstanceid s.transport doc _).mpr fun _ => safe_of_success rfl)
        trivial
  | control cmd =>
    rw [failsSafely_control]
    cases cmd with
    | setMute => exact controlSafe_setMute s.controlPart env doc
    | setVol => exact controlSafe_setVolume s.controlPart env doc
    | _ => exact iff_of_true (controlSafe_cmdObtainVariable s.controlPart doc _ _) trivial

/-- SetNextAVTransportURI without metadata fails, but the next URI has been set. -/
theorem not_failsSafely_setNextUri : ¬ FailsSafely allSent (startUp allSent 0 50 0)
    (requestDoc "SetNextAVTransportURI" [("InstanceID", "0"), ("NextURI", "http://a/1.mp3")])
    (.transport .setNextAvTransportUri) := by
  intro h
  have hnext := (h (by decide)).output.uriNext
  revert hnext
  decide

end Main

end GMediaRender.FailedActions
