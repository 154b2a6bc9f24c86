import GMediaRender.SeekTargets
import GMediaRender.TransportInvariants

/-!
The two times that the transport publishes, RelativeTimePosition and CurrentTrackDuration.
They are written from the numbers of the player and from the targets of Seek requests, and
they stay well formed as long as those are.
-/
namespace GMediaRender.PublishedTimes

open XmlDoc StateVariables ActionRequest OutputSilan UpnpTime UpnpTransport TransportValues
  TransportSteps TransportInvariants RendererSystem TimeFormat SeekTargets Runs

section Values

/-- Both times are well formed. -/
structure TimesFormed (v : Values) : Prop where
  relTimePos : IsTime (v .relTimePos)
  curTrackDur : IsTime (v .curTrackDur)

theorem isTime_kZeroTime : IsTime kZeroTime := (isTime_printUpnpTime 0).mpr le_rfl

/-- The times stay, but for a position that is set to zero. -/
def TimesKept (v v' : Values) : Prop :=
  v' .curTrackDur = v .curTrackDur ∧
    (v' .relTimePos = v .relTimePos ∨ v' .relTimePos = kZeroTime)

variable {v v' : Values}

theorem TimesKept.refl (v : Values) : TimesKept v v := ⟨rfl, Or.inl rfl⟩

theorem TimesKept.formed (h : TimesKept v v') (hv : TimesFormed v) : TimesFormed v' := by
  obtain ⟨hdur, hpos | hpos⟩ := h
  · exact ⟨by rw [hpos]; exact hv.relTimePos, by rw [hdur]; exact hv.curTrackDur⟩
  · exact ⟨by rw [hpos]; exact isTime_kZeroTime, by rw [hdur]; exact hv.curTrackDur⟩

theorem timesKept_switched (new : TransportState) (v : Values) :
    TimesKept v (switched new v) :=
  ⟨switched_of_ne new v _ (by decide) (by decide),
    Or.inl (switched_of_ne new v _ (by decide) (by decide))⟩

theorem TimesKept.trans_same {w : Values} (h : TimesKept v v')
    (hdur : w .curTrackDur = v' .curTrackDur) (hpos : w .relTimePos = v' .relTimePos) :
    TimesKept v w := by
  unfold TimesKept
  rw [hdur, hpos]
  exact h

theorem timesKept_startPlaying (env : Env) (p : Visible) :
    TimesKept p.values (p.startPlaying env).values := by
  unfold Visible.startPlaying
  split_ifs
  · exact .refl _
  · exact (timesKept_switched .playing p.values).trans_same rfl rfl

theorem timesKept_play (env : Env) (p : Visible) : TimesKept p.values (p.play env).values := by
  unfold Visible.play
  split
  · have hstart := timesKept_startPlaying env { p with values := rewound p.values }
    obtain ⟨hdur, hpos⟩ := hstart
    refine ⟨hdur, Or.inr ?_⟩
    rcases hpos with hpos | hpos
    · rw [hpos]
      rfl
    · exact hpos
  · exact timesKept_startPlaying env p
  · exact .refl _

/-- The actions that steer a stream keep the times. -/
theorem timesKept_act (p : Visible) (r : Request) : TimesKept p.values (p.act r).values := by
  obtain ⟨action, doc, env⟩ := r
  unfold Visible.act
  by_cases hid : (argument doc "InstanceID").isSome = true
  · rw [if_pos hid]
    cases action with
    | setUri =>
      simp only
      cases argument doc "CurrentURI" with
      | none => exact .refl _
      | some uri =>
        simp only [Visible.setUri]
        split_ifs <;> exact ⟨rfl, Or.inl rfl⟩
    | setNextUri =>
      simp only
      cases argument doc "NextURI" with
      | none => exact .refl _
      | some uri => exact ⟨rfl, Or.inl rfl⟩
    | play => exact timesKept_play env p
    | pause =>
      simp only [Visible.pause]
      split_ifs
      · exact .refl _
      · exact timesKept_switched _ _
      · exact .refl _
    | stop =>
      simp only [Visible.stop]
      split_ifs
      · exact .refl _
      · exact timesKept_switched _ _
  · rw [if_neg hid]
    exact .refl _

theorem timesKept_feedback (p : Visible) (fb : PlayFeedback) :
    TimesKept p.values (p.feedback fb).values := by
  cases fb with
  | playStopped => exact (timesKept_switched .stopped (cleared p.values)).trans_same rfl rfl
  | playStartedNextStream => exact ⟨rfl, Or.inl rfl⟩

end Values

section Steps

variable (s : AvTransport) (doc : Option (List Node)) (env : Env)

/-- The numbers that a request for the position leaves. -/
theorem outputSilanGetPosition_snd (d : SilanData) : (outputSilanGetPosition env d).2 =
    (d.duration, (positionReply env).getD d.position) := by
  simp only [outputSilanGetPosition, sendCmd_position]
  cases positionReply env <;> rfl

/-- The times that an action writes are well formed: the target of a Seek that the player
takes, and the numbers of the player. -/
def TimesGiven : TransportCmd → Prop
  | .seek => (env .slmpSeek).msgsnd = true → ∀ target ∈ soughtTarget doc, IsTime target
  | .getPositionInfo => (argument doc "InstanceID").isSome = true →
      0 ≤ s.silan.duration ∧ 0 ≤ (positionReply env).getD s.silan.position
  | _ => True

theorem timesFormed_getPositionInfo (h : TimesFormed s.vars.values) :
    TimesFormed (getPositionInfo env s (newRequest doc)).state.vars.values ↔
      TimesGiven s doc env .getPositionInfo := by
  simp only [TimesGiven]
  by_cases hid : (argument doc "InstanceID").isSome = true
  · have hpos := outputSilanGetPosition_snd env s.silan
    rw [getPositionInfo, withInstanceid_some s doc _ hid]
    simp only [updateTrackTime_values, hpos, hid, forall_const]
    constructor
    · intro hformed
      exact ⟨(isTime_printUpnpTime _).mp hformed.curTrackDur,
        (isTime_printUpnpTime _).mp hformed.relTimePos⟩
    · rintro ⟨hdur, hrel⟩
      exact ⟨(isTime_printUpnpTime _).mpr hrel, (isTime_printUpnpTime _).mpr hdur⟩
  · rw [getPositionInfo, withInstanceid_none s doc _ hid]
    simp [hid, h]

theorem timesFormed_seek (h : TimesFormed s.vars.values) :
    TimesFormed (seek env s (newRequest doc)).state.vars.values ↔
      TimesGiven s doc env .seek := by
  simp only [TimesGiven]
  cases hsought : soughtTarget doc with
  | some target =>
    rw [seek_of_sought env s hsought]
    simp only [Option.mem_def, Option.some.injEq, forall_eq']
    by_cases hsnd : (env .slmpSeek).msgsnd = true
    · simp only [hsnd, if_true, forall_const, Store.replaceVar_values]
      constructor
      · intro hformed
        simpa using hformed.relTimePos
      · intro htime
        exact ⟨by simpa using htime, by simpa using h.curTrackDur⟩
    · simp [hsnd, h]
  | none =>
    rw [seek_of_not_sought env s hsought]
    simp [h]

/-- What a step of the service has to be given for the times to stay well formed. -/
def LabelGiven : Label → Prop
  | .action cmd doc env => TimesGiven s doc env cmd
  | _ => True

theorem timesFormed_step (l : Label) (h : TimesFormed s.vars.values) :
    TimesFormed (step s l).vars.values ↔ LabelGiven s l := by
  have hact : ∀ r : Request, TimesFormed (act s r).vars.values := by
    intro r
    have hkept := timesKept_act (visible s) r
    rw [← visible_act s r] at hkept
    exact hkept.formed h
  cases l with
  | action cmd doc env =>
    cases cmd with
    | setAvTransportUri => exact iff_of_true (hact ⟨.setUri, doc, env⟩) trivial
    | setNextAvTransportUri => exact iff_of_true (hact ⟨.setNextUri, doc, env⟩) trivial
    | play => exact iff_of_true (hact ⟨.play, doc, env⟩) trivial
    | pause => exact iff_of_true (hact ⟨.pause, doc, env⟩) trivial
    | stop => exact iff_of_true (hact ⟨.stop, doc, env⟩) trivial
    | seek => exact timesFormed_seek s doc env h
    | getPositionInfo => exact timesFormed_getPositionInfo s doc env h
    | _ =>
      have hsame := reportVariables_state s doc
      simpa only [step, transportActions, getCurrentTransportactions, getDeviceCaps, getMediaInfo,
        getTransportInfo, getTransportSettings, hsame, LabelGiven, TimesGiven, iff_true] using h
  | feedback fb =>
    have hkept := timesKept_feedback (visible s) fb
    rw [← visible_feedback s fb] at hkept
    exact iff_of_true (hkept.formed h) trivial
  | output d => exact iff_of_true h trivial

end Steps

section Main

/-- What an event has to bring for the times to stay well formed. -/
def EventGiven (s : Renderer) : Event → Prop
  | .action (.transport cmd) doc env => TimesGiven s.transport doc env cmd
  | _ => True

theorem timesFormed_event (s : Renderer) (e : Event) (h : TimesFormed s.transport.vars.values) :
    TimesFormed (s.step e).transport.vars.values ↔ EventGiven s e := by
  have hrun : ∀ (t : AvTransport) (ls : List Label), (∀ l ∈ ls, ∀ t, LabelGiven t l) →
      TimesFormed t.vars.values → TimesFormed (run step t ls).vars.values := by
    intro t ls hls ht
    induction ls generalizing t with
    | nil => exact ht
    | cons l ls ih =>
      obtain ⟨hl, hls⟩ := List.forall_mem_cons.mp hls
      exact ih _ hls ((timesFormed_step t l ht).mpr (hl t))
  rw [transport_step]
  rcases e with ⟨cmd | cmd, doc, env⟩ | ⟨k, env⟩ | ⟨m, env⟩ | ⟨lock, env⟩
  · exact timesFormed_step s.transport (.action cmd doc env) h
  · exact iff_of_true (hrun _ _ (by simp [labels, LabelGiven]) h) trivial
  · refine iff_of_true (hrun _ _ ?_ h) trivial
    cases k <;> simp [labels, LabelGiven]
  · refine iff_of_true (hrun _ _ ?_ h) trivial
    cases hfb : (outputSilanRecvCmd env s.silan m).2 <;> simp [labels, LabelGiven, hfb]
  · exact iff_of_true (hrun _ _ (by simp [labels, LabelGiven]) h) trivial

theorem timesFormed_startUp (env : Env) (padmux volume mute : ℤ) :
    TimesFormed (startUp env padmux volume mute).transport.vars.values :=
  ⟨isTime_kZeroTime, isTime_kZeroTime⟩

/-- The published times are well formed throughout a run exactly when every target that is
sought is a time and no negative number of the player is published. -/
theorem timesFormed_run (env : Env) (padmux volume mute : ℤ) (es : List Event) :
    AllSteps Renderer.step (fun s e => TimesFormed (s.step e).transport.vars.values)
        (startUp env padmux volume mute) es ↔
      AllSteps Renderer.step EventGiven (startUp env padmux volume mute) es :=
  allSteps_next_iff Renderer.step (I := fun s => TimesFormed s.transport.vars.values)
    timesFormed_event (timesFormed_startUp env padmux volume mute) es

/-- The target of a Seek is published as it is. -/
theorem published_no_time : ¬ AllSteps Renderer.step
    (fun s e => TimesFormed (s.step e).transport.vars.values) (startUp allSent 0 0 0)
    [.action (.transport .seek) noTimeRequest allSent] := by
  rintro ⟨h, -⟩
  have hgiven := (timesFormed_event _ _ (timesFormed_startUp allSent 0 0 0)).mp h
  exact not_isTime_of_no_colon (by decide) (hgiven rfl "abc" (by decide))

end Main

end GMediaRender.PublishedTimes
