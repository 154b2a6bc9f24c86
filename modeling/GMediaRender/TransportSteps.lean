import GMediaRender.SeekTargets
import GMediaRender.TransportValues
import GMediaRender.RendererSystem

/-!
The AVTransport service as a system of its own: controller actions and the feedback of the
output, each an atomic step, over an output module that may be in any state. What a step can
do to the transport state and to the values is listed once, in `Moved`; the invariants of
the service are derived from that list.
-/
namespace GMediaRender.TransportSteps

open XmlDoc StateVariables ActionRequest OutputSilan UpnpTime UpnpTransport TransportValues
  SeekTargets RendererSystem Runs

inductive Label where
  | action (cmd : TransportCmd) (doc : Option (List Node)) (env : Env)
  | feedback (fb : PlayFeedback)
  /-- The output module goes on by itself. -/
  | output (d : SilanData)

def step (s : AvTransport) : Label → AvTransport
  | .action cmd doc env => (transportActions env s (newRequest doc) cmd).state
  | .feedback fb => transitionFromOutput s fb
  | .output d => { s with silan := d }

/-- The service after start-up, over any output module. -/
def initial (d : SilanData) : AvTransport := ⟨.stopped, ⟨transportDefaultValues, []⟩, d⟩

/-- The URI and metadata that a step delivers for the current stream. -/
def Label.setsUri : Label → Option (String × String)
  | .action .setAvTransportUri doc _ =>
    (argument doc "InstanceID").bind fun _ => (argument doc "CurrentURI").map fun uri =>
      (uri, (argument doc "CurrentURIMetaData").getD "")
  | _ => none

/-- The URI and metadata that a step delivers for the next stream; the metadata may be missing
or without content. -/
def Label.setsNext : Label → Option (String × Option String)
  | .action .setNextAvTransportUri doc _ =>
    (argument doc "InstanceID").bind fun _ => (argument doc "NextURI").map fun uri =>
      (uri, argument doc "NextURIMetaData")
  | _ => none

/-- The target of a step that seeks. -/
def Label.seeks : Label → Option String
  | .action .seek doc _ => argument doc "Target"
  | _ => none

/-- The duration and the position have been read from the output. -/
def measured (duration position : ℤ) (v : Values) : Values
  | .curTrackDur => printUpnpTime duration
  | .relTimePos => printUpnpTime position
  | i => v i

def sought (target : String) (v : Values) : Values
  | .relTimePos => target
  | i => v i

/-- What a step can do. -/
inductive Moved (l : Label) (st : TransportState) (v : Values) : TransportState → Values → Prop
  | stay : Moved l st v st v
  | measured (duration position : ℤ) : Moved l st v st (measured duration position v)
  | sought (target : String) (h : l.seeks = some target) : Moved l st v st (sought target v)
  | rewound (h : st = .stopped) : Moved l st v st (rewound v)
  | uriSet (uri metadata : String) (h : l.setsUri = some (uri, metadata)) (hst : st ≠ .playing) :
      Moved l st v st (uriSet uri metadata v)
  | uriReplaced (uri metadata : String) (h : l.setsUri = some (uri, metadata))
      (hst : st = .playing) : Moved l st v st (trackStarted (uriSet uri metadata v))
  | queued (uri : String) (metadata : Option String) (h : l.setsNext = some (uri, metadata)) :
      Moved l st v st (queued uri metadata v)
  | started (h : st = .stopped) :
      Moved l st v .playing (trackStarted (switched .playing (TransportValues.rewound v)))
  | resumed (h : st = .pausedPlayback) :
      Moved l st v .playing (trackStarted (switched .playing v))
  | paused (h : st = .playing) : Moved l st v .pausedPlayback (switched .pausedPlayback v)
  | stopped : Moved l st v .stopped (switched .stopped v)
  | cleared : Moved l st v .stopped (switched .stopped (cleared v))
  | nextStarted : Moved l st v st (nextStarted v)

section Inversion

variable (s : AvTransport) (doc : Option (List Node)) (env : Env)

theorem moved_play {l : Label} (p : Visible) :
    Moved l p.state p.values (p.play env).state (p.play env).values := by
  by_cases hidle : p.state ≠ .stopped ∧ p.state ≠ .pausedPlayback
  · rw [play_of_state p env hidle]
    exact .stay
  · obtain ⟨state, values, silan⟩ := p
    by_cases hstopped : state = .stopped
    · subst hstopped
      simp only [Visible.play, Visible.startPlaying]
      split_ifs
      · exact .rewound rfl
      · exact .started rfl
    · obtain rfl : state = .pausedPlayback := by
        by_contra hpaused
        exact hidle ⟨hstopped, hpaused⟩
      simp only [Visible.play, Visible.startPlaying]
      split_ifs
      · exact .stay
      · exact .resumed rfl

/-- The stream actions move the values as they were found to. -/
theorem moved_act (p : Visible) (r : Request) :
    Moved (.action r.action.command r.doc r.env) p.state p.values (p.act r).state
      (p.act r).values := by
  obtain ⟨action, doc, env⟩ := r
  unfold Visible.act
  by_cases hid : (argument doc "InstanceID").isSome = true
  · obtain ⟨id, hid'⟩ := Option.isSome_iff_exists.mp hid
    rw [if_pos hid]
    cases action with
    | setUri =>
      cases huri : argument doc "CurrentURI" with
      | none => exact .stay
      | some uri =>
        have hsets : Label.setsUri (.action .setAvTransportUri doc env) =
            some (uri, (argument doc "CurrentURIMetaData").getD "") := by
          simp [Label.setsUri, hid', huri]
        by_cases hplaying : p.state = .playing
        · simp only [Visible.setUri, if_pos hplaying]
          exact .uriReplaced _ _ hsets hplaying
        · simp only [Visible.setUri, if_neg hplaying]
          exact .uriSet _ _ hsets hplaying
    | setNextUri =>
      cases huri : argument doc "NextURI" with
      | none => exact .stay
      | some uri =>
        have hsets : Label.setsNext (.action .setNextAvTransportUri doc env) =
            some (uri, argument doc "NextURIMetaData") := by
          simp [Label.setsNext, hid', huri]
        exact .queued _ _ hsets
    | play => exact moved_play env p
    | pause =>
      by_cases hplaying : p.state = .playing
      · simp only [Visible.pause, if_pos hplaying]
        split_ifs
        · exact .stay
        · exact .paused hplaying
      · simp only [Visible.pause, if_neg hplaying]
        exact .stay
    | stop =>
      simp only [Visible.stop]
      split_ifs
      · exact .stay
      · exact .stopped
  · rw [if_neg hid]
    exact .stay

theorem moved_command (r : Request) :
    Moved (.action r.action.command r.doc r.env) s.transportState s.vars.values
      (act s r).transportState (act s r).vars.values := by
  have h := moved_act (visible s) r
  rw [← visible_act s r] at h
  exact h

theorem updateTrackTime_values : (updateTrackTime env s).vars.values =
    measured (outputSilanGetPosition env s.silan).2.1 (outputSilanGetPosition env s.silan).2.2
      s.vars.values := by
  funext i
  cases i <;> simp [updateTrackTime, measured]

theorem moved_getPositionInfo {l : Label} :
    Moved l s.transportState s.vars.values
      (getPositionInfo env s (newRequest doc)).state.transportState
      (getPositionInfo env s (newRequest doc)).state.vars.values := by
  by_cases hid : (argument doc "InstanceID").isSome = true
  · rw [getPositionInfo, withInstanceid_some s doc _ hid]
    simp only [updateTrackTime_values]
    exact .measured _ _
  · rw [getPositionInfo, withInstanceid_none s doc _ hid]
    exact .stay

theorem moved_seek : Moved (.action .seek doc env) s.transportState s.vars.values
    (seek env s (newRequest doc)).state.transportState
    (seek env s (newRequest doc)).state.vars.values := by
  cases hsought : soughtTarget doc with
  | some target =>
    have htarget : argument doc "Target" = some target :=
      (Option.ite_none_right_eq_some.mp (relTimeTarget_of_sought hsought)).2
    have hvalues : (s.vars.replaceVar .relTimePos target).values = sought target s.vars.values := by
      funext i
      cases i <;> simp [sought]
    rw [seek_of_sought env s hsought]
    split_ifs
    · simp only [hvalues]
      exact .sought target htarget
    · exact .stay
  | none =>
    rw [seek_of_not_sought env s hsought]
    exact .stay

/-- Every step makes one of the moves. -/
theorem step_moved (l : Label) : Moved l s.transportState s.vars.values
    (step s l).transportState (step s l).vars.values := by
  cases l with
  | action cmd doc env =>
    cases cmd with
    | setAvTransportUri => exact moved_command s ⟨.setUri, doc, env⟩
    | setNextAvTransportUri => exact moved_command s ⟨.setNextUri, doc, env⟩
    | play => exact moved_command s ⟨.play, doc, env⟩
    | pause => exact moved_command s ⟨.pause, doc, env⟩
    | stop => exact moved_command s ⟨.stop, doc, env⟩
    | seek => exact moved_seek s doc env
    | getPositionInfo => exact moved_getPositionInfo s doc env
    | _ =>
      have hsame := reportVariables_state s doc
      simp only [step, transportActions, getCurrentTransportactions, getDeviceCaps, getMediaInfo,
        getTransportInfo, getTransportSettings, hsame]
      exact .stay
  | feedback fb =>
    have hfeedback := visible_feedback s fb
    have hstate : (step s (.feedback fb)).transportState = ((visible s).feedback fb).state :=
      congrArg Visible.state hfeedback
    have hvalues : (step s (.feedback fb)).vars.values = ((visible s).feedback fb).values :=
      congrArg Visible.values hfeedback
    rw [hstate, hvalues]
    cases fb with
    | playStopped => exact .cleared
    | playStartedNextStream => exact .nextStarted
  | output d => exact .stay

end Inversion

section Renderer

/-- The steps that the service takes in one step of the renderer. -/
def labels (s : Renderer) : Event → List Label
  | .action (.transport cmd) doc env => [.action cmd doc env]
  | .key .radio env => [.output (outputSilanSetSpdifin env s.silan), .feedback .playStopped]
  | .message m env =>
    .output (outputSilanRecvCmd env s.silan m).1 ::
      ((outputSilanRecvCmd env s.silan m).2.map .feedback).toList
  | e => [.output (s.step e).silan]

theorem transport_step (s : Renderer) (e : Event) :
    (s.step e).transport = run step s.transport (labels s e) := by
  rcases e with ⟨cmd | cmd, doc, env⟩ | ⟨_ | _ | _ | _, env⟩ | ⟨m, env⟩ | ⟨lock, env⟩
  case message =>
    change receive s.transport m env = _
    unfold receive labels
    cases hfb : (outputSilanRecvCmd env s.transport.silan m).2 <;>
      simp [Renderer.silan, hfb, step]
  all_goals rfl

/-- In a run of the renderer the service makes a run of its own. -/
theorem transport_run (s : Renderer) (es : List Event) :
    ∃ ls, (run Renderer.step s es).transport = run step s.transport ls := by
  induction es generalizing s with
  | nil => exact ⟨[], rfl⟩
  | cons e es ih =>
    obtain ⟨ls, hls⟩ := ih (s.step e)
    refine ⟨labels s e ++ ls, ?_⟩
    rw [run_cons, hls, transport_step, run_append]

end Renderer

end GMediaRender.TransportSteps
