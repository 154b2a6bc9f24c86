import GMediaRender.ErrorReports
import GMediaRender.TransportSteps

/-!
Invariants of the AVTransport service. The transport state is kept three times, as a value of
its own, as a variable and as the list of the actions it offers; the tracks are counted for
the streams that are advertised; and while a stream plays it is the advertised one.
-/
namespace GMediaRender.TransportInvariants

open XmlDoc StateVariables ActionRequest OutputSilan UpnpTransport TransportValues
  TransportSteps ErrorReports Runs

section States

/-- The three records of the transport state agree, and it is one of the states that are
switched to. -/
structure InStep (st : TransportState) (v : Values) : Prop where
  reached : st = .stopped ∨ st = .playing ∨ st = .pausedPlayback
  name : v .transportState = transportStates st
  actions : availableActions st = some (v .curTransportActions)

theorem transportStates_injective (st st' : TransportState)
    (h : transportStates st = transportStates st') : st = st' := by
  revert h
  cases st <;> cases st' <;> decide

variable {st : TransportState} {v : Values}

/-- Only the two variables matter. -/
theorem InStep.congr {v' : Values} (h : InStep st v)
    (hname : v' .transportState = v .transportState)
    (hactions : v' .curTransportActions = v .curTransportActions) : InStep st v' :=
  ⟨h.reached, hname.trans h.name, h.actions.trans (congrArg some hactions.symm)⟩

/-- Switching returns early if the name stays; the actions are then right already. -/
theorem InStep.switched (h : InStep st v) (new : TransportState)
    (hnew : new = .stopped ∨ new = .playing ∨ new = .pausedPlayback) :
    InStep new (switched new v) := by
  unfold TransportValues.switched
  by_cases hname : v .transportState = transportStates new
  · obtain rfl := transportStates_injective _ _ (h.name.symm.trans hname)
    rw [if_pos hname]
    exact h
  · rw [if_neg hname]
    rcases hnew with rfl | rfl | rfl <;> exact ⟨by simp, rfl, rfl⟩

theorem InStep.moved {l : Label} {st' : TransportState} {v' : Values} (h : InStep st v)
    (hmoved : Moved l st v st' v') : InStep st' v' := by
  cases hmoved with
  | stay => exact h
  | started =>
    have hrewound : InStep st (rewound v) := h.congr rfl rfl
    exact (hrewound.switched .playing (by simp)).congr rfl rfl
  | resumed => exact (h.switched .playing (by simp)).congr rfl rfl
  | paused => exact h.switched .pausedPlayback (by simp)
  | stopped => exact h.switched .stopped (by simp)
  | cleared =>
    have hcleared : InStep st (cleared v) := h.congr rfl rfl
    exact hcleared.switched .stopped (by simp)
  | _ => exact h.congr rfl rfl

end States

section Refusals

variable {e e' : ActionEvent} {key : String} {c : ℤ}

/-- Reading an argument sets no error but the one for invalid arguments. -/
theorem upnpGetString_errors (hc : c ≠ upnpSoapEInvalidArgs) {arg : Option String}
    (h : upnpGetString e key = (e', arg)) : c ∈ e'.errors ↔ c ∈ e.errors := by
  cases arg with
  | none =>
    obtain ⟨-, ⟨-, rfl⟩ | ⟨-, text, rfl⟩⟩ := upnpGetString_none h
    · exact Iff.rfl
    · simp [upnpSetError, hc]
  | some value =>
    obtain ⟨rfl, -⟩ := upnpGetString_some h
    exact Iff.rfl

variable (s : AvTransport) (doc : Option (List Node)) (env : Env)

theorem withInstanceid_errors (hc : c ≠ upnpSoapEInvalidArgs)
    (body : ActionEvent → Handled AvTransport)
    (h : c ∈ (withInstanceid s (newRequest doc) body).event.errors) :
    c ∈ (body (newRequest doc)).event.errors := by
  by_cases hid : (argument doc "InstanceID").isSome = true
  · rwa [withInstanceid_some s doc body hid] at h
  · obtain ⟨e, hget, hfails⟩ := withInstanceid_missing s body (newRequest doc) hid
    have herrors : c ∈ e.errors := by simpa [hfails, upnpSetError, hc] using h
    exact absurd ((upnpGetString_errors hc hget).mp herrors) (by simp [newRequest])

/-- The actions that are refused with an error for the transition. -/
def NotAllowed : TransportCmd → TransportState → Prop
  | .stop, st => st = .noMediaPresent
  | .play, st => st ≠ .playing ∧ st ≠ .stopped ∧ st ≠ .pausedPlayback
  | .pause, st => st ≠ .pausedPlayback ∧ st ≠ .playing
  | _, _ => False

theorem newRequest_errors : c ∉ (newRequest doc).errors := List.not_mem_nil

theorem notAllowed_of_startPlaying (hc : c ≠ 704) (t : AvTransport) (he : c ∉ e.errors) :
    c ∉ (startPlaying env t e).event.errors := by
  unfold startPlaying
  simp only
  split_ifs <;> simp [upnpSetError, he, hc]

theorem notAllowed_of_error (cmd : TransportCmd)
    (h : upnpTransportETransitionNa ∈
      (transportActions env s (newRequest doc) cmd).event.errors) :
    NotAllowed cmd s.transportState := by
  have hc : upnpTransportETransitionNa ≠ upnpSoapEInvalidArgs := by decide
  have hc' : upnpTransportETransitionNa ≠ 704 := by decide
  have hnew := newRequest_errors (c := upnpTransportETransitionNa) doc
  have hreport : ∀ (t : AvTransport) (l : List (TransportVar × String)),
      upnpTransportETransitionNa ∉ (appendVariables (newRequest doc) t.vars l).errors := by
    intro t l
    rw [(appendVariables_clean t.vars l (newRequest doc)).1]
    exact hnew
  cases cmd with
  | stop =>
    have h := withInstanceid_errors s doc hc _ h
    unfold NotAllowed
    cases hstate : s.transportState with
    | noMediaPresent => rfl
    | _ => simp [hstate, hnew] at h
  | play =>
    have h := withInstanceid_errors s doc hc _ h
    unfold NotAllowed
    cases hstate : s.transportState with
    | stopped =>
      simp only [hstate] at h
      exact absurd h (notAllowed_of_startPlaying env hc' _ hnew)
    | pausedPlayback =>
      simp only [hstate] at h
      exact absurd h (notAllowed_of_startPlaying env hc' _ hnew)
    | playing => simp [hstate, hnew] at h
    | _ => simp
  | pause =>
    have h := withInstanceid_errors s doc hc _ h
    unfold NotAllowed
    cases hstate : s.transportState with
    | pausedPlayback => simp [hstate, hnew] at h
    | playing =>
      simp only [hstate] at h
      split_ifs at h
      · simp [upnpSetError, hnew, hc'] at h
      · exact absurd h hnew
    | _ => simp
  | setAvTransportUri =>
    have h := withInstanceid_errors s doc hc _ h
    cases hget : upnpGetString (newRequest doc) "CurrentURI" with
    | mk e arg =>
      have hread := mt (upnpGetString_errors hc hget).mp hnew
      simp only [hget] at h
      cases arg with
      | none => exact absurd h hread
      | some uri => exact absurd ((upnpGetString_errors hc rfl).mp h) hread
  | setNextAvTransportUri =>
    have h := withInstanceid_errors s doc hc _ h
    cases hget : upnpGetString (newRequest doc) "NextURI" with
    | mk e arg =>
      have hread := mt (upnpGetString_errors hc hget).mp hnew
      simp only [hget] at h
      cases arg with
      | none => exact absurd h hread
      | some uri =>
        cases hget' : upnpGetString e "NextURIMetaData" with
        | mk e' arg' =>
          have hread' := mt (upnpGetString_errors hc hget').mp hread
          simp only [hget'] at h
          cases arg' <;> exact absurd h hread'
  | seek =>
    have h := withInstanceid_errors s doc hc _ h
    cases hget : upnpGetString (newRequest doc) "Unit" with
    | mk e arg =>
      have hread := mt (upnpGetString_errors hc hget).mp hnew
      simp only [hget] at h
      cases arg with
      | none => exact absurd h hread
      | some unit =>
        simp only at h
        split_ifs at h
        · cases hget' : upnpGetString e "Target" with
          | mk e' arg' =>
            have hread' := mt (upnpGetString_errors hc hget').mp hread
            simp only [hget'] at h
            cases arg' <;> exact absurd h hread'
        · exact absurd h hread
  | _ => exact absurd (withInstanceid_errors s doc hc _ h) (hreport _ _)

end Refusals

section Tracks

/-- The tracks are counted, and while a stream plays it is the advertised one. -/
structure TracksAgree (st : TransportState) (v : Values) : Prop where
  nrTracks : v .nrTracks = tracks (v .avUri)
  curTrack : v .curTrack = tracks (v .curTrackUri)
  playing : st = .playing → v .curTrackUri = v .avUri ∧ v .curTrackMeta = v .avUriMeta

variable {st : TransportState} {v : Values}

/-- Only the variables of the current stream matter. -/
theorem TracksAgree.congr {v' : Values} (h : TracksAgree st v)
    (hnr : v' .nrTracks = v .nrTracks) (hcur : v' .curTrack = v .curTrack)
    (hav : v' .avUri = v .avUri) (havMeta : v' .avUriMeta = v .avUriMeta)
    (huri : v' .curTrackUri = v .curTrackUri) (hmeta : v' .curTrackMeta = v .curTrackMeta) :
    TracksAgree st v' := by
  refine ⟨?_, ?_, fun hst => ?_⟩
  · rw [hnr, hav, h.nrTracks]
  · rw [hcur, huri, h.curTrack]
  · rw [huri, hav, hmeta, havMeta]
    exact h.playing hst

theorem switched_of_ne (new : TransportState) (v : Values) (i : TransportVar)
    (hi : i ≠ .transportState) (hi' : i ≠ .curTransportActions) : switched new v i = v i := by
  unfold switched
  split_ifs
  · rfl
  · cases availableActions new <;> simp [hi, hi']

theorem TracksAgree.switched (h : TracksAgree st v) (new : TransportState)
    (hnew : new ≠ .playing) : TracksAgree new (switched new v) := by
  have hidle : TracksAgree new v := ⟨h.nrTracks, h.curTrack, fun hst => absurd hst hnew⟩
  refine hidle.congr ?_ ?_ ?_ ?_ ?_ ?_ <;> exact switched_of_ne _ _ _ (by decide) (by decide)

/-- Starting the advertised stream makes the current track agree with it. -/
theorem tracksAgree_started (st : TransportState) (h : v .nrTracks = tracks (v .avUri)) :
    TracksAgree st (trackStarted v) := ⟨h, rfl, fun _ => ⟨rfl, rfl⟩⟩

theorem tracksAgree_switched_started (h : v .nrTracks = tracks (v .avUri)) :
    TracksAgree .playing (trackStarted (switched .playing v)) := by
  apply tracksAgree_started
  rw [switched_of_ne _ _ _ (by decide) (by decide), switched_of_ne _ _ _ (by decide) (by decide), h]

theorem TracksAgree.moved {l : Label} {st' : TransportState} {v' : Values}
    (h : TracksAgree st v) (hmoved : Moved l st v st' v') : TracksAgree st' v' := by
  cases hmoved with
  | stay => exact h
  | uriSet uri metadata hl hst => exact ⟨rfl, h.curTrack, fun hplaying => absurd hplaying hst⟩
  | uriReplaced uri metadata hl hst => exact tracksAgree_started st rfl
  | started => exact tracksAgree_switched_started h.nrTracks
  | resumed => exact tracksAgree_switched_started h.nrTracks
  | paused => exact h.switched .pausedPlayback (by decide)
  | stopped => exact h.switched .stopped (by decide)
  | cleared =>
    have hcleared : TracksAgree st (cleared v) := ⟨rfl, rfl, fun _ => ⟨rfl, rfl⟩⟩
    exact hcleared.switched .stopped (by decide)
  | nextStarted => exact ⟨rfl, rfl, fun _ => ⟨rfl, rfl⟩⟩
  | _ => exact h.congr rfl rfl rfl rfl rfl rfl

end Tracks

section Main

variable (d : SilanData) (ls : List Label)

/-- What every move preserves holds throughout the life of the service. -/
theorem initial_invariant {I : TransportState → Values → Prop}
    (hstart : I .stopped transportDefaultValues)
    (hmoved : ∀ l st v st' v', I st v → Moved l st v st' v' → I st' v') :
    I (run step (initial d) ls).transportState (run step (initial d) ls).vars.values :=
  run_invariant (I := fun s => I s.transportState s.vars.values) step
    (fun s l h => hmoved l _ _ _ _ h (step_moved s l)) hstart ls

theorem inStep_kept : InStep (run step (initial d) ls).transportState
    (run step (initial d) ls).vars.values :=
  initial_invariant d ls ⟨Or.inl rfl, rfl, rfl⟩ fun _ _ _ _ _ h hmoved => h.moved hmoved

theorem tracksAgree_kept : TracksAgree (run step (initial d) ls).transportState
    (run step (initial d) ls).vars.values :=
  initial_invariant d ls ⟨rfl, rfl, by decide⟩ fun _ _ _ _ _ h hmoved => h.moved hmoved

/-- The invariant of the tracks as the variables show it. -/
structure TrackVariables (v : Values) : Prop where
  nrTracks : v .nrTracks = if v .avUri = "" then "0" else "1"
  curTrack : v .curTrack = if v .curTrackUri = "" then "0" else "1"
  playing : v .transportState = "PLAYING" →
    v .curTrackUri = v .avUri ∧ v .curTrackMeta = v .avUriMeta ∧ v .curTrack = v .nrTracks

/-- The tracks are counted, and while a stream plays the current track is the advertised
stream. -/
theorem tracksAgree_run : TrackVariables (run step (initial d) ls).vars.values := by
  have hstep := inStep_kept d ls
  have htracks := tracksAgree_kept d ls
  refine ⟨htracks.nrTracks, htracks.curTrack, fun hplaying => ?_⟩
  have hst := transportStates_injective _ .playing (hstep.name.symm.trans hplaying)
  obtain ⟨huri, hmeta⟩ := htracks.playing hst
  refine ⟨huri, hmeta, ?_⟩
  rw [htracks.curTrack, htracks.nrTracks, huri]

end Main

end GMediaRender.TransportInvariants
