import GMediaRender.SeekTargets
import GMediaRender.TransportInvariants

/-!
The actions that CurrentTransportActions names against those that the handlers carry out. A
state names its actions when it is switched to; Stop, Play and Pause ask for the state again,
and Seek does not.
-/
namespace GMediaRender.AdvertisedActions

open XmlDoc StateVariables ActionRequest OutputSilan UpnpTime UpnpTransport TransportValues
  TransportSteps TransportInvariants TimeFormat SeekTargets Runs

section Definitions

/-- The names in the list of the actions. -/
def advertised (v : Values) : List String :=
  ((v .curTransportActions).toList.splitOn ',').map String.ofList

/-- The name of an action in that list. -/
def advertisedName : TransportCmd → Option String
  | .play => some "PLAY"
  | .pause => some "PAUSE"
  | .stop => some "STOP"
  | .seek => some "SEEK"
  | _ => none

/-- The request asks for what the action does: a Seek for a position in time. -/
def WellFormed (doc : Option (List Node)) : TransportCmd → Prop
  | .seek => ∃ target ∈ relTimeTarget doc, IsTime target
  | _ => True

/-- Nothing is sent, and neither the state nor the position changes. -/
structure Undisturbed (s s' : AvTransport) : Prop where
  sent : s'.silan.sent = s.silan.sent
  transportState : s'.vars.values .transportState = s.vars.values .transportState
  relTimePos : s'.vars.values .relTimePos = s.vars.values .relTimePos

variable (env : Env) (s : AvTransport) (doc : Option (List Node)) (cmd : TransportCmd)

/-- An action that is named is not refused for the state, and one that is not named does
nothing. -/
structure Enforced : Prop where
  named : ∀ name ∈ advertisedName cmd, name ∈ advertised s.vars.values →
    upnpTransportETransitionNa ∉ (transportActions env s (newRequest doc) cmd).event.errors
  unnamed : ∀ name ∈ advertisedName cmd, name ∉ advertised s.vars.values →
    Undisturbed s (transportActions env s (newRequest doc) cmd).state

end Definitions

section States

variable {env : Env} {s : AvTransport} {doc : Option (List Node)} {cmd : TransportCmd}

theorem Undisturbed.refl (s : AvTransport) : Undisturbed s s := ⟨rfl, rfl, rfl⟩

/-- The names that a state offers. -/
theorem advertised_of_inStep (h : InStep s.transportState s.vars.values) :
    (s.transportState = .stopped ∧ advertised s.vars.values = ["PLAY"]) ∨
      (s.transportState = .playing ∧ advertised s.vars.values = ["PAUSE", "STOP", "SEEK"]) ∨
      (s.transportState = .pausedPlayback ∧ advertised s.vars.values = ["PLAY", "STOP"]) := by
  have hactions := h.actions
  unfold advertised
  rcases h.reached with hst | hst | hst <;> rw [hst] at hactions <;>
    rw [← Option.some.inj hactions, hst]
  · exact Or.inl ⟨rfl, by decide⟩
  · exact Or.inr (Or.inl ⟨rfl, by decide⟩)
  · exact Or.inr (Or.inr ⟨rfl, by decide⟩)

/-- An action that the state already grants or does not allow leaves the service alone. -/
theorem state_of_unnamed (hid : (argument doc "InstanceID").isSome = true)
    (h : (cmd = .stop ∧ s.transportState = .stopped) ∨
      (cmd = .play ∧ s.transportState = .playing) ∨
      (cmd = .pause ∧ (s.transportState = .stopped ∨ s.transportState = .pausedPlayback))) :
    (transportActions env s (newRequest doc) cmd).state = s := by
  rcases h with ⟨rfl, hst⟩ | ⟨rfl, hst⟩ | ⟨rfl, hst | hst⟩
  · simp only [transportActions, stop, withInstanceid_some s doc _ hid, hst]
  · simp only [transportActions, play, withInstanceid_some s doc _ hid, hst]
  · simp only [transportActions, pauseStream, withInstanceid_some s doc _ hid, hst]
  · simp only [transportActions, pauseStream, withInstanceid_some s doc _ hid, hst]

theorem undisturbed_of_unnamed
    (h : (cmd = .stop ∧ s.transportState = .stopped) ∨
      (cmd = .play ∧ s.transportState = .playing) ∨
      (cmd = .pause ∧ (s.transportState = .stopped ∨ s.transportState = .pausedPlayback))) :
    Undisturbed s (transportActions env s (newRequest doc) cmd).state := by
  by_cases hid : (argument doc "InstanceID").isSome = true
  · rw [state_of_unnamed hid h]
    exact .refl s
  · rw [transportActions_missing s env cmd hid]
    exact .refl s

/-- A Seek with an instance and a target sends a command. -/
theorem undisturbed_seek_iff : Undisturbed s (seek env s (newRequest doc)).state ↔
    soughtTarget doc = none := by
  constructor
  · intro h
    by_contra hsome
    obtain ⟨target, htarget⟩ := Option.ne_none_iff_exists'.mp hsome
    have hsent := h.sent
    rw [seek_of_sought env s htarget] at hsent
    simp [SilanData.record] at hsent
  · intro hnone
    rw [seek_of_not_sought env s hnone]
    exact .refl s

end States

section Main

variable (env : Env) (s : AvTransport) (doc : Option (List Node)) (cmd : TransportCmd)

/-- The one refusal that a reached state makes is of a Pause that it does not name. -/
theorem not_refused_of_named (h : InStep s.transportState s.vars.values) {name : String}
    (hcmd : name ∈ advertisedName cmd) (hname : name ∈ advertised s.vars.values) :
    upnpTransportETransitionNa ∉ (transportActions env s (newRequest doc) cmd).event.errors := by
  intro herror
  have hrefused := notAllowed_of_error s doc env cmd herror
  rcases advertised_of_inStep h with ⟨hst, hnames⟩ | ⟨hst, -⟩ | ⟨hst, -⟩ <;>
    rw [hst] at hrefused
  · cases cmd <;> simp [NotAllowed] at hrefused
    obtain rfl : "PAUSE" = name := Option.some.inj hcmd
    rw [hnames] at hname
    exact absurd hname (by decide)
  · cases cmd <;> simp [NotAllowed] at hrefused
  · cases cmd <;> simp [NotAllowed] at hrefused

theorem undisturbed_iff (h : InStep s.transportState s.vars.values) {name : String}
    (hcmd : name ∈ advertisedName cmd) (hname : name ∉ advertised s.vars.values) :
    Undisturbed s (transportActions env s (newRequest doc) cmd).state ↔
      (cmd = .seek → soughtTarget doc = none) := by
  by_cases hseek : cmd = .seek
  · subst hseek
    exact undisturbed_seek_iff.trans ⟨fun h _ => h, fun h => h rfl⟩
  · simp only [hseek, false_implies, iff_true]
    apply undisturbed_of_unnamed
    rcases advertised_of_inStep h with ⟨hst, hnames⟩ | ⟨hst, hnames⟩ | ⟨hst, hnames⟩ <;>
      rw [hnames] at hname <;> cases cmd <;> simp_all [advertisedName]

theorem enforced_iff (h : InStep s.transportState s.vars.values) :
    (WellFormed doc cmd → Enforced env s doc cmd) ↔
      (cmd = .seek → ∀ target ∈ soughtTarget doc, IsTime target →
        s.transportState = .playing) := by
  constructor
  · rintro henforced rfl target htarget htime
    by_contra hst
    have hname : "SEEK" ∉ advertised s.vars.values := by
      rcases advertised_of_inStep h with ⟨-, hnames⟩ | ⟨hplaying, -⟩ | ⟨-, hnames⟩
      · rw [hnames]
        decide
      · exact absurd hplaying hst
      · rw [hnames]
        decide
    have hundisturbed := (henforced ⟨target, relTimeTarget_of_sought htarget, htime⟩).unnamed
      "SEEK" rfl hname
    rw [undisturbed_seek_iff.mp hundisturbed] at htarget
    cases htarget
  · intro hplaying hwell
    refine ⟨fun name => not_refused_of_named env s doc cmd h, fun name hcmd hname => ?_⟩
    refine (undisturbed_iff env s doc cmd h hcmd hname).mpr ?_
    rintro rfl
    obtain ⟨target, htarget, htime⟩ := hwell
    by_contra hsome
    obtain ⟨sought, hsought⟩ := Option.ne_none_iff_exists'.mp hsome
    obtain rfl : target = sought :=
      Option.mem_unique htarget (relTimeTarget_of_sought hsought)
    have hst := hplaying rfl target hsought htime
    obtain rfl : "SEEK" = name := Option.some.inj hcmd
    rcases advertised_of_inStep h with ⟨hstopped, -⟩ | ⟨-, hnames⟩ | ⟨hpaused, -⟩
    · simp [hst] at hstopped
    · rw [hnames] at hname
      exact hname (by decide)
    · simp [hst] at hpaused

/-- In every reachable state the actions are enforced as they are advertised, but for a Seek
in a state other than PLAYING. -/
theorem enforced_run (d : SilanData) (ls : List Label) :
    (WellFormed doc cmd → Enforced env (run step (initial d) ls) doc cmd) ↔
      (cmd = .seek → ∀ target ∈ soughtTarget doc, IsTime target →
        (run step (initial d) ls).transportState = .playing) := by
  exact enforced_iff env _ doc cmd (inStep_kept d ls)

/-- A request to seek to ten seconds. -/
def seekRequest : Option (List Node) :=
  requestDoc "Seek" [("InstanceID", "0"), ("Unit", "REL_TIME"), ("Target", "0:00:10")]

/-- After start-up only PLAY is advertised, and a Seek is carried out. -/
theorem sought_while_stopped : ¬ (WellFormed seekRequest .seek →
    Enforced (fun _ => ⟨true, none⟩)
      (run step (initial (outputSilanInit (fun _ => ⟨true, none⟩) 0 0 0)) []) seekRequest
      .seek) := by
  rw [run_nil, enforced_iff _ _ _ _ ⟨Or.inl rfl, rfl, rfl⟩]
  intro h
  have hprinted : printUpnpTime 10 = "0:00:10" := by decide
  have htime := (isTime_printUpnpTime 10).mpr (by decide)
  rw [hprinted] at htime
  have hplaying := h rfl "0:00:10" (by decide) htime
  simp [initial] at hplaying

end Main

end GMediaRender.AdvertisedActions
