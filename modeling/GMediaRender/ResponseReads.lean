import GMediaRender.ErrorReports
import GMediaRender.TransportSteps

/-!
The responses of GetMediaInfo and GetPositionInfo while other threads use the service. Each
variable is read under the service mutex, but the mutex is given back between two reads, so a
URI and its metadata may be read on either side of a step of another thread.
-/
namespace GMediaRender.ResponseReads

open XmlDoc StateVariables ActionRequest OutputSilan UpnpTime UpnpTransport TransportValues
  TransportSteps RendererSystem ErrorReports Runs

/-- The atomic parts of an action that reports. -/
inductive Op where
  | getPosition (env : Env)
  | storeTimes
  | append (varnum : TransportVar) (paramname : String)

def Op.name : Op → Option String
  | .append _ paramname => some paramname
  | _ => none

/-- The two actions that report URIs with their metadata. -/
inductive ReportCmd where
  | getMediaInfo
  | getPositionInfo
  deriving DecidableEq

def ReportCmd.command : ReportCmd → TransportCmd
  | .getMediaInfo => .getMediaInfo
  | .getPositionInfo => .getPositionInfo

/-- The variables in the order in which they are read. -/
def ReportCmd.variables : ReportCmd → List (TransportVar × String)
  | .getMediaInfo => [(.nrTracks, "NrTracks"), (.curMediaDur, "MediaDuration"),
      (.avUri, "CurrentURI"), (.avUriMeta, "CurrentURIMetaData"), (.nextAvUri, "NextURI"),
      (.nextAvUriMeta, "NextURIMetaData"), (.recMedia, "PlayMedium"), (.recMedium, "RecordMedium"),
      (.recMediumWrStatus, "WriteStatus")]
  | .getPositionInfo => [(.curTrack, "Track"), (.curTrackDur, "TrackDuration"),
      (.curTrackMeta, "TrackMetaData"), (.curTrackUri, "TrackURI"), (.relTimePos, "RelTime"),
      (.absTimePos, "AbsTime"), (.relCtrPos, "RelCount"), (.absCtrPos, "AbsCount")]

def appends (l : List (TransportVar × String)) : List Op := l.map fun v => .append v.1 v.2

theorem appends_length (l : List (TransportVar × String)) : (appends l).length = l.length :=
  List.length_map _

/-- What is left to do after the instance has been obtained. -/
def ReportCmd.ops (env : Env) (cmd : ReportCmd) : List Op :=
  match cmd with
  | .getMediaInfo => appends cmd.variables
  | .getPositionInfo => .getPosition env :: .storeTimes :: appends cmd.variables

/-- An action under way, with the duration and position it was told. -/
structure Reading where
  service : AvTransport
  todo : List Op
  times : ℤ × ℤ
  event : ActionEvent

inductive Step where
  | reader
  | other (l : Label)

def step (r : Reading) : Step → Reading
  | .other l => { r with service := TransportSteps.step r.service l }
  | .reader =>
    match r.todo with
    | [] => r
    | .getPosition env :: todo =>
      let position := outputSilanGetPosition env r.service.silan
      ⟨{ r.service with silan := position.1 }, todo, position.2, r.event⟩
    | .storeTimes :: todo =>
      let vars := r.service.vars.replaceVar .curTrackDur (printUpnpTime r.times.1)
      let vars := vars.replaceVar .relTimePos (printUpnpTime r.times.2)
      { r with service := { r.service with vars := vars }, todo := todo }
    | .append varnum paramname :: todo =>
      { r with todo := todo, event := upnpAppendVariable r.event r.service.vars varnum paramname }

/-- The values at the end of each step, for as long as the action goes on. -/
def note (instants : List Values) (r : Reading) (l : Step) : List Values :=
  if r.todo.isEmpty then instants else instants ++ [(step r l).service.vars.values]

def start (s : AvTransport) (e : ActionEvent) (cmd : ReportCmd) (env : Env) :
    Reading × List Values := (⟨s, cmd.ops env, (0, 0), e⟩, [s.vars.values])

/-- Two variables that are read one after the other. -/
structure ReadPair where
  first : TransportVar
  firstName : String
  second : TransportVar
  secondName : String

def ReportCmd.pairs : ReportCmd → List ReadPair
  | .getMediaInfo => [⟨.avUri, "CurrentURI", .avUriMeta, "CurrentURIMetaData"⟩,
      ⟨.nextAvUri, "NextURI", .nextAvUriMeta, "NextURIMetaData"⟩]
  | .getPositionInfo => [⟨.curTrackMeta, "TrackMetaData", .curTrackUri, "TrackURI"⟩]

/-- What the response says of a pair was so at one instant. -/
def Whole (q : ReadPair) (p : Reading × List Values) : Prop :=
  ∀ u w, (q.firstName, u) ∈ response p.1.event → (q.secondName, w) ∈ response p.1.event →
    ∃ v ∈ p.2, v q.first = u ∧ v q.second = w

/-- A step of another thread between the two reads of a pair leaves the second variable as it
is, or leaves the first at the value that was read. -/
def Undisturbed (q : ReadPair) (p : Reading × List Values) (l : Step) : Prop :=
  p.1.todo.head?.bind Op.name = some q.secondName →
    ∀ u, (q.firstName, u) ∈ response p.1.event →
      (step p.1 l).service.vars.values q.second = p.1.service.vars.values q.second ∨
        (step p.1 l).service.vars.values q.first = u

/-- Variables that are read without a break are appended in order. -/
theorem run_appends (r : Reading) (l : List (TransportVar × String))
    (h : r.todo = appends l) :
    run step r (List.replicate l.length .reader) =
      { r with todo := [], event := appendVariables r.event r.service.vars l } := by
  induction l generalizing r with
  | nil =>
    obtain ⟨service, todo, times, event⟩ := r
    obtain rfl : todo = [] := h
    rfl
  | cons v l ih =>
    obtain ⟨service, todo, times, event⟩ := r
    obtain rfl : todo = .append v.1 v.2 :: appends l := h
    rw [List.length_cons, List.replicate_succ, run_cons]
    exact ih ⟨service, appends l, times, upnpAppendVariable event service.vars v.1 v.2⟩ rfl

theorem run_getPosition (s : AvTransport) (times : ℤ × ℤ) (e : ActionEvent) (env : Env)
    (l : List (TransportVar × String)) :
    run step ⟨s, .getPosition env :: .storeTimes :: appends l, times, e⟩
        (List.replicate (l.length + 2) .reader) =
      ⟨updateTrackTime env s, [], (outputSilanGetPosition env s.silan).2,
        appendVariables e (updateTrackTime env s).vars l⟩ := by
  rw [List.replicate_succ, List.replicate_succ, run_cons, run_cons]
  exact run_appends
    ⟨updateTrackTime env s, appends l, (outputSilanGetPosition env s.silan).2, e⟩ l rfl

/-- Without other threads the parts make up the handler. -/
theorem run_reader (s : AvTransport) (doc : Option (List Node)) (cmd : ReportCmd) (env : Env)
    (hid : Given doc "InstanceID") :
    ∃ times, run step (start s (newRequest doc) cmd env).1
        (List.replicate (cmd.ops env).length .reader) =
      ⟨(transportActions env s (newRequest doc) cmd.command).state, [], times,
        (transportActions env s (newRequest doc) cmd.command).event⟩ := by
  cases cmd with
  | getMediaInfo =>
    have hhandler : transportActions env s (newRequest doc) .getMediaInfo =
        ⟨appendVariables (newRequest doc) s.vars ReportCmd.getMediaInfo.variables, s, 0⟩ := by
      rw [transportActions, getMediaInfo, reportVariables, withInstanceid_some s doc _ hid]
      rfl
    have hrun := run_appends ⟨s, appends ReportCmd.getMediaInfo.variables, (0, 0), newRequest doc⟩
      ReportCmd.getMediaInfo.variables rfl
    rw [ReportCmd.command, hhandler, start, ReportCmd.ops, appends_length, hrun]
    use (0, 0)
  | getPositionInfo =>
    have hhandler : transportActions env s (newRequest doc) .getPositionInfo =
        ⟨appendVariables (newRequest doc) (updateTrackTime env s).vars
          ReportCmd.getPositionInfo.variables, updateTrackTime env s, 0⟩ := by
      rw [transportActions, getPositionInfo, withInstanceid_some s doc _ hid]
      rfl
    rw [ReportCmd.command, hhandler, start, ReportCmd.ops, List.length_cons, List.length_cons,
      appends_length, run_getPosition]
    use (outputSilanGetPosition env s.silan).2

section Phases

/-- The operations read neither variable of the pair. -/
def Fresh (q : ReadPair) (ops : List Op) : Prop :=
  ∀ op ∈ ops, op.name ≠ some q.firstName ∧ op.name ≠ some q.secondName

/-- How far the reads of a pair have got: neither is made, the first is made and the two
variables have been seen together since, or both are made. -/
inductive Phase (q : ReadPair) (p : Reading × List Values) : Prop
  | before (pre post : List Op)
      (htodo : p.1.todo =
        pre ++ .append q.first q.firstName :: .append q.second q.secondName :: post)
      (hpre : Fresh q pre) (hpost : Fresh q post)
      (hnone : ∀ u, (q.secondName, u) ∉ response p.1.event)
      (hnone' : ∀ u, (q.firstName, u) ∉ response p.1.event)
      (hnow : p.1.service.vars.values ∈ p.2)
  | between (post : List Op) (htodo : p.1.todo = .append q.second q.secondName :: post)
      (hpost : Fresh q post) (hnone : ∀ u, (q.secondName, u) ∉ response p.1.event)
      (hheld : ∀ u, (q.firstName, u) ∈ response p.1.event →
        ∃ v ∈ p.2, v q.first = u ∧ v q.second = p.1.service.vars.values q.second)
  | after (htodo : Fresh q p.1.todo) (hwhole : Whole q p)

variable {q : ReadPair} {p : Reading × List Values}

/-- While the second variable has not been read there is nothing to be torn. -/
theorem Phase.whole (h : Phase q p) : Whole q p := by
  cases h with
  | before pre post htodo hpre hpost hnone hnone' hnow => exact fun u w _ hw => absurd hw (hnone w)
  | between post htodo hpost hnone hheld => exact fun u w _ hw => absurd hw (hnone w)
  | after htodo hwhole => exact hwhole

theorem mem_response_append {e : ActionEvent} {vars : Store TransportVar} {i : TransportVar}
    {name k x : String} (h : (k, x) ∈ response (upnpAppendVariable e vars i name)) :
    (k, x) ∈ response e ∨ (k = name ∧ x = vars.values i) := by
  unfold upnpAppendVariable upnpAddResponse at h
  split_ifs at h
  · exact Or.inl h
  · cases hadd : e.addError name with
    | some message => simp [response, hadd] at h
    | none => simpa [response, hadd] using h

/-- Instants are only added. -/
theorem subset_note (l : Step) : p.2 ⊆ (track step note p l).2 := by
  change p.2 ⊆ note p.2 p.1 l
  unfold note
  split_ifs
  · exact List.Subset.refl _
  · exact List.subset_append_left ..

theorem mem_note (l : Step) (h : p.1.todo ≠ []) :
    (track step note p l).1.service.vars.values ∈ (track step note p l).2 := by
  have hnote : (track step note p l).2 = p.2 ++ [(step p.1 l).service.vars.values] :=
    if_neg (by simpa using h)
  rw [hnote]
  exact List.mem_append_right _ (List.mem_singleton.mpr rfl)

/-- Taking the next operation. -/
theorem step_reader {r : Reading} {op : Op} {todo : List Op} (h : r.todo = op :: todo) :
    (step r .reader).todo = todo ∧
      ∀ k x, (k, x) ∈ response (step r .reader).event → op.name ≠ some k →
        (k, x) ∈ response r.event := by
  obtain ⟨service, todo', times, event⟩ := r
  obtain rfl : todo' = op :: todo := h
  cases op with
  | getPosition env => exact ⟨rfl, fun k x hmem _ => hmem⟩
  | storeTimes => exact ⟨rfl, fun k x hmem _ => hmem⟩
  | append i name =>
    refine ⟨rfl, fun k x hmem hne => ?_⟩
    rcases mem_response_append hmem with hmem | ⟨rfl, -⟩
    · exact hmem
    · exact absurd rfl hne

theorem step_append {r : Reading} {i : TransportVar} {name : String} {todo : List Op}
    (h : r.todo = .append i name :: todo) : step r .reader =
      { r with todo := todo, event := upnpAppendVariable r.event r.service.vars i name } := by
  simp only [step, h]

theorem Whole.mono {p' : Reading × List Values} (h : Whole q p) (hsub : p.2 ⊆ p'.2)
    (hfirst : ∀ u, (q.firstName, u) ∈ response p'.1.event →
      (q.firstName, u) ∈ response p.1.event)
    (hsecond : ∀ u, (q.secondName, u) ∈ response p'.1.event →
      (q.secondName, u) ∈ response p.1.event) : Whole q p' := by
  intro u w hu hw
  obtain ⟨v, hv, hvalues⟩ := h u w (hfirst u hu) (hsecond w hw)
  exact ⟨v, hsub hv, hvalues⟩

/-- Steps of other threads. -/
theorem Phase.other (h : Phase q p) (l : Label) (hl : Undisturbed q p (.other l)) :
    Phase q (track step note p (.other l)) := by
  cases h with
  | before pre post htodo hpre hpost hnone hnone' hnow =>
    exact .before pre post htodo hpre hpost hnone hnone' (mem_note _ (by simp [htodo]))
  | between post htodo hpost hnone hheld =>
    refine .between post htodo hpost hnone fun u hu => ?_
    rcases hl (by simp [htodo, Op.name]) u hu with hsecond | hfirst
    · obtain ⟨v, hv, hvfirst, hvsecond⟩ := hheld u hu
      exact ⟨v, subset_note _ hv, hvfirst, hvsecond.trans hsecond.symm⟩
    · exact ⟨_, mem_note (.other l) (by simp [htodo]), hfirst, rfl⟩
  | after htodo hwhole =>
    exact .after htodo (hwhole.mono (subset_note _) (fun _ h => h) fun _ h => h)

/-- Steps of the action itself. -/
theorem Phase.reader (hq : q.firstName ≠ q.secondName) (h : Phase q p) :
    Phase q (track step note p .reader) := by
  cases h with
  | before pre post htodo hpre hpost hnone hnone' hnow =>
    cases pre with
    | nil =>
      obtain ⟨htodo', hkeeps⟩ := step_reader htodo
      have hstep : (track step note p .reader).1 = _ := step_append htodo
      refine .between post htodo' hpost
        (fun u hu => hnone u (hkeeps _ _ hu (by simpa [Op.name] using hq))) fun u hu => ?_
      rw [hstep] at hu ⊢
      rcases mem_response_append hu with hu | ⟨-, rfl⟩
      · exact absurd hu (hnone' u)
      · exact ⟨_, subset_note .reader hnow, rfl, rfl⟩
    | cons op pre =>
      obtain ⟨htodo', hkeeps⟩ := step_reader htodo
      obtain ⟨hop, hpre⟩ := List.forall_mem_cons.mp hpre
      exact .before pre post htodo' hpre hpost (fun u hu => hnone u (hkeeps _ _ hu hop.2))
        (fun u hu => hnone' u (hkeeps _ _ hu hop.1)) (mem_note _ (by simp [htodo]))
  | between post htodo hpost hnone hheld =>
    obtain ⟨htodo', hkeeps⟩ := step_reader htodo
    have hstep : (track step note p .reader).1 = _ := step_append htodo
    refine .after (htodo' ▸ hpost) fun u w hu hw => ?_
    obtain ⟨v, hv, hvfirst, hvsecond⟩ :=
      hheld u (hkeeps _ _ hu (by simpa [Op.name] using hq.symm))
    rw [hstep] at hw
    rcases mem_response_append hw with hw | ⟨-, rfl⟩
    · exact absurd hw (hnone w)
    · exact ⟨v, subset_note .reader hv, hvfirst, hvsecond⟩
  | after htodo hwhole =>
    cases hops : p.1.todo with
    | nil =>
      have hstep : (track step note p .reader).1 = p.1 := by
        simp only [track, step, hops]
      refine .after (hstep ▸ htodo) (hwhole.mono (subset_note _) ?_ ?_) <;>
        exact fun u hu => hstep ▸ hu
    | cons op todo =>
      obtain ⟨htodo', hkeeps⟩ := step_reader hops
      obtain ⟨hop, hrest⟩ := List.forall_mem_cons.mp (hops ▸ htodo)
      exact .after (htodo' ▸ hrest) (hwhole.mono (subset_note _)
        (fun u hu => hkeeps _ _ hu hop.1) fun u hu => hkeeps _ _ hu hop.2)

end Phases

section Main

variable (s : AvTransport) (doc : Option (List Node)) (addError : String → Option String)
variable (cmd : ReportCmd) (env : Env)

/-- At the start no pair has been read. -/
theorem start_phase (q : ReadPair) (hq : q ∈ cmd.pairs) :
    Phase q (start s (request doc addError) cmd env) := by
  have hnone : ∀ name u, (name, u) ∉ response (request doc addError) :=
    fun _ _ => List.not_mem_nil
  have hnow : s.vars.values ∈ [s.vars.values] := List.mem_singleton.mpr rfl
  cases cmd with
  | getMediaInfo =>
    rcases List.mem_pair.mp hq with rfl | rfl
    · exact .before (appends (ReportCmd.getMediaInfo.variables.take 2))
        (appends (ReportCmd.getMediaInfo.variables.drop 4)) rfl
        (by simp [Fresh, appends, ReportCmd.variables, Op.name])
        (by simp [Fresh, appends, ReportCmd.variables, Op.name]) (hnone _) (hnone _) hnow
    · exact .before (appends (ReportCmd.getMediaInfo.variables.take 4))
        (appends (ReportCmd.getMediaInfo.variables.drop 6)) rfl
        (by simp [Fresh, appends, ReportCmd.variables, Op.name])
        (by simp [Fresh, appends, ReportCmd.variables, Op.name]) (hnone _) (hnone _) hnow
  | getPositionInfo =>
    obtain rfl := List.mem_singleton.mp hq
    exact .before (.getPosition env :: .storeTimes ::
        appends (ReportCmd.getPositionInfo.variables.take 2))
      (appends (ReportCmd.getPositionInfo.variables.drop 4)) rfl
      (by simp [Fresh, appends, ReportCmd.variables, Op.name])
      (by simp [Fresh, appends, ReportCmd.variables, Op.name]) (hnone _) (hnone _) hnow

theorem pairs_names : ∀ q ∈ cmd.pairs, q.firstName ≠ q.secondName := by
  cases cmd <;> decide

/-- In a run in which no other thread comes between the reads of a pair with a change that the
first read has missed, the response shows each pair as it was at one instant. -/
theorem whole_of_undisturbed (ls : List Step)
    (h : AllSteps (track step note) (fun p l => ∀ q ∈ cmd.pairs, Undisturbed q p l)
      (start s (request doc addError) cmd env) ls) :
    ∀ q ∈ cmd.pairs,
      Whole q (run (track step note) (start s (request doc addError) cmd env) ls) := by
  have hphase := run_invariant_of_allSteps (I := fun p => ∀ q ∈ cmd.pairs, Phase q p) _
    (fun p l hp hl q hq => by
      cases l with
      | reader => exact (hp q hq).reader (pairs_names cmd q hq)
      | other l => exact (hp q hq).other l (hl q hq))
    (start_phase s doc addError cmd env) h
  exact fun q hq => (hphase q hq).whole

def setUriLabel (uri metadata : String) : Label :=
  .action .setAvTransportUri (requestDoc "SetAVTransportURI"
    [("InstanceID", "0"), ("CurrentURI", uri), ("CurrentURIMetaData", metadata)]) allSent

/-- The service with a first stream. -/
def firstStream : AvTransport :=
  TransportSteps.step (initial (outputSilanInit allSent 0 50 0))
    (setUriLabel "http://a/1.mp3" "one")

/-- A Play and a change of the stream that do not come between the reads of a pair. -/
theorem whole_play : Whole ⟨.avUri, "CurrentURI", .avUriMeta, "CurrentURIMetaData"⟩
    (run (track step note)
      (start firstStream (request playRequest fun _ => none) .getMediaInfo allSent)
      [.reader, .other (setUriLabel "http://a/2.mp3" "two"), .reader, .reader,
        .other (.action .play playRequest allSent), .reader, .reader, .reader, .reader, .reader,
        .reader]) := by
  have hsame : AllSteps (track step note) (fun p l => ∀ q ∈ ReportCmd.getMediaInfo.pairs,
      p.1.todo.head?.bind Op.name = some q.secondName →
        (step p.1 l).service.vars.values q.second = p.1.service.vars.values q.second)
      (start firstStream (request playRequest fun _ => none) .getMediaInfo allSent)
      [.reader, .other (setUriLabel "http://a/2.mp3" "two"), .reader, .reader,
        .other (.action .play playRequest allSent), .reader, .reader, .reader, .reader, .reader,
        .reader] := by decide +kernel
  exact whole_of_undisturbed _ _ _ _ _ _
    (allSteps_mono _ (fun p l h q hq hhead u _ => Or.inl (h q hq hhead)) hsame) _
    List.mem_cons_self

/-- The stream is changed between the reads of CurrentURI and CurrentURIMetaData: the first
URI is returned with the second metadata. -/
theorem not_whole_setUri : ¬ Whole ⟨.avUri, "CurrentURI", .avUriMeta, "CurrentURIMetaData"⟩
    (run (track step note)
      (start firstStream (request playRequest fun _ => none) .getMediaInfo allSent)
      [.reader, .reader, .reader, .other (setUriLabel "http://a/2.mp3" "two"), .reader, .reader,
        .reader, .reader, .reader, .reader]) := by
  intro h
  obtain ⟨v, hv, hvalues⟩ := h "http://a/1.mp3" "two" (by decide +kernel) (by decide +kernel)
  revert v
  decide +kernel

end Main

end GMediaRender.ResponseReads
