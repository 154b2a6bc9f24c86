import GMediaRender.DeckRefinement

/-!
The end-of-stream reports of the receiver. Each stream that the player is told to play
should be reported to have ended at most once, on the duration and the position of its
own. A report that starts the next stream counts for the stream that it ends: the
receiver decides on it before it sends the next URI.
-/
namespace GMediaRender.StreamEnds

open OutputSilan UpnpTransport RendererSystem DeckModel DeckRefinement Runs

section History

/-- What has come of a stream since its CMD_SlmpPlayUri was sent. -/
structure Stream where
  /-- It was started by the automatic switch. -/
  byNext : Bool
  /-- Its end has been reported to the transport. -/
  reported : Bool
  /-- A STOP state has come with the position at the end. -/
  stopped : Bool
  durationNew : Bool
  positionNew : Bool
  deriving DecidableEq

/-- The receiver calls the transport callback. -/
def reportsEnd (s : Renderer) : Event → Bool
  | .message m env => (outputSilanRecvCmd env s.silan m).2.isSome
  | _ => false

/-- A STOP state comes while the position is the duration, and that is not zero. -/
def stopsAtEnd (s : Renderer) : Event → Bool
  | .message m _ => m.des = swaSignalUi && m.cmd = .slmpPlayState && m.param = slmpStateStop &&
      s.silan.duration ≠ 0 && s.silan.position = s.silan.duration
  | _ => false

def receivesDuration (s : Renderer) (e : Event) : Bool :=
  match input s e with
  | .setDuration _ => true
  | _ => false

/-- A position comes in a message or as the reply to a request for it. -/
def receivesPosition (s : Renderer) (e : Event) : Bool :=
  match input s e with
  | .setPosition _ => true
  | _ => false

def sendsUri : Command → Bool
  | .playUri _ ok => ok
  | _ => false

/-- The history of the stream that was sent last, if any was sent. -/
def noteStream (h : Option Stream) (s : Renderer) (e : Event) : Option Stream :=
  if (sentCommands s e).any sendsUri then some ⟨!e.isPlay, false, false, false, false⟩
  else h.map fun st => { st with
    reported := st.reported || reportsEnd s e
    stopped := st.stopped || stopsAtEnd s e
    durationNew := st.durationNew || receivesDuration s e
    positionNew := st.positionNew || receivesPosition s e }

/-- The end that a step reports is the first of its stream, and on values of that stream. -/
def EndsOnce (p : Renderer × Option Stream) (e : Event) : Prop :=
  reportsEnd p.1 e = true → ∀ st, p.2 = some st →
    st.reported = false ∧ st.durationNew = true ∧ st.positionNew = true

/-- A STOP state at the end is the first for its stream, and for a stream that the automatic
switch started it comes after a new duration and a new position. -/
def StopsOnce (p : Renderer × Option Stream) (e : Event) : Prop :=
  stopsAtEnd p.1 e = true → ∀ st, p.2 = some st →
    st.stopped = false ∧ (st.byNext = true → st.durationNew = true ∧ st.positionNew = true)

end History

section Proof

theorem reportsEnd_eq (s : Renderer) (e : Event) : reportsEnd s e = stopsAtEnd s e := by
  cases e with
  | message m env =>
    by_cases hdes : m.des = swaSignalUi
    · by_cases hcmd : m.cmd = .slmpPlayState
      · simp only [reportsEnd, stopsAtEnd, outputSilanRecvCmd, hdes, hcmd, ne_eq, not_true, if_false,
          storeMessage, decide_true, Bool.true_and, endOfStream]
        split_ifs with hend
        · exact hend.symm
        · exact (Bool.eq_false_iff.mpr hend).symm
      · simp [reportsEnd, stopsAtEnd, outputSilanRecvCmd, hcmd, hdes]
    · simp [reportsEnd, stopsAtEnd, outputSilanRecvCmd, hdes]
  | action | key | idlePass => rfl

/-- A stream that a Play action has started has no duration and no position of an earlier one. -/
def Fresh (p : Renderer × Option Stream) : Prop :=
  ∀ st, p.2 = some st → st.reported = st.stopped ∧
    (st.byNext = false → (p.1.silan.duration ≠ 0 → st.durationNew = true) ∧
      (p.1.silan.position ≠ 0 → st.positionNew = true))

theorem any_sendsUri {l : List Command} :
    l.any sendsUri = true ↔ ∃ uri, .playUri uri true ∈ l := by
  rw [List.any_eq_true]
  constructor
  · rintro ⟨c, hc, hsends⟩
    cases c with
    | playUri uri ok =>
      obtain rfl : ok = true := hsends
      exact ⟨uri, hc⟩
    | pause ok => cases hsends
    | stop ok => cases hsends
  · rintro ⟨uri, hc⟩
    exact ⟨_, hc, rfl⟩

theorem fresh_step (p : Renderer × Option Stream) (e : Event) (h : Fresh p) :
    Fresh (track Renderer.step noteStream p e) := by
  obtain ⟨s, hist⟩ := p
  have hduration : (s.step e).silan.duration = ((deck s).step (input s e)).1.duration :=
    congrArg Deck.duration (deck_step s e)
  have hposition : (s.step e).silan.position = ((deck s).step (input s e)).1.position :=
    congrArg Deck.position (deck_step s e)
  intro st hst
  simp only [track, noteStream] at hst
  simp only [track, hduration, hposition]
  by_cases hany : (sentCommands s e).any sendsUri = true
  · rw [if_pos hany] at hst
    obtain rfl := Option.some.inj hst
    refine ⟨rfl, ?_⟩
    obtain ⟨uri, hsent⟩ := any_sendsUri.mp hany
    rw [sentCommands_eq, mem_playUri_iff] at hsent
    rcases hsent with ⟨b, hi, hstate, huri⟩ | ⟨q, hi, -⟩
    · rw [hi, Deck.step, Deck.play_some hstate huri]
      rintro -
      exact ⟨fun hne => absurd rfl hne, fun hne => absurd rfl hne⟩
    · obtain ⟨m, env, rfl, -⟩ := input_eq_playState_iff.mp hi
      intro hbyNext
      cases hbyNext
  · rw [if_neg hany] at hst
    obtain ⟨old, rfl, rfl⟩ := Option.map_eq_some_iff.mp hst
    obtain ⟨hreported, hfresh⟩ := h old rfl
    obtain ⟨hdur, hpos⟩ := (stepped (deck s) (input s e)).times
    refine ⟨by simp only [hreported, reportsEnd_eq], fun hbyNext => ⟨?_, ?_⟩⟩
    · intro hne
      rcases hdur with hsame | hzero | ⟨q, hi⟩
      · rw [hsame] at hne
        simp only [(hfresh hbyNext).1 hne, Bool.true_or]
      · exact absurd hzero hne
      · simp only [receivesDuration, hi, Bool.or_true]
    · intro hne
      rcases hpos with hsame | hzero | ⟨q, hi⟩
      · rw [hsame] at hne
        simp only [(hfresh hbyNext).2 hne, Bool.true_or]
      · exact absurd hzero hne
      · simp only [receivesPosition, hi, Bool.or_true]

theorem times_of_stopsAtEnd {s : Renderer} {e : Event} (h : stopsAtEnd s e = true) :
    s.silan.duration ≠ 0 ∧ s.silan.position ≠ 0 := by
  cases e with
  | message m env =>
    simp only [stopsAtEnd, Bool.and_eq_true, decide_eq_true_eq] at h
    obtain ⟨⟨-, hne⟩, heq⟩ := h
    exact ⟨hne, heq ▸ hne⟩
  | action | key | idlePass => cases h

theorem endsOnce_iff_step (p : Renderer × Option Stream) (e : Event) (h : Fresh p) :
    EndsOnce p e ↔ StopsOnce p e := by
  unfold EndsOnce StopsOnce
  rw [reportsEnd_eq]
  refine imp_congr_right fun hend => forall_congr' fun st => imp_congr_right fun hst => ?_
  obtain ⟨hreported, hfresh⟩ := h st hst
  obtain ⟨hduration, hposition⟩ := times_of_stopsAtEnd hend
  rw [hreported]
  refine and_congr_right fun _ => ⟨fun hnew _ => hnew, fun hnew => ?_⟩
  cases hbyNext : st.byNext with
  | true => exact hnew hbyNext
  | false => exact ⟨(hfresh hbyNext).1 hduration, (hfresh hbyNext).2 hposition⟩

/-- Each stream ends once in exactly the runs in which the player reports its stop at the end
once, and after new values for a stream of the automatic switch. -/
theorem endsOnce_iff (env : Env) (padmux volume mute : ℤ) (es : List Event) :
    AllSteps (track Renderer.step noteStream) EndsOnce (startUp env padmux volume mute, none) es ↔
      AllSteps (track Renderer.step noteStream) StopsOnce (startUp env padmux volume mute, none)
        es :=
  allSteps_congr_of_invariant _ fresh_step endsOnce_iff_step (fun _ h => by cases h) es

/-- The automatic switch, and a second message of the stop that led to it. -/
theorem not_endsOnce_repeated :
    ¬AllSteps (track Renderer.step noteStream) EndsOnce (startUp allSent 0 0 0, none)
      [setUriAction "http://a/1.mp3", setNextUriAction "http://a/2.mp3", playAction,
        playerMessage .slmpSetTotalTime 100, playerMessage .slmpSetTimePos 100,
        playerMessage .slmpPlayState slmpStateStop,
        playerMessage .slmpPlayState slmpStateStop] := by
  rintro ⟨-, -, -, -, -, -, h, -⟩
  have hnew := h (by decide +kernel) ⟨true, false, false, false, false⟩ (by decide +kernel)
  exact absurd hnew.2.1 (by decide)

end Proof

end GMediaRender.StreamEnds
