import GMediaRender.DeckRefinement

/-!
Which URI a Play action sends to the player: whether it is the one that is advertised,
when Play works from a stopped renderer, and when it resumes a paused stream.
-/
namespace GMediaRender.PlayedUri

open XmlDoc StateVariables ActionRequest OutputSilan UpnpTransport RendererSystem DeckModel
open DeckRefinement Runs

section Advertised

/-- A URI that a Play action sends is advertised when the action finishes. -/
def SendsAdvertised (s : Renderer) (e : Event) : Prop :=
  e.isPlay = true → ∀ uri, .playUri uri true ∈ sentCommands s e →
    (s.step e).transport.vars.values .avUri = uri ∧
    (s.step e).transport.vars.values .curTrackUri = uri

/-- A Play action that hands over a URI of the output module, and sends it. -/
def SendsPending (s : Renderer) : Event → Prop
  | .action (.transport .play) doc env =>
    (argument doc "InstanceID").isSome = true ∧
    (s.transport.transportState = .stopped ∨ s.transport.transportState = .pausedPlayback) ∧
    s.silan.uri ≠ none ∧ (env .slmpPlayUri).msgsnd = true
  | _ => False

/-- A Play action that sends a pending URI finds AVTransportURI set. -/
def FindsAdvertised (s : Renderer) (e : Event) : Prop :=
  SendsPending s e → s.transport.vars.values .avUri ≠ ""

theorem SendsPending.isPlay {s : Renderer} {e : Event} (h : SendsPending s e) :
    e.isPlay = true := by
  unfold SendsPending at h
  split at h
  · rfl
  · exact h.elim

variable {s : Renderer} {doc : Option (List Node)} {env : Env}

/-- A Play action sends a URI exactly if it hands it over. -/
theorem mem_sentCommands_play {uri : String} {ok : Bool} :
    .playUri uri ok ∈ sentCommands s (.action (.transport .play) doc env) ↔
      (argument doc "InstanceID").isSome = true ∧
      (s.transport.transportState = .stopped ∨ s.transport.transportState = .pausedPlayback) ∧
      s.silan.uri = some uri ∧ (env .slmpPlayUri).msgsnd = ok := by
  rw [sentCommands_eq, mem_playUri_iff]
  constructor
  · rintro (⟨b, hi, hstate, huri⟩ | ⟨p, hi, -⟩)
    · simp only [input] at hi
      split_ifs at hi with hdoc
      cases hi
      exact ⟨hdoc, hstate, huri, rfl⟩
    · simp [input_eq_playState_iff] at hi
  · rintro ⟨hdoc, hstate, huri, rfl⟩
    exact Or.inl ⟨(env .slmpPause).msgsnd, by simp [input, hdoc, transportInput], hstate, huri⟩

/-- After a Play action that has sent a URI, the current track is the advertised one. -/
theorem step_play_sent {uri : String}
    (h : .playUri uri true ∈ sentCommands s (.action (.transport .play) doc env)) :
    deck (s.step (.action (.transport .play) doc env)) = (deck s).handedOver.started := by
  obtain ⟨hdoc, hstate, huri, hok⟩ := mem_sentCommands_play.mp h
  rw [deck_step]
  simp only [input, hdoc, if_true, transportInput, Deck.step]
  rw [Deck.play_some hstate huri, hok]
  rfl

theorem sendsAdvertised_iff_step (s : Renderer) (e : Event) (hs : (deck s).Consistent) :
    SendsAdvertised s e ↔ FindsAdvertised s e := by
  by_cases hplay : e.isPlay = true
  · obtain ⟨doc, env, rfl⟩ := Event.isPlay_iff.mp hplay
    have hafter : ∀ uri, .playUri uri true ∈ sentCommands s (.action (.transport .play) doc env) →
        (s.step (.action (.transport .play) doc env)).transport.vars.values .avUri =
          s.transport.vars.values .avUri ∧
        (s.step (.action (.transport .play) doc env)).transport.vars.values .curTrackUri =
          s.transport.vars.values .avUri := fun uri h =>
      ⟨congrArg Deck.avUri (step_play_sent h), congrArg Deck.curTrackUri (step_play_sent h)⟩
    constructor
    · rintro h ⟨hdoc, hstate, huri, hok⟩ hempty
      obtain ⟨uri, huri⟩ := Option.ne_none_iff_exists'.mp huri
      have hsent := mem_sentCommands_play.mpr ⟨hdoc, hstate, huri, hok⟩
      have hav := (hafter uri hsent).1.symm.trans (h hplay uri hsent).1
      exact hs.uri_ne uri huri (hav.symm.trans hempty)
    · rintro h - uri hsent
      obtain ⟨hdoc, hstate, huri, hok⟩ := mem_sentCommands_play.mp hsent
      have hav : s.transport.vars.values .avUri = uri :=
        (hs.avUri uri huri).resolve_left (h ⟨hdoc, hstate, by simp [huri], hok⟩)
      exact hav ▸ hafter uri hsent
  · exact ⟨fun _ h => absurd h.isPlay hplay, fun _ h => absurd h hplay⟩

/-- Play actions send what is advertised in exactly the runs in which no Play action sends a
pending URI while AVTransportURI is empty. -/
theorem sendsAdvertised_iff (env : Env) (padmux volume mute : ℤ) (es : List Event) :
    AllSteps Renderer.step SendsAdvertised (startUp env padmux volume mute) es ↔
      AllSteps Renderer.step FindsAdvertised (startUp env padmux volume mute) es :=
  allSteps_congr_of_invariant Renderer.step consistent_step sendsAdvertised_iff_step
    (consistent_startUp env padmux volume mute) es

/-- A URI is set, KEY_RADIO clears the transport's URIs, and Play sends it all the same. -/
theorem not_sendsAdvertised_radio :
    ¬AllSteps Renderer.step SendsAdvertised (startUp allSent 0 0 0)
      [setUriAction "http://a/1.mp3", .key .radio allSent, playAction] := by
  rintro ⟨-, -, h, -⟩
  have hsent := (h rfl "http://a/1.mp3" (by decide +kernel)).1
  exact absurd hsent (by decide +kernel)

end Advertised

section FromStopped

variable (env₀ : Env) (padmux volume mute : ℤ) (es : List Event)

/-- The Play action succeeds, moves the transport to PLAYING and sends the advertised URI. -/
def PlayWorks (s : Renderer) (doc : Option (List Node)) (env : Env) : Prop :=
  (s.handleAction (.transport .play) doc env).rc = 0 ∧
  (s.step (.action (.transport .play) doc env)).transport.transportState = .playing ∧
  sentCommands s (.action (.transport .play) doc env) =
    [.playUri (s.transport.vars.values .avUri) true]

theorem handleAction_play_rc {s : Renderer} {doc : Option (List Node)} {env : Env}
    (hdoc : (argument doc "InstanceID").isSome = true)
    (hstopped : s.transport.transportState = .stopped) :
    (s.handleAction (.transport .play) doc env).rc = 0 ↔ (outputSilanPlay env s.silan).2 = 0 := by
  simp only [Renderer.handleAction, transportActions, play, withInstanceid_some _ _ _ hdoc, hstopped,
    startPlaying, Renderer.silan]
  split_ifs with h <;> simp_all

/-- In a stopped renderer that advertises a URI, Play works if and only if the output module
still holds one. -/
theorem playWorks_iff (doc : Option (List Node)) (env : Env)
    (hstopped : (run Renderer.step (startUp env₀ padmux volume mute) es).transport.transportState =
      .stopped)
    (huri : (run Renderer.step (startUp env₀ padmux volume mute) es).transport.vars.values .avUri ≠
      "")
    (hdoc : (argument doc "InstanceID").isSome = true)
    (hsend : (env .slmpPlayUri).msgsnd = true) :
    PlayWorks (run Renderer.step (startUp env₀ padmux volume mute) es) doc env ↔
      (run Renderer.step (startUp env₀ padmux volume mute) es).silan.uri ≠ none := by
  have hs := consistent_run env₀ padmux volume mute es
  generalize run Renderer.step (startUp env₀ padmux volume mute) es = s at hs hstopped huri ⊢
  constructor
  · rintro ⟨-, -, hsent⟩ hnone
    have hmem : .playUri (s.transport.vars.values .avUri) true ∈
        sentCommands s (.action (.transport .play) doc env) := by
      rw [hsent]
      exact List.mem_singleton_self _
    obtain ⟨-, -, hsome, -⟩ := mem_sentCommands_play.mp hmem
    simp [hnone] at hsome
  · intro hsome
    obtain ⟨uri, hpending⟩ := Option.ne_none_iff_exists'.mp hsome
    have hav : s.transport.vars.values .avUri = uri := (hs.avUri uri hpending).resolve_left huri
    have hsent : .playUri uri true ∈ sentCommands s (.action (.transport .play) doc env) :=
      mem_sentCommands_play.mpr ⟨hdoc, Or.inl hstopped, hpending, hsend⟩
    refine ⟨?_, congrArg Deck.state (step_play_sent hsent), ?_⟩
    · rw [handleAction_play_rc hdoc hstopped, outputSilanPlay_some env s.silan uri hpending, hsend]
      rfl
    · rw [sentCommands_eq, hav]
      simp only [input, hdoc, if_true, transportInput, Deck.step]
      rw [Deck.play_some (Or.inl hstopped) hpending, hsend]

theorem playWorks_first : PlayWorks
    (run Renderer.step (startUp allSent 0 0 0) [setUriAction "http://a/1.mp3"])
    playRequest allSent :=
  (playWorks_iff allSent 0 0 0 _ _ _ (by decide +kernel) (by decide +kernel) (by decide +kernel)
    rfl).mpr (by decide +kernel)

/-- A second Play of the same URI fails. -/
theorem not_playWorks_again :
    let s := run Renderer.step (startUp allSent 0 0 0)
      [setUriAction "http://a/1.mp3", playAction, stopAction]
    s.transport.transportState = .stopped ∧ s.transport.vars.values .avUri = "http://a/1.mp3" ∧
    s.transport.vars.values .curTransportActions = "PLAY" ∧
    ¬PlayWorks s playRequest allSent := by
  refine ⟨by decide +kernel, by decide +kernel, by decide +kernel, ?_⟩
  rintro ⟨hrc, -⟩
  exact absurd hrc (by decide +kernel)

end FromStopped

section FromPaused

/-- What has happened since CMD_SlmpPlayUri was last sent. -/
structure StartHistory where
  /-- SetAVTransportURI has been accepted since. -/
  uriSet : Bool
  /-- The automatic switch to the next stream sent it. -/
  byNext : Bool
  deriving DecidableEq

/-- SetAVTransportURI is accepted in a step. -/
def acceptsUri : Event → Bool
  | .action (.transport .setAvTransportUri) doc _ =>
    (argument doc "InstanceID").isSome && (argument doc "CurrentURI").isSome
  | _ => false

def noteStart (h : StartHistory) (s : Renderer) (e : Event) : StartHistory :=
  if (sentCommands s e).any Command.isPlayUri then ⟨false, !e.isPlay⟩
  else { h with uriSet := h.uriSet || acceptsUri e }

theorem acceptsUri_of_input {s : Renderer} {e : Event} {uri : String}
    (h : input s e = .setUri uri) : acceptsUri e = true := by
  have hi := eventInput s e
  rw [h] at hi
  cases hi with
  | setUri doc env uri hdoc harg => simp [acceptsUri, hdoc, harg]

/-- A URI is pending exactly if the automatic switch left it, unless one has been set. -/
def Pending (p : Renderer × StartHistory) : Prop :=
  p.2.uriSet = false → (p.1.silan.uri ≠ none ↔ p.2.byNext = true)

theorem pending_step (p : Renderer × StartHistory) (e : Event) (h : Pending p) :
    Pending (track Renderer.step noteStart p e) := by
  obtain ⟨s, hist⟩ := p
  have huri : (s.step e).silan.uri = ((deck s).step (input s e)).1.uri :=
    congrArg Deck.uri (deck_step s e)
  simp only [Pending, track, noteStart, huri]
  by_cases hany : (sentCommands s e).any Command.isPlayUri = true
  · rw [if_pos hany]
    obtain ⟨uri, ok, hsent⟩ := any_isPlayUri.mp hany
    rw [sentCommands_eq, mem_playUri_iff] at hsent
    rintro -
    rcases hsent with ⟨b, hi, hstate, hpending⟩ | ⟨q, hi, hend, hnext⟩
    · rw [hi, uri_step_play hstate hpending, isPlay_of_input hi]
      simp
    · obtain ⟨m, env, rfl, -⟩ := input_eq_playState_iff.mp hi
      rw [hi, step_playState_next hend hnext]
      simp [Deck.advanced, Event.isPlay]
  · rw [if_neg hany]
    intro hset
    obtain ⟨hset, haccept⟩ := Bool.or_eq_false_iff.mp hset
    rw [any_isPlayUri, sentCommands_eq] at hany
    rw [(stepped (deck s) (input s e)).uri_of_not_playUri]
    · exact h hset
    · exact fun uri ok hsent => hany ⟨uri, ok, hsent⟩
    · intro uri hi
      rw [acceptsUri_of_input hi] at haccept
      cases haccept

variable (env₀ : Env) (padmux volume mute : ℤ) (es : List Event)

/-- The history of a run, from start-up. -/
def startHistory : StartHistory :=
  (run (track Renderer.step noteStart) (startUp env₀ padmux volume mute, ⟨false, false⟩) es).2

theorem pending_run : Pending (run Renderer.step (startUp env₀ padmux volume mute) es,
    startHistory env₀ padmux volume mute es) := by
  have hinit : Pending (startUp env₀ padmux volume mute, ⟨false, false⟩) := by
    have huri : (startUp env₀ padmux volume mute).silan.uri = none :=
      congrArg Deck.uri (deck_startUp env₀ padmux volume mute)
    simp [Pending, huri]
  have hrun := run_invariant _ pending_step hinit es
  rw [← run_track_fst Renderer.step noteStart
    (startUp env₀ padmux volume mute, (⟨false, false⟩ : StartHistory)) es]
  exact hrun

/-- Play resumes a paused stream, unless the automatic switch started it. -/
theorem play_resumes_iff (doc : Option (List Node)) (env : Env)
    (hpaused : (run Renderer.step (startUp env₀ padmux volume mute) es).transport.transportState =
      .pausedPlayback)
    (hplayer : (run Renderer.step (startUp env₀ padmux volume mute) es).silan.state =
      slmpStatePause)
    (hset : (startHistory env₀ padmux volume mute es).uriSet = false)
    (hdoc : (argument doc "InstanceID").isSome = true) :
    sentCommands (run Renderer.step (startUp env₀ padmux volume mute) es)
        (.action (.transport .play) doc env) = [.pause (env .slmpPause).msgsnd] ↔
      (startHistory env₀ padmux volume mute es).byNext = false := by
  have hpending := pending_run env₀ padmux volume mute es hset
  generalize run Renderer.step (startUp env₀ padmux volume mute) es = s at hpending hpaused hplayer ⊢
  generalize startHistory env₀ padmux volume mute es = hist at hpending ⊢
  rw [← Bool.not_eq_true, ← hpending, not_not, sentCommands_eq]
  simp only [input, hdoc, if_true, transportInput, Deck.step]
  cases huri : s.silan.uri with
  | some uri =>
    rw [Deck.play_some (Or.inr hpaused) huri]
    simp
  | none =>
    rw [Deck.play_resume (Or.inr hpaused) huri hplayer]
    simp

theorem play_resumes_played :
    sentCommands (run Renderer.step (startUp allSent 0 0 0)
      [setUriAction "http://a/1.mp3", playAction, pauseAction,
        playerMessage .slmpPlayState slmpStatePause])
      (.action (.transport .play) playRequest allSent) = [.pause true] :=
  (play_resumes_iff allSent 0 0 0 _ playRequest allSent (by decide +kernel) (by decide +kernel)
    (by decide +kernel) (by decide +kernel)).mpr (by decide +kernel)

/-- The queued next stream starts at the end of the first, is paused, and reports it. -/
def pausedNextStream : List Event :=
  [setUriAction "http://a/1.mp3", setNextUriAction "http://a/2.mp3", playAction,
    playerMessage .slmpSetTotalTime 100, playerMessage .slmpSetTimePos 100,
    playerMessage .slmpPlayState slmpStateStop, playerMessage .slmpPlayState slmpStatePlay,
    pauseAction, playerMessage .slmpPlayState slmpStatePause]

/-- Play restarts a paused stream that the automatic switch has started. -/
theorem play_restarts_nextStream :
    let s := run Renderer.step (startUp allSent 0 0 0) pausedNextStream
    s.transport.transportState = .pausedPlayback ∧ s.silan.state = slmpStatePause ∧
    (startHistory allSent 0 0 0 pausedNextStream).uriSet = false ∧
    sentCommands s (.action (.transport .play) playRequest allSent) =
      [.playUri "http://a/2.mp3" true] := by
  decide +kernel

end FromPaused

end GMediaRender.PlayedUri
