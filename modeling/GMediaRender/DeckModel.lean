import GMediaRender.UpnpTransport

/-!
The renderer as a tape deck: an abstract model of what is advertised to controllers, what
is held for the player, and which play, pause and stop commands go to it. Requests,
responses, metadata, times, the amplifier and the volume are left out.
-/
namespace GMediaRender.DeckModel

open OutputSilan UpnpTransport

structure Deck where
  state : TransportState
  avUri : String
  nextAvUri : String
  curTrackUri : String
  player : ℤ
  uri : Option String
  uriNext : Option String
  spdifin : Bool
  duration : ℤ
  position : ℤ
  deriving DecidableEq

/-- The commands that start, pause and stop a stream, and whether msgsnd took them. -/
inductive Command where
  | playUri (uri : String) (ok : Bool)
  | pause (ok : Bool)
  | stop (ok : Bool)
  deriving DecidableEq

def Command.isPlayUri : Command → Bool
  | .playUri _ _ => true
  | _ => false

theorem any_isPlayUri {l : List Command} :
    l.any Command.isPlayUri = true ↔ ∃ uri ok, .playUri uri ok ∈ l := by
  rw [List.any_eq_true]
  constructor
  · rintro ⟨c, hc, hplay⟩
    cases c with
    | playUri uri ok => exact ⟨uri, ok, hc⟩
    | pause ok => cases hplay
    | stop ok => cases hplay
  · rintro ⟨uri, ok, hc⟩
    exact ⟨_, hc, rfl⟩

/-- What happens to the deck. The flags say whether the commands of a step are sent. -/
inductive Input where
  | nothing
  | setUri (uri : String)
  | setNextUri (uri : String)
  | play (playUriOk pauseOk : Bool)
  | pause (ok : Bool)
  | stop (ok : Bool)
  | radio
  | toSpdifin
  | setPosition (p : ℤ)
  | setDuration (p : ℤ)
  | playState (p : ℤ) (ok : Bool)
  deriving DecidableEq

def Input.ofPosition : Option ℤ → Input
  | some p => .setPosition p
  | none => .nothing

namespace Deck

variable (d : Deck)

/-- Playing has started: the current track is the one that is advertised. -/
def started : Deck := { d with state := .playing, curTrackUri := d.avUri }

/-- The feedback that playing has stopped. -/
def cleared : Deck := { d with state := .stopped, avUri := "", curTrackUri := "" }

/-- The URI has been handed over to the player. -/
def handedOver : Deck := { d with uri := none, spdifin := false, duration := 0, position := 0 }

def play (playUriOk pauseOk : Bool) : Deck × List Command :=
  if d.state = .stopped ∨ d.state = .pausedPlayback then
    match d.uri with
    | some uri =>
      (if playUriOk then d.handedOver.started else d.handedOver, [.playUri uri playUriOk])
    | none =>
      if d.player = slmpStatePause
      then (if pauseOk then d.started else d, [.pause pauseOk])
      else (d, [])
  else (d, [])

def pause (ok : Bool) : Deck × List Command :=
  if d.state = .playing
  then (if ok then { d with state := .pausedPlayback } else d, [.pause ok])
  else (d, [])

def stop (ok : Bool) : Deck × List Command :=
  if d.state = .stopped ∨ d.state = .noMediaPresent then (d, [])
  else ({ d with state := .stopped }, [.stop ok])

def setUri (uri : String) : Deck :=
  { d with
    avUri := uri
    curTrackUri := if d.state = .playing then uri else d.curTrackUri
    uri := nonEmpty uri }

/-- The player has told its state. -/
def reported (p : ℤ) : Deck := { d with player := p }

/-- The player stands still at the end of the stream. -/
def ended : Bool :=
  d.player = slmpStateStop && d.duration ≠ 0 && d.position = d.duration

/-- The queued next URI becomes the current one. -/
def advanced (uri : String) : Deck :=
  { d with
    uri := some uri
    uriNext := none
    avUri := d.nextAvUri
    curTrackUri := d.nextAvUri
    nextAvUri := "" }

def endStream (ok : Bool) : Deck × List Command :=
  match d.uriNext with
  | some uri => (d.advanced uri, [.playUri uri ok])
  | none => (d.cleared, [])

def playState (p : ℤ) (ok : Bool) : Deck × List Command :=
  if (d.reported p).ended then (d.reported p).endStream ok else (d.reported p, [])

def step : Input → Deck × List Command
  | .nothing => (d, [])
  | .setUri uri => (d.setUri uri, [])
  | .setNextUri uri => ({ d with nextAvUri := uri, uriNext := nonEmpty uri }, [])
  | .play playUriOk pauseOk => d.play playUriOk pauseOk
  | .pause ok => d.pause ok
  | .stop ok => d.stop ok
  | .radio => ({ d.cleared with spdifin := true }, [])
  | .toSpdifin => ({ d with spdifin := true }, [])
  | .setPosition p => ({ d with position := p }, [])
  | .setDuration p => ({ d with duration := p }, [])
  | .playState p ok => d.playState p ok

end Deck

section Equations

variable {d : Deck} {playUriOk pauseOk ok : Bool} {uri : String} {p : ℤ}

theorem Deck.play_some (hstate : d.state = .stopped ∨ d.state = .pausedPlayback)
    (huri : d.uri = some uri) : d.play playUriOk pauseOk =
      (if playUriOk then d.handedOver.started else d.handedOver, [.playUri uri playUriOk]) := by
  rw [Deck.play, if_pos hstate, huri]

theorem Deck.play_resume (hstate : d.state = .stopped ∨ d.state = .pausedPlayback)
    (huri : d.uri = none) (hplayer : d.player = slmpStatePause) : d.play playUriOk pauseOk =
      (if pauseOk then d.started else d, [.pause pauseOk]) := by
  rw [Deck.play, if_pos hstate, huri]
  exact if_pos hplayer

theorem Deck.play_failed (hstate : d.state = .stopped ∨ d.state = .pausedPlayback)
    (huri : d.uri = none) (hplayer : d.player ≠ slmpStatePause) :
    d.play playUriOk pauseOk = (d, []) := by
  rw [Deck.play, if_pos hstate, huri]
  exact if_neg hplayer

theorem Deck.play_refused (hstate : ¬(d.state = .stopped ∨ d.state = .pausedPlayback)) :
    d.play playUriOk pauseOk = (d, []) := if_neg hstate

theorem step_playState_next (h : (d.reported p).ended = true) (hnext : d.uriNext = some uri) :
    d.step (.playState p ok) = ((d.reported p).advanced uri, [.playUri uri ok]) := by
  have hnext' : (d.reported p).uriNext = some uri := hnext
  rw [Deck.step, Deck.playState, if_pos h, Deck.endStream, hnext']

theorem step_playState_last (h : (d.reported p).ended = true) (hnext : d.uriNext = none) :
    d.step (.playState p ok) = ((d.reported p).cleared, []) := by
  have hnext' : (d.reported p).uriNext = none := hnext
  rw [Deck.step, Deck.playState, if_pos h, Deck.endStream, hnext']

theorem step_playState_of_not_ended (h : ¬(d.reported p).ended = true) :
    d.step (.playState p ok) = (d.reported p, []) := if_neg h

end Equations

section Steps

/-- A Play without a pending URI that resumes the paused player. -/
def Deck.Resumes (d : Deck) : Prop :=
  (d.state = .stopped ∨ d.state = .pausedPlayback) ∧ d.uri = none ∧ d.player = slmpStatePause

/-- What a step can do, case by case. -/
inductive Stepped (d : Deck) : Input → Deck → List Command → Prop
  | nothing : Stepped d .nothing d []
  | setUri (uri : String) : Stepped d (.setUri uri) (d.setUri uri) []
  | setNextUri (uri : String) : Stepped d (.setNextUri uri)
      { d with nextAvUri := uri, uriNext := nonEmpty uri } []
  | played (a b : Bool) (uri : String) (hstate : d.state = .stopped ∨ d.state = .pausedPlayback)
      (huri : d.uri = some uri) :
      Stepped d (.play a b) (if a then d.handedOver.started else d.handedOver) [.playUri uri a]
  | resumed (a b : Bool) (hresumes : d.Resumes) :
      Stepped d (.play a b) (if b then d.started else d) [.pause b]
  | notPlayed (a b : Bool) (hresumes : ¬d.Resumes) : Stepped d (.play a b) d []
  | paused (ok : Bool) :
      Stepped d (.pause ok) (if ok then { d with state := .pausedPlayback } else d) [.pause ok]
  | notPaused (ok : Bool) : Stepped d (.pause ok) d []
  | stopped (ok : Bool) : Stepped d (.stop ok) { d with state := .stopped } [.stop ok]
  | notStopped (ok : Bool) (hstate : d.state = .stopped ∨ d.state = .noMediaPresent) :
      Stepped d (.stop ok) d []
  | radio : Stepped d .radio { d.cleared with spdifin := true } []
  | toSpdifin : Stepped d .toSpdifin { d with spdifin := true } []
  | setPosition (p : ℤ) : Stepped d (.setPosition p) { d with position := p } []
  | setDuration (p : ℤ) : Stepped d (.setDuration p) { d with duration := p } []
  | next (p : ℤ) (ok : Bool) (uri : String) (hend : (d.reported p).ended = true)
      (hnext : d.uriNext = some uri) :
      Stepped d (.playState p ok) ((d.reported p).advanced uri) [.playUri uri ok]
  | last (p : ℤ) (ok : Bool) : Stepped d (.playState p ok) (d.reported p).cleared []
  | told (p : ℤ) (ok : Bool) : Stepped d (.playState p ok) (d.reported p) []

theorem stepped_play (d : Deck) (a b : Bool) :
    Stepped d (.play a b) (d.play a b).1 (d.play a b).2 := by
  by_cases hstate : d.state = .stopped ∨ d.state = .pausedPlayback
  · rcases Option.eq_none_or_eq_some d.uri with huri | ⟨uri, huri⟩
    · by_cases hplayer : d.player = slmpStatePause
      · rw [Deck.play_resume hstate huri hplayer]
        exact .resumed a b ⟨hstate, huri, hplayer⟩
      · rw [Deck.play_failed hstate huri hplayer]
        exact .notPlayed a b fun h => hplayer h.2.2
    · rw [Deck.play_some hstate huri]
      exact .played a b uri hstate huri
  · rw [Deck.play_refused hstate]
    exact .notPlayed a b fun h => hstate h.1

theorem stepped (d : Deck) (i : Input) : Stepped d i (d.step i).1 (d.step i).2 := by
  cases i with
  | play a b => exact stepped_play d a b
  | pause ok =>
    simp only [Deck.step, Deck.pause]
    by_cases hstate : d.state = .playing
    · rw [if_pos hstate]
      exact .paused ok
    · rw [if_neg hstate]
      exact .notPaused ok
  | stop ok =>
    simp only [Deck.step, Deck.stop]
    split_ifs with hstate
    · exact .notStopped ok hstate
    · exact .stopped ok
  | playState p ok =>
    by_cases hend : (d.reported p).ended = true
    · rcases Option.eq_none_or_eq_some d.uriNext with hnext | ⟨uri, hnext⟩
      · rw [step_playState_last hend hnext]
        exact .last p ok
      · rw [step_playState_next hend hnext]
        exact .next p ok uri hend hnext
    · rw [step_playState_of_not_ended hend]
      exact .told p ok
  | nothing => exact .nothing
  | setUri uri => exact .setUri uri
  | setNextUri uri => exact .setNextUri uri
  | radio => exact .radio
  | toSpdifin => exact .toSpdifin
  | setPosition p => exact .setPosition p
  | setDuration p => exact .setDuration p

variable {d d' : Deck} {i : Input} {cs : List Command}

theorem Stepped.of_mem_playUri {uri : String} {ok : Bool} (h : Stepped d i d' cs)
    (hmem : .playUri uri ok ∈ cs) :
    (∃ pauseOk, i = .play ok pauseOk ∧
      (d.state = .stopped ∨ d.state = .pausedPlayback) ∧ d.uri = some uri) ∨
    (∃ p, i = .playState p ok ∧ (d.reported p).ended = true ∧ d.uriNext = some uri) := by
  cases h with
  | played a b u hstate huri =>
    obtain ⟨rfl, rfl⟩ : uri = u ∧ ok = a := by simpa using hmem
    exact Or.inl ⟨b, rfl, hstate, huri⟩
  | next p a u hend hnext =>
    obtain ⟨rfl, rfl⟩ : uri = u ∧ ok = a := by simpa using hmem
    exact Or.inr ⟨p, rfl, hend, hnext⟩
  | _ => simp at hmem

/-- A URI goes to the player in a Play and at the end of a stream only. -/
theorem mem_playUri_iff {uri : String} {ok : Bool} : .playUri uri ok ∈ (d.step i).2 ↔
    (∃ pauseOk, i = .play ok pauseOk ∧
      (d.state = .stopped ∨ d.state = .pausedPlayback) ∧ d.uri = some uri) ∨
    (∃ p, i = .playState p ok ∧ (d.reported p).ended = true ∧ d.uriNext = some uri) := by
  constructor
  · exact (stepped d i).of_mem_playUri
  · rintro (⟨b, rfl, hstate, huri⟩ | ⟨p, rfl, hend, hnext⟩)
    · rw [Deck.step, Deck.play_some hstate huri]
      exact List.mem_singleton_self _
    · rw [step_playState_next hend hnext]
      exact List.mem_singleton_self _

/-- The URIs of the output module are those of the transport variables, unless the variables
have been cleared. -/
structure Deck.Consistent (d : Deck) : Prop where
  uri_ne : ∀ uri, d.uri = some uri → uri ≠ ""
  avUri : ∀ uri, d.uri = some uri → d.avUri = "" ∨ d.avUri = uri
  uriNext : d.uriNext = nonEmpty d.nextAvUri

theorem Deck.Consistent.of_eq (h : d.Consistent) (huri : d'.uri = d.uri)
    (hav : d'.avUri = d.avUri) (hnext : d'.uriNext = d.uriNext)
    (hnextAv : d'.nextAvUri = d.nextAvUri) : d'.Consistent where
  uri_ne := huri ▸ h.uri_ne
  avUri := huri ▸ hav ▸ h.avUri
  uriNext := hnext ▸ hnextAv ▸ h.uriNext

theorem Deck.Consistent.of_uri_none (h : d.Consistent) (huri : d'.uri = none)
    (hnext : d'.uriNext = d.uriNext) (hnextAv : d'.nextAvUri = d.nextAvUri) : d'.Consistent where
  uri_ne uri hu := by simp [huri] at hu
  avUri uri hu := by simp [huri] at hu
  uriNext := hnext ▸ hnextAv ▸ h.uriNext

/-- Every step keeps the URIs together. -/
theorem Stepped.consistent (h : Stepped d i d' cs) (hd : d.Consistent) : d'.Consistent := by
  cases h with
  | setUri uri =>
    refine ⟨fun v hv => (nonEmpty_eq_some.mp hv).2, fun v hv => ?_, hd.uriNext⟩
    exact Or.inr (nonEmpty_eq_some.mp hv).1
  | setNextUri uri => exact ⟨hd.uri_ne, hd.avUri, rfl⟩
  | played a b uri hstate huri => cases a <;> exact hd.of_uri_none rfl rfl rfl
  | resumed a b => cases b <;> exact hd.of_eq rfl rfl rfl rfl
  | paused ok => cases ok <;> exact hd.of_eq rfl rfl rfl rfl
  | radio | last => exact ⟨hd.uri_ne, fun _ _ => Or.inl rfl, hd.uriNext⟩
  | next p ok uri hend hnext =>
    obtain ⟨hav, hne⟩ := nonEmpty_eq_some.mp (hd.uriNext.symm.trans hnext)
    refine ⟨fun v hv => ?_, fun v hv => ?_, rfl⟩
    · cases hv
      exact hne
    · cases hv
      exact Or.inr hav
  | _ => exact hd.of_eq rfl rfl rfl rfl

theorem stop_not_playing (ok : Bool) : (d.step (.stop ok)).1.state ≠ .playing := by
  simp only [Deck.step, Deck.stop]
  split_ifs with h
  · rcases h with h | h <;> simp [h]
  · simp

/-- Playing starts, or resumes, in a Play only. -/
theorem Stepped.not_playing (h : Stepped d i d' cs) (hstate : d.state ≠ .playing)
    (hi : ∀ a b, i ≠ .play a b) : d'.state ≠ .playing := by
  cases h with
  | played a b | resumed a b | notPlayed a b => exact absurd rfl (hi a b)
  | paused ok =>
    cases ok
    · exact hstate
    · nofun
  | stopped | radio | last => nofun
  | _ => exact hstate

theorem uri_step_play {uri : String} {a b : Bool}
    (hstate : d.state = .stopped ∨ d.state = .pausedPlayback) (huri : d.uri = some uri) :
    (d.step (.play a b)).1.uri = none := by
  rw [Deck.step, Deck.play_some hstate huri]
  cases a <;> rfl

/-- A step that sends no URI leaves the pending one, unless it sets it. -/
theorem Stepped.uri_of_not_playUri (h : Stepped d i d' cs)
    (hsent : ∀ uri ok, .playUri uri ok ∉ cs) (hi : ∀ uri, i ≠ .setUri uri) : d'.uri = d.uri := by
  cases h with
  | setUri uri => exact absurd rfl (hi uri)
  | played a b uri | next p a uri => exact absurd (List.mem_singleton_self _) (hsent uri a)
  | resumed a b => cases b <;> rfl
  | paused ok => cases ok <;> rfl
  | _ => rfl

/-- The mode and the transport state agree. -/
def Deck.ModeAgrees (d : Deck) : Prop := d.state = .playing → d.spdifin = false

theorem modeAgrees_play_iff (hd : d.ModeAgrees) {a b : Bool} :
    (d.step (.play a b)).1.ModeAgrees ↔ (d.Resumes → b = true → d.spdifin = false) := by
  have h := stepped d (.play a b)
  generalize d.step (.play a b) = r at h
  obtain ⟨d', cs⟩ := r
  cases h with
  | played _ _ uri hstate huri =>
    have hagrees : (if a then d.handedOver.started else d.handedOver).ModeAgrees := by
      cases a <;> exact fun _ => rfl
    have hnot : ¬d.Resumes := fun hresumes => by simp [hresumes.2.1] at huri
    exact iff_of_true hagrees fun hresumes => absurd hresumes hnot
  | resumed _ _ hresumes =>
    have hnot : d.state ≠ .playing := by rcases hresumes.1 with hs | hs <;> simp [hs]
    cases b
    · exact iff_of_true (fun hs => absurd hs hnot) nofun
    · exact ⟨fun hagrees _ _ => hagrees rfl, fun hoff _ => hoff hresumes rfl⟩
  | notPlayed _ _ hresumes => exact iff_of_true hd fun hr => absurd hr hresumes

/-- Switching to SPDIF-in, resuming and nothing else can make the mode disagree. -/
theorem Stepped.modeAgrees (h : Stepped d i d' cs) (hd : d.ModeAgrees)
    (hplay : ∀ a b, i ≠ .play a b) (hto : i ≠ .toSpdifin) : d'.ModeAgrees := by
  cases h with
  | played a b | resumed a b | notPlayed a b => exact absurd rfl (hplay a b)
  | toSpdifin => exact absurd rfl hto
  | paused ok =>
    cases ok
    · exact hd
    · nofun
  | stopped | radio | last => nofun
  | _ => exact hd

/-- A step keeps the duration and the position, resets them, or is told them. -/
theorem Stepped.times (h : Stepped d i d' cs) :
    (d'.duration = d.duration ∨ d'.duration = 0 ∨ ∃ p, i = .setDuration p) ∧
    (d'.position = d.position ∨ d'.position = 0 ∨ ∃ p, i = .setPosition p) := by
  cases h with
  | played a b => cases a <;> exact ⟨Or.inr (Or.inl rfl), Or.inr (Or.inl rfl)⟩
  | resumed a b => cases b <;> exact ⟨Or.inl rfl, Or.inl rfl⟩
  | paused ok => cases ok <;> exact ⟨Or.inl rfl, Or.inl rfl⟩
  | setDuration p => exact ⟨Or.inr (Or.inr ⟨p, rfl⟩), Or.inl rfl⟩
  | setPosition p => exact ⟨Or.inl rfl, Or.inr (Or.inr ⟨p, rfl⟩)⟩
  | _ => exact ⟨Or.inl rfl, Or.inl rfl⟩

end Steps

end GMediaRender.DeckModel
