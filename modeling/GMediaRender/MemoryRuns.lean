import GMediaRender.MemoryRefinement
import GMediaRender.RendererSystem

/-!
The actions of the AVTransport service, the end of a stream and KEY_RADIO in memory, one by
one and over whole runs from start-up. Each of them is handled to its end before the next one
begins, and the URIs fit the buffer of a message.
-/
namespace GMediaRender.TransportMemory

open XmlDoc VariableContainer StateVariables ActionRequest OutputSilan UpnpTime UpnpTransport
  OwnedHeap ContainerMemory ContainerRuns RendererSystem EventHistory

section Actions

/-- Two outcomes of a handler with the same event and return code, and the same state. -/
structure Agrees (S : Node → String) (e₀ : Origin) (r : Handled ServiceMemory)
    (r' : Handled AvTransport) (n : ℕ) : Prop where
  event : r.event = r'.event
  rc : r.rc = r'.rc
  state : Refines S e₀ r.state r'.state n

variable {A : Allocator} {S : Node → String} {e₀ : Origin}
variable {m : ServiceMemory} {s : AvTransport} {n : ℕ}

theorem obtaining_agrees (h : Refines S e₀ m s n) (e : ActionEvent)
    (body : ActionEvent → Option (Handled ServiceMemory))
    (body' : ActionEvent → Handled AvTransport)
    (hbody : ∀ e, ∃ r, body e = some r ∧ Agrees S e₀ r (body' e) n) :
    ∃ r, obtaining m e body = some r ∧ Agrees S e₀ r (withInstanceid s e body') n := by
  unfold obtaining withInstanceid
  cases hid : obtainInstanceid e with
  | mk e' found =>
    cases found with
    | true => exact hbody e'
    | false => exact ⟨⟨e', m, -1⟩, rfl, rfl, rfl, h⟩

theorem locked_agrees (h : Refines S e₀ m s n)
    (body : ServiceMemory → Option (Handled ServiceMemory)) (r' : Handled AvTransport)
    (hbody : ∀ m, Refines S e₀ m s (n + 1) → ∃ r, body m = some r ∧ Agrees S e₀ r r' (n + 1)) :
    ∃ r, locked A S m body = some r ∧ Agrees S e₀ r r' n := by
  obtain ⟨r, hr, hagrees⟩ := hbody (serviceLock m) h.serviceLock
  obtain ⟨m', hm', hunlocked⟩ :=
    hagrees.state.serviceUnlock (A := A) (S := S)
  refine ⟨{ r with state := m' }, ?_, hagrees.event, hagrees.rc, hunlocked⟩
  simp only [locked, hr, hm', Option.bind_eq_bind, Option.bind_some, Option.pure_def]

theorem appendVariables_agrees (h : Refines S e₀ m s n) (l : List (TransportVar × String))
    (hl : ∀ v ∈ l, Plain v.1) (e : ActionEvent) :
    appendVariables m e l = some (ActionRequest.appendVariables e s.vars l) := by
  induction l generalizing e with
  | nil => rfl
  | cons v l ih =>
    obtain ⟨hto, hnull⟩ := pointsTo_getVar m s (hl v (List.mem_cons_self ..))
    have hread := h.read_of_ne hto hnull
    have hrest := ih (fun w hw => hl w (List.mem_cons_of_mem _ hw))
      (upnpAddResponse e v.2 (s.vars.values v.1))
    simp only [appendVariables, ActionRequest.appendVariables] at hrest ⊢
    simp only [List.foldlM_cons, hread, Option.map_some, Option.bind_eq_bind, Option.bind_some,
      hrest, List.foldl_cons, upnpAppendVariable]

theorem reportVariables_agrees (h : Refines S e₀ m s n) (l : List (TransportVar × String))
    (hl : ∀ v ∈ l, Plain v.1) (e : ActionEvent) :
    ∃ r, reportVariables m e l = some r ∧
      Agrees S e₀ r (UpnpTransport.reportVariables s e l) n := by
  refine obtaining_agrees h e _ _ fun e => ?_
  rw [appendVariables_agrees h l hl]
  exact ⟨_, rfl, rfl, rfl, h⟩

theorem pointsTo_ofArgument (m : ServiceMemory) (s : AvTransport) (a : Option String) :
    PointsTo m s (ofArgument a) (a.getD "") none := by
  cases a with
  | none => exact .null
  | some v => exact .outside v

theorem setAvtransportUri_agrees (h : Refines S e₀ m s n) (e : ActionEvent) :
    ∃ r, setAvtransportUri A S m e = some r ∧
      Agrees S e₀ r (UpnpTransport.setAvtransportUri s e) n := by
  refine obtaining_agrees h e _ _ fun e => ?_
  cases hget : upnpGetString e "CurrentURI" with
  | mk e' found =>
    cases found with
    | none => exact ⟨⟨e', m, -1⟩, rfl, rfl, rfl, h⟩
    | some uri =>
      refine locked_agrees h _ _ fun m h => ?_
      obtain ⟨m₁, hm₁, h₁, -⟩ := h.replaceTransportUriAndMeta (A := A) (S := S)
        (.outside uri) (.outside ((upnpGetString e' "CurrentURIMetaData").2.getD ""))
        (by simp) (by simp) (by simp)
      by_cases hplaying : s.transportState = .playing
      · obtain ⟨m₂, hm₂, h₂, -⟩ := h₁.replaceCurrentUriAndMeta (A := A) (S := S)
          (.outside uri)
          (pointsTo_ofArgument _ _ (upnpGetString e' "CurrentURIMetaData").2) (by simp) (by simp)
        obtain ⟨m₃, hm₃, h₃⟩ := h₂.silanSetUri (A := A) uri
        refine ⟨⟨(upnpGetString e' "CurrentURIMetaData").1, m₃, 0⟩, ?_, rfl, rfl, ?_⟩
        · simp only [hm₁, h₁.state, if_pos hplaying, hm₂, hm₃, Option.bind_eq_bind,
            Option.bind_some, Option.pure_def]
        · simp only [if_pos hplaying]
          exact h₃
      · obtain ⟨m₃, hm₃, h₃⟩ := h₁.silanSetUri (A := A) uri
        refine ⟨⟨(upnpGetString e' "CurrentURIMetaData").1, m₃, 0⟩, ?_, rfl, rfl, ?_⟩
        · simp only [hm₁, h₁.state, if_neg hplaying, hm₃, Option.bind_eq_bind,
            Option.bind_some, Option.pure_def]
        · simp only [if_neg hplaying]
          exact h₃

theorem setNextAvtransportUri_agrees (h : Refines S e₀ m s n) (e : ActionEvent) :
    ∃ r, setNextAvtransportUri A S m e = some r ∧
      Agrees S e₀ r (UpnpTransport.setNextAvtransportUri s e) n := by
  refine obtaining_agrees h e _ _ fun e => ?_
  cases hget : upnpGetString e "NextURI" with
  | mk e' found =>
    cases found with
    | none => exact ⟨⟨e', m, -1⟩, rfl, rfl, rfl, h⟩
    | some uri =>
      refine locked_agrees h _ _ fun m h => ?_
      obtain ⟨m₁, hm₁, h₁⟩ := h.silanSetNextUri (A := A) uri
      obtain ⟨m₂, hm₂, h₂, -⟩ := h₁.replaceVar (A := A) (S := S)
        (i := .nextAvUri) (by decide) (.outside uri)
      simp only [hm₁, hm₂, Option.bind_eq_bind, Option.bind_some, Option.pure_def]
      cases hmeta : upnpGetString e' "NextURIMetaData" with
      | mk e'' found =>
        cases found with
        | none => exact ⟨⟨e'', m₂, -1⟩, rfl, rfl, rfl, h₂⟩
        | some metadata =>
          obtain ⟨m₃, hm₃, h₃, -⟩ := h₂.replaceVar (A := A) (S := S)
            (i := .nextAvUriMeta) (by decide) (.outside metadata)
          refine ⟨⟨e'', m₃, 0⟩, ?_, rfl, rfl, h₃⟩
          simp only [hm₃, Option.bind_some]

theorem updateTrackTime_refines (h : Refines S e₀ m s n) (env : Env) :
    ∃ m', updateTrackTime A S env m = some m' ∧
      Refines S e₀ m' (UpnpTransport.updateTrackTime env s) n := by
  obtain ⟨m₁, hm₁, h₁⟩ := h.silanSend env .slmpGetTimePos 0
  have hdata : (outputSilanSendCmd env s.silan .slmpGetTimePos 0 none).1.duration =
      m₁.silan.duration ∧ (outputSilanSendCmd env s.silan .slmpGetTimePos 0 none).1.position =
      m₁.silan.position := by
    have hsilan := h₁.silan
    simp only at hsilan
    rw [hsilan]
    exact ⟨rfl, rfl⟩
  obtain ⟨m₂, hm₂, h₂, -⟩ := h₁.serviceLock.replaceVar (A := A) (S := S)
    (i := .curTrackDur) (by decide) (.outside (printUpnpTime m₁.silan.duration))
  have hposition : (outputSilanSendCmd env s.silan .slmpGetTimePos 0 none).1.position =
      m₂.silan.position := by
    have hsilan := h₂.silan
    simp only at hsilan
    rw [hsilan]
    rfl
  have hsame : m₂.silan.position = m₁.silan.position := hposition.symm.trans hdata.2
  obtain ⟨m₃, hm₃, h₃, -⟩ := h₂.replaceVar (A := A) (S := S)
    (i := .relTimePos) (by decide) (.outside (printUpnpTime m₂.silan.position))
  obtain ⟨m₄, hm₄, h₄⟩ := h₃.serviceUnlock (A := A) (S := S)
  refine ⟨m₄, ?_, ?_⟩
  · have hlock : (serviceLock m₁).silan = m₁.silan := rfl
    simp only [updateTrackTime, hm₁, hlock, hm₂, hm₃, hm₄, Option.bind_eq_bind, Option.bind_some]
  · simp only [UpnpTransport.updateTrackTime, outputSilanGetPosition, hdata.1, hdata.2]
    rw [hsame] at h₄
    exact h₄

theorem getPositionInfo_agrees (h : Refines S e₀ m s n) (env : Env) (e : ActionEvent) :
    ∃ r, getPositionInfo A S env m e = some r ∧
      Agrees S e₀ r (UpnpTransport.getPositionInfo env s e) n := by
  refine obtaining_agrees h e _ _ fun e => ?_
  obtain ⟨m₁, hm₁, h₁⟩ := updateTrackTime_refines (A := A) (S := S) h env
  simp only [hm₁, Option.bind_eq_bind, Option.bind_some, Option.pure_def]
  rw [appendVariables_agrees h₁ _ (by decide)]
  exact ⟨_, rfl, rfl, rfl, h₁⟩

theorem transitionNa_agrees (h : Refines S e₀ m s n) (e : ActionEvent) (action : String) :
    transitionNa m e action = some (UpnpTransport.transitionNa s e action) := by
  obtain ⟨hto, hnull⟩ := pointsTo_getVar m s (j := .curTransportActions) (by decide)
  simp only [transitionNa, h.read_of_ne hto hnull, Option.map_some]
  rfl

theorem stop_agrees (h : Refines S e₀ m s n) (env : Env) (e : ActionEvent) :
    ∃ r, stop A S env m e = some r ∧ Agrees S e₀ r (UpnpTransport.stop env s e) n := by
  refine obtaining_agrees h e _ _ fun e => locked_agrees h _ _ fun m h => ?_
  have hstop : ∃ r, (do
      let sent ← silanSend env m .slmpStop 0 none
      let m ← changeTransportState A S sent.1 .stopped
      pure (⟨e, m, 0⟩ : Handled ServiceMemory)) = some r ∧
      Agrees S e₀ r ⟨e, toStopped { s with silan := (outputSilanStop env s.silan).1 }, 0⟩
        (n + 1) := by
    obtain ⟨m₁, hm₁, h₁⟩ := h.silanSend env .slmpStop 0
    obtain ⟨m₂, hm₂, h₂⟩ := h₁.changeTransportState (A := A) (S := S) .stopped
      (by decide)
    refine ⟨⟨e, m₂, 0⟩, ?_, rfl, rfl, h₂⟩
    simp only [hm₁, hm₂, Option.bind_eq_bind, Option.bind_some, Option.pure_def]
  rw [h.state]
  cases s.transportState with
  | stopped => exact ⟨_, rfl, rfl, rfl, h⟩
  | noMediaPresent =>
    rw [transitionNa_agrees h]
    exact ⟨_, rfl, rfl, rfl, h⟩
  | playing => exact hstop
  | transitioning => exact hstop
  | pausedRecording => exact hstop
  | recording => exact hstop
  | pausedPlayback => exact hstop

/-- The URI of the track is set from the address of the transport's URI. -/
theorem startPlaying_agrees (h : Refines S e₀ m s n) (env : Env) (e : ActionEvent) :
    ∃ r, startPlaying A S env m e = some r ∧
      Agrees S e₀ r (UpnpTransport.startPlaying env s e) n := by
  obtain ⟨m₁, hm₁, h₁⟩ := h.silanPlay env
  unfold startPlaying UpnpTransport.startPlaying
  simp only [hm₁, Option.bind_eq_bind, Option.bind_some, Option.pure_def]
  by_cases hfailed : (outputSilanPlay env s.silan).2 ≠ 0
  · rw [if_pos hfailed, if_pos hfailed]
    exact ⟨_, rfl, rfl, rfl, h₁⟩
  · rw [if_neg hfailed, if_neg hfailed]
    obtain ⟨m₂, hm₂, h₂⟩ := h₁.changeTransportState (A := A) (S := S) .playing
      (by decide)
    obtain ⟨huri, -⟩ := pointsTo_getVar m₂ _ (j := .avUri) (by decide)
    obtain ⟨hmeta, -⟩ := pointsTo_getVar m₂ _ (j := .avUriMeta) (by decide)
    obtain ⟨m₃, hm₃, h₃, -⟩ := h₂.replaceCurrentUriAndMeta (A := A) (S := S)
      huri hmeta (by decide) (by decide)
    refine ⟨⟨e, m₃, 0⟩, ?_, rfl, rfl, h₃⟩
    simp only [hm₂, hm₃, Option.bind_some]

theorem play_agrees (h : Refines S e₀ m s n) (env : Env) (e : ActionEvent) :
    ∃ r, play A S env m e = some r ∧ Agrees S e₀ r (UpnpTransport.play env s e) n := by
  refine obtaining_agrees h e _ _ fun e => locked_agrees h _ _ fun m h => ?_
  have hna : ∃ r, ((transitionNa m e "PLAY").map fun e => (⟨e, m, -1⟩ : Handled ServiceMemory)) =
      some r ∧ Agrees S e₀ r ⟨UpnpTransport.transitionNa s e "PLAY", s, -1⟩ (n + 1) := by
    rw [transitionNa_agrees h]
    exact ⟨_, rfl, rfl, rfl, h⟩
  rw [h.state]
  cases hstate : s.transportState with
  | playing => exact ⟨_, rfl, rfl, rfl, h⟩
  | stopped =>
    obtain ⟨m₁, hm₁, h₁, -⟩ := h.replaceVar (A := A) (S := S)
      (i := .relTimePos) (by decide) (.outside kZeroTime)
    simp only [hstate] at h₁
    simp only [hm₁, Option.bind_eq_bind, Option.bind_some]
    exact startPlaying_agrees h₁ env e
  | pausedPlayback => exact startPlaying_agrees h env e
  | noMediaPresent => exact hna
  | transitioning => exact hna
  | pausedRecording => exact hna
  | recording => exact hna

theorem pauseStream_agrees (h : Refines S e₀ m s n) (env : Env) (e : ActionEvent) :
    ∃ r, pauseStream A S env m e = some r ∧
      Agrees S e₀ r (UpnpTransport.pauseStream env s e) n := by
  refine obtaining_agrees h e _ _ fun e => locked_agrees h _ _ fun m h => ?_
  have hna : ∃ r, ((transitionNa m e "PAUSE").map fun e => (⟨e, m, -1⟩ : Handled ServiceMemory)) =
      some r ∧ Agrees S e₀ r ⟨UpnpTransport.transitionNa s e "PAUSE", s, -1⟩ (n + 1) := by
    rw [transitionNa_agrees h]
    exact ⟨_, rfl, rfl, rfl, h⟩
  rw [h.state]
  cases hstate : s.transportState with
  | pausedPlayback => exact ⟨_, rfl, rfl, rfl, h⟩
  | playing =>
    obtain ⟨m₁, hm₁, h₁⟩ := h.silanSend env .slmpPause 0
    simp only [hstate] at h₁
    simp only [hm₁, Option.bind_eq_bind, Option.bind_some, Option.pure_def]
    have hpause : outputSilanPause env s.silan = outputSilanSendCmd env s.silan .slmpPause 0 none :=
      rfl
    rw [hpause]
    by_cases hfailed : (outputSilanSendCmd env s.silan .slmpPause 0 none).2 ≠ 0
    · rw [if_pos hfailed, if_pos hfailed]
      exact ⟨_, rfl, rfl, rfl, h₁⟩
    · rw [if_neg hfailed, if_neg hfailed]
      obtain ⟨m₂, hm₂, h₂⟩ := h₁.changeTransportState (A := A) (S := S)
        .pausedPlayback (by decide)
      simp only [hm₂, Option.bind_some]
      exact ⟨_, rfl, rfl, rfl, h₂⟩
  | stopped => exact hna
  | noMediaPresent => exact hna
  | transitioning => exact hna
  | pausedRecording => exact hna
  | recording => exact hna

theorem seek_agrees (h : Refines S e₀ m s n) (env : Env) (e : ActionEvent) :
    ∃ r, seek A S env m e = some r ∧ Agrees S e₀ r (UpnpTransport.seek env s e) n := by
  refine obtaining_agrees h e _ _ fun e => ?_
  cases hunit : upnpGetString e "Unit" with
  | mk e₁ found =>
    cases found with
    | none => exact ⟨_, rfl, rfl, rfl, h⟩
    | some unit =>
      by_cases hrel : unit = "REL_TIME"
      · simp only [if_pos hrel]
        cases htarget : upnpGetString e₁ "Target" with
        | mk e₂ found =>
          cases found with
          | none => exact ⟨_, rfl, rfl, rfl, h⟩
          | some target =>
            refine locked_agrees h _ _ fun m h => ?_
            obtain ⟨m₁, hm₁, h₁⟩ : ∃ m₁, silanSend env m .slmpSeek (parseUpnpTime target) none =
                some (m₁, (outputSilanSeek env s.silan (parseUpnpTime target)).2) ∧
                Refines S e₀ m₁ { s with
                  silan := (outputSilanSeek env s.silan (parseUpnpTime target)).1 } (n + 1) :=
              h.silanSend env .slmpSeek (parseUpnpTime target)
            simp only [hm₁, Option.bind_eq_bind, Option.bind_some, Option.pure_def]
            by_cases hsent : (outputSilanSeek env s.silan (parseUpnpTime target)).2 = 0
            · obtain ⟨m₂, hm₂, h₂, -⟩ := h₁.replaceVar (A := A) (S := S)
                (i := .relTimePos) (by decide) (.outside target)
              simp only [if_pos hsent, hm₂, Option.bind_some]
              exact ⟨_, rfl, rfl, rfl, h₂⟩
            · simp only [if_neg hsent]
              exact ⟨_, rfl, rfl, rfl, h₁⟩
      · simp only [if_neg hrel]
        exact ⟨_, rfl, rfl, rfl, h⟩

/-- Every action answers in memory as it answers on values. -/
theorem transportActions_agrees (h : Refines S e₀ m s n) (env : Env) (e : ActionEvent)
    (cmd : TransportCmd) :
    ∃ r, transportActions A S env m e cmd = some r ∧
      Agrees S e₀ r (UpnpTransport.transportActions env s e cmd) n := by
  cases cmd with
  | getCurrentTransportActions => exact reportVariables_agrees h _ (by decide) e
  | getDeviceCapabilities => exact reportVariables_agrees h _ (by decide) e
  | getMediaInfo => exact reportVariables_agrees h _ (by decide) e
  | getPositionInfo => exact getPositionInfo_agrees h env e
  | getTransportInfo => exact reportVariables_agrees h _ (by decide) e
  | getTransportSettings => exact reportVariables_agrees h _ (by decide) e
  | pause => exact pauseStream_agrees h env e
  | play => exact play_agrees h env e
  | seek => exact seek_agrees h env e
  | setAvTransportUri => exact setAvtransportUri_agrees h e
  | stop => exact stop_agrees h env e
  | setNextAvTransportUri => exact setNextAvtransportUri_agrees h e

theorem transitionFromOutput_refines (h : Refines S e₀ m s n) (fb : PlayFeedback) :
    ∃ m', transitionFromOutput A S m fb = some m' ∧
      Refines S e₀ m' (UpnpTransport.transitionFromOutput s fb) n := by
  cases fb with
  | playStopped =>
    obtain ⟨m₁, hm₁, h₁, -⟩ := h.serviceLock.replaceTransportUriAndMeta (A := A) (S := S)
      (.outside "") (.outside "") (by simp) (by simp) (by simp)
    obtain ⟨m₂, hm₂, h₂, -⟩ := h₁.replaceCurrentUriAndMeta (A := A) (S := S)
      (.outside "") (.outside "") (by simp) (by simp)
    obtain ⟨m₃, hm₃, h₃⟩ := h₂.changeTransportState (A := A) (S := S) .stopped
      (by decide)
    obtain ⟨m₄, hm₄, h₄⟩ := h₃.serviceUnlock (A := A) (S := S)
    refine ⟨m₄, ?_, h₄⟩
    simp only [transitionFromOutput, hm₁, hm₂, hm₃, hm₄, Option.bind_eq_bind, Option.bind_some]
  | playStartedNextStream =>
    -- The addresses are those of the next stream's variables, which are written last.
    obtain ⟨huri, -⟩ := pointsTo_getVar (serviceLock m) s (j := .nextAvUri) (by decide)
    obtain ⟨hmeta, hnull⟩ := pointsTo_getVar (serviceLock m) s (j := .nextAvUriMeta) (by decide)
    obtain ⟨m₁, hm₁, h₁, hkept⟩ := h.serviceLock.replaceTransportUriAndMeta (A := A) (S := S)
      huri hmeta hnull (by decide) (by decide)
    have huri₁ := hkept _ _ _ huri (by decide)
    have hmeta₁ := hkept _ _ _ hmeta (by decide)
    obtain ⟨m₂, hm₂, h₂, -⟩ := h₁.replaceCurrentUriAndMeta (A := A) (S := S)
      huri₁ hmeta₁ (by decide) (by decide)
    obtain ⟨m₃, hm₃, h₃, -⟩ := h₂.replaceVar (A := A) (S := S)
      (i := .nextAvUri) (by decide) (.outside "")
    obtain ⟨m₄, hm₄, h₄, -⟩ := h₃.replaceVar (A := A) (S := S)
      (i := .nextAvUriMeta) (by decide) (.outside "")
    obtain ⟨m₅, hm₅, h₅⟩ := h₄.serviceUnlock (A := A) (S := S)
    refine ⟨m₅, ?_, h₅⟩
    simp only [transitionFromOutput, hm₁, hm₂, hm₃, hm₄, hm₅, Option.bind_eq_bind,
      Option.bind_some]

theorem storeMessage_withUris (d : SilanData) (u w : Option String) (msg : Message) :
    storeMessage (withUris d u w) msg = withUris (storeMessage d msg) u w := by
  unfold storeMessage
  cases msg.cmd <;> rfl

/-- The URI of the next stream moves to that of the current one, whose block is freed. -/
theorem silanFinishStream_refines (h : Refines S e₀ m s n) (env : Env) :
    ∃ m', silanFinishStream env m = some (m', (finishStream env s.silan).2) ∧
      Refines S e₀ m' { s with silan := (finishStream env s.silan).1 } n := by
  unfold silanFinishStream finishStream
  cases hm : m.uriNext with
  | none =>
    rw [h.uriNext.mp hm]
    exact ⟨m, rfl, h⟩
  | some a =>
    have hsome : s.silan.uriNext ≠ none := by
      intro hnone
      rw [h.uriNext.mpr hnone] at hm
      cases hm
    obtain ⟨u, hu⟩ := Option.ne_none_iff_exists'.mp hsome
    rw [hu]
    obtain ⟨heap, hrelease, hheld⟩ := Holding.release h.uri h.container
    rw [hm, hu] at hheld
    obtain ⟨e, hsound, hvalues⟩ := hheld
    have hread := hsound.represents.read_other (a := a) (s := u) (by simp [uriBlocks])
    let sent : SentCmd := ⟨.slmpPlayUri, 0, some u, (env .slmpPlayUri).msgsnd⟩
    have hsend : ∀ d, outputSilanSendCmd env d .slmpPlayUri 0 (some u) =
        (d.record sent, if (env .slmpPlayUri).msgsnd then 0 else -1) := fun d =>
      sendCmd_of_bit_none env d .slmpPlayUri 0 (some u) rfl
    refine ⟨{ m.setHeap heap with
        uri := some a
        uriNext := none
        silan := m.silan.record sent }, ?_, ?_⟩
    · simp only [hrelease, silanSend, hread, hsend, Option.bind_eq_bind, Option.bind_some,
        Option.map_some, Option.pure_def]
      rfl
    · simp only [hsend]
      refine ⟨h.state, ?_, by simp [takeNext, SilanData.record, hu],
        by simp [takeNext, SilanData.record], ⟨e, ?_, hvalues⟩⟩
      · have hsilan := h.silan
        rw [hsilan]
        rfl
      · simpa [takeNext, SilanData.record, hu, uriBlocks] using hsound

theorem silanRecvCmd_refines (h : Refines S e₀ m s n) (env : Env) (msg : Message) :
    ∃ m', silanRecvCmd A S env m msg = some m' ∧ Refines S e₀ m' (receive s msg env) n := by
  unfold silanRecvCmd receive outputSilanRecvCmd
  by_cases hdes : msg.des ≠ swaSignalUi
  · simp only [if_pos hdes]
    exact ⟨m, rfl, h⟩
  simp only [if_neg hdes]
  have hstored : storeMessage s.silan msg =
      withUris (storeMessage m.silan msg) s.silan.uri s.silan.uriNext := by
    rw [← storeMessage_withUris, ← h.silan]
  have hend : endOfStream (storeMessage s.silan msg) = endOfStream (storeMessage m.silan msg) := by
    rw [hstored]
    rfl
  have hmsg : Refines S e₀ { m with silan := storeMessage m.silan msg }
      { s with silan := storeMessage s.silan msg } n := by
    rw [hstored]
    exact ⟨h.state, rfl, h.uri, h.uriNext, h.container⟩
  rw [hend]
  by_cases hfinished : (decide (msg.cmd = .slmpPlayState) &&
      endOfStream (storeMessage m.silan msg)) = true
  · obtain ⟨m₁, hm₁, h₁⟩ := silanFinishStream_refines hmsg env
    simp only [if_pos hfinished, hm₁, Option.bind_eq_bind, Option.bind_some]
    exact transitionFromOutput_refines h₁ _
  · simp only [if_neg hfinished]
    exact ⟨_, rfl, hmsg⟩

theorem setSpdifin_withUris (env : Env) (d : SilanData) (u w : Option String) :
    outputSilanSetSpdifin env (withUris d u w) = withUris (outputSilanSetSpdifin env d) u w := by
  have hstatus : (withUris d u w).status = d.status := rfl
  have hpadmux : ((withUris d u w).setStatus .spdifin true).padmux = d.padmux := rfl
  have hset : (withUris d u w).setStatus .spdifin true =
      withUris (d.setStatus .spdifin true) u w := rfl
  unfold outputSilanSetSpdifin
  rw [hstatus]
  split_ifs
  · rfl
  · simp only [hset, sendCmd_withUris]
    rfl

end Actions

section System

/-- What happens to the service, one after another: an action, a message of the player, or
KEY_RADIO. -/
inductive Step where
  | action (cmd : TransportCmd) (doc : Option (List Node)) (env : Env)
  | message (msg : Message) (env : Env)
  | radio (env : Env)

/-- The event and the return code that an action leaves. -/
abbrev Answer := ActionEvent × ℤ

def stepValues (s : AvTransport) : Step → Option Answer × AvTransport
  | .action cmd doc env =>
    let r := UpnpTransport.transportActions env s (newRequest doc) cmd
    (some (r.event, r.rc), r.state)
  | .message msg env => (none, receive s msg env)
  | .radio env => (none, UpnpTransport.transitionFromOutput
      { s with silan := outputSilanSetSpdifin env s.silan } .playStopped)

/-- `handle_action_request` opens a transaction of its own around an action. -/
def stepMemory (A : Allocator) (S : Node → String) (m : ServiceMemory) :
    Step → Option (Option Answer × ServiceMemory)
  | .action cmd doc env => do
      let r ← transportActions A S env (serviceLock m) (newRequest doc) cmd
      let m ← serviceUnlock A S r.state
      pure (some (r.event, r.rc), m)
  | .message msg env => (silanRecvCmd A S env m msg).map fun m => (none, m)
  | .radio env => (transitionFromOutput A S
      { m with silan := outputSilanSetSpdifin env m.silan } .playStopped).map fun m => (none, m)

def runValues (s : AvTransport) : List Step → List (Option Answer) × AvTransport
  | [] => ([], s)
  | l :: steps =>
    let r := stepValues s l
    let rest := runValues r.2 steps
    (r.1 :: rest.1, rest.2)

def runMemory (A : Allocator) (S : Node → String) (m : ServiceMemory) :
    List Step → Option (List (Option Answer) × ServiceMemory)
  | [] => some ([], m)
  | l :: steps => do
    let r ← stepMemory A S m l
    let rest ← runMemory A S r.2 steps
    pure (r.1 :: rest.1, rest.2)

/-- The variables that `upnp_transport_init` tells the collector to ignore. -/
def ignoredVars : List TransportVar := [.relTimePos, .absTimePos, .relCtrPos, .absCtrPos]

/-- `upnp_transport_init` over the initialised output module; `main` then registers the
listeners that log. -/
def upnpTransportInit (A : Allocator) (S : Node → String) (d : SilanData)
    (observers : List ℕ) : Option ServiceMemory :=
  (newCollector A transportTable S
    (newContainer A transportTable fun i => some (transportDefaultValues i)) []
      transportEventXmlNs).map fun c =>
    let c := ignoredVars.foldl (addIgnore transportTable) c
    let c := observers.foldl (fun c id => { c with callbacks := .observer id :: c.callbacks }) c
    ⟨.stopped, c, d, none, none⟩

def ignoreVar (e : Eventing TransportVar) (i : TransportVar) : Eventing TransportVar :=
  { e with collector := e.collector.addIgnore transportTable i }

def observeWith (e : Eventing TransportVar) (id : ℕ) : Eventing TransportVar :=
  registerCallback e (.observer id)

/-- The container of `upnp_transport_init` on values. -/
def eventingInit (S : Node → String) (observers : List ℕ) : Option (Eventing TransportVar) :=
  (VariableContainer.newCollector transportTable S transportDefaultValues []
    transportEventXmlNs).map fun e => observers.foldl observeWith (ignoredVars.foldl ignoreVar e)

variable {A : Allocator} {S : Node → String} {e₀ : Origin}
variable {m : ServiceMemory} {s : AvTransport} {n : ℕ}

theorem step_refines (h : Refines S e₀ m s 0) (l : Step) :
    ∃ m', stepMemory A S m l = some ((stepValues s l).1, m') ∧
      Refines S e₀ m' (stepValues s l).2 0 := by
  cases l with
  | action cmd doc env =>
    obtain ⟨r, hr, hagrees⟩ :=
      transportActions_agrees (A := A) (S := S) h.serviceLock env (newRequest doc) cmd
    obtain ⟨m', hm', h'⟩ := hagrees.state.serviceUnlock (A := A) (S := S)
    refine ⟨m', ?_, h'⟩
    simp only [stepMemory, stepValues, hr, hm', hagrees.event, hagrees.rc, Option.bind_eq_bind,
      Option.bind_some, Option.pure_def]
  | message msg env =>
    obtain ⟨m', hm', h'⟩ := silanRecvCmd_refines (A := A) (S := S) h env msg
    refine ⟨m', ?_, h'⟩
    simp only [stepMemory, stepValues, hm', Option.map_some]
  | radio env =>
    have hspdifin : Refines S e₀ { m with silan := outputSilanSetSpdifin env m.silan }
        { s with silan := outputSilanSetSpdifin env s.silan } 0 := by
      rw [h.silan, setSpdifin_withUris]
      exact ⟨h.state, rfl, h.uri, h.uriNext, h.container⟩
    obtain ⟨m', hm', h'⟩ :=
      transitionFromOutput_refines (A := A) (S := S) hspdifin .playStopped
    refine ⟨m', ?_, h'⟩
    simp only [stepMemory, stepValues, hm', Option.map_some]

theorem run_refines (h : Refines S e₀ m s 0) (steps : List Step) :
    ∃ m', runMemory A S m steps = some ((runValues s steps).1, m') ∧
      Refines S e₀ m' (runValues s steps).2 0 := by
  induction steps generalizing m s with
  | nil => exact ⟨m, rfl, h⟩
  | cons l steps ih =>
    obtain ⟨m₁, hm₁, h₁⟩ := step_refines (A := A) (S := S) h l
    obtain ⟨m', hm', h'⟩ := ih h₁
    refine ⟨m', ?_, h'⟩
    simp only [runMemory, hm₁, hm', Option.bind_eq_bind, Option.bind_some, Option.pure_def]
    rfl

/-- A container whose values are the defaults, LastChange apart. -/
def HoldsDefaults (c : Memory TransportVar) (e : Eventing TransportVar) : Prop :=
  Sound transportTable [] c e 0 ∧ ∀ i, i ≠ .lastChange → e.values i = transportDefaultValues i

theorem holdsDefaults_new (A : Allocator) (S : Node → String) :
    ∃ c e, newCollector A transportTable S (newContainer A transportTable fun i =>
        some (transportDefaultValues i)) [] transportEventXmlNs = some c ∧
      VariableContainer.newCollector transportTable S transportDefaultValues []
        transportEventXmlNs = some e ∧ HoldsDefaults c e := by
  obtain ⟨c, e, hc, he, hs⟩ := newCollector_sound (A := A) (S := S)
    (T := transportTable) (by decide) (fun i => some (transportDefaultValues i)) []
    transportEventXmlNs
  obtain ⟨e', he', hcore, -⟩ := LastChangeStream.newCollector_core transportTable S
    transportEventXmlNs transportDefaultValues (by decide) []
  have hsame : e = e' := Option.some.inj (he.symm.trans he')
  refine ⟨c, e, hc, he, hs, fun i hi => ?_⟩
  rw [hsame, hcore]
  exact core_notify_values S _ i hi

theorem HoldsDefaults.addIgnore {c : Memory TransportVar} {e : Eventing TransportVar}
    (h : HoldsDefaults c e) (l : List TransportVar) :
    HoldsDefaults (l.foldl (addIgnore transportTable) c) (l.foldl ignoreVar e) := by
  induction l generalizing c e with
  | nil => exact h
  | cons i l ih => exact ih ⟨h.1.addIgnore (by decide) i, h.2⟩

theorem HoldsDefaults.observe {c : Memory TransportVar} {e : Eventing TransportVar}
    (h : HoldsDefaults c e) (l : List ℕ) :
    HoldsDefaults (l.foldl (fun c id => { c with callbacks := .observer id :: c.callbacks }) c)
      (l.foldl observeWith e) := by
  induction l generalizing c e with
  | nil => exact h
  | cons id l ih => exact ih ⟨h.1.observe id, h.2⟩

theorem outputSilanInit_uris (env : Env) (padmux volume mute : ℤ) :
    (outputSilanInit env padmux volume mute).uri = none ∧
      (outputSilanInit env padmux volume mute).uriNext = none := by
  have hinit : outputSilanInit env padmux volume mute =
      outputSilanSetSpdifin env (withUris (outputSilanSetAmpPower
        ⟨slmpStateStop, fun _ => false, none, none, mute, volume, 0, 0, padmux, [], []⟩ true)
          none none) := rfl
  rw [hinit, setSpdifin_withUris]
  exact ⟨rfl, rfl⟩

theorem init_refines (d : SilanData) (huri : d.uri = none) (hnext : d.uriNext = none)
    (observers : List ℕ) :
    ∃ m e, upnpTransportInit A S d observers = some m ∧ eventingInit S observers = some e ∧
      Refines S ⟨e, []⟩ m ⟨.stopped, ⟨transportDefaultValues, []⟩, d⟩ 0 := by
  obtain ⟨c, e, hc, he, hdefaults⟩ := holdsDefaults_new A S
  obtain ⟨hsound, hvalues⟩ := (hdefaults.addIgnore ignoredVars).observe observers
  refine ⟨_, _, by rw [upnpTransportInit, hc, Option.map_some],
    by rw [eventingInit, he, Option.map_some], rfl, rfl, by simp [huri], by simp [hnext], ?_⟩
  simp only [uriBlocks, List.nil_append]
  exact ⟨_, hsound, hvalues, [], .refl, rfl⟩

theorem addresses_uriBlocks {a : Option ℕ} {u : Option String} (h : a = none ↔ u = none) :
    (uriBlocks a u).map Prod.fst = a.toList := by
  cases a with
  | none => rfl
  | some a =>
    cases u with
    | none => exact absurd (h.mpr rfl) (by simp)
    | some u => rfl

/-- The blocks in use: those of the values, of the pending document and of the two URIs. -/
theorem Refines.addresses (h : Refines S e₀ m s n) :
    m.container.heap.addresses.Perm (transportVars.map m.container.values ++
      (m.container.collector.builder.changeEventDoc.toList ++
        (m.uri.toList ++ m.uriNext.toList))) := by
  obtain ⟨e, hs, -⟩ := h.container
  have hperm := hs.represents.holds.map Prod.fst
  simp only [List.map_append, addresses_uriBlocks h.uri, addresses_uriBlocks h.uriNext] at hperm
  refine hperm.trans (List.Perm.of_eq ?_)
  simp [valueBlocks, documentBlocks, transportTable, Function.comp_def]

end System

/-- The AVTransport service in memory, from start-up and for any way of choosing addresses:
every run of actions, messages of the player and radio keys, handled one after another, returns,
with the answers and the state of the run on values, and the address of a variable reads as its
value. The blocks in use are those of the values, the pending document and the two URIs, each
once. -/
theorem transport_memory (A : Allocator) (S : Node → String) (env : Env)
    (padmux volume mute : ℤ) (observers : List ℕ) (steps : List Step) :
    ∃ m₀ m e₀, upnpTransportInit A S (outputSilanInit env padmux volume mute) observers =
        some m₀ ∧ eventingInit S observers = some e₀ ∧
      runMemory A S m₀ steps = some ((runValues ⟨.stopped, ⟨transportDefaultValues, []⟩,
        outputSilanInit env padmux volume mute⟩ steps).1, m) ∧
      Refines S ⟨e₀, []⟩ m (runValues ⟨.stopped, ⟨transportDefaultValues, []⟩,
        outputSilanInit env padmux volume mute⟩ steps).2 0 ∧
      (∀ i, Plain i → readString m.container.heap (getVar m i) = some ((runValues ⟨.stopped,
        ⟨transportDefaultValues, []⟩, outputSilanInit env padmux volume mute⟩ steps).2.vars.values
          i)) ∧
      m.container.heap.addresses.Perm (transportVars.map m.container.values ++
        (m.container.collector.builder.changeEventDoc.toList ++
          (m.uri.toList ++ m.uriNext.toList))) := by
  obtain ⟨m₀, e₀, hm₀, he₀, h₀⟩ := init_refines (A := A) (S := S)
    (outputSilanInit env padmux volume mute) (outputSilanInit_uris env padmux volume mute).1
    (outputSilanInit_uris env padmux volume mute).2 observers
  obtain ⟨m, hm, h⟩ := run_refines (A := A) (S := S) h₀ steps
  refine ⟨m₀, m, e₀, hm₀, he₀, hm, h, fun i hi => ?_, h.addresses⟩
  obtain ⟨hto, hnull⟩ := pointsTo_getVar m _ hi
  exact h.read_of_ne hto hnull

end GMediaRender.TransportMemory
