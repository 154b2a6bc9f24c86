import GMediaRender.TransportValues
import GMediaRender.RendererSystem

/-!
The receiver thread at the end of a stream, against controller actions. An action runs
under the transport mutex and is one step; the receiver takes the queued next URI, sends
it, and calls back into the transport in three steps, of which only the last takes the
mutex. The order in which the steps come is arbitrary.
-/
namespace GMediaRender.EndOfStream

open XmlDoc StateVariables ActionRequest OutputSilan UpnpTransport RendererSystem
open TransportValues Runs

section Atomic

/-- The end-of-stream branch of the receiver, with its callback. -/
def endStream (env : Env) (s : AvTransport) : AvTransport :=
  let r := finishStream env s.silan
  transitionFromOutput { s with silan := r.1 } r.2

/-- What the receiver stores of a message before it tests for the end of the stream. -/
def store (m : Message) (s : AvTransport) : AvTransport :=
  if m.des = swaSignalUi then { s with silan := storeMessage s.silan m } else s

/-- The receiver's work on a message is to store it and, at the end of a stream, to end it. -/
theorem receive_eq (s : AvTransport) (m : Message) (env : Env) : receive s m env =
    if m.des = swaSignalUi ∧ m.cmd = .slmpPlayState ∧ endOfStream (store m s).silan = true
    then endStream env (store m s) else store m s := by
  by_cases hdes : m.des = swaSignalUi
  · by_cases hend : m.cmd = .slmpPlayState ∧ endOfStream (storeMessage s.silan m) = true
    · simp [receive, outputSilanRecvCmd, store, endStream, hdes, hend]
    · have hnot : ¬(decide (m.cmd = .slmpPlayState) && endOfStream (storeMessage s.silan m)) =
          true := by simpa using hend
      simp [receive, outputSilanRecvCmd, store, hdes, hnot, hend]
  · simp [receive, outputSilanRecvCmd, store, hdes]

/-- The events that are compared, each of them one step. -/
inductive AtomicEvent where
  | act (r : Request)
  | store (m : Message)
  | endStream (env : Env)

def atomic (s : AvTransport) : AtomicEvent → AvTransport
  | .act r => act s r
  | .store m => store m s
  | .endStream env => endStream env s

end Atomic

section Concurrent

/-- Where the receiver is. -/
inductive Phase where
  | idle
  | sending (env : Env)
  | calling (fb : PlayFeedback)

structure State where
  transport : AvTransport
  phase : Phase

/-- The steps; those of the receiver come in the order of its program. It may enter the
end-of-stream branch, by `take`, at any time. -/
inductive Label where
  | act (r : Request)
  | store (m : Message)
  | take (env : Env)
  | send
  | callback

/-- A step that is not the receiver's next one does nothing. -/
def step (c : State) : Label → State
  | .act r => { c with transport := act c.transport r }
  | .store m =>
    match c.phase with
    | .idle => { c with transport := store m c.transport }
    | _ => c
  | .take env =>
    match c.phase with
    | .idle =>
      match c.transport.silan.uriNext with
      | some _ =>
        ⟨{ c.transport with silan := OutputSilan.takeNext c.transport.silan }, .sending env⟩
      | none => ⟨c.transport, .calling .playStopped⟩
    | _ => c
  | .send =>
    match c.phase with
    | .sending env =>
      -- the current URI is read again here
      let r := outputSilanSendCmd env c.transport.silan .slmpPlayUri 0 c.transport.silan.uri
      ⟨{ c.transport with silan := r.1 }, .calling .playStartedNextStream⟩
    | _ => c
  | .callback =>
    match c.phase with
    | .calling fb => ⟨transitionFromOutput c.transport fb, .idle⟩
    | _ => c

/-- The events that begin in a step. -/
def begun (c : State) : Label → List AtomicEvent
  | .act r => [.act r]
  | .store m =>
    match c.phase with
    | .idle => [.store m]
    | _ => []
  | .take env =>
    match c.phase with
    | .idle => [.endStream env]
    | _ => []
  | _ => []

def noteBegun (es : List AtomicEvent) (c : State) (l : Label) : List AtomicEvent := es ++ begun c l

variable (s : AvTransport) (ls : List Label)

/-- The state after the steps, taken from an idle receiver. -/
def after : State := run step ⟨s, .idle⟩ ls

/-- The events of the steps. -/
def events : List AtomicEvent := (run (track step noteBegun) (⟨s, .idle⟩, []) ls).2

/-- Some order of the events, each in one step, gives the same values of the variables, the same
state of the output module and the same commands. -/
def Serialisable : Prop :=
  ∃ es, es.Perm (events s ls) ∧ visible (after s ls).transport = visible (run atomic s es)

/-- NextAVTransportURI and the queued next URI name the same stream. -/
def NextAgrees : Prop := s.silan.uriNext = nonEmpty (s.vars.values .nextAvUri)

/-- While a next stream is being started, no action sets a URI, and none plays one before the
next URI is sent. -/
def Undisturbed (c : State) : Label → Prop
  | .act r =>
    match c.phase with
    | .sending _ => r.Quiet c.transport.transportState
    | .calling .playStartedNextStream => r.KeepsUris
    | _ => True
  | _ => True

end Concurrent

section Proof

def atomicValues (p : Visible) : AtomicEvent → Visible
  | .act r => p.act r
  | .store m => p.store m
  | .endStream env => p.endStream env

theorem visible_store (s : AvTransport) (m : Message) :
    visible (store m s) = (visible s).store m := by
  unfold store Visible.store
  split_ifs <;> rfl

theorem visible_atomic (s : AvTransport) (e : AtomicEvent) :
    visible (atomic s e) = atomicValues (visible s) e := by
  cases e with
  | act r => exact visible_act s r
  | store m => exact visible_store s m
  | endStream env => exact visible_feedback _ _

/-- The values after events that are one step each. -/
def serial (s : AvTransport) (es : List AtomicEvent) : Visible := run atomicValues (visible s) es

theorem visible_run (s : AvTransport) (es : List AtomicEvent) :
    visible (run atomic s es) = serial s es :=
  run_map atomic visible (fun s e _ => visible_atomic s e) s

theorem serial_append (s : AvTransport) (es : List AtomicEvent) (e : AtomicEvent) :
    serial s (es ++ [e]) = atomicValues (serial s es) e := by
  simp [serial]

/-- Requests for the next URI can wait for another request. -/
theorem run_act_setNextUri {ns : List Request} (hns : ∀ n ∈ ns, n.action = .setNextUri)
    (r : Request) (hr : r.action ≠ .setNextUri) (p : Visible) :
    (run Visible.act p ns).act r = run Visible.act (p.act r) ns :=
  run_map Visible.act (fun p => p.act r) (fun p n hn => act_setNextUri p r n (hns n hn) hr) p

/-- They can wait for the callback that stops. -/
theorem run_act_stopped {ns : List Request} (hns : ∀ n ∈ ns, n.action = .setNextUri)
    (p : Visible) : (run Visible.act p ns).feedback .playStopped =
      run Visible.act (p.feedback .playStopped) ns :=
  run_map Visible.act (fun p => p.feedback .playStopped)
    (fun p n hn => act_stopped p n (hns n hn)) p

theorem perm_insert {α : Type*} {es tail es₀ : List α} (h : (es ++ tail).Perm es₀) (e : α) :
    (es ++ [e] ++ tail).Perm (es₀ ++ [e]) := by
  rw [List.append_assoc]
  exact (List.perm_middle.trans (h.cons e)).trans (List.perm_append_singleton e es₀).symm

/-- The serial order behind each phase. The end of a stream with a next one comes where its URI
is sent; the end of the last stream comes where the callback runs, and the requests for a
next URI that arrived meanwhile come after it. -/
def Serialised (s : AvTransport) (p : State × List AtomicEvent) : Prop :=
  match p.1.phase with
  | .idle => ∃ es, es.Perm p.2 ∧ visible p.1.transport = serial s es
  | .sending env => ∃ es, (es ++ [.endStream env]).Perm p.2 ∧
      (serial s es).silan.uriNext ≠ none ∧ visible p.1.transport = (serial s es).takeNext
  | .calling .playStartedNextStream => ∃ es, es.Perm p.2 ∧
      (visible p.1.transport).feedback .playStartedNextStream = serial s es
  | .calling .playStopped => ∃ es ns env, (es ++ .endStream env :: ns.map .act).Perm p.2 ∧
      (∀ n ∈ ns, n.action = .setNextUri) ∧ (serial s es).silan.uriNext = none ∧
      visible p.1.transport = run Visible.act (serial s es) ns

variable {s t : AvTransport} {es₀ : List AtomicEvent}

/-- A step that does nothing. -/
theorem serialised_skip {c : State} {l : Label} (h : Serialised s (c, es₀)) (hstep : step c l = c)
    (hbegun : begun c l = []) : Serialised s (track step noteBegun (c, es₀) l) := by
  have htrack : track step noteBegun (c, es₀) l = (c, es₀) := by
    simp only [track, noteBegun, hstep, hbegun, List.append_nil]
  rw [htrack]
  exact h

theorem serialised_idle (h : Serialised s (⟨t, .idle⟩, es₀)) (l : Label) :
    Serialised s (track step noteBegun (⟨t, .idle⟩, es₀) l) := by
  have ⟨es, hperm, hvisible⟩ := h
  cases l with
  | act r =>
    refine ⟨es ++ [.act r], hperm.append_right _, ?_⟩
    rw [serial_append, ← hvisible]
    exact visible_act t r
  | store m =>
    refine ⟨es ++ [.store m], hperm.append_right _, ?_⟩
    rw [serial_append, ← hvisible]
    exact visible_store t m
  | take env =>
    have hsilan : (serial s es).silan.uriNext = t.silan.uriNext := by rw [← hvisible]; rfl
    cases hnext : t.silan.uriNext with
    | some uri =>
      simp only [track, step, noteBegun, begun, hnext]
      refine ⟨es, hperm.append_right _, by simp [hsilan, hnext], ?_⟩
      rw [← hvisible]
      rfl
    | none =>
      simp only [track, step, noteBegun, begun, hnext]
      exact ⟨es, [], env, hperm.append_right _, by simp, hsilan.trans hnext, hvisible⟩
  | send | callback => exact serialised_skip h rfl rfl

theorem serialised_sending {env : Env} (h : Serialised s (⟨t, .sending env⟩, es₀)) (l : Label)
    (hl : Undisturbed ⟨t, .sending env⟩ l) :
    Serialised s (track step noteBegun (⟨t, .sending env⟩, es₀) l) := by
  have ⟨es, hperm, hnext, hvisible⟩ := h
  cases l with
  | act r =>
    have hquiet : r.Quiet (serial s es).state := by
      have hstate : (serial s es).state = t.transportState :=
        (congrArg TransportValues.Visible.state hvisible).symm
      rw [hstate]
      exact hl
    refine ⟨es ++ [.act r], perm_insert hperm (.act r), ?_, ?_⟩
    · rw [serial_append]
      exact (act_next_eq (serial s es) r fun hacc => (hquiet.1 hacc).2).2.trans_ne hnext
    · rw [serial_append]
      calc visible (act t r) = (visible t).act r := visible_act t r
        _ = (serial s es).takeNext.act r := by rw [hvisible]
        _ = ((serial s es).act r).takeNext := act_takeNext _ r hquiet
  | send =>
    refine ⟨es ++ [.endStream env], by simpa [track, noteBegun, begun] using hperm, ?_⟩
    have hsilan : t.silan = (serial s es).takeNext.silan :=
      congrArg TransportValues.Visible.silan hvisible
    rw [serial_append, atomicValues, endStream_of_some _ env hnext, ← hsilan]
    have hstate : t.transportState = (serial s es).state :=
      congrArg TransportValues.Visible.state hvisible
    have hvalues : t.vars.values = (serial s es).values :=
      congrArg TransportValues.Visible.values hvisible
    rw [← hstate, ← hvalues]
    rfl
  | store | take | callback => exact serialised_skip h rfl rfl

theorem serialised_next (h : Serialised s (⟨t, .calling .playStartedNextStream⟩, es₀)) (l : Label)
    (hl : Undisturbed ⟨t, .calling .playStartedNextStream⟩ l) :
    Serialised s (track step noteBegun (⟨t, .calling .playStartedNextStream⟩, es₀) l) := by
  have ⟨es, hperm, hvisible⟩ := h
  cases l with
  | act r =>
    refine ⟨es ++ [.act r], hperm.append_right _, ?_⟩
    rw [serial_append, ← hvisible]
    calc (visible (act t r)).feedback .playStartedNextStream =
        ((visible t).act r).feedback .playStartedNextStream := by rw [visible_act]
      _ = ((visible t).feedback .playStartedNextStream).act r := act_next _ r hl
  | callback =>
    refine ⟨es, by simpa [track, noteBegun, begun] using hperm, ?_⟩
    rw [← hvisible]
    exact visible_feedback t _
  | store | take | send => exact serialised_skip h rfl rfl

theorem serialised_stopped (h : Serialised s (⟨t, .calling .playStopped⟩, es₀)) (l : Label) :
    Serialised s (track step noteBegun (⟨t, .calling .playStopped⟩, es₀) l) := by
  have ⟨es, ns, env, hperm, hns, hnext, hvisible⟩ := h
  cases l with
  | act r =>
    by_cases hr : r.action = .setNextUri
    · refine ⟨es, ns ++ [r], env, ?_, ?_, hnext, ?_⟩
      · simpa [track, noteBegun, begun] using hperm.append_right [.act r]
      · intro n hn
        rcases List.mem_append.mp hn with hn | hn
        · exact hns n hn
        · rw [List.mem_singleton.mp hn]
          exact hr
      · rw [run_append, ← hvisible]
        exact visible_act t r
    · refine ⟨es ++ [.act r], ns, env, perm_insert hperm (.act r), hns, ?_, ?_⟩
      · rw [serial_append]
        exact (act_next_eq (serial s es) r fun _ => hr).2.trans hnext
      · rw [serial_append]
        calc visible (act t r) = (visible t).act r := visible_act t r
          _ = (run Visible.act (serial s es) ns).act r := by rw [hvisible]
          _ = run Visible.act ((serial s es).act r) ns := run_act_setNextUri hns r hr _
  | callback =>
    refine ⟨es ++ .endStream env :: ns.map .act, by simpa [track, noteBegun, begun] using hperm, ?_⟩
    have hrest : ∀ p : Visible, run atomicValues p (ns.map .act) = run Visible.act p ns := by
      intro p
      simp only [run, List.foldl_map]
      rfl
    have hserial : serial s (es ++ .endStream env :: ns.map .act) =
        run Visible.act ((serial s es).endStream env) ns := by
      rw [← hrest]
      simp [serial, atomicValues]
    rw [hserial, endStream_of_none _ env hnext, ← run_act_stopped hns, ← hvisible]
    exact visible_feedback t _
  | store | take | send => exact serialised_skip h rfl rfl

theorem serialised_step (p : State × List AtomicEvent) (l : Label) (h : Serialised s p)
    (hl : Undisturbed p.1 l) : Serialised s (track step noteBegun p l) := by
  obtain ⟨⟨t, phase⟩, es₀⟩ := p
  cases phase with
  | idle => exact serialised_idle h l
  | sending env => exact serialised_sending h l hl
  | calling fb =>
    cases fb with
    | playStopped => exact serialised_stopped h l
    | playStartedNextStream => exact serialised_next h l hl

theorem serialised_run (s : AvTransport) (ls : List Label)
    (h : AllSteps step Undisturbed ⟨s, .idle⟩ ls) : Serialised s (after s ls, events s ls) := by
  have hinit : Serialised s (⟨s, .idle⟩, []) := ⟨[], List.Perm.refl _, rfl⟩
  have hrun := run_invariant_of_allSteps _ serialised_step hinit
    ((allSteps_track step noteBegun (⟨s, .idle⟩, []) ls).mpr h)
  have hafter : after s ls = (run (track step noteBegun) (⟨s, .idle⟩, []) ls).1 :=
    (run_track_fst step noteBegun (⟨s, .idle⟩, []) ls).symm
  rw [hafter]
  exact hrun

end Proof

section Agreement

def Agrees (p : Visible) : Prop := p.silan.uriNext = nonEmpty (p.values .nextAvUri)

theorem agrees_atomic (p : Visible) (e : AtomicEvent) (h : Agrees p) :
    Agrees (atomicValues p e) := by
  cases e with
  | act r =>
    by_cases hset : r.accepted = true ∧ r.action = .setNextUri
    · obtain ⟨uri, metadata, heq⟩ := act_setNextUri_eq r hset.2 hset.1
      rw [atomicValues, heq]
      rfl
    · have hr : r.accepted = true → r.action ≠ .setNextUri := fun hacc hn => hset ⟨hacc, hn⟩
      obtain ⟨hvalue, hqueued⟩ := act_next_eq p r hr
      rw [Agrees, atomicValues, hvalue, hqueued]
      exact h
  | store m =>
    rw [Agrees, atomicValues, store_uriNext]
    unfold Visible.store
    split_ifs <;> exact h
  | endStream env =>
    rw [Agrees, atomicValues]
    by_cases hnext : p.silan.uriNext = none
    · rw [endStream_of_none p env hnext]
      have hvalue : (p.feedback .playStopped).values .nextAvUri = p.values .nextAvUri :=
        switched_nextAvUri .stopped (cleared p.values)
      rw [hvalue]
      exact h
    · rw [endStream_of_some p env hnext, sendCmd_of_bit_none _ _ .slmpPlayUri _ _ rfl]
      rfl

theorem agrees_serial (s : AvTransport) (h : NextAgrees s) (es : List AtomicEvent) :
    Agrees (serial s es) := by
  have hvisible : Agrees (visible s) := h
  exact run_invariant atomicValues agrees_atomic hvisible es

/-- Where no action sets a URI while a next stream is being started, and none plays it before it
is sent, the ends of streams and the actions might as well have come one after the other; and
the two next URIs stay together. -/
theorem serialisable_of_undisturbed (s : AvTransport) (ls : List Label)
    (h : AllSteps step Undisturbed ⟨s, .idle⟩ ls) (hidle : (after s ls).phase = .idle) :
    Serialisable s ls ∧ (NextAgrees s → NextAgrees (after s ls).transport) := by
  have hserialised := serialised_run s ls h
  unfold Serialised at hserialised
  rw [hidle] at hserialised
  obtain ⟨es, hperm, hvisible⟩ := hserialised
  refine ⟨⟨es, hperm, hvisible.trans (visible_run s es).symm⟩, fun hagrees => ?_⟩
  have hserial := agrees_serial s hagrees es
  rw [← hvisible] at hserial
  exact hserial

/-- A renderer that plays the first of two streams to its end. -/
def playedToEnd : AvTransport :=
  (run Renderer.step (startUp allSent 0 0 0)
    [setUriAction "http://a/1.mp3", setNextUriAction "http://a/2.mp3", playAction,
      playerMessage .slmpSetTotalTime 100, playerMessage .slmpSetTimePos 100]).transport

def stopMessage : Message := ⟨swaSignalUi, .slmpPlayState, slmpStateStop⟩

/-- A Stop action comes after the next URI has been taken. -/
theorem serialisable_stop :
    Serialisable playedToEnd [.store stopMessage, .take allSent,
      .act ⟨.stop, requestDoc "Stop" [("InstanceID", "0")], allSent⟩, .send, .callback] ∧
    (NextAgrees playedToEnd → NextAgrees (after playedToEnd [.store stopMessage, .take allSent,
      .act ⟨.stop, requestDoc "Stop" [("InstanceID", "0")], allSent⟩, .send,
      .callback]).transport) :=
  serialisable_of_undisturbed playedToEnd _
    ⟨trivial, trivial, ⟨fun _ => ⟨nofun, nofun⟩, nofun⟩, trivial, trivial, trivial⟩ rfl

/-- A request for another next URI comes after the queued one has been taken. -/
def queuedMeanwhile : List Label :=
  [.store stopMessage, .take allSent,
    .act ⟨.setNextUri, requestDoc "SetNextAVTransportURI"
      [("InstanceID", "0"), ("NextURI", "http://a/3.mp3")], allSent⟩, .send, .callback]

/-- The stream ends, the third URI is queued but no longer advertised as the next one, and no
order of the two events has that effect. -/
theorem not_serialisable_queuedMeanwhile :
    endOfStream (store stopMessage playedToEnd).silan = true ∧
    (after playedToEnd queuedMeanwhile).phase = .idle ∧
    ¬Serialisable playedToEnd queuedMeanwhile ∧
    ¬NextAgrees (after playedToEnd queuedMeanwhile).transport := by
  have hnot : ¬NextAgrees (after playedToEnd queuedMeanwhile).transport := by
    unfold NextAgrees
    decide +kernel
  refine ⟨by decide +kernel, rfl, ?_, hnot⟩
  rintro ⟨es, -, hvisible⟩
  have hagrees : NextAgrees playedToEnd := by
    unfold NextAgrees
    decide +kernel
  have hserial := agrees_serial playedToEnd hagrees es
  rw [← visible_run, ← hvisible] at hserial
  exact hnot hserial

end Agreement

end GMediaRender.EndOfStream
