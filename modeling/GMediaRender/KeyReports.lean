import GMediaRender.DeferredWork
import GMediaRender.IrDecoder

/-!
The key reports of the infra-red receiver. The interrupt handler schedules `ir_produce`, which
runs later and reads whatever code is stored by then. Codes can be coalesced when the work is
late; the decoder schedules no two reports within 20 ms, and work that is done by then reports
every code once.
-/
namespace GMediaRender.KeyReports

open IrDecoder DeferredWork Runs

section Keys

/-- The key codes in `ir_key_table`. -/
inductive KeyCode where
  | power | radio | aux | setup | scale | subtitle
  | numeric1 | numeric2 | numeric3 | numeric4 | numeric5 | numeric6
  | numeric7 | numeric8 | numeric9 | program | numeric0 | previous
  | volumeUp | favorites | channelUp | info | volumeDown | mute | channelDown
  | prog1 | home | dashboard | text | up | option | left | ok | right
  | back | down | exit | addressBook | record | stop
  | rewind | play | forward | pause | red | green | yellow | blue
  deriving DecidableEq

def irKeyTable : List (BitVec 32 × KeyCode) := [
  (0x10EF, .power), (0x0FF0, .radio),
  (0xD02F, .aux), (0xC23D, .setup), (0x9E61, .scale), (0x9C63, .subtitle),
  (0x8877, .numeric1), (0x48B7, .numeric2), (0xC837, .numeric3),
  (0x28D7, .numeric4), (0xA857, .numeric5), (0x6897, .numeric6),
  (0xE817, .numeric7), (0x18E7, .numeric8), (0x9867, .numeric9),
  (0xD52A, .program), (0x08F7, .numeric0), (0x58A7, .previous),
  (0x40BF, .volumeUp), (0x7887, .favorites), (0x00FF, .channelUp),
  (0x55AA, .info),
  (0xC03F, .volumeDown), (0x906F, .mute), (0x807F, .channelDown),
  (0xF906, .prog1), (0x3EC1, .home), (0x42BD, .dashboard),
  (0x04FB, .text), (0x02FD, .up), (0x847B, .option),
  (0xE01F, .left), (0x22DD, .ok), (0x609F, .right),
  (0x14EB, .back), (0x827D, .down), (0xDA25, .exit),
  (0x8976, .addressBook), (0xBD42, .record), (0x8D72, .stop),
  (0xF10E, .rewind), (0x0DF2, .play), (0x718E, .forward), (0x5DA2, .pause),
  (0x4EB1, .red), (0x8E71, .green), (0xC639, .yellow), (0x8679, .blue)]

def dataPre : BitVec 32 := 0x20DF

/-- What the input device is told of. -/
inductive InputEvent where
  | key (code : KeyCode) (value : ℤ)
  | syn
  deriving DecidableEq

/-- The key that `ir_produce` finds for a value of `data_ok`. -/
def findKey (dataOk : BitVec 32) : Option KeyCode :=
  if dataOk >>> dataBits.toNat = dataPre then
    (irKeyTable.find? fun e => dataOk &&& ~~~((-1 : BitVec 32) <<< dataBits.toNat) == e.1).map (·.2)
  else none

/-- `ir_produce`: the key is pressed and released. -/
def irProduce (dataOk : BitVec 32) : List InputEvent :=
  match findKey dataOk with
  | some code => [.key code 1, .key code 0, .syn]
  | none => []

end Keys

/-- The driver: the decoder, the state of `ir_work` and the events it has reported. -/
structure Receiver where
  priv : IrPrivate
  pending : Bool
  running : Bool
  events : List InputEvent

/-- An edge, and the two steps of the work: it is taken off its queue, then it reads the code. -/
inductive Event where
  | edge (tv : Timeval)
  | start
  | produce

namespace Receiver

def step (s : Receiver) : Event → Receiver
  | .edge tv =>
    let e := irIsr s.priv tv
    { s with priv := e.priv, pending := s.pending || e.scheduled }
  | .start => if s.pending ∧ ¬ s.running then { s with pending := false, running := true } else s
  | .produce =>
    if s.running then { s with running := false, events := s.events ++ irProduce s.priv.dataOk }
    else s

def Idle (s : Receiver) : Prop := s.pending = false ∧ s.running = false

instance (s : Receiver) : Decidable s.Idle := inferInstanceAs (Decidable (_ ∧ _))

end Receiver

def powerOn : Receiver := ⟨powerUp, false, false, []⟩

/-- The times of the edges. -/
def times : List Event → List Timeval
  | [] => []
  | .edge tv :: es => tv :: times es
  | .start :: es | .produce :: es => times es

/-- The codes for which the decoder schedules a report. -/
def scheduledCodes (p : IrPrivate) : List ℕ → List (BitVec 32)
  | [] => []
  | w :: ws => (if (decode p w).scheduled then [(decode p w).priv.dataOk] else []) ++
      scheduledCodes (decode p w).priv ws

section Work

/-- What a step does to the work. -/
def ops (s : Receiver) : Event → List (Op (BitVec 32))
  | .edge tv =>
    if (irIsr s.priv tv).scheduled then [.schedule (irIsr s.priv tv).priv.dataOk] else []
  | .start => [.start]
  | .produce => [.read]

def trace : Receiver → List Event → List (Op (BitVec 32))
  | _, [] => []
  | s, e :: es => ops s e ++ trace (s.step e) es

/-- The driver is a worker whose register is `data_ok`. -/
structure Simulates (s : Receiver) (w : Worker (BitVec 32)) : Prop where
  register : w.register = s.priv.dataOk
  pending : w.pending = s.pending
  running : w.running = s.running
  events : s.events = w.reads.flatMap irProduce

theorem Simulates.idle_iff {s : Receiver} {w : Worker (BitVec 32)} (h : Simulates s w) :
    w.Idle ↔ s.Idle := by
  rw [Worker.Idle, Receiver.Idle, h.pending, h.running]

theorem simulates_powerOn : Simulates powerOn (Worker.idle powerUp.dataOk) := ⟨rfl, rfl, rfl, rfl⟩

/-- A code is stored only where its report is scheduled. -/
theorem dataOk_of_not_scheduled (p : IrPrivate) (w : ℕ) (h : (decode p w).scheduled = false) :
    (decode p w).priv.dataOk = p.dataOk := by
  have hedge := decode_decoded p w
  generalize decode p w = e at hedge h ⊢
  cases hedge with
  | last hst hw hidx => exact absurd h (by simp)
  | _ => rfl

theorem simulates_step {s : Receiver} {w : Worker (BitVec 32)} (h : Simulates s w) (e : Event) :
    Simulates (s.step e) (run Worker.step w (ops s e)) := by
  obtain ⟨hregister, hpending, hrunning, hevents⟩ := h
  cases e with
  | edge tv =>
    simp only [Receiver.step, ops]
    cases hscheduled : (irIsr s.priv tv).scheduled with
    | true => exact ⟨rfl, by simp [Worker.step], hrunning, hevents⟩
    | false =>
      have hkept : (irIsr s.priv tv).priv.dataOk = s.priv.dataOk :=
        dataOk_of_not_scheduled { s.priv with baseTime := tv } _ hscheduled
      exact ⟨hregister.trans hkept.symm, by simpa using hpending, hrunning, hevents⟩
  | start =>
    simp only [Receiver.step, ops, run_cons, run_nil, Worker.step, hpending, hrunning]
    split_ifs
    · exact ⟨hregister, rfl, rfl, hevents⟩
    · exact ⟨hregister, hpending, hrunning, hevents⟩
  | produce =>
    simp only [Receiver.step, ops, run_cons, run_nil, Worker.step, hrunning]
    split_ifs
    · exact ⟨hregister, hpending, rfl, by simp [hevents, hregister]⟩
    · exact ⟨hregister, hpending, hrunning, hevents⟩

theorem simulates_run {s : Receiver} {w : Worker (BitVec 32)} (h : Simulates s w)
    (es : List Event) : Simulates (run Receiver.step s es) (run Worker.step w (trace s es)) := by
  induction es generalizing s w with
  | nil => exact h
  | cons e es ih =>
    rw [run_cons, trace, run_append]
    exact ih (simulates_step h e)

/-- The time of the last edge has no part in what is scheduled. -/
theorem scheduledCodes_setTime (p : IrPrivate) (tv : Timeval) (ws : List ℕ) :
    scheduledCodes (p.setTime tv) ws = scheduledCodes p ws := by
  induction ws generalizing p with
  | nil => rfl
  | cons w ws ih =>
    simp only [scheduledCodes, decode_setTime, ih]
    rfl

theorem scheduledCodes_append (p : IrPrivate) (ws vs : List ℕ) :
    scheduledCodes p (ws ++ vs) = scheduledCodes p ws ++ scheduledCodes (decoded p ws) vs := by
  induction ws generalizing p with
  | nil => rfl
  | cons w ws ih =>
    rw [List.cons_append, scheduledCodes, scheduledCodes, ih, List.append_assoc]
    rfl

theorem ops_edge (s : Receiver) (tv : Timeval) : ops s (.edge tv) =
    if (decode s.priv (edgeWidth s.priv tv)).scheduled
      then [.schedule (decode s.priv (edgeWidth s.priv tv)).priv.dataOk] else [] := by
  rw [ops, irIsr_eq]
  rfl

/-- The work is scheduled for the codes that the decoder finds between the edges. -/
theorem scheduled_trace (s : Receiver) (w : Worker (BitVec 32)) (es : List Event) :
    (run Worker.step w (trace s es)).scheduled =
      w.scheduled ++ scheduledCodes s.priv (edgeWidths s.priv (times es)) := by
  induction es generalizing s w with
  | nil => simp [trace, times, edgeWidths, scheduledCodes]
  | cons e es ih =>
    rw [trace, run_append, ih]
    cases e with
    | edge tv =>
      have hpriv : (s.step (.edge tv)).priv =
          (decode s.priv (edgeWidth s.priv tv)).priv.setTime tv := by
        simp only [Receiver.step, irIsr_eq]
      have hwidths : edgeWidths ((decode s.priv (edgeWidth s.priv tv)).priv.setTime tv) (times es) =
          edgeWidths (s.priv.setTime tv) (times es) := by
        apply edgeWidths_congr
        rfl
      rw [hpriv, scheduledCodes_setTime, hwidths, times, edgeWidths, scheduledCodes, ops_edge]
      split_ifs
      · simp [Worker.step]
      · simp
    | start =>
      simp only [Receiver.step, ops, run_cons, run_nil, Worker.step, times]
      split_ifs <;> rfl
    | produce =>
      simp only [Receiver.step, ops, run_cons, run_nil, Worker.step, times]
      split_ifs <;> rfl

end Work

section Spacing

/-- No two reports are scheduled within this many microseconds. -/
def reportSpacing : ℕ :=
  (clkHeaderPulse - clkErr) + (clkRepeatSpace - clkErr) + (clkDataPulse - clkErr) +
    (clkHeaderPulse + clkErr + 1)

/-- What the state of the decoder tells about the time since the last report. -/
def Spaced (p : IrPrivate) (since : ℕ) : Prop :=
  match p.state with
  | .headerSpace => 8900 ≤ since
  | .repeatPulse => 8900 + 2200 ≤ since
  | .repeatSpace => 8900 + 2200 + 410 ≤ since ∨ p.repeats = 0
  | .dataPulse => 8900 + 4400 + (410 + 500) * p.idx ≤ since
  | .dataSpace => 8900 + 4400 + (410 + 500) * p.idx + 410 ≤ since
  | _ => True

/-- With the time since the last report, if there has been one. -/
structure Timed (p : IrPrivate) (since : Option ℕ) : Prop where
  reading : p.state = .dataPulse ∨ p.state = .dataSpace → p.repeats = 0
  spaced : ∀ t ∈ since, Spaced p t

def sinceReport (since : Option ℕ) (p : IrPrivate) (w : ℕ) : Option ℕ :=
  if (decode p w).scheduled then some 0 else since.map (· + w)

/-- An edge at which no report is scheduled. -/
theorem Timed.pass {p q : IrPrivate} {since : Option ℕ} {w : ℕ} (h : Timed p since)
    (hreading : q.state = .dataPulse ∨ q.state = .dataSpace → q.repeats = 0)
    (hspaced : ∀ t, Spaced p t → Spaced q (t + w)) : Timed q (since.map (· + w)) := by
  refine ⟨hreading, fun t ht => ?_⟩
  obtain ⟨before, hbefore, rfl⟩ := Option.map_eq_some_iff.mp ht
  exact hspaced before (h.spaced before hbefore)

theorem clkErr_bounds {nominal w : ℕ} (h : within nominal w = true) : nominal ≤ w + 100 := by
  have hbounds := within_iff.mp h
  simp only [clkErr] at hbounds
  omega

/-- At an edge without a report only the time goes on. -/
theorem Timed.quiet {e : Edge} {since : Option ℕ} {w : ℕ} (hquiet : e.scheduled = false)
    (h : Timed e.priv (since.map (· + w))) :
    Timed e.priv (if e.scheduled then some 0 else since.map (· + w)) ∧
      (e.scheduled = true → ∀ t ∈ since, reportSpacing ≤ t + w) := by
  rw [hquiet]
  exact ⟨h, fun hno => absurd hno (by simp)⟩

/-- Between two reports a header, a repeat space, a pulse and a gap have been read, or more. -/
theorem timed_step {p : IrPrivate} {since : Option ℕ} (h : Timed p since) (w : ℕ) :
    Timed (decode p w).priv (sinceReport since p w) ∧
      ((decode p w).scheduled = true → ∀ t ∈ since, reportSpacing ≤ t + w) := by
  have hspacing : reportSpacing = 20611 := rfl
  have hedge := decode_decoded p w
  unfold sinceReport
  generalize decode p w = e at hedge ⊢
  cases hedge with
  | gap hw =>
    refine Timed.quiet rfl (h.pass (fun hst => ?_) fun t _ => trivial)
    simp [IrPrivate.goto] at hst
  | lost =>
    refine Timed.quiet rfl (h.pass (fun hst => ?_) fun t _ => trivial)
    simp [IrPrivate.goto] at hst
  | ignored hst =>
    refine Timed.quiet rfl (h.pass h.reading fun t _ => ?_)
    rcases hst with hst | hst <;> simp only [Spaced, hst]
  | header hst hw =>
    refine Timed.quiet rfl (h.pass (fun hst => ?_) fun t _ => ?_)
    · simp [IrPrivate.goto] at hst
    · have hlow := clkErr_bounds hw
      simp only [Spaced, IrPrivate.goto, clkHeaderPulse] at hlow ⊢
      omega
  | start hst hw =>
    refine Timed.quiet rfl (h.pass (fun _ => rfl) fun t ht => ?_)
    have hlow := clkErr_bounds hw
    simp only [Spaced, hst] at ht
    simp only [Spaced, IrPrivate.goto, clkHeaderSpace] at hlow ⊢
    omega
  | repeatSpace hst hw =>
    refine Timed.quiet rfl (h.pass (fun hst => ?_) fun t ht => ?_)
    · simp [IrPrivate.goto] at hst
    · have hlow := clkErr_bounds hw
      simp only [Spaced, hst] at ht
      simp only [Spaced, IrPrivate.goto, clkRepeatSpace] at hlow ⊢
      omega
  | repeatPulse hst hw =>
    refine Timed.quiet rfl (h.pass (fun hst => ?_) fun t ht => ?_)
    · simp [IrPrivate.goto] at hst
    · have hlow := clkErr_bounds hw
      simp only [Spaced, hst] at ht
      simp only [Spaced, IrPrivate.goto, clkDataPulse] at hlow ⊢
      omega
  | repeated hst hw hgap =>
    have hclear : ∀ since, Timed { p with state := .headerPulse, repeats := p.repeats + 1 } since :=
      fun since => ⟨fun hst => by simp at hst, fun t _ => trivial⟩
    refine ⟨hclear _, fun hmany t ht => ?_⟩
    -- the counter is clear only at the gap right after a frame
    have hcount : p.repeats + 1 > skipRepeat := of_decide_eq_true hmany
    have hbefore := h.spaced t ht
    simp only [Spaced, hst] at hbefore
    simp only [skipRepeat, clkHeaderPulse, clkErr] at hcount hw
    omega
  | pulse hst hw hidx =>
    refine Timed.quiet rfl (h.pass (fun _ => h.reading (Or.inl hst)) fun t ht => ?_)
    have hlow := clkErr_bounds hw
    simp only [Spaced, hst] at ht
    simp only [Spaced, IrPrivate.goto, clkDataPulse] at hlow ⊢
    push_cast
    omega
  | last hst hw hidx =>
    have hclear : p.repeats = 0 := h.reading (Or.inl hst)
    refine ⟨⟨fun hst => by simp at hst, fun t _ => Or.inr hclear⟩, fun _ t ht => ?_⟩
    have hbefore := h.spaced t ht
    have hlow := clkErr_bounds hw
    simp only [Spaced, hst, clkDataPulse] at hbefore hlow
    omega
  | bit bit hst hw =>
    refine Timed.quiet rfl (h.pass (fun _ => h.reading (Or.inr hst)) fun t ht => ?_)
    have hspace : 600 ≤ clkSpace bit := by cases bit <;> decide
    have hlow := clkErr_bounds hw
    simp only [Spaced, hst] at ht
    simp only [Spaced, IrPrivate.goto, IrPrivate.shiftIn]
    push_cast
    omega

theorem timed_powerUp : Timed powerUp none :=
  ⟨fun h => by simp [powerUp] at h, fun _ h => nomatch h⟩

end Spacing

section Runs

/-- With the microseconds since the last report was scheduled. -/
def sinceScheduled (since : Option ℕ) (s : Receiver) : Event → Option ℕ
  | .edge tv => sinceReport since s.priv (edgeWidth s.priv tv)
  | .start | .produce => since

/-- The work is done within the time that the decoder needs for another report. -/
def InTime (x : Receiver × Option ℕ) : Event → Prop
  | .edge tv => ∀ t ∈ x.2, reportSpacing ≤ t + edgeWidth x.1.priv tv → x.1.Idle
  | .start | .produce => True

instance (x : Receiver × Option ℕ) (e : Event) : Decidable (InTime x e) :=
  match e with
  | .edge _ => inferInstanceAs (Decidable (∀ t ∈ x.2, _ → _))
  | .start | .produce => isTrue trivial

def stepTimed : Receiver × Option ℕ → Event → Receiver × Option ℕ :=
  track Receiver.step sinceScheduled

/-- Before the first report the work is idle. -/
structure Punctual (x : Receiver × Option ℕ) : Prop where
  timed : Timed x.1.priv x.2
  before : x.2 = none → x.1.Idle

theorem punctual_step {x : Receiver × Option ℕ} (h : Punctual x) (e : Event) (he : InTime x e) :
    Punctual (stepTimed x e) ∧
      ∀ w, Simulates x.1 w → AllSteps Worker.step OnTime w (ops x.1 e) := by
  obtain ⟨s, since⟩ := x
  obtain ⟨htimed, hbefore⟩ := h
  cases e with
  | edge tv =>
    obtain ⟨hnext, hspacing⟩ := timed_step htimed (edgeWidth s.priv tv)
    have hedge := irIsr_eq s.priv tv
    refine ⟨⟨?_, ?_⟩, ?_⟩
    · change Timed (irIsr s.priv tv).priv _
      rw [hedge]
      exact ⟨hnext.reading, hnext.spaced⟩
    · intro hnone
      change (if (decode s.priv (edgeWidth s.priv tv)).scheduled then some 0
        else since.map (· + edgeWidth s.priv tv)) = none at hnone
      split_ifs at hnone with hscheduled
      obtain ⟨hpending, hrunning⟩ := hbefore (Option.map_eq_none_iff.mp hnone)
      refine ⟨?_, hrunning⟩
      change (s.pending || (irIsr s.priv tv).scheduled) = false
      rw [hedge, hpending]
      simpa using hscheduled
    · intro w hw
      rw [ops_edge]
      split_ifs with hscheduled
      · refine ⟨hw.idle_iff.mpr ?_, trivial⟩
        cases since with
        | none => exact hbefore rfl
        | some t => exact he t rfl (hspacing hscheduled t rfl)
      · trivial
  | start =>
    refine ⟨?_, fun w _ => ⟨trivial, trivial⟩⟩
    by_cases hstart : s.pending ∧ ¬ s.running
    · have hstep : stepTimed (s, since) .start =
          ({ s with pending := false, running := true }, since) := Prod.ext (if_pos hstart) rfl
      rw [hstep]
      exact ⟨htimed, fun hnone => absurd (hbefore hnone).1 (by simp [hstart.1])⟩
    · have hstep : stepTimed (s, since) .start = (s, since) := Prod.ext (if_neg hstart) rfl
      rw [hstep]
      exact ⟨htimed, hbefore⟩
  | produce =>
    refine ⟨?_, fun w _ => ⟨trivial, trivial⟩⟩
    by_cases hrunning : s.running = true
    · have hstep : stepTimed (s, since) .produce =
          ({ s with running := false, events := s.events ++ irProduce s.priv.dataOk }, since) :=
        Prod.ext (if_pos hrunning) rfl
      rw [hstep]
      exact ⟨htimed, fun hnone => absurd (hbefore hnone).2 (by simp [hrunning])⟩
    · have hstep : stepTimed (s, since) .produce = (s, since) := Prod.ext (if_neg hrunning) rfl
      rw [hstep]
      exact ⟨htimed, hbefore⟩

/-- Work that is done in time is scheduled only when it is idle. -/
theorem onTime_trace {x : Receiver × Option ℕ} {w : Worker (BitVec 32)} (h : Punctual x)
    (hw : Simulates x.1 w) {es : List Event} (hes : AllSteps stepTimed InTime x es) :
    AllSteps Worker.step OnTime w (trace x.1 es) := by
  induction es generalizing x w with
  | nil => trivial
  | cons e es ih =>
    obtain ⟨he, hrest⟩ := hes
    obtain ⟨hnext, hops⟩ := punctual_step h e he
    rw [trace, allSteps_append]
    exact ⟨hops w hw, ih hnext (simulates_step hw e) hrest⟩

theorem punctual_powerOn : Punctual (powerOn, none) := ⟨timed_powerUp, fun _ => ⟨rfl, rfl⟩⟩

/-- The codes that the edges of a run give. -/
def runCodes (es : List Event) : List (BitVec 32) :=
  scheduledCodes powerUp (edgeWidths powerUp (times es))

/-- Work that is done in time reports each code once; the last may still be due. -/
theorem reports_exact {es : List Event} (h : AllSteps stepTimed InTime (powerOn, none) es) :
    ∃ reads, (run Receiver.step powerOn es).events = reads.flatMap irProduce ∧
      runCodes es = reads ++ if (run Receiver.step powerOn es).Idle then []
        else [(run Receiver.step powerOn es).priv.dataOk] := by
  have hsim := simulates_run simulates_powerOn es
  have hcodes := scheduled_trace powerOn (Worker.idle powerUp.dataOk) es
  have hexact := exact_run powerUp.dataOk (onTime_trace punctual_powerOn simulates_powerOn h)
  refine ⟨_, hsim.events, ?_⟩
  have hscheduled := hexact.scheduled
  rw [hsim.register] at hscheduled
  simp only [hsim.idle_iff] at hscheduled
  rw [Worker.idle] at hscheduled hcodes
  exact hcodes.symm.trans hscheduled

/-- In every order of edges and work the codes that are reported are scheduled ones, coalesced
into later ones where the work is late, and never is the last one missed. Work that is done
within the time between two reports reports each of them once. -/
theorem key_reports (es : List Event) :
    (∃ reads, (run Receiver.step powerOn es).events = reads.flatMap irProduce ∧
      Coalesced (runCodes es) reads ∧
      ((run Receiver.step powerOn es).Idle → reads.getLast? = (runCodes es).getLast?)) ∧
    (AllSteps stepTimed InTime (powerOn, none) es →
      ∃ reads, (run Receiver.step powerOn es).events = reads.flatMap irProduce ∧
        runCodes es = reads ++ if (run Receiver.step powerOn es).Idle then []
          else [(run Receiver.step powerOn es).priv.dataOk]) := by
  refine ⟨?_, reports_exact⟩
  have hsim := simulates_run simulates_powerOn es
  have hcodes := scheduled_trace powerOn (Worker.idle powerUp.dataOk) es
  have hinv := coalesced_run powerUp.dataOk (trace powerOn es)
  rw [Worker.idle] at hcodes
  rw [Worker.idle] at hinv
  refine ⟨_, hsim.events, ?_, fun hidle => ?_⟩
  · have hcoalesced := hinv.coalesced
    rw [hcodes] at hcoalesced
    exact hcoalesced
  · have hcurrent := hinv.current (hsim.idle_iff.mpr hidle)
    rw [hcodes] at hcurrent
    exact hcurrent

end Runs

end GMediaRender.KeyReports
