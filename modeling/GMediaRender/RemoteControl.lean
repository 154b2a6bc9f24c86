import GMediaRender.IrRepeats
import GMediaRender.KeyReports
import GMediaRender.RendererSystem

/-!
From the signal of a remote control to the keys of the renderer. A press is a frame, the repeat
codes that follow while the key is held, and silence; the driver turns it into input events, and
`output_silan_loop` reads these one by one while actions and messages go on. The input core keeps
every event until it is read: the loop is never so late that evdev drops some (more than 64).
-/
namespace GMediaRender.RemoteControl

open IrDecoder IrFrames IrRepeats KeyReports RendererSystem OutputSilan Runs

section Signal

/-- The widths of a press with a number of repeat codes, up to the silence after it. -/
inductive IsPress (code : BitVec 32) : ℕ → List ℕ → Prop
  | frame {frame : List ℕ} (h : IsFrame code frame) (silence : ℕ)
      (hsilence : silence > clkGap + clkErr) : IsPress code 0 (frame ++ [silence])
  | held {frame : List ℕ} (h : IsFrame code frame) {n : ℕ} {held : List ℕ} (hheld : IsHeld n held)
      {last : List ℕ} (hlast : IsRepeat last) (silence : ℕ)
      (hsilence : silence > clkGap + clkErr) :
      IsPress code (n + 1) (frame ++ (held ++ (last ++ [silence])))

/-- The widths of one press after the other; each is a code with its number of repeats. -/
inductive IsSignal : List (BitVec 32 × ℕ) → List ℕ → Prop
  | nil : IsSignal [] []
  | cons {code : BitVec 32} {n : ℕ} {press ws : List ℕ} {presses : List (BitVec 32 × ℕ)}
      (h : IsPress code n press) (hrest : IsSignal presses ws) :
      IsSignal ((code, n) :: presses) (press ++ ws)

/-- The code of a press is reported at its frame and from the third repeat on. -/
def pressCodes (press : BitVec 32 × ℕ) : List (BitVec 32) :=
  List.replicate (1 + (press.2 - 2)) press.1

variable {p : IrPrivate}

theorem scheduledCodes_snoc (ws : List ℕ) (w : ℕ) : scheduledCodes p (ws ++ [w]) =
    scheduledCodes p ws ++ if (decode (decoded p ws) w).scheduled
      then [(decode (decoded p ws) w).priv.dataOk] else [] := by
  rw [scheduledCodes_append]
  simp [scheduledCodes]

/-- Nothing is reported while the bits are read. -/
theorem scheduledCodes_start (hst : p.state = .headerPulse) {bits : List Bool} {start : List ℕ}
    (h : IsStart bits start) (hlen : bits.length ≤ 32) : scheduledCodes p start = [] := by
  obtain ⟨header, space, pairs, rfl, hheader, hspace, hbits⟩ := h.split
  induction hbits with
  | nil =>
    simp only [scheduledCodes, decode_headerPulse hst hheader]
    rw [decode_headerSpace rfl hspace]
    rfl
  | @snoc bits ws bit pulse last hbits hpulse hlast ih =>
    simp only [List.length_append, List.length_cons, List.length_nil] at hlen
    have hbefore : IsStart bits (header :: space :: ws) :=
      ⟨header, space, ws, rfl, hheader, hspace, hbits⟩
    have hprev := decoded_start hst hbefore (by omega)
    have hsplit : header :: space :: (ws ++ [pulse, last]) =
        (header :: space :: ws) ++ [pulse] ++ [last] := by simp
    have hroom : (bits.length : ℤ) < 32 := by omega
    rw [hsplit, scheduledCodes_snoc, scheduledCodes_snoc, ih (by omega) hbefore, decoded_snoc,
      hprev, decode_dataPulse rfl hpulse hroom, decode_dataSpace bit rfl hlast]
    rfl

/-- A whole frame, from the header on. -/
theorem decoded_frame (hst : p.state = .headerPulse) {code : BitVec 32} {frame : List ℕ}
    (h : IsFrame code frame) : scheduledCodes p frame = [code] ∧
      decoded p frame = { p with
        state := .repeatSpace, idx := 32, data := code, dataOk := code, repeats := 0 } := by
  obtain ⟨start, pulse, rfl, hstart, hpulse⟩ := h.split
  have hlen := length_codeBits code
  have hprev := decoded_start hst hstart hlen.le
  rw [scheduledCodes_snoc, scheduledCodes_start hst hstart hlen.le, decoded_snoc, hprev,
    decode_lastPulse rfl hpulse (by simp [hlen]), hlen, shifted_codeBits]
  exact ⟨rfl, rfl⟩

theorem decode_repeatSpace (hst : p.state = .headerSpace) {w : ℕ}
    (h : within clkRepeatSpace w = true) : decode p w = p.goto .repeatPulse := by
  have hheader : ¬ within clkHeaderSpace w = true := by
    simp only [within_iff, clkRepeatSpace, clkHeaderSpace, clkErr] at h ⊢
    omega
  rw [decode, if_neg (not_gap_of_within h (by decide))]
  simp [hst, h, hheader]

theorem decode_repeatPulse (hst : p.state = .repeatPulse) {w : ℕ}
    (h : within clkDataPulse w = true) : decode p w = p.goto .repeatSpace := by
  rw [decode, if_neg (not_gap_of_within h (by decide))]
  simp only [hst, h, if_true]

theorem decode_repeated (hst : p.state = .repeatSpace) {w : ℕ} (h : IsGap w) : decode p w =
    ⟨{ p with state := .headerPulse, repeats := p.repeats + 1 }, false,
      p.repeats + 1 > skipRepeat⟩ := by
  rw [decode, if_neg (Nat.not_lt.mpr h.2)]
  simp only [hst, if_pos (show w > clkHeaderPulse + clkErr ∧ w ≤ clkGap + clkErr from h)]

/-- A repeat code, from the header on. -/
theorem decoded_repeat (hst : p.state = .headerPulse) {ws : List ℕ} (h : IsRepeat ws) :
    scheduledCodes p ws = [] ∧ decoded p ws = { p with state := .repeatSpace } := by
  obtain ⟨header, space, pulse, rfl, hheader, hspace, hpulse⟩ := h.split
  simp only [scheduledCodes, decoded, run_cons, run_nil, decode_headerPulse hst hheader]
  rw [decode_repeatSpace rfl hspace, decode_repeatPulse rfl hpulse]
  exact ⟨rfl, rfl⟩

/-- While a key is held, its code is reported from the third gap on. -/
theorem decoded_held (hst : p.state = .repeatSpace) (hclear : p.repeats = 0) {n : ℕ}
    {ws : List ℕ} (h : IsHeld n ws) :
    scheduledCodes p ws = List.replicate (n + 1 - 2) p.dataOk ∧
      decoded p ws = { p with state := .headerPulse, repeats := n + 1 } := by
  induction h with
  | gap w hw =>
    simp only [scheduledCodes, decoded, run_cons, run_nil, decode_repeated hst hw, hclear]
    exact ⟨rfl, rfl⟩
  | @code n ws code h hcode w hw ih =>
    obtain ⟨hcodes, hprev⟩ := ih
    obtain ⟨hquiet, hread⟩ := decoded_repeat (p := decoded p ws) (by rw [hprev]) hcode
    have hlast : decoded p (ws ++ code) =
        { p with state := .repeatSpace, repeats := n + 1 } := by
      rw [decoded, run_append]
      exact hread.trans (by rw [hprev])
    rw [scheduledCodes_snoc, decoded_snoc, hlast, scheduledCodes_append, hcodes, hquiet,
      decode_repeated rfl hw]
    refine ⟨?_, by simp⟩
    change List.replicate (n + 1 - 2) p.dataOk ++ [] ++
      (if decide ((n : ℤ) + 1 + 1 > 2) = true then [p.dataOk] else []) = _
    rw [List.append_nil]
    by_cases hmany : 2 ≤ n + 1
    · have hcount : n + 1 + 1 - 2 = (n + 1 - 2) + 1 := by omega
      rw [if_pos (by simp; omega), hcount, List.replicate_succ']
    · have hcount : n + 1 + 1 - 2 = n + 1 - 2 := by omega
      rw [if_neg (by simp; omega), hcount, List.append_nil]

/-- After a press the decoder expects the next one. -/
theorem decoded_press (hst : p.state = .headerPulse) {code : BitVec 32} {n : ℕ} {ws : List ℕ}
    (h : IsPress code n ws) : scheduledCodes p ws = pressCodes (code, n) ∧
      (decoded p ws).state = .headerPulse := by
  have hsilent : ∀ q : IrPrivate, ∀ silence, silence > clkGap + clkErr →
      scheduledCodes q [silence] = [] ∧ (decoded q [silence]).state = .headerPulse := by
    intro q silence hsilence
    simp [scheduledCodes, decoded, decode_gap q hsilence, IrPrivate.goto]
  cases h with
  | frame h silence hsilence =>
    obtain ⟨hcodes, -⟩ := decoded_frame hst h
    obtain ⟨hquiet, hnext⟩ := hsilent (decoded p _) silence hsilence
    rw [scheduledCodes_append, hcodes, hquiet, decoded, run_append]
    exact ⟨rfl, hnext⟩
  | @held frame h n held hheld last hlast silence hsilence =>
    obtain ⟨hcodes, hframe⟩ := decoded_frame hst h
    obtain ⟨hrepeats, hprev⟩ := decoded_held (p := decoded p frame) (by rw [hframe])
      (by rw [hframe]) hheld
    obtain ⟨hnone, -⟩ := decoded_repeat (p := decoded (decoded p frame) held) (by rw [hprev]) hlast
    obtain ⟨hquiet, hnext⟩ :=
      hsilent (decoded (decoded (decoded p frame) held) last) silence hsilence
    rw [scheduledCodes_append, scheduledCodes_append, scheduledCodes_append, hcodes, hrepeats,
      hnone, hquiet, hframe, decoded, run_append, run_append, run_append]
    refine ⟨?_, hnext⟩
    rw [pressCodes, Nat.add_comm 1, List.replicate_succ]
    simp

/-- The codes that are reported of a signal. -/
theorem decoded_signal {presses : List (BitVec 32 × ℕ)} {ws : List ℕ} (h : IsSignal presses ws)
    (hst : p.state = .headerPulse) : scheduledCodes p ws = presses.flatMap pressCodes := by
  induction h generalizing p with
  | nil => rfl
  | cons h hrest ih =>
    obtain ⟨hcodes, hnext⟩ := decoded_press hst h
    rw [scheduledCodes_append, hcodes, ih hnext, List.flatMap_cons]

end Signal

section Loop

/-- The key that `output_silan_loop` acts on at an input event. -/
def inputKey : InputEvent → Option Key
  | .key code value =>
    if value ≠ 1 then none
    else match code with
      | .radio => some .radio
      | .volumeUp => some .volumeUp
      | .volumeDown => some .volumeDown
      | .mute => some .mute
      | _ => none
  | .syn => none

def eventKey : RendererSystem.Event → Option Key
  | .key k _ => some k
  | .action .. | .message .. | .idlePass .. => none

/-- The renderer with the driver of its receiver, of whose events some have been read; the others
all wait in the input core. -/
structure System where
  receiver : Receiver
  consumed : ℕ
  renderer : Renderer

/-- A step of the driver, a read of `output_silan_loop`, or an event that is no key. -/
inductive Step where
  | receiver (e : KeyReports.Event)
  | loop (env : Env)
  | other (e : RendererSystem.Event) (h : eventKey e = none)

/-- What the renderer does with an input event. -/
def inputEvents (ev : InputEvent) (env : Env) : List RendererSystem.Event :=
  (inputKey ev).toList.map fun k => .key k env

def System.step (s : System) : Step → System
  | .receiver e => { s with receiver := s.receiver.step e }
  | .loop env =>
    match s.receiver.events[s.consumed]? with
    | none => s
    | some ev =>
      { s with
        consumed := s.consumed + 1
        renderer := run Renderer.step s.renderer (inputEvents ev env) }
  | .other e _ => { s with renderer := s.renderer.step e }

def receiverEvents : List Step → List KeyReports.Event
  | [] => []
  | .receiver e :: es => e :: receiverEvents es
  | .loop _ :: es | .other _ _ :: es => receiverEvents es

def otherEvents : List Step → List RendererSystem.Event
  | [] => []
  | .other e _ :: es => e :: otherEvents es
  | .loop _ :: es | .receiver _ :: es => otherEvents es

theorem receiver_run (s : System) (es : List Step) :
    (run System.step s es).receiver = run Receiver.step s.receiver (receiverEvents es) := by
  induction es generalizing s with
  | nil => rfl
  | cons e es ih =>
    rw [run_cons, ih]
    cases e with
    | receiver e => rfl
    | other e h => rfl
    | loop env =>
      simp only [System.step, receiverEvents]
      split <;> rfl

/-- The renderer has taken the other events and, in between, the keys that have been read. -/
structure Driven (r : Renderer) (others : List RendererSystem.Event) (s : System) : Prop where
  consumed : s.consumed ≤ s.receiver.events.length
  events : ∃ events, s.renderer = run Renderer.step r events ∧
    events.filter (fun e => eventKey e = none) = others ∧
    events.filterMap eventKey = (s.receiver.events.take s.consumed).filterMap inputKey

theorem events_step (s : Receiver) (e : KeyReports.Event) :
    ∃ more, (s.step e).events = s.events ++ more := by
  cases e with
  | edge tv => exact ⟨[], by simp [Receiver.step]⟩
  | start =>
    refine ⟨[], ?_⟩
    simp only [Receiver.step]
    split_ifs <;> simp
  | produce =>
    simp only [Receiver.step]
    split_ifs
    · exact ⟨_, rfl⟩
    · exact ⟨[], by simp⟩

theorem filter_inputEvents (ev : InputEvent) (env : Env) :
    (inputEvents ev env).filter (fun e => eventKey e = none) = [] ∧
      (inputEvents ev env).filterMap eventKey = (inputKey ev).toList := by
  unfold inputEvents
  cases inputKey ev <;> exact ⟨rfl, rfl⟩

theorem driven_step {r : Renderer} {others : List RendererSystem.Event} {s : System}
    (h : Driven r others s) (e : Step) : Driven r (others ++ otherEvents [e]) (s.step e) := by
  obtain ⟨hconsumed, events, hrun, hothers, hkeys⟩ := h
  cases e with
  | receiver e =>
    obtain ⟨more, hmore⟩ := events_step s.receiver e
    have htake : ((s.receiver.step e).events).take s.consumed =
        s.receiver.events.take s.consumed := by
      rw [hmore, List.take_append_of_le_length hconsumed]
    refine ⟨?_, events, hrun, by simp [otherEvents, hothers], ?_⟩
    · simp only [System.step, hmore, List.length_append]
      omega
    · simp only [System.step, htake]
      exact hkeys
  | loop env =>
    simp only [System.step]
    cases hev : s.receiver.events[s.consumed]? with
    | none => exact ⟨hconsumed, events, hrun, by simp [otherEvents, hothers], hkeys⟩
    | some ev =>
      obtain ⟨hnone, hkey⟩ := filter_inputEvents ev env
      have hlt : s.consumed < s.receiver.events.length := (List.getElem?_eq_some_iff.mp hev).1
      refine ⟨hlt, events ++ inputEvents ev env, ?_, ?_, ?_⟩
      · rw [run_append, ← hrun]
      · rw [List.filter_append, hnone, hothers]
        rfl
      · have hone : [ev].filterMap inputKey = (inputKey ev).toList := by
          cases hcase : inputKey ev <;> simp [hcase]
        rw [List.filterMap_append, hkeys, hkey, List.take_add_one, hev, List.filterMap_append,
          Option.toList_some, hone]
  | other e hother =>
    refine ⟨hconsumed, events ++ [e], ?_, ?_, ?_⟩
    · rw [run_append, ← hrun]
      rfl
    · simp [List.filter_append, hothers, hother, otherEvents]
    · rw [List.filterMap_append, hkeys]
      simp [hother, System.step]

theorem otherEvents_cons (e : Step) (es : List Step) :
    otherEvents (e :: es) = otherEvents [e] ++ otherEvents es := by
  cases e <;> rfl

theorem driven_run {r : Renderer} {others : List RendererSystem.Event} {s : System}
    (h : Driven r others s) (es : List Step) :
    Driven r (others ++ otherEvents es) (run System.step s es) := by
  induction es generalizing others s with
  | nil => simpa [otherEvents] using h
  | cons e es ih =>
    rw [run_cons, otherEvents_cons, ← List.append_assoc]
    exact ih (driven_step h e)

end Loop

section Presses

/-- The key of the renderer that a code stands for. -/
def codeKey (code : BitVec 32) : Option Key :=
  (findKey code).bind fun key => inputKey (.key key 1)

def pressKeys (press : BitVec 32 × ℕ) : List Key := (pressCodes press).filterMap codeKey

/-- Only the first of the three events of a report is a key press. -/
theorem filterMap_irProduce (code : BitVec 32) :
    (irProduce code).filterMap inputKey = (codeKey code).toList := by
  unfold irProduce codeKey
  cases findKey code with
  | none => rfl
  | some key =>
    have hreleased : inputKey (.key key 0) = none := by simp [inputKey]
    have hsyn : inputKey .syn = none := rfl
    cases hpressed : inputKey (.key key 1) <;> simp [hpressed, hreleased, hsyn]

theorem filterMap_reports (reads : List (BitVec 32)) :
    (reads.flatMap irProduce).filterMap inputKey = reads.filterMap codeKey := by
  induction reads with
  | nil => rfl
  | cons code reads ih =>
    rw [List.flatMap_cons, List.filterMap_append, filterMap_irProduce, ih]
    cases hkey : codeKey code <;> simp [hkey]

/-- The keys of a signal that the receiver has reported when its work was always done in time. -/
theorem reported_keys {presses : List (BitVec 32 × ℕ)} {silence : ℕ} {ws : List ℕ}
    (hsilence : silence > clkGap + clkErr) (h : IsSignal presses ws) {es : List KeyReports.Event}
    (hwidths : edgeWidths powerUp (times es) = silence :: ws)
    (htime : AllSteps stepTimed InTime (powerOn, none) es) :
    (run Receiver.step powerOn es).events.filterMap inputKey <+: presses.flatMap pressKeys ∧
      ((run Receiver.step powerOn es).Idle →
        (run Receiver.step powerOn es).events.filterMap inputKey = presses.flatMap pressKeys) := by
  obtain ⟨reads, hevents, hcodes⟩ := reports_exact htime
  have hsignal : runCodes es = presses.flatMap pressCodes := by
    rw [runCodes, hwidths, scheduledCodes, decode_gap powerUp hsilence, decoded_signal h rfl]
    rfl
  have hkeys : presses.flatMap pressKeys = (runCodes es).filterMap codeKey := by
    rw [hsignal, List.filterMap_flatMap]
    rfl
  rw [hevents, filterMap_reports, hkeys, hcodes, List.filterMap_append]
  refine ⟨List.prefix_append _ _, fun hidle => ?_⟩
  rw [if_pos hidle]
  simp

/-- Pressing keys is taking them as steps of the renderer: for every signal, in whatever order
the edges, the driver's work, the reads of the loop and the other events come, the renderer
takes the keys of the presses in their order, each as often as it was reported, and all of them
once the driver is idle and its events are read. The input core drops no event. -/
theorem presses_are_steps {presses : List (BitVec 32 × ℕ)} {silence : ℕ} {ws : List ℕ}
    (hsilence : silence > clkGap + clkErr) (h : IsSignal presses ws) (r : Renderer)
    {es : List Step} (hwidths : edgeWidths powerUp (times (receiverEvents es)) = silence :: ws)
    (htime : AllSteps stepTimed InTime (powerOn, none) (receiverEvents es)) :
    ∃ events, (run System.step ⟨powerOn, 0, r⟩ es).renderer = run Renderer.step r events ∧
      events.filter (fun e => eventKey e = none) = otherEvents es ∧
      events.filterMap eventKey <+: presses.flatMap pressKeys ∧
      ((run System.step ⟨powerOn, 0, r⟩ es).receiver.Idle →
        (run System.step ⟨powerOn, 0, r⟩ es).consumed =
          (run System.step ⟨powerOn, 0, r⟩ es).receiver.events.length →
        events.filterMap eventKey = presses.flatMap pressKeys) := by
  have hstart : Driven r [] ⟨powerOn, 0, r⟩ := ⟨Nat.le_refl _, [], rfl, rfl, rfl⟩
  obtain ⟨-, events, hrun, hothers, hkeys⟩ := driven_run hstart es
  obtain ⟨hinitial, hall⟩ := reported_keys hsilence h hwidths htime
  have hreceiver := receiver_run ⟨powerOn, 0, r⟩ es
  rw [hreceiver] at hkeys
  refine ⟨events, hrun, hothers, ?_, fun hidle hconsumed => ?_⟩
  · rw [hkeys]
    exact ((List.take_prefix _ _).filterMap _).trans hinitial
  · rw [hreceiver] at hidle hconsumed
    rw [hkeys, hconsumed, List.take_length]
    exact hall hidle

theorem isBits_nominal (bits : List Bool) :
    IsBits bits (bits.flatMap fun bit => [clkDataPulse, clkSpace bit]) := by
  induction bits using List.reverseRecOn with
  | nil => exact .nil
  | append_singleton bits bit ih =>
    rw [List.flatMap_append, List.flatMap_singleton]
    exact ih.snoc bit _ _ (by decide) (by cases bit <;> decide)

theorem isFrame_nominal (code : BitVec 32) : IsFrame code (nominalFrame code) :=
  ⟨_, _, rfl, ⟨_, _, _, rfl, by decide, by decide, isBits_nominal _⟩, by decide⟩

/-- The edges at which widths have passed from a time on. -/
def edgesFrom (usec : ℕ) : List ℕ → List KeyReports.Event
  | [] => []
  | w :: ws => .edge ⟨0, usec + w⟩ :: edgesFrom (usec + w) ws

/-- The volume key is pressed once; the work is done before the silence ends. -/
def volumePress : List Step :=
  ((edgesFrom 0 (200000 :: nominalFrame 0x20DF40BF)).map .receiver ++
    [.receiver .start, .receiver .produce, .loop allSent]) ++
    ((edgesFrom 267930 [200000]).map .receiver ++ [.loop allSent, .loop allSent])

theorem presses_are_steps_volume : ∃ events,
    (run System.step ⟨powerOn, 0, startUp allSent 0 50 0⟩ volumePress).renderer =
      run Renderer.step (startUp allSent 0 50 0) events ∧
    events.filterMap eventKey = [.volumeUp] := by
  have hsignal : IsSignal [(0x20DF40BF, 0)] ((nominalFrame 0x20DF40BF ++ [200000]) ++ []) :=
    .cons (.frame (isFrame_nominal _) 200000 (by decide)) .nil
  have hwidths : edgeWidths powerUp (times (receiverEvents volumePress)) =
      200000 :: ((nominalFrame 0x20DF40BF ++ [200000]) ++ []) := by decide +kernel
  obtain ⟨events, hrun, -, -, hall⟩ := presses_are_steps (by decide) hsignal
    (startUp allSent 0 50 0) hwidths (by decide +kernel)
  refine ⟨events, hrun, ?_⟩
  rw [hall (by decide +kernel) (by decide +kernel)]
  decide +kernel

end Presses

end GMediaRender.RemoteControl
