import GMediaRender.IrDecoder
import Mathlib.Data.List.GetD
import Mathlib.Data.List.Induction
import Mathlib.Data.List.OfFn

/-!
The frames of the infra-red decoder: a header, the 32 bits of a code and a last pulse, each
width up to the tolerance. The decoder writes its code at the end of such a frame and nowhere
else, and a gap followed by a frame is decoded from every state.
-/
namespace GMediaRender.IrFrames

open IrDecoder Runs

section Format

/-- The pulses and spaces of a sequence of bits. -/
inductive IsBits : List Bool → List ℕ → Prop
  | nil : IsBits [] []
  | snoc {bits : List Bool} {ws : List ℕ} (bit : Bool) (pulse space : ℕ) (h : IsBits bits ws)
      (hpulse : within clkDataPulse pulse = true) (hspace : within (clkSpace bit) space = true) :
      IsBits (bits ++ [bit]) (ws ++ [pulse, space])

/-- A header and the bits after it. -/
structure IsStart (bits : List Bool) (ws : List ℕ) : Prop where
  split : ∃ pulse space pairs, ws = pulse :: space :: pairs ∧
    within clkHeaderPulse pulse = true ∧ within clkHeaderSpace space = true ∧ IsBits bits pairs

/-- The bits of a code, most significant first. -/
def codeBits (code : BitVec 32) : List Bool := List.ofFn fun i : Fin 32 => code.getMsbD i

/-- The widths of a whole frame. -/
structure IsFrame (code : BitVec 32) (ws : List ℕ) : Prop where
  split : ∃ start pulse, ws = start ++ [pulse] ∧ IsStart (codeBits code) start ∧
    within clkDataPulse pulse = true

variable {bits : List Bool} {ws : List ℕ}

theorem IsBits.length (h : IsBits bits ws) : ws.length = 2 * bits.length := by
  induction h with
  | nil => rfl
  | snoc bit pulse space _ _ _ ih =>
    simp only [List.length_append, List.length_cons, List.length_nil, ih]
    omega

/-- Two pulses and spaces for the header and for each bit, and a last pulse. -/
theorem IsFrame.length {code : BitVec 32} (h : IsFrame code ws) : ws.length = 67 := by
  obtain ⟨start, pulse, rfl, ⟨header, space, pairs, rfl, -, -, hbits⟩, -⟩ := h.split
  have hpairs := hbits.length
  simp only [codeBits, List.length_ofFn] at hpairs
  simp only [List.length_append, List.length_cons, List.length_nil, hpairs]

theorem IsStart.snoc (h : IsStart bits ws) (bit : Bool) (pulse space : ℕ)
    (hpulse : within clkDataPulse pulse = true) (hspace : within (clkSpace bit) space = true) :
    IsStart (bits ++ [bit]) (ws ++ [pulse, space]) := by
  obtain ⟨header, first, pairs, rfl, hheader, hfirst, hbits⟩ := h.split
  exact ⟨header, first, pairs ++ [pulse, space], by simp, hheader, hfirst,
    hbits.snoc bit pulse space hpulse hspace⟩

end Format

section Register

/-- What the register holds after a sequence of bits. -/
def shifted (bits : List Bool) : BitVec 32 :=
  bits.foldl (fun data bit => if bit then data <<< 1 ||| 1 else data <<< 1) 0

@[simp] theorem shifted_snoc (bits : List Bool) (bit : Bool) : shifted (bits ++ [bit]) =
    if bit then shifted bits <<< 1 ||| 1 else shifted bits <<< 1 := by
  simp [shifted]

theorem shift_getLsbD (data : BitVec 32) (bit : Bool) (i : ℕ) (hi : i < 32) :
    (if bit then data <<< 1 ||| 1 else data <<< 1 : BitVec 32).getLsbD i =
      if i = 0 then bit else data.getLsbD (i - 1) := by
  by_cases hzero : i = 0
  · subst hzero
    cases bit <;> simp
  · have hprev : i - 1 < 32 := by omega
    cases bit <;> simp [hi, hzero, BitVec.getLsbD_eq_getElem hprev]

/-- The last bits shifted in are the lowest. -/
theorem shifted_getLsbD (bits : List Bool) (i : ℕ) (hi : i < 32) :
    (shifted bits).getLsbD i = bits.reverse.getD i false := by
  induction bits using List.reverseRecOn generalizing i with
  | nil => simp [shifted]
  | append_singleton bits bit ih =>
    rw [shifted_snoc, shift_getLsbD _ _ _ hi, List.reverse_append]
    cases i with
    | zero => rfl
    | succ i =>
      have hprev : i < 32 := by omega
      simp [ih i hprev]

/-- Thirty-two bits are the bits of what they leave in the register. -/
theorem codeBits_shifted (bits : List Bool) (h : bits.length = 32) :
    codeBits (shifted bits) = bits := by
  apply List.ext_getElem
  · simp [codeBits, h]
  · intro i hi hi'
    have hlt : i < 32 := by omega
    simp only [codeBits, List.getElem_ofFn, BitVec.getMsbD_eq_getLsbD, hlt, decide_true,
      Bool.true_and]
    rw [shifted_getLsbD bits _ (by omega), List.getD_eq_getElem _ _ (by simp; omega),
      List.getElem_reverse]
    congr 1
    omega

theorem length_codeBits (code : BitVec 32) : (codeBits code).length = 32 := by simp [codeBits]

theorem codeBits_injective {code code' : BitVec 32} (h : codeBits code = codeBits code') :
    code = code' := by
  apply BitVec.eq_of_getMsbD_eq
  intro i hi
  exact congrFun (List.ofFn_injective h) ⟨i, hi⟩

theorem shifted_codeBits (code : BitVec 32) : shifted (codeBits code) = code :=
  codeBits_injective (codeBits_shifted _ (length_codeBits code))

end Register

section Steps

variable {p : IrPrivate} {w : ℕ}

/-- A nominal width is no gap. -/
theorem not_gap_of_within {nominal : ℕ} (h : within nominal w = true) (hn : nominal ≤ clkGap) :
    ¬ w > clkGap + clkErr := by
  rw [within_iff] at h
  omega

theorem decode_gap (p : IrPrivate) (h : w > clkGap + clkErr) :
    decode p w = p.goto .headerPulse := by
  rw [decode, if_pos h]

theorem decode_headerPulse (hst : p.state = .headerPulse) (h : within clkHeaderPulse w = true) :
    decode p w = p.goto .headerSpace := by
  rw [decode, if_neg (not_gap_of_within h (by decide))]
  simp only [hst, h, if_true]

theorem decode_headerSpace (hst : p.state = .headerSpace) (h : within clkHeaderSpace w = true) :
    decode p w = { p with idx := 0, data := 0, repeats := 0 }.goto .dataPulse := by
  rw [decode, if_neg (not_gap_of_within h (by decide))]
  simp only [hst, h, if_true]

theorem decode_dataPulse (hst : p.state = .dataPulse) (h : within clkDataPulse w = true)
    (hidx : p.idx < 32) : decode p w = p.goto .dataSpace := by
  have hmore : ¬ p.idx ≥ dataPreBits + dataBits := by
    simp only [dataPreBits, dataBits]
    omega
  rw [decode, if_neg (not_gap_of_within h (by decide))]
  simp only [hst, h, hmore, if_true, if_false]

theorem decode_lastPulse (hst : p.state = .dataPulse) (h : within clkDataPulse w = true)
    (hidx : 32 ≤ p.idx) :
    decode p w = ⟨{ p with state := .repeatSpace, dataOk := p.data }, true, true⟩ := by
  have hfull : p.idx ≥ dataPreBits + dataBits := by
    simp only [dataPreBits, dataBits]
    omega
  rw [decode, if_neg (not_gap_of_within h (by decide))]
  simp only [hst, h, hfull, if_true]

/-- The two spaces do not overlap. -/
theorem decode_dataSpace (bit : Bool) (hst : p.state = .dataSpace)
    (h : within (clkSpace bit) w = true) : decode p w = (p.shiftIn bit).goto .dataPulse := by
  rw [decode, if_neg (not_gap_of_within h (by cases bit <;> decide))]
  cases bit with
  | true =>
    have hone : within clkData1Space w = true := h
    simp only [hst, hone, if_true]
  | false =>
    have hzero : within clkData0Space w = true := h
    have hone : ¬ within clkData1Space w = true := by
      simp only [within_iff, clkData0Space, clkData1Space, clkErr] at hzero ⊢
      omega
    simp [hst, hzero, hone]

/-- The code is written at a last pulse only. -/
theorem written_cases (p : IrPrivate) (w : ℕ) :
    ((decode p w).written = false ∧ (decode p w).priv.dataOk = p.dataOk) ∨
      (p.state = .dataPulse ∧ within clkDataPulse w = true ∧ 32 ≤ p.idx) := by
  have hedge := decode_decoded p w
  generalize decode p w = e at hedge ⊢
  cases hedge with
  | last hst hw hidx => exact Or.inr ⟨hst, hw, hidx⟩
  | _ => exact Or.inl ⟨rfl, rfl⟩

end Steps

section Reading

/-- The decoder expects a header after these widths. -/
def AtHeader (ws : List ℕ) : Prop := (decoded powerUp ws).state = .headerPulse

/-- The registers hold the bits that were read. -/
structure Holds (p : IrPrivate) (bits : List Bool) : Prop where
  idx : p.idx = bits.length
  data : p.data = shifted bits
  room : bits.length ≤ 32

/-- The state tells what has been read of a frame. -/
def Reading (p : IrPrivate) (ws : List ℕ) : Prop :=
  match p.state with
  | .headerSpace => ∃ pre pulse, ws = pre ++ [pulse] ∧ AtHeader pre ∧
      within clkHeaderPulse pulse = true
  | .dataPulse => ∃ pre start bits, ws = pre ++ start ∧ AtHeader pre ∧ IsStart bits start ∧
      Holds p bits
  | .dataSpace => ∃ pre start bits pulse, ws = pre ++ start ++ [pulse] ∧ AtHeader pre ∧
      IsStart bits start ∧ Holds p bits ∧ p.idx < 32 ∧ within clkDataPulse pulse = true
  | _ => True

theorem reading_of_state {p : IrPrivate} (ws : List ℕ)
    (h : p.state ≠ .headerSpace ∧ p.state ≠ .dataPulse ∧ p.state ≠ .dataSpace) :
    Reading p ws := by
  obtain ⟨hheader, hpulse, hspace⟩ := h
  unfold Reading
  split <;> simp_all

theorem Holds.shiftIn {p : IrPrivate} {bits : List Bool} (h : Holds p bits) (bit : Bool)
    (hidx : p.idx < 32) : Holds ((p.shiftIn bit).goto .dataPulse).priv (bits ++ [bit]) := by
  have hlt : bits.length < 32 := by
    have := h.idx
    omega
  refine ⟨?_, ?_, ?_⟩
  · simp [IrPrivate.goto, IrPrivate.shiftIn, h.idx]
  · simp [IrPrivate.goto, IrPrivate.shiftIn, h.data]
  · simp only [List.length_append, List.length_cons, List.length_nil]
    omega

/-- Each edge reads on, or gives up. -/
theorem reading_step (ws : List ℕ) (w : ℕ) (h : Reading (decoded powerUp ws) ws) :
    Reading (decode (decoded powerUp ws) w).priv (ws ++ [w]) := by
  have hedge := decode_decoded (decoded powerUp ws) w
  generalize decode (decoded powerUp ws) w = e at hedge ⊢
  cases hedge with
  | header hst hw => exact ⟨ws, w, rfl, hst, hw⟩
  | start hst hw =>
    simp only [Reading, hst] at h
    obtain ⟨pre, pulse, hws, hpre, hpulse⟩ := h
    refine ⟨pre, [pulse, w], [], by simp [hws], hpre, ?_, ⟨rfl, rfl, by simp⟩⟩
    exact ⟨pulse, w, [], rfl, hpulse, hw, .nil⟩
  | pulse hst hw hidx =>
    simp only [Reading, hst] at h
    obtain ⟨pre, start, bits, hws, hpre, hstart, hholds⟩ := h
    exact ⟨pre, start, bits, w, by rw [hws], hpre, hstart,
      ⟨hholds.idx, hholds.data, hholds.room⟩, hidx, hw⟩
  | bit bit hst hw =>
    simp only [Reading, hst] at h
    obtain ⟨pre, start, bits, pulse, hws, hpre, hstart, hholds, hidx, hpulse⟩ := h
    exact ⟨pre, start ++ [pulse, w], bits ++ [bit], by simp [hws], hpre,
      hstart.snoc bit pulse w hpulse hw, hholds.shiftIn bit hidx⟩
  | ignored hst =>
    apply reading_of_state
    rcases hst with hst | hst <;> simp [hst]
  | _ => exact trivial

theorem decoded_snoc (p : IrPrivate) (ws : List ℕ) (w : ℕ) :
    decoded p (ws ++ [w]) = (decode (decoded p ws) w).priv := by
  simp [decoded]

theorem reading_decoded (ws : List ℕ) : Reading (decoded powerUp ws) ws := by
  induction ws using List.reverseRecOn with
  | nil => exact trivial
  | append_singleton ws w ih =>
    rw [decoded_snoc]
    exact reading_step ws w ih

/-- From the header on the bits are read into the registers, whatever was there. -/
theorem decoded_start {p : IrPrivate} (hst : p.state = .headerPulse) {bits : List Bool}
    {start : List ℕ} (h : IsStart bits start) (hlen : bits.length ≤ 32) :
    decoded p start = { p with
      state := .dataPulse, idx := bits.length, data := shifted bits, repeats := 0 } := by
  obtain ⟨header, space, pairs, rfl, hheader, hspace, hbits⟩ := h.split
  induction hbits with
  | nil =>
    simp only [decoded, run_cons, run_nil, decode_headerPulse hst hheader]
    rw [decode_headerSpace rfl hspace]
    rfl
  | @snoc bits ws bit pulse last hbits hpulse hlast ih =>
    simp only [List.length_append, List.length_cons, List.length_nil] at hlen
    have hprev := ih (by omega) ⟨header, space, ws, rfl, hheader, hspace, hbits⟩
    have hsplit : header :: space :: (ws ++ [pulse, last]) =
        (header :: space :: ws) ++ [pulse] ++ [last] := by simp
    rw [hsplit, decoded_snoc, decoded_snoc, hprev]
    have hroom : (bits.length : ℤ) < 32 := by omega
    rw [decode_dataPulse rfl hpulse hroom, decode_dataSpace bit rfl hlast]
    simp [IrPrivate.goto, IrPrivate.shiftIn]

end Reading

section Main

/-- A code is written, and a report of it is scheduled. -/
structure Edge.Reports (e : Edge) (code : BitVec 32) : Prop where
  written : e.written = true
  dataOk : e.priv.dataOk = code
  scheduled : e.scheduled = true

theorem reports_of_frame {p : IrPrivate} (hst : p.state = .headerPulse) {code : BitVec 32}
    {ws : List ℕ} {w : ℕ} (h : IsFrame code (ws ++ [w])) :
    Edge.Reports (decode (decoded p ws) w) code := by
  obtain ⟨start, pulse, hsplit, hstart, hpulse⟩ := h.split
  obtain ⟨rfl, hw⟩ := List.append_inj' hsplit rfl
  obtain rfl : w = pulse := by simpa using hw
  have hlen := length_codeBits code
  have hdecoded := decoded_start hst hstart hlen.le
  rw [hdecoded, decode_lastPulse rfl hpulse (by simp [hlen])]
  exact ⟨rfl, shifted_codeBits code, rfl⟩

theorem frame_of_written (ws : List ℕ) (w : ℕ)
    (h : (decode (decoded powerUp ws) w).written = true) : ∃ code pre frame,
      ws ++ [w] = pre ++ frame ∧ AtHeader pre ∧ IsFrame code frame := by
  rcases written_cases (decoded powerUp ws) w with ⟨hnot, -⟩ | ⟨hst, hw, hidx⟩
  · simp [h] at hnot
  · have hreading := reading_decoded ws
    simp only [Reading, hst] at hreading
    obtain ⟨pre, start, bits, hws, hpre, hstart, hholds⟩ := hreading
    have hlen : bits.length = 32 := by
      have hupper := hholds.room
      have hlower := hholds.idx
      omega
    refine ⟨shifted bits, pre, start ++ [w], by rw [hws, List.append_assoc], hpre, ?_⟩
    exact ⟨start, w, rfl, by rwa [codeBits_shifted bits hlen], hw⟩

/-- The edges at which the decoder writes a code are the ends of frames that start where it
expects a header, and the code is theirs; a frame after a gap is decoded from every state. -/
theorem decodes_frames :
    (∀ ws w, (decode (decoded powerUp ws) w).written = true ↔ ∃ code pre frame,
      ws ++ [w] = pre ++ frame ∧ frame.length = 67 ∧
        (decoded powerUp pre).state = .headerPulse ∧ IsFrame code frame) ∧
    (∀ ws w code pre frame, ws ++ [w] = pre ++ frame →
      (decoded powerUp pre).state = .headerPulse → IsFrame code frame →
        Edge.Reports (decode (decoded powerUp ws) w) code) ∧
    (∀ p w, (decode p w).written = false → (decode p w).priv.dataOk = p.dataOk) ∧
    (∀ p gap ws w code, gap > clkGap + clkErr → IsFrame code (ws ++ [w]) →
      Edge.Reports (decode (decoded p (gap :: ws)) w) code) := by
  have hframe : ∀ ws w code pre frame, ws ++ [w] = pre ++ frame →
      (decoded powerUp pre).state = .headerPulse → IsFrame code frame →
        Edge.Reports (decode (decoded powerUp ws) w) code := by
    intro ws w code pre frame hws hpre h
    obtain ⟨start, pulse, rfl, hsplit⟩ := h.split
    obtain ⟨rfl, hw⟩ := List.append_inj' (hws.trans (List.append_assoc ..).symm) rfl
    obtain rfl : w = pulse := by simpa using hw
    have hrun : decoded powerUp (pre ++ start) = decoded (decoded powerUp pre) start :=
      run_append _ _ _ _
    rw [hrun]
    exact reports_of_frame hpre h
  refine ⟨fun ws w => ⟨fun h => ?_, ?_⟩, hframe, fun p w h => ?_, ?_⟩
  · obtain ⟨code, pre, frame, hws, hpre, hcode⟩ := frame_of_written ws w h
    exact ⟨code, pre, frame, hws, hcode.length, hpre, hcode⟩
  · rintro ⟨code, pre, frame, hws, -, hpre, hcode⟩
    exact (hframe ws w code pre frame hws hpre hcode).written
  · rcases written_cases p w with ⟨-, hsame⟩ | ⟨hst, hw, hidx⟩
    · exact hsame
    · rw [decode_lastPulse hst hw hidx] at h
      cases h
  · intro p gap ws w code hgap h
    have hheader : (decode p gap).priv.state = .headerPulse := by
      rw [decode_gap p hgap]
      rfl
    exact reports_of_frame hheader h

end Main

end GMediaRender.IrFrames
