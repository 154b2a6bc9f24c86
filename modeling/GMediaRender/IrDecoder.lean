import GMediaRender.Runs
import Mathlib.Algebra.Group.Int.Defs
import Mathlib.Data.Int.Notation
import Mathlib.Data.Nat.Notation

/-!
The interrupt handler of the infra-red receiver, ir_lg_input.c. It is called at every edge of
the signal; what it decodes are the widths between the edges, in microseconds.
-/
namespace GMediaRender.IrDecoder

open Runs

def clkErr : ℕ := 100
def clkHeaderPulse : ℕ := 9000
def clkHeaderSpace : ℕ := 4500
def clkRepeatSpace : ℕ := 2300
def clkDataPulse : ℕ := 510
def clkData1Space : ℕ := 1750
def clkData0Space : ℕ := 600
def clkGap : ℕ := 96400

def dataBits : ℤ := 16
def dataPreBits : ℤ := 16
def skipRepeat : ℤ := 2

/-- The states STATE_…, and 0 for none of them. -/
inductive IrState where
  | none
  | headerPulse
  | headerSpace
  | repeatPulse
  | repeatSpace
  | dataPulse
  | dataSpace
  | gap
  deriving DecidableEq

structure Timeval where
  tvSec : ℤ
  tvUsec : ℤ
  deriving DecidableEq

/-- `struct ir_private`; its data are registers of 32 bits. -/
structure IrPrivate where
  idx : ℤ
  state : IrState
  data : BitVec 32
  dataOk : BitVec 32
  repeats : ℤ
  baseTime : Timeval
  deriving DecidableEq

/-- The static `ir_priv` before the first edge. -/
def powerUp : IrPrivate := ⟨0, .none, 0, 0, 0, ⟨0, 0⟩⟩

/-- What an edge does: the new state, whether `data_ok` is written and whether a key report
is scheduled. -/
structure Edge where
  priv : IrPrivate
  written : Bool
  scheduled : Bool
  deriving DecidableEq

/-- The width is a nominal one up to the tolerance. -/
def within (nominal width : ℕ) : Bool :=
  width ≥ nominal - clkErr && width ≤ nominal + clkErr

theorem within_iff {nominal width : ℕ} : within nominal width = true ↔
    nominal - clkErr ≤ width ∧ width ≤ nominal + clkErr := by
  simp [within]

namespace IrPrivate

variable (p : IrPrivate)

/-- Go to a state, with nothing to report. -/
def goto (state : IrState) : Edge := ⟨{ p with state := state }, false, false⟩

def shiftIn (bit : Bool) : IrPrivate :=
  { p with data := if bit then p.data <<< 1 ||| 1 else p.data <<< 1, idx := p.idx + 1 }

end IrPrivate

/-- The part of `ir_isr` after the width has been taken. -/
def decode (p : IrPrivate) (width : ℕ) : Edge :=
  if width > clkGap + clkErr then p.goto .headerPulse
  else match p.state with
    | .headerPulse =>
      if within clkHeaderPulse width then p.goto .headerSpace else p.goto .none
    | .headerSpace =>
      if within clkHeaderSpace width then
        { p with idx := 0, data := 0, repeats := 0 }.goto .dataPulse
      else if within clkRepeatSpace width then p.goto .repeatPulse
      else p.goto .none
    | .repeatPulse =>
      if within clkDataPulse width then p.goto .repeatSpace else p.goto .none
    | .repeatSpace =>
      if width > clkHeaderPulse + clkErr ∧ width ≤ clkGap + clkErr then
        ⟨{ p with state := .headerPulse, repeats := p.repeats + 1 }, false,
          p.repeats + 1 > skipRepeat⟩
      else p.goto .none
    | .dataPulse =>
      if within clkDataPulse width then
        if p.idx ≥ dataPreBits + dataBits then
          ⟨{ p with state := .repeatSpace, dataOk := p.data }, true, true⟩
        else p.goto .dataSpace
      else p.goto .none
    | .dataSpace =>
      if within clkData1Space width then (p.shiftIn true).goto .dataPulse
      else if within clkData0Space width then (p.shiftIn false).goto .dataPulse
      else p.goto .none
    | .none | .gap => ⟨p, false, false⟩

/-- The space that stands for a bit. -/
def clkSpace (bit : Bool) : ℕ := if bit then clkData1Space else clkData0Space

/-- What an edge can do. -/
inductive Decoded (p : IrPrivate) (w : ℕ) : Edge → Prop
  | gap (hw : w > clkGap + clkErr) : Decoded p w (p.goto .headerPulse)
  | lost : Decoded p w (p.goto .none)
  | ignored (hst : p.state = .none ∨ p.state = .gap) : Decoded p w ⟨p, false, false⟩
  | header (hst : p.state = .headerPulse) (hw : within clkHeaderPulse w = true) :
      Decoded p w (p.goto .headerSpace)
  | start (hst : p.state = .headerSpace) (hw : within clkHeaderSpace w = true) :
      Decoded p w ({ p with idx := 0, data := 0, repeats := 0 }.goto .dataPulse)
  | repeatSpace (hst : p.state = .headerSpace) (hw : within clkRepeatSpace w = true) :
      Decoded p w (p.goto .repeatPulse)
  | repeatPulse (hst : p.state = .repeatPulse) (hw : within clkDataPulse w = true) :
      Decoded p w (p.goto .repeatSpace)
  | repeated (hst : p.state = .repeatSpace) (hw : clkHeaderPulse + clkErr < w)
      (hgap : w ≤ clkGap + clkErr) : Decoded p w
        ⟨{ p with state := .headerPulse, repeats := p.repeats + 1 }, false,
          p.repeats + 1 > skipRepeat⟩
  | pulse (hst : p.state = .dataPulse) (hw : within clkDataPulse w = true) (hidx : p.idx < 32) :
      Decoded p w (p.goto .dataSpace)
  | last (hst : p.state = .dataPulse) (hw : within clkDataPulse w = true) (hidx : 32 ≤ p.idx) :
      Decoded p w ⟨{ p with state := .repeatSpace, dataOk := p.data }, true, true⟩
  | bit (bit : Bool) (hst : p.state = .dataSpace) (hw : within (clkSpace bit) w = true) :
      Decoded p w ((p.shiftIn bit).goto .dataPulse)

theorem decode_decoded (p : IrPrivate) (w : ℕ) : Decoded p w (decode p w) := by
  unfold decode
  by_cases hgap : w > clkGap + clkErr
  · rw [if_pos hgap]
    exact .gap hgap
  · rw [if_neg hgap]
    cases hst : p.state with
    | none => exact .ignored (Or.inl hst)
    | gap => exact .ignored (Or.inr hst)
    | headerPulse =>
      simp only
      split_ifs with hw
      · exact .header hst hw
      · exact .lost
    | headerSpace =>
      simp only
      split_ifs with hw hw'
      · exact .start hst hw
      · exact .repeatSpace hst hw'
      · exact .lost
    | repeatPulse =>
      simp only
      split_ifs with hw
      · exact .repeatPulse hst hw
      · exact .lost
    | repeatSpace =>
      simp only
      split_ifs with hw
      · exact .repeated hst hw.1 hw.2
      · exact .lost
    | dataPulse =>
      have hbits : dataPreBits + dataBits = 32 := rfl
      simp only [hbits]
      split_ifs with hw hidx
      · exact .last hst hw (by omega)
      · exact .pulse hst hw (by omega)
      · exact .lost
    | dataSpace =>
      simp only
      split_ifs with hone hzero
      · exact .bit true hst hone
      · exact .bit false hst hzero
      · exact .lost

/-- The state after a sequence of widths. -/
def decoded (p : IrPrivate) (widths : List ℕ) : IrPrivate :=
  run (fun p w => (decode p w).priv) p widths

section Times

/-- The microseconds since the last edge, as an unsigned int. -/
def edgeWidth (p : IrPrivate) (tv : Timeval) : ℕ :=
  ((1000000 * (tv.tvSec - p.baseTime.tvSec) + tv.tvUsec - p.baseTime.tvUsec) % 2 ^ 32).toNat

/-- `ir_isr` at a time of day. -/
def irIsr (p : IrPrivate) (tv : Timeval) : Edge := decode { p with baseTime := tv } (edgeWidth p tv)

/-- The time is kept for the width of the next edge. -/
def IrPrivate.setTime (p : IrPrivate) (tv : Timeval) : IrPrivate := { p with baseTime := tv }

/-- The widths that a sequence of edges gives. -/
def edgeWidths (p : IrPrivate) : List Timeval → List ℕ
  | [] => []
  | tv :: tvs => edgeWidth p tv :: edgeWidths (p.setTime tv) tvs

variable (p : IrPrivate) (tv : Timeval)

@[simp] theorem setTime_setTime (tv' : Timeval) : (p.setTime tv').setTime tv = p.setTime tv := rfl

/-- It has no part in the decoding. -/
theorem decode_setTime (w : ℕ) : decode (p.setTime tv) w =
    ⟨(decode p w).priv.setTime tv, (decode p w).written, (decode p w).scheduled⟩ := by
  obtain ⟨idx, state, data, dataOk, repeats, baseTime⟩ := p
  unfold decode IrPrivate.setTime
  by_cases hgap : w > clkGap + clkErr
  · simp only [if_pos hgap, IrPrivate.goto]
  · simp only [if_neg hgap]
    cases state <;> simp only [IrPrivate.goto, IrPrivate.shiftIn] <;> split_ifs <;> rfl

theorem decoded_setTime (ws : List ℕ) : decoded (p.setTime tv) ws = (decoded p ws).setTime tv := by
  induction ws generalizing p with
  | nil => rfl
  | cons w ws ih =>
    have hstep : (decode (p.setTime tv) w).priv = (decode p w).priv.setTime tv := by
      rw [decode_setTime]
    have hrest := ih (decode p w).priv
    rw [← hstep] at hrest
    exact hrest

theorem irIsr_eq : irIsr p tv =
    ⟨(decode p (edgeWidth p tv)).priv.setTime tv, (decode p (edgeWidth p tv)).written,
      (decode p (edgeWidth p tv)).scheduled⟩ :=
  decode_setTime p tv _

theorem edgeWidths_congr {q : IrPrivate} (h : p.baseTime = q.baseTime) (tvs : List Timeval) :
    edgeWidths p tvs = edgeWidths q tvs := by
  induction tvs generalizing p q with
  | nil => rfl
  | cons tv tvs ih =>
    have htail := ih (p.setTime tv) (q := q.setTime tv) rfl
    simp only [edgeWidths, edgeWidth, h, htail]

/-- The handler decodes the widths between the edges. -/
theorem run_irIsr (tvs : List Timeval) : ∃ last,
    run (fun p tv => (irIsr p tv).priv) p tvs = (decoded p (edgeWidths p tvs)).setTime last := by
  induction tvs generalizing p with
  | nil => exact ⟨p.baseTime, rfl⟩
  | cons tv tvs ih =>
    have hstep : (irIsr p tv).priv = (decode p (edgeWidth p tv)).priv.setTime tv := by
      rw [irIsr_eq]
    have hwidths : edgeWidths ((decode p (edgeWidth p tv)).priv.setTime tv) tvs =
        edgeWidths (p.setTime tv) tvs := by
      apply edgeWidths_congr
      rfl
    obtain ⟨last, hlast⟩ := ih ((decode p (edgeWidth p tv)).priv.setTime tv)
    refine ⟨last, ?_⟩
    rw [run_cons, hstep, hlast, decoded_setTime, hwidths, setTime_setTime]
    rfl

end Times

end GMediaRender.IrDecoder
