import GMediaRender.IrFrames

/-!
Long silences. A width has 32 bits, so that a silence of more than 71 minutes can look like a
short pulse and leave the decoder out of step.
-/
namespace GMediaRender.IrSilence

open IrDecoder IrFrames Runs

/-- The microseconds between the last edge and a time of day. -/
def distance (p : IrPrivate) (tv : Timeval) : ℤ :=
  1000000 * (tv.tvSec - p.baseTime.tvSec) + (tv.tvUsec - p.baseTime.tvUsec)

/-- The decoder expects a header, and decodes a frame that follows. -/
structure Resynchronised (p : IrPrivate) : Prop where
  state : p.state = .headerPulse
  frame : ∀ code ws w, IsFrame code (ws ++ [w]) → Edge.Reports (decode (decoded p ws) w) code

/-- The width that is taken of a silence shows that it is one, or ends a repeat code. -/
def ShowsSilence (p : IrPrivate) (tv : Timeval) : Prop :=
  distance p tv % 2 ^ 32 > clkGap + clkErr ∨
    p.state = .repeatSpace ∧ distance p tv % 2 ^ 32 > clkHeaderPulse + clkErr

instance (p : IrPrivate) (tv : Timeval) : Decidable (ShowsSilence p tv) :=
  inferInstanceAs (Decidable (_ ∨ _ ∧ _))

/-- A width is the distance in 32 bits. -/
theorem edgeWidth_eq (p : IrPrivate) (tv : Timeval) :
    (edgeWidth p tv : ℤ) = distance p tv % 2 ^ 32 := by
  have hsum : 1000000 * (tv.tvSec - p.baseTime.tvSec) + tv.tvUsec - p.baseTime.tvUsec =
      distance p tv := Int.add_sub_assoc ..
  rw [edgeWidth, hsum]
  exact Int.toNat_of_nonneg (Int.emod_nonneg _ (by decide))

/-- The decoder comes to expect a header after a gap, and after the gap behind a repeat code. -/
theorem decode_state_iff {p : IrPrivate} {w : ℕ} : (decode p w).priv.state = .headerPulse ↔
    w > clkGap + clkErr ∨ p.state = .repeatSpace ∧ w > clkHeaderPulse + clkErr := by
  by_cases hgap : w > clkGap + clkErr
  · rw [decode_gap p hgap]
    exact iff_of_true rfl (Or.inl hgap)
  have hedge := decode_decoded p w
  cases hst : p.state with
  | repeatSpace =>
    rw [decode, if_neg hgap]
    simp only [hst]
    by_cases hw : w > clkHeaderPulse + clkErr ∧ w ≤ clkGap + clkErr
    · rw [if_pos hw]
      exact iff_of_true rfl (Or.inr ⟨trivial, hw.1⟩)
    · rw [if_neg hw]
      refine iff_of_false (by simp [IrPrivate.goto]) ?_
      omega
  | _ =>
    refine iff_of_false ?_ (by simp [hgap])
    generalize decode p w = e at hedge ⊢
    cases hedge <;> simp_all [IrPrivate.goto, IrPrivate.shiftIn]

theorem irIsr_state_iff (p : IrPrivate) (tv : Timeval) :
    (irIsr p tv).priv.state = .headerPulse ↔ ShowsSilence p tv := by
  have hstate : (irIsr p tv).priv.state = .headerPulse ↔
      edgeWidth p tv > clkGap + clkErr ∨
        p.state = .repeatSpace ∧ edgeWidth p tv > clkHeaderPulse + clkErr := decode_state_iff
  rw [hstate, ShowsSilence, ← edgeWidth_eq p tv]
  exact or_congr (by omega) (and_congr_right fun _ => by omega)

theorem resynchronised_of_state {p : IrPrivate} (h : p.state = .headerPulse) :
    Resynchronised p :=
  ⟨h, fun _ _ _ hframe => reports_of_frame h hframe⟩

/-- The edge after a silence resynchronises the decoder exactly when its width shows the
silence; this is so of edges at every distance. -/
theorem resynchronised_iff (p : IrPrivate) (tv : Timeval) :
    Resynchronised (irIsr p tv).priv ↔ ShowsSilence p tv := by
  rw [← irIsr_state_iff]
  exact ⟨fun h => h.state, resynchronised_of_state⟩

/-- 2^32 microseconds and a little: the silence is taken for a short pulse and lost on the
decoder. -/
theorem not_resynchronised_wrapped :
    distance powerUp ⟨4294, 967796⟩ > clkGap + clkErr ∧
      ¬ Resynchronised (irIsr powerUp ⟨4294, 967796⟩).priv := by
  refine ⟨by decide, fun h => ?_⟩
  exact absurd h.state (by decide)

end GMediaRender.IrSilence
