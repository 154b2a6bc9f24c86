import GMediaRender.IrFrames

/-!
Key repeats of the infra-red decoder. The repeat counter and the stored code survive a gap
that resynchronises the decoder, so that a repeat can be reported when the key it belongs to
has long been released.
-/
namespace GMediaRender.IrRepeats

open IrDecoder IrFrames Runs

section Format

/-- A gap before a repeat code, or after one. -/
def IsGap (w : ℕ) : Prop := clkHeaderPulse + clkErr < w ∧ w ≤ clkGap + clkErr

instance (w : ℕ) : Decidable (IsGap w) := inferInstanceAs (Decidable (_ ∧ _))

/-- The widths of a repeat code. -/
structure IsRepeat (ws : List ℕ) : Prop where
  split : ∃ header space pulse, ws = [header, space, pulse] ∧
    within clkHeaderPulse header = true ∧ within clkRepeatSpace space = true ∧
    within clkDataPulse pulse = true

/-- What a held key sends after its frame: a gap, and each repeat code with a gap after it. -/
inductive IsHeld : ℕ → List ℕ → Prop
  | gap (w : ℕ) (hw : IsGap w) : IsHeld 0 [w]
  | code {n : ℕ} {ws code : List ℕ} (h : IsHeld n ws) (hcode : IsRepeat code) (w : ℕ)
      (hw : IsGap w) : IsHeld (n + 1) (ws ++ code ++ [w])

theorem IsRepeat.le_gap {ws : List ℕ} (h : IsRepeat ws) : ∀ w ∈ ws, w ≤ clkGap + clkErr := by
  obtain ⟨header, space, pulse, rfl, hheader, hspace, hpulse⟩ := h.split
  have hle {nominal w : ℕ} (hw : within nominal w = true) (hn : nominal ≤ clkGap) :
      w ≤ clkGap + clkErr := Nat.le_of_not_gt (not_gap_of_within hw hn)
  intro w hw
  simp only [List.mem_cons, List.not_mem_nil, or_false] at hw
  rcases hw with rfl | rfl | rfl
  · exact hle hheader (by decide)
  · exact hle hspace (by decide)
  · exact hle hpulse (by decide)

/-- While a key is held no gap is wider than the one after a code. -/
theorem IsHeld.le_gap {n : ℕ} {ws : List ℕ} (h : IsHeld n ws) : ∀ w ∈ ws, w ≤ clkGap + clkErr := by
  induction h with
  | gap w hw =>
    intro v hv
    obtain rfl := List.mem_singleton.mp hv
    exact hw.2
  | code h hcode w hw ih =>
    intro v hv
    rcases List.mem_append.mp hv with hv | hv
    · rcases List.mem_append.mp hv with hv | hv
      · exact ih v hv
      · exact hcode.le_gap v hv
    · obtain rfl := List.mem_singleton.mp hv
      exact hw.2

end Format

section History

/-- The widths since the last accepted frame, which is where `data_ok` was last written. -/
def sinceFrame (since : Option (List ℕ)) (p : IrPrivate) (w : ℕ) : Option (List ℕ) :=
  if (decode p w).written then some [] else since.map (· ++ [w])

/-- The decoder with that history; there has been no frame at power-up. -/
def stepIsr : IrPrivate × Option (List ℕ) → ℕ → IrPrivate × Option (List ℕ) :=
  track (fun p w => (decode p w).priv) sinceFrame

def start : IrPrivate × Option (List ℕ) := (powerUp, none)

/-- A report that the repeat branch schedules is of a key that has been held since its frame. -/
def KeyHeld (s : IrPrivate × Option (List ℕ)) (w : ℕ) : Prop :=
  s.1.state = .repeatSpace → (decode s.1 w).scheduled = true →
    ∃ since n, s.2 = some since ∧ IsHeld n (since ++ [w]) ∧ skipRepeat ≤ n

/-- There has been no frame since power-up, or a wider gap since the last one. -/
def Released (since : Option (List ℕ)) : Prop :=
  ∀ ws, since = some ws → ∃ w ∈ ws, w > clkGap + clkErr

instance (since : Option (List ℕ)) : Decidable (Released since) :=
  match since with
  | none => isTrue fun _ h => nomatch h
  | some ws => decidable_of_iff (∃ w ∈ ws, w > clkGap + clkErr)
      ⟨fun h _ heq => Option.some.inj heq ▸ h, fun h => h ws rfl⟩

/-- When the key has been released, a gap after a repeat code finds fewer counted than are
skipped. -/
def Skipped (s : IrPrivate × Option (List ℕ)) (w : ℕ) : Prop :=
  Released s.2 → s.1.state = .repeatSpace → IsGap w → s.1.repeats < skipRepeat

instance (s : IrPrivate × Option (List ℕ)) (w : ℕ) : Decidable (Skipped s w) := by
  unfold Skipped
  infer_instance

end History

section Count

/-- What has been read since a frame, and how the repeat counter counts it. -/
def Chain (p : IrPrivate) (since : List ℕ) : Prop :=
  match p.state with
  | .headerPulse => ∃ n : ℕ, IsHeld n since ∧ p.repeats = n + 1
  | .headerSpace => ∃ (n : ℕ) (ws : List ℕ) (header : ℕ), since = ws ++ [header] ∧ IsHeld n ws ∧
      p.repeats = n + 1 ∧ within clkHeaderPulse header = true
  | .repeatPulse => ∃ (n : ℕ) (ws : List ℕ) (header space : ℕ), since = ws ++ [header, space] ∧
      IsHeld n ws ∧ p.repeats = n + 1 ∧ within clkHeaderPulse header = true ∧
      within clkRepeatSpace space = true
  | .repeatSpace => (since = [] ∧ p.repeats = 0) ∨ ∃ (n : ℕ) (ws code : List ℕ),
      since = ws ++ code ∧ IsHeld n ws ∧ p.repeats = n + 1 ∧ IsRepeat code
  | _ => True

/-- The counter is clear while a frame is read, and counts the gaps while a key is held. -/
structure Counting (s : IrPrivate × Option (List ℕ)) : Prop where
  reading : s.1.state = .dataPulse ∨ s.1.state = .dataSpace → s.1.repeats = 0
  chain : ∀ since, s.2 = some since → (∀ w ∈ since, w ≤ clkGap + clkErr) → Chain s.1 since

theorem stepIsr_mk (p : IrPrivate) (history : Option (List ℕ)) (w : ℕ) :
    stepIsr (p, history) w = ((decode p w).priv,
      if (decode p w).written then some [] else history.map (· ++ [w])) := rfl

/-- An edge that accepts no frame extends the history. -/
theorem Counting.extend {p q : IrPrivate} {history : Option (List ℕ)} {w : ℕ}
    (h : Counting (p, history)) (hq : q.state = .dataPulse ∨ q.state = .dataSpace → q.repeats = 0)
    (hnext : ∀ since, w ≤ clkGap + clkErr → Chain p since → Chain q (since ++ [w])) :
    Counting (q, history.map (· ++ [w])) := by
  refine ⟨hq, fun since hsince hle => ?_⟩
  obtain ⟨before, hbefore, rfl⟩ := Option.map_eq_some_iff.mp hsince
  have hw := hle w (List.mem_append_right _ List.mem_cons_self)
  have hold := h.chain before hbefore fun v hv => hle v (List.mem_append_left _ hv)
  exact hnext before hw hold

theorem counting_step (s : IrPrivate × Option (List ℕ)) (w : ℕ) (h : Counting s) :
    Counting (stepIsr s w) := by
  obtain ⟨p, history⟩ := s
  have hedge := decode_decoded p w
  rw [stepIsr_mk]
  generalize decode p w = e at hedge ⊢
  cases hedge with
  | gap hw =>
    refine h.extend (fun h => by simp [IrPrivate.goto] at h) fun since hle _ => ?_
    omega
  | lost =>
    exact h.extend (fun h => by simp [IrPrivate.goto] at h) fun _ _ _ => trivial
  | ignored hst =>
    refine h.extend h.reading fun since _ _ => ?_
    rcases hst with hst | hst <;> simp [Chain, hst]
  | header hst hw =>
    refine h.extend (fun h => by simp [IrPrivate.goto] at h) fun since _ hbefore => ?_
    simp only [Chain, hst] at hbefore
    obtain ⟨n, hheld, hcount⟩ := hbefore
    exact ⟨n, since, w, rfl, hheld, hcount, hw⟩
  | start hst hw =>
    exact h.extend (fun _ => rfl) fun _ _ _ => trivial
  | repeatSpace hst hw =>
    refine h.extend (fun h => by simp [IrPrivate.goto] at h) fun since _ hbefore => ?_
    simp only [Chain, hst] at hbefore
    obtain ⟨n, ws, header, rfl, hheld, hcount, hheader⟩ := hbefore
    exact ⟨n, ws, header, w, by simp, hheld, hcount, hheader, hw⟩
  | repeatPulse hst hw =>
    refine h.extend (fun h => by simp [IrPrivate.goto] at h) fun since _ hbefore => ?_
    simp only [Chain, hst] at hbefore
    obtain ⟨n, ws, header, space, rfl, hheld, hcount, hheader, hspace⟩ := hbefore
    exact Or.inr ⟨n, ws, [header, space, w], by simp, hheld, hcount,
      ⟨header, space, w, rfl, hheader, hspace, hw⟩⟩
  | repeated hst hw hgap =>
    refine h.extend (fun h => by simp at h) fun since _ hbefore => ?_
    simp only [Chain, hst] at hbefore
    rcases hbefore with ⟨rfl, hcount⟩ | ⟨n, ws, code, rfl, hheld, hcount, hcode⟩
    · exact ⟨0, .gap w ⟨hw, hgap⟩, by simp [hcount]⟩
    · exact ⟨n + 1, hheld.code hcode w ⟨hw, hgap⟩, by simp [hcount]⟩
  | pulse hst hw hidx =>
    exact h.extend (fun _ => h.reading (Or.inl hst)) fun _ _ _ => trivial
  | last hst hw hidx =>
    refine ⟨fun h => by simp at h, fun since hsince _ => ?_⟩
    obtain rfl := Option.some.inj hsince
    exact Or.inl ⟨rfl, h.reading (Or.inl hst)⟩
  | bit bit hst hw =>
    exact h.extend (fun _ => h.reading (Or.inr hst)) fun _ _ _ => trivial

/-- The repeat branch reports at a gap when enough repeats have been counted. -/
theorem scheduled_iff {p : IrPrivate} (hst : p.state = .repeatSpace) (w : ℕ) :
    (decode p w).scheduled = true ↔ IsGap w ∧ skipRepeat ≤ p.repeats := by
  by_cases hwide : w > clkGap + clkErr
  · rw [decode_gap p hwide]
    exact iff_of_false (by simp [IrPrivate.goto]) fun h => absurd h.1.2 (Nat.not_le_of_gt hwide)
  · rw [decode, if_neg hwide]
    simp only [hst]
    by_cases hgap : w > clkHeaderPulse + clkErr ∧ w ≤ clkGap + clkErr
    · simp only [if_pos hgap, decide_eq_true_eq, IsGap]
      omega
    · rw [if_neg hgap]
      exact iff_of_false (by simp [IrPrivate.goto]) fun h => hgap h.1

/-- A repeat is reported of a held key unless it is one that is counted after a release. -/
theorem keyHeld_iff (s : IrPrivate × Option (List ℕ)) (w : ℕ) (h : Counting s) :
    KeyHeld s w ↔ Skipped s w := by
  obtain ⟨p, history⟩ := s
  constructor
  · intro hkey hreleased hst hgap
    by_contra hmany
    obtain ⟨since, n, rfl, hheld, -⟩ :=
      hkey hst ((scheduled_iff hst w).mpr ⟨hgap, Int.le_of_not_gt hmany⟩)
    obtain ⟨v, hv, hwide⟩ := hreleased since rfl
    have hle := hheld.le_gap v (List.mem_append_left _ hv)
    omega
  · intro hskipped hst hscheduled
    obtain ⟨hgap, hmany⟩ := (scheduled_iff hst w).mp hscheduled
    have hnot : ¬ Released history := by
      intro hreleased
      have hfew := hskipped hreleased hst hgap
      simp only at hfew hmany
      omega
    simp only [Released, not_forall, not_exists, not_and] at hnot
    obtain ⟨since, rfl, hle⟩ := hnot
    have hchain := h.chain since rfl fun v hv => Nat.le_of_not_gt (hle v hv)
    simp only [Chain] at hchain hst hmany
    simp only [hst] at hchain
    simp only [skipRepeat] at hmany ⊢
    rcases hchain with ⟨-, hcount⟩ | ⟨n, ws, code, rfl, hheld, hcount, hcode⟩
    · omega
    · exact ⟨_, n + 1, rfl, hheld.code hcode w hgap, by omega⟩

theorem counting_start : Counting start where
  reading h := by simp [start, powerUp] at h
  chain _ h := nomatch h

end Count

section Runs

/-- The history is what follows the last frame. -/
theorem frame_of_history (ws since : List ℕ)
    (h : (run stepIsr start ws).2 = some since) : ∃ code pre frame,
      ws = pre ++ frame ++ since ∧ AtHeader pre ∧ IsFrame code frame := by
  induction ws using List.reverseRecOn generalizing since with
  | nil => exact nomatch h
  | append_singleton ws w ih =>
    have hdecoded : (run stepIsr start ws).1 = decoded powerUp ws := run_track_fst _ _ _ _
    rw [run_append, run_cons, run_nil, ← Prod.mk.eta (p := run stepIsr start ws), hdecoded,
      stepIsr_mk] at h
    by_cases hwritten : (decode (decoded powerUp ws) w).written = true
    · rw [if_pos hwritten] at h
      obtain rfl := Option.some.inj h
      obtain ⟨code, pre, frame, hws, hpre, hframe⟩ := frame_of_written ws w hwritten
      exact ⟨code, pre, frame, by rw [hws, List.append_nil], hpre, hframe⟩
    · rw [if_neg hwritten] at h
      obtain ⟨before, hbefore, rfl⟩ := Option.map_eq_some_iff.mp h
      obtain ⟨code, pre, frame, hws, hpre, hframe⟩ := ih before hbefore
      exact ⟨code, pre, frame, by rw [hws, List.append_assoc], hpre, hframe⟩

theorem keyHeld_run (ws : List ℕ) :
    AllSteps stepIsr KeyHeld start ws ↔ AllSteps stepIsr Skipped start ws :=
  allSteps_congr_of_invariant stepIsr counting_step keyHeld_iff counting_start ws

/-- Repeats are reported of held keys exactly in the runs in which no repeat is counted as far
as a report after a release. -/
theorem repeats_of_held_keys (ws : List ℕ) :
    (AllSteps stepIsr KeyHeld start ws ↔ AllSteps stepIsr Skipped start ws) ∧
      ∀ since, (run stepIsr start ws).2 = some since → ∃ code pre frame,
        ws = pre ++ frame ++ since ∧ (decoded powerUp pre).state = .headerPulse ∧
          IsFrame code frame :=
  ⟨keyHeld_run ws, frame_of_history ws⟩

/-- A frame with nominal widths. -/
def nominalFrame (code : BitVec 32) : List ℕ :=
  [clkHeaderPulse, clkHeaderSpace] ++
    (codeBits code).flatMap (fun bit => [clkDataPulse, clkSpace bit]) ++ [clkDataPulse]

def nominalRepeat : List ℕ := [clkHeaderPulse, clkRepeatSpace, clkDataPulse, clkGap]

/-- A frame, a long silence, and repeat codes without a frame. -/
def repeatsAfterRelease : List ℕ :=
  [200000] ++ nominalFrame 0x20DF40BF ++ [200000] ++
    nominalRepeat ++ nominalRepeat ++ nominalRepeat

/-- The last of the repeats reports a key that was released before the silence. -/
theorem reported_after_release :
    ¬ AllSteps stepIsr KeyHeld start repeatsAfterRelease := by
  intro h
  have hskipped := (keyHeld_run repeatsAfterRelease).mp h
  exact absurd hskipped (by decide +kernel)

end Runs

end GMediaRender.IrRepeats
