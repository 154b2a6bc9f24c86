import GMediaRender.OutputSilan

/-!
The wait for the reply to a data request, for every limit on the number of waits. The result
is taken from the count alone, so that a reply during the last wait is reported as missing.
-/
namespace GMediaRender.ReplyWaits

open OutputSilan

section Send

variable (retry : ℕ) (env : Env) (d : SilanData) (cmd : Cmd) (param : ℤ) (data : Option String)

/-- A command without a bit returns without waiting. -/
theorem sendCmdRetry_none (hbit : cmd.bit = none) :
    (sendCmdRetry retry env d cmd param data).rc = (if (env cmd).msgsnd then 0 else -1) ∧
      (sendCmdRetry retry env d cmd param data).waits = 0 := by
  simp only [sendCmdRetry, hbit]
  split_ifs <;> exact ⟨rfl, rfl⟩

/-- The status after a request that was sent, its result and the number of its waits. -/
theorem sendCmdRetry_bit {b : StatusBit} (hbit : cmd.bit = some b)
    (hsnd : (env cmd).msgsnd = true) :
    ((sendCmdRetry retry env d cmd param data).data.status b = false ↔
      ∃ k p, (env cmd).reply = some (k, p) ∧ k ≤ retry) ∧
    ((sendCmdRetry retry env d cmd param data).rc = 0 ↔
      ∃ k p, (env cmd).reply = some (k, p) ∧ k < retry) ∧
    (sendCmdRetry retry env d cmd param data).waits ≤ retry := by
  have hset : ((d.setStatus b true).record
      ⟨cmd, param, data, (env cmd).msgsnd⟩).status b = true := by
    simp [SilanData.record]
  generalize hasked : (d.setStatus b true).record ⟨cmd, param, data, (env cmd).msgsnd⟩ = asked
    at hset
  simp only [sendCmdRetry, hbit, hsnd, if_true]
  rw [hsnd] at hasked
  rw [hasked]
  cases hreply : (env cmd).reply with
  | none =>
    simp [arrive, waitData_eq hbit _ _ _ _ hset, hset]
  | some r =>
    obtain ⟨k, p⟩ := r
    have hclear := storeData_status hbit asked p
    by_cases hzero : k = 0
    · subst hzero
      simp only [arrive, if_true]
      rw [waitData_of_clear _ _ _ _ _ hclear]
      simp [hclear, Nat.pos_iff_ne_zero]
    · simp only [arrive, hzero, if_false]
      rw [waitData_eq hbit _ _ _ _ hset]
      by_cases hin : k ≤ retry
      · have hrange : 0 < k ∧ k ≤ 0 + retry := by omega
        simp only [if_pos hrange, hclear]
        simp [hin]
      · have hrange : ¬ (0 < k ∧ k ≤ 0 + retry) := by omega
        simp only [if_neg hrange, hset]
        simp [hin]
        omega

end Send

section Main

variable (retry : ℕ) (env : Env) (d : SilanData) (cmd : Cmd) (param : ℤ) (data : Option String)

/-- A request that was sent returns 0 exactly if its reply has come, after no more waits than
allowed; another command returns at once. -/
structure ReportsReply : Prop where
  reply : ∀ b, cmd.bit = some b → (env cmd).msgsnd = true →
    ((sendCmdRetry retry env d cmd param data).rc = 0 ↔
      (sendCmdRetry retry env d cmd param data).data.status b = false)
  waits : (sendCmdRetry retry env d cmd param data).waits ≤ retry
  other : cmd.bit = none → (env cmd).msgsnd = true →
    (sendCmdRetry retry env d cmd param data).rc = 0 ∧
      (sendCmdRetry retry env d cmd param data).waits = 0

/-- The result is right unless the reply to a request comes during the last wait. -/
theorem reportsReply_iff : ReportsReply retry env d cmd param data ↔
    (cmd.bit.isSome = true → (env cmd).msgsnd = true → ∀ p, (env cmd).reply ≠ some (retry, p)) := by
  cases hbit : cmd.bit with
  | none =>
    have hresult := sendCmdRetry_none retry env d cmd param data hbit
    refine iff_of_true ⟨fun b hb => by simp [hbit] at hb, by rw [hresult.2]; exact Nat.zero_le _,
      fun _ hsnd => ⟨?_, hresult.2⟩⟩ (by simp)
    rw [hresult.1, hsnd]
    rfl
  | some b =>
    by_cases hsnd : (env cmd).msgsnd = true
    · obtain ⟨hclear, hrc, hwaits⟩ := sendCmdRetry_bit retry env d cmd param data hbit hsnd
      simp only [Option.isSome_some, hsnd, forall_const]
      constructor
      · intro h p hlast
        obtain ⟨k, q, hreply, hlt⟩ := hrc.mp
          ((h.reply b hbit hsnd).mpr (hclear.mpr ⟨retry, p, hlast, Nat.le_refl _⟩))
        rw [hlast] at hreply
        cases hreply
        exact Nat.lt_irrefl _ hlt
      · intro hlast
        refine ⟨fun b' hb' _ => ?_, hwaits, fun hnone => by simp [hbit] at hnone⟩
        obtain rfl : b = b' := Option.some.inj (hbit.symm.trans hb')
        rw [hrc, hclear]
        refine exists₂_congr fun k p => and_congr_right fun hreply => ?_
        have hne : k ≠ retry := fun heq => hlast p (by rw [hreply, heq])
        omega
    · have hwaits : (sendCmdRetry retry env d cmd param data).waits = 0 := by
        simp [sendCmdRetry, hsnd]
      refine iff_of_true ⟨fun _ _ h => absurd h hsnd, by rw [hwaits]; exact Nat.zero_le _,
        fun _ h => absurd h hsnd⟩ fun _ h => absurd h hsnd

/-- The reply to a request for the position comes during the tenth wait of ten. -/
theorem not_reportsReply_last : ¬ ReportsReply silanRecvRetry
    (fun _ => ⟨true, some (silanRecvRetry, 0)⟩) (outputSilanInit (fun _ => ⟨true, none⟩) 0 0 0)
    .slmpGetTimePos 0 none := by
  intro h
  exact absurd (h.reply .dataPosition rfl rfl) (by decide)

end Main

end GMediaRender.ReplyWaits
