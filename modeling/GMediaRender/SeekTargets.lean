import GMediaRender.TimeFormat
import GMediaRender.UpnpTransport

/-!
What a Seek sends for its target. A time whose seconds fit an int is sought exactly; any other
target is sought as well, at whatever number the conversion leaves.
-/
namespace GMediaRender.SeekTargets

open XmlDoc StateVariables ActionRequest OutputSilan UpnpTime UpnpTransport TimeFormat

variable (env : Env) (s : AvTransport) (doc : Option (List Node))

/-- The message that seeks a number of seconds. -/
def seekCmd (seconds : ℤ) : SentCmd := ⟨.slmpSeek, seconds, none, (env .slmpSeek).msgsnd⟩

/-- The target of a Seek by relative time. -/
def relTimeTarget : Option String :=
  if argument doc "Unit" = some "REL_TIME" then argument doc "Target" else none

/-- The target that a Seek carries out: the one of a request that names an instance. -/
def soughtTarget : Option String :=
  if (argument doc "InstanceID").isSome then relTimeTarget doc else none

section Effect

variable {doc}

theorem relTimeTarget_of_sought {target : String} (h : target ∈ soughtTarget doc) :
    target ∈ relTimeTarget doc :=
  (Option.ite_none_right_eq_some.mp h).2

/-- A Seek with its arguments sends its target, and the position follows if that works. -/
theorem seek_of_sought {target : String} (h : target ∈ soughtTarget doc) :
    (seek env s (newRequest doc)).state =
      { s with
        silan := s.silan.record (seekCmd env (parseUpnpTime target))
        vars := if (env .slmpSeek).msgsnd then s.vars.replaceVar .relTimePos target
          else s.vars } := by
  obtain ⟨hid, hrel⟩ := Option.ite_none_right_eq_some.mp h
  obtain ⟨hunit, htarget⟩ := Option.ite_none_right_eq_some.mp hrel
  rw [seek, withInstanceid_some s doc _ hid,
    upnpGetString_of_some (newRequest doc) "Unit" "REL_TIME" hunit]
  simp only [if_true, upnpGetString_of_some (newRequest doc) "Target" target htarget,
    outputSilanSeek_eq, seekCmd]
  cases (env .slmpSeek).msgsnd <;> rfl

/-- Every other Seek leaves the service alone. -/
theorem seek_of_not_sought (h : soughtTarget doc = none) :
    (seek env s (newRequest doc)).state = s := by
  by_cases hid : (argument doc "InstanceID").isSome = true
  · rw [soughtTarget, if_pos hid, relTimeTarget] at h
    rw [seek, withInstanceid_some s doc _ hid]
    rcases upnpGetString_cases doc "Unit" with ⟨unit, hunit, hget⟩ | ⟨-, e, hget⟩
    · simp only [hget]
      split_ifs with hrel
      · rw [if_pos (by rw [hunit, hrel])] at h
        rcases upnpGetString_cases doc "Target" with ⟨target, htarget, -⟩ | ⟨-, e, htarget⟩
        · simp [h] at htarget
        · simp only [htarget]
      · rfl
    · simp only [hget]
  · exact withInstanceid_none s doc _ hid

end Effect

theorem errors_of_missing (body : ActionEvent → Handled AvTransport)
    (h : ¬ (argument doc "InstanceID").isSome = true) :
    (withInstanceid s (newRequest doc) body).event.errors ≠ [] := by
  obtain ⟨e, -, hfails⟩ := withInstanceid_missing s body (newRequest doc) h
  simp [hfails, upnpSetError]

section Main

/-- What a Seek sends and reports is right for its target. -/
structure SeeksTo (target : String) : Prop where
  time : ∀ t : TimeText, target = t.text →
    ((seek env s (newRequest doc)).event.errors ≠ [] ∧
        (seek env s (newRequest doc)).state.silan.sent = s.silan.sent) ∨
      (seek env s (newRequest doc)).state.silan.sent = s.silan.sent ++ [seekCmd env t.seconds]
  other : ¬ IsTime target → ∀ c ∈ (seek env s (newRequest doc)).state.silan.sent.drop
    s.silan.sent.length, c.cmd ≠ .slmpSeek

/-- The target can be carried out. -/
def Seekable (target : String) : Prop := ∃ t : TimeText, target = t.text ∧ t.seconds < 2 ^ 31

/-- A request for a target that is no time. -/
def noTimeRequest : Option (List Node) :=
  requestDoc "Seek" [("InstanceID", "0"), ("Unit", "REL_TIME"), ("Target", "abc")]

/-- The seconds of a text that fit are those of every time with that text. -/
theorem seconds_of_text_eq {t t' : TimeText} (h : t.text = t'.text) (hfits : t.seconds < 2 ^ 31) :
    t'.seconds = t.seconds := by
  have hscan := scanTime_text t
  rw [h, scanTime_text t'] at hscan
  simp only [Prod.mk.injEq, clampInt] at hscan
  simp only [TimeText.seconds] at hfits ⊢
  omega

theorem seeksTo_iff {target : String} (hrel : target ∈ relTimeTarget doc) :
    SeeksTo env s doc target ↔
      ((argument doc "InstanceID").isSome = true → Seekable target) := by
  by_cases hid : (argument doc "InstanceID").isSome = true
  · have hsought : target ∈ soughtTarget doc := by
      rw [soughtTarget, if_pos hid]
      exact hrel
    have hstate := seek_of_sought env s hsought
    simp only [hid, forall_const]
    constructor
    · intro h
      by_cases htime : IsTime target
      · obtain ⟨t, rfl⟩ := htime
        refine ⟨t, rfl, (parseUpnpTime_eq_seconds t).mp ?_⟩
        have hsent := h.time t rfl
        simpa [hstate, SilanData.record, seekCmd] using hsent
      · have hsent := h.other htime
        simp [hstate, SilanData.record, seekCmd] at hsent
    · rintro ⟨t, rfl, hfits⟩
      refine ⟨fun t' ht' => Or.inr ?_, fun hnot => absurd ⟨t, rfl⟩ hnot⟩
      rw [hstate, seconds_of_text_eq ht' hfits, (parseUpnpTime_eq_seconds t).mpr hfits]
      rfl
  · have hstate : (seek env s (newRequest doc)).state = s :=
      seek_of_not_sought env s (if_neg hid)
    have herrors : (seek env s (newRequest doc)).event.errors ≠ [] :=
      errors_of_missing s doc _ hid
    refine ⟨fun _ h => absurd h hid, fun _ => ⟨fun t _ => Or.inl ⟨herrors, by rw [hstate]⟩, ?_⟩⟩
    simp [hstate]

/-- A Seek does right by its target exactly when that is a time that fits, or there is none. -/
theorem seeksTo_iff_seekable :
    (∀ target ∈ relTimeTarget doc, SeeksTo env s doc target) ↔
      ∀ target ∈ soughtTarget doc, Seekable target := by
  constructor
  · intro h target hsought
    have hrel := relTimeTarget_of_sought hsought
    exact (seeksTo_iff env s doc hrel).mp (h target hrel)
      (Option.ite_none_right_eq_some.mp hsought).1
  · intro h target hrel
    refine (seeksTo_iff env s doc hrel).mpr fun hid => h target ?_
    rw [soughtTarget, if_pos hid]
    exact hrel

/-- A Seek to a target that is no time is sent all the same, to the start. -/
theorem sought_no_time : ¬ ∀ target ∈ relTimeTarget noTimeRequest,
    SeeksTo (fun _ => ⟨true, none⟩) ⟨.playing, ⟨transportDefaultValues, []⟩,
      outputSilanInit (fun _ => ⟨true, none⟩) 0 0 0⟩ noTimeRequest target := by
  intro h
  have hrel : "abc" ∈ relTimeTarget noTimeRequest := by decide
  obtain ⟨t, ht, -⟩ := (seeksTo_iff _ _ _ hrel).mp (h "abc" hrel) (by decide)
  exact not_isTime_of_no_colon (by decide) ⟨t, ht⟩

end Main

end GMediaRender.SeekTargets
