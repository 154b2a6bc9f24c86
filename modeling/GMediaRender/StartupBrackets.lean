import GMediaRender.Runs
import GMediaRender.ThreadTotals
import Mathlib.Tactic.SplitIfs

/-!
Action requests while the main thread still initialises the services. The device is
registered before `upnp_transport_init` and `upnp_control_init` set `last_change`, so
every test of the pointer in `handle_action_request`, `service_lock` and
`service_unlock` may have either outcome. A thread's local state records which of the
starts it has to match were really made.
-/
namespace GMediaRender.StartupBrackets

open Runs ThreadTotals

/-- The services whose `last_change` is set after the device has been registered. -/
inductive Service where
  | transport
  | control
  deriving DecidableEq

/-- Where a thread stands in `handle_action_request`; `sections` counts the pairs of
service_lock and service_unlock that the handler still has to run. The flags are history:
whether the first test of the request and the test in service_lock led to a start. -/
inductive Pc where
  | idle
  | enter (svc : Service) (sections : ℕ)
  | start (svc : Service) (sections : ℕ)
  | handler (svc : Service) (sections : ℕ) (outer : Bool)
  | locked (svc : Service) (sections : ℕ) (outer inner : Bool)
  | leave (svc : Service) (outer : Bool)
  | finish (svc : Service) (outer : Bool)
  deriving DecidableEq

/-- `last_change` of each service, NULL or a collector with its open_transactions; the
holders of the service mutexes; the threads; whether an assertion has failed. -/
structure State (τ : Type) where
  lastChange : Service → Option ℕ
  mutex : Service → Option τ
  pc : τ → Pc
  assertFailed : Bool

inductive Label (τ : Type) where
  | request (t : τ) (svc : Service) (sections : ℕ)
  | advance (t : τ)
  | main

variable {τ : Type} [DecidableEq τ]

def initial : State τ := ⟨fun _ => none, fun _ => none, fun _ => .idle, false⟩

namespace State

def goto (s : State τ) (t : τ) (q : Pc) : State τ := { s with pc := Function.update s.pc t q }

def setMutex (s : State τ) (svc : Service) (holder : Option τ) : State τ :=
  { s with mutex := Function.update s.mutex svc holder }

/-- `UPnPLastChangeCollector_start` -/
def collectorStart (s : State τ) (svc : Service) : State τ :=
  { s with lastChange := Function.update s.lastChange svc ((s.lastChange svc).map (· + 1)) }

/-- `UPnPLastChangeCollector_finish`, which asserts that a transaction is open. -/
def collectorFinish (s : State τ) (svc : Service) : State τ :=
  match s.lastChange svc with
  | some (n + 1) => { s with lastChange := Function.update s.lastChange svc (some n) }
  | _ => { s with assertFailed := true }

def serviceLock (s : State τ) (t : τ) (svc : Service) : State τ :=
  let s := s.setMutex svc (some t)
  if (s.lastChange svc).isSome then s.collectorStart svc else s

def serviceUnlock (s : State τ) (svc : Service) : State τ :=
  (if (s.lastChange svc).isSome then s.collectorFinish svc else s).setMutex svc none

/-- One step of a thread in `handle_action_request`; a thread waits for a taken mutex. -/
def advance (s : State τ) (t : τ) : State τ :=
  match s.pc t with
  | .idle => s
  | .enter svc n =>
    s.goto t (if (s.lastChange svc).isSome then .start svc n else .handler svc n false)
  | .start svc n =>
    if s.mutex svc = none then (s.collectorStart svc).goto t (.handler svc n true) else s
  | .handler svc 0 outer => s.goto t (.leave svc outer)
  | .handler svc (n + 1) outer =>
    if s.mutex svc = none
    then (s.serviceLock t svc).goto t (.locked svc n outer (s.lastChange svc).isSome)
    else s
  | .locked svc n outer _ => (s.serviceUnlock svc).goto t (.handler svc n outer)
  | .leave svc outer =>
    s.goto t (if (s.lastChange svc).isSome then .finish svc outer else .idle)
  | .finish svc _ =>
    if s.mutex svc = none then (s.collectorFinish svc).goto t .idle else s

/-- The service that the main thread initialises next. -/
def nextInit (s : State τ) : Option Service :=
  if s.lastChange .transport = none then some .transport
  else if s.lastChange .control = none then some .control
  else none

end State

/-- After a failed assertion nothing runs. -/
def step (s : State τ) (e : Label τ) : State τ :=
  if s.assertFailed then s
  else match e with
    | .request t svc n => if s.pc t = .idle then s.goto t (.enter svc n) else s
    | .advance t => s.advance t
    | .main =>
      match s.nextInit with
      | some svc => { s with lastChange := Function.update s.lastChange svc (some 0) }
      | none => s

namespace Pc

/-- The starts a thread has made for a service and not yet finished. -/
def opened (svc : Service) : Pc → ℕ
  | handler s _ outer | leave s outer | finish s outer => if s = svc then outer.toNat else 0
  | locked s _ outer inner => if s = svc then outer.toNat + inner.toNat else 0
  | _ => 0

/-- The thread is inside a bracket of the service whose start it skipped. -/
def skipped (svc : Service) : Pc → Bool
  | handler s _ outer | leave s outer | finish s outer => s = svc && !outer
  | locked s _ outer inner => s = svc && !(outer && inner)
  | _ => false

/-- The thread has found the pointer set and is about to use it. -/
def tested (svc : Service) : Pc → Bool
  | start s _ | finish s _ => s = svc
  | _ => false

end Pc

/-- Every open transaction belongs to a thread that will finish it, and every thread will
finish only transactions it has opened. -/
def Matched [Fintype τ] (lastChange : Service → Option ℕ) (pc : τ → Pc) : Prop :=
  ∀ svc, match lastChange svc with
    | none => ∀ t, (pc t).opened svc = 0 ∧ (pc t).tested svc = false
    | some n => n = total (Pc.opened svc) pc ∧ ∀ t, (pc t).skipped svc = false

/-- What one thread's move from `p` to `q` may do to a service's collector. -/
def LocalStep (svc : Service) (p q : Pc) : Option ℕ → Option ℕ → Prop
  | none, c => c = none ∧ q.opened svc = 0 ∧ q.tested svc = false
  | some n, c => ∃ m, c = some m ∧ m + p.opened svc = n + q.opened svc ∧ q.skipped svc = false

theorem Matched.move [Fintype τ] {lastChange lastChange' : Service → Option ℕ} {pc : τ → Pc}
    (h : Matched lastChange pc) (t : τ) (q : Pc)
    (hmove : ∀ svc, LocalStep svc (pc t) q (lastChange svc) (lastChange' svc)) :
    Matched lastChange' (Function.update pc t q) := by
  intro svc
  have hsvc := h svc
  have hloc := hmove svc
  cases hc : lastChange svc with
  | none =>
    rw [hc] at hsvc hloc
    obtain ⟨hc', hopened, htested⟩ := hloc
    rw [hc']
    intro u
    by_cases hu : u = t
    · subst hu
      simpa using ⟨hopened, htested⟩
    · simpa [hu] using hsvc u
  | some n =>
    rw [hc] at hsvc hloc
    obtain ⟨m, hc', hcount, hskipped⟩ := hloc
    obtain ⟨hn, hall⟩ := hsvc
    rw [hc']
    refine ⟨?_, ?_⟩
    · have htotal := total_update (Pc.opened svc) pc t q
      have hle := le_total (Pc.opened svc) pc t
      omega
    · intro u
      by_cases hu : u = t
      · subst hu
        simpa using hskipped
      · simpa [hu] using hall u

/-- The service whose request the thread is handling. -/
def Pc.service : Pc → Option Service
  | idle => none
  | enter svc _ | start svc _ | handler svc _ _ | locked svc _ _ _ | leave svc _ | finish svc _ =>
    some svc

theorem Pc.outside {svc : Service} {p : Pc} (h : p.service ≠ some svc) :
    p.opened svc = 0 ∧ p.skipped svc = false ∧ p.tested svc = false := by
  cases p <;> simp_all [service, opened, skipped, tested]

/-- A move that keeps to one service. -/
theorem Matched.moveIn [Fintype τ] {lastChange : Service → Option ℕ} {pc : τ → Pc}
    (h : Matched lastChange pc) (t : τ) (svc : Service) (q : Pc) (c : Option ℕ)
    (hp : (pc t).service = some svc) (hq : q.service = some svc ∨ q.service = none)
    (hmove : LocalStep svc (pc t) q (lastChange svc) c) :
    Matched (Function.update lastChange svc c) (Function.update pc t q) := by
  apply h.move
  intro svc'
  by_cases hsvc : svc' = svc
  · subst hsvc
    simpa using hmove
  · have hp' : (pc t).service ≠ some svc' := by
      rw [hp]
      exact fun hc => hsvc (Option.some.inj hc).symm
    have hq' : q.service ≠ some svc' := by
      rcases hq with hq | hq
      · rw [hq]
        exact fun hc => hsvc (Option.some.inj hc).symm
      · rw [hq]
        simp
    obtain ⟨hpo, -, -⟩ := Pc.outside hp'
    obtain ⟨hqo, hqs, hqt⟩ := Pc.outside hq'
    rw [Function.update_of_ne hsvc]
    cases lastChange svc' with
    | none => exact ⟨rfl, hqo, hqt⟩
    | some n => exact ⟨n, rfl, by rw [hpo, hqo], hqs⟩

/-- A move that leaves the collectors alone. -/
theorem Matched.goto [Fintype τ] {s : State τ} (h : Matched s.lastChange s.pc) (t : τ)
    (svc : Service) (q : Pc) (hp : (s.pc t).service = some svc)
    (hq : q.service = some svc ∨ q.service = none)
    (hmove : LocalStep svc (s.pc t) q (s.lastChange svc) (s.lastChange svc)) :
    Matched (s.goto t q).lastChange (s.goto t q).pc := by
  have hmoved := h.moveIn t svc q (s.lastChange svc) hp hq hmove
  rw [Function.update_eq_self] at hmoved
  exact hmoved

/-- What the invariant says about one thread and one service. -/
def Pc.Fits (svc : Service) (p : Pc) : Option ℕ → Prop
  | none => p.opened svc = 0 ∧ p.tested svc = false
  | some n => p.opened svc ≤ n ∧ p.skipped svc = false

omit [DecidableEq τ] in
theorem Matched.fits [Fintype τ] {lastChange : Service → Option ℕ} {pc : τ → Pc}
    (h : Matched lastChange pc) (t : τ) (svc : Service) :
    (pc t).Fits svc (lastChange svc) := by
  have hsvc := h svc
  cases hc : lastChange svc with
  | none =>
    rw [hc] at hsvc
    exact hsvc t
  | some n =>
    rw [hc] at hsvc
    exact ⟨hsvc.1 ▸ le_total _ pc t, hsvc.2 t⟩

omit [DecidableEq τ] in
/-- A lock starts a transaction if the pointer is set, and moves no thread. -/
theorem serviceLock_effect (s : State τ) (t : τ) (svc : Service) :
    (s.serviceLock t svc).lastChange =
        Function.update s.lastChange svc ((s.lastChange svc).map (· + 1)) ∧
      (s.serviceLock t svc).pc = s.pc ∧
      (s.serviceLock t svc).assertFailed = s.assertFailed := by
  unfold State.serviceLock
  cases hc : s.lastChange svc with
  | none =>
    simp only [State.setMutex, hc, Option.isSome_none, Bool.false_eq_true, if_false,
      Option.map_none]
    exact ⟨(Function.update_eq_self_iff.mpr hc.symm).symm, trivial, trivial⟩
  | some n => simp [State.setMutex, State.collectorStart, hc]

omit [DecidableEq τ] in
/-- A finish whose start was made does not fail. -/
theorem collectorFinish_effect (s : State τ) (svc : Service) (n : ℕ)
    (hc : s.lastChange svc = some n) (hn : 1 ≤ n) :
    s.collectorFinish svc =
      { s with lastChange := Function.update s.lastChange svc (some (n - 1)) } := by
  obtain ⟨m, rfl⟩ : ∃ m, n = m + 1 := ⟨n - 1, by omega⟩
  simp [State.collectorFinish, hc]

omit [DecidableEq τ] in
theorem serviceUnlock_effect (s : State τ) (svc : Service)
    (hn : ∀ n, s.lastChange svc = some n → 1 ≤ n) :
    (s.serviceUnlock svc).lastChange =
        Function.update s.lastChange svc ((s.lastChange svc).map (· - 1)) ∧
      (s.serviceUnlock svc).pc = s.pc ∧
      (s.serviceUnlock svc).assertFailed = s.assertFailed := by
  unfold State.serviceUnlock
  cases hc : s.lastChange svc with
  | none =>
    simp only [State.setMutex, Option.isSome_none, Bool.false_eq_true, if_false, Option.map_none]
    exact ⟨(Function.update_eq_self_iff.mpr hc.symm).symm, trivial, trivial⟩
  | some n =>
    simp [State.setMutex, collectorFinish_effect s svc n hc (hn n hc)]

/-- A thread's step keeps the brackets matched and fails no assertion. -/
theorem matched_advance [Fintype τ] (s : State τ) (t : τ) (h : Matched s.lastChange s.pc)
    (hok : s.assertFailed = false) :
    Matched (s.advance t).lastChange (s.advance t).pc ∧ (s.advance t).assertFailed = false := by
  cases hp : s.pc t with
  | idle => simpa [State.advance, hp] using ⟨h, hok⟩
  | enter svc n =>
    simp only [State.advance, hp]
    refine ⟨h.goto t svc _ (by rw [hp]; rfl) ?_ ?_, hok⟩
    · split_ifs <;> simp [Pc.service]
    · cases hc : s.lastChange svc <;>
        simp [LocalStep, hp, Pc.opened, Pc.skipped, Pc.tested]
  | start svc n =>
    have hfit := h.fits t svc
    simp only [State.advance, hp]
    split_ifs with hfree
    · refine ⟨h.moveIn t svc _ _ (by rw [hp]; rfl) (Or.inl rfl) ?_, hok⟩
      cases hc : s.lastChange svc <;>
        simp_all [LocalStep, Pc.Fits, Pc.opened, Pc.skipped, Pc.tested]
    · exact ⟨h, hok⟩
  | handler svc n outer =>
    have hfit := h.fits t svc
    cases n with
    | zero =>
      simp only [State.advance, hp]
      refine ⟨h.goto t svc _ (by rw [hp]; rfl) (Or.inl rfl) ?_, hok⟩
      cases hc : s.lastChange svc <;>
        simp_all [LocalStep, Pc.Fits, Pc.opened, Pc.skipped, Pc.tested]
    | succ n =>
      simp only [State.advance, hp]
      split_ifs with hfree
      · obtain ⟨hlc, hpc, hassert⟩ := serviceLock_effect s t svc
        simp only [State.goto, hlc, hpc, hassert]
        refine ⟨h.moveIn t svc _ _ (by rw [hp]; rfl) (Or.inl rfl) ?_, hok⟩
        cases hc : s.lastChange svc <;>
          simp_all [LocalStep, Pc.Fits, Pc.opened, Pc.skipped, Pc.tested]
      · exact ⟨h, hok⟩
  | locked svc n outer inner =>
    have hfit := h.fits t svc
    have hopen : ∀ m, s.lastChange svc = some m → 1 ≤ m := by
      intro m hm
      rw [hm, hp] at hfit
      obtain ⟨hle, hskip⟩ := hfit
      have houter : outer = true := by
        cases outer <;> simp_all [Pc.skipped]
      simp only [Pc.opened, houter, if_true, Bool.toNat_true] at hle
      omega
    simp only [State.advance, hp]
    obtain ⟨hlc, hpc, hassert⟩ := serviceUnlock_effect s svc hopen
    simp only [State.goto, hlc, hpc, hassert]
    refine ⟨h.moveIn t svc _ _ (by rw [hp]; rfl) (Or.inl rfl) ?_, hok⟩
    cases hc : s.lastChange svc with
    | none => simp_all [LocalStep, Pc.Fits, Pc.opened, Pc.tested]
    | some m =>
      have hm := hopen m hc
      simp_all [LocalStep, Pc.Fits, Pc.opened, Pc.skipped]
  | leave svc outer =>
    have hfit := h.fits t svc
    simp only [State.advance, hp]
    refine ⟨h.goto t svc _ (by rw [hp]; rfl) ?_ ?_, hok⟩
    · split_ifs <;> simp [Pc.service]
    · cases hc : s.lastChange svc <;>
        simp_all [LocalStep, Pc.Fits, Pc.opened, Pc.skipped, Pc.tested]
  | finish svc outer =>
    have hfit := h.fits t svc
    simp only [State.advance, hp]
    split_ifs with hfree
    · cases hc : s.lastChange svc with
      | none => simp_all [Pc.Fits, Pc.tested]
      | some m =>
        have hm : 1 ≤ m := by
          rw [hc, hp] at hfit
          obtain ⟨hle, hskip⟩ := hfit
          have houter : outer = true := by
            cases outer <;> simp_all [Pc.skipped]
          simpa only [Pc.opened, houter, if_true, Bool.toNat_true] using hle
        rw [collectorFinish_effect s svc m hc hm]
        refine ⟨h.moveIn t svc _ _ (by rw [hp]; rfl) (Or.inr rfl) ?_, hok⟩
        simp_all [LocalStep, Pc.Fits, Pc.opened, Pc.skipped]
    · exact ⟨h, hok⟩

/-- When a pointer is set no thread is inside a bracket of its service. -/
def NoneSkipped (s : State τ) : Label τ → Prop
  | .main => ∀ svc, s.nextInit = some svc → ∀ t, (s.pc t).skipped svc = false
  | _ => True

instance [Fintype τ] (s : State τ) (e : Label τ) : Decidable (NoneSkipped s e) := by
  cases e with
  | main =>
    exact decidable_of_iff (∀ svc ∈ s.nextInit, ∀ t, (s.pc t).skipped svc = false) Iff.rfl
  | request t svc n => exact isTrue trivial
  | advance t => exact isTrue trivial

omit [DecidableEq τ] in
theorem lastChange_of_nextInit {s : State τ} {svc : Service} (h : s.nextInit = some svc) :
    s.lastChange svc = none := by
  unfold State.nextInit at h
  split_ifs at h with h1 h2
  · exact Option.some.inj h ▸ h1
  · exact Option.some.inj h ▸ h2

omit [DecidableEq τ] in
/-- Setting a pointer while no thread is inside a bracket keeps the brackets matched. -/
theorem Matched.init [Fintype τ] {s : State τ} (h : Matched s.lastChange s.pc) (svc : Service)
    (hnull : s.lastChange svc = none) (hsafe : ∀ t, (s.pc t).skipped svc = false) :
    Matched (Function.update s.lastChange svc (some 0)) s.pc := by
  intro svc'
  by_cases hsvc : svc' = svc
  · subst hsvc
    have hnone := h svc'
    rw [hnull] at hnone
    rw [Function.update_self]
    exact ⟨(total_eq_zero _ _ fun t => (hnone t).1).symm, hsafe⟩
  · rw [Function.update_of_ne hsvc]
    exact h svc'

def Safe [Fintype τ] (s : State τ) : Prop :=
  Matched s.lastChange s.pc ∧ s.assertFailed = false

theorem safe_step [Fintype τ] (s : State τ) (e : Label τ) (h : Safe s) (he : NoneSkipped s e) :
    Safe (step s e) := by
  obtain ⟨hm, hok⟩ := h
  unfold step
  rw [hok, if_neg Bool.false_ne_true]
  cases e with
  | request t svc n =>
    change Safe (if s.pc t = .idle then s.goto t (.enter svc n) else s)
    split_ifs with hidle
    · refine ⟨hm.move t _ ?_, hok⟩
      intro svc'
      change LocalStep svc' _ _ (s.lastChange svc') (s.lastChange svc')
      cases s.lastChange svc' <;>
        simp [LocalStep, hidle, Pc.opened, Pc.skipped, Pc.tested]
    · exact ⟨hm, hok⟩
  | advance t => exact matched_advance s t hm hok
  | main =>
    cases hnext : s.nextInit with
    | none => simpa only [hnext] using ⟨hm, hok⟩
    | some svc => exact ⟨hm.init svc (lastChange_of_nextInit hnext) (he svc hnext), rfl⟩

/-- The assertion of `UPnPLastChangeCollector_finish` holds in every run that never sets a
pointer while a request for its service is between its two tests of that pointer. -/
theorem assert_never_fails [Fintype τ] (es : List (Label τ))
    (h : AllSteps step NoneSkipped initial es) :
    (run step initial es).assertFailed = false := by
  have hinit : Safe (initial : State τ) := ⟨fun svc t => ⟨rfl, rfl⟩, rfl⟩
  exact (run_invariant_of_allSteps step safe_step hinit h).2

/-- A request that comes after the initialisation. -/
theorem assert_holds_after_init :
    (run step (initial : State Unit) [.main, .request () .transport 1, .advance (), .advance (),
      .main, .advance (), .advance (), .advance (), .advance (), .advance ()]).assertFailed =
        false :=
  assert_never_fails _ (by decide)

/-- A request tests `last_change` before it is set and again afterwards: the finish at the
end of the request has no start. -/
theorem assert_fails_at_startup :
    (run step (initial : State Unit) [.request () .transport 1, .advance (), .main,
      .advance (), .advance (), .advance (), .advance (), .advance ()]).assertFailed = true := by
  decide

end GMediaRender.StartupBrackets
