import FrameOperator.Machine.Requests

/-!
# A request is carried out once

A pass acts on a request whose moment is later than the one recorded, and records its own clock. A request whose moment this clock
has not reached is found later than the record again by every pass until it has.
-/

namespace FrameOperator.Machine

open List

variable {now : Time} {events log : List MachineEvent} {fm : FrameMachine}

/-- The requests that an action of the BMC was made for, one entry for each action. -/
def acts (log : List MachineEvent) : List PowerRequestSpec :=
  log.filterMap fun
    | .acted req _ => some req
    | _ => none

/-- The releases that were carried out. -/
def releases (log : List MachineEvent) : List AlertReleaseRequest :=
  log.filterMap fun
    | .released req => some req
    | _ => none

def MachineEvent.triesRelease (req : AlertReleaseRequest) : MachineEvent → Bool
  | released req' | releaseFailed req' => req' = req
  | _ => false

/-- A pass acts on a request only if the whole second of its clock has reached the request's moment. -/
def OnTime (fm : FrameMachine) : MachineAction → Prop
  | .edit _ => True
  | .reconcile a =>
    (∀ req ∈ fm.spec.powerRequest, due fm.status.lastPowerActionAt req.requestedAt → req.requestedAt ≤ stored a.actionNow) ∧
      ∀ req ∈ fm.spec.alertRelease, due fm.status.lastAlertReleaseAt req.requestedAt → req.requestedAt ≤ stored a.releaseNow

instance (fm : FrameMachine) : ∀ action, Decidable (OnTime fm action)
  | .edit _ => isTrue trivial
  | .reconcile _ => inferInstanceAs (Decidable (_ ∧ _))

theorem acts_append (l l' : List MachineEvent) : acts (l ++ l') = acts l ++ acts l' := filterMap_append

theorem releases_append (l l' : List MachineEvent) : releases (l ++ l') = releases l ++ releases l' := filterMap_append

theorem stored_le (t : Time) : stored t ≤ t := Int.ediv_mul_le t (by decide)

theorem merge_stored {last : Option Time} {requestedAt : Time} (hdue : due last requestedAt = true)
    (hn : requestedAt ≤ stored now) : mergePart (last.map stored) ((some now).map stored) last = some (stored now) := by
  refine mergePart_of_ne ?_ _
  cases last with
  | none => simp
  | some l =>
    have hl : l < requestedAt := by simpa [due] using hdue
    have hlt : stored l < stored now := Int.lt_of_lt_of_le (Int.lt_of_le_of_lt (stored_le l) hl) hn
    intro heq
    exact absurd (Option.some.inj heq) (Int.ne_of_lt hlt)

/-! ## One pass -/

theorem releaseLoop_events (device : String) (alerts : List OpenAlert) (r : Releasing)
    (h : ∀ e ∈ r.events, ∃ check device, e = .closed check device) :
    ∀ e ∈ (releaseLoop device alerts r).events, ∃ check device, e = .closed check device := by
  fun_induction releaseLoop device alerts r with
  | case1 r => exact h
  | case2 alert alerts r _ ih => exact ih h
  | case3 alert alerts r _ _ ih => exact ih h
  | case4 alert alerts r _ _ _ err he => exact h
  | case5 alert alerts r _ _ _ he ih =>
    exact ih (forall_mem_snoc h ⟨_, _, rfl⟩)
  | case6 alert alerts r _ _ _ ih => exact ih h

/-- What a pass does about power. -/
inductive Powered (fm : FrameMachine) (now : Time) : FrameMachine → List MachineEvent → Prop where
  | idle : Powered fm now fm []
  | acts {req : PowerRequestSpec} (hreq : fm.spec.powerRequest = some req)
      (hdue : due fm.status.lastPowerActionAt req.requestedAt = true) {fm' : FrameMachine}
      (hat : fm'.status.lastPowerActionAt = some now) (hspec : fm'.spec = fm.spec)
      (hrelease : fm'.status.lastAlertReleaseAt = fm.status.lastAlertReleaseAt) {events : List MachineEvent}
      (hev : events = [] ∨ ∃ action, events = [.acted req action]) : Powered fm now fm' events

theorem runPowerRequest_powered (fm : FrameMachine) (a : ProbeAnswers) :
    Powered fm a.actionNow (runPowerRequest fm a).1 (runPowerRequest fm a).2 := by
  unfold runPowerRequest
  cases hreq : fm.spec.powerRequest with
  | none => exact .idle
  | some req =>
    simp only
    by_cases hdue : due fm.status.lastPowerActionAt req.requestedAt = true
    · rw [if_pos hdue]
      refine .acts hreq hdue ?_ ?_ ?_ ?_
      · rfl
      · rfl
      · rfl
      · cases req.action.call with
        | none => exact .inl rfl
        | some action => exact .inr ⟨action, rfl⟩
    · rw [if_neg hdue]
      exact .idle

/-- What a pass does about alerts. -/
inductive Assessed (fm : FrameMachine) (now : Time) : FrameMachine → List MachineEvent → Prop where
  | idle : Assessed fm now fm []
  | fails {req : AlertReleaseRequest} (hreq : fm.spec.alertRelease = some req)
      (hdue : due fm.status.lastAlertReleaseAt req.requestedAt = true) {events : List MachineEvent}
      (hev : ∀ e ∈ events, ∃ check device, e = .closed check device) : Assessed fm now fm (events ++ [.releaseFailed req])
  | releases {req : AlertReleaseRequest} (hreq : fm.spec.alertRelease = some req)
      (hdue : due fm.status.lastAlertReleaseAt req.requestedAt = true) {fm' : FrameMachine}
      (hat : fm'.status.lastAlertReleaseAt = some now) (hpower : fm'.status.lastPowerActionAt = fm.status.lastPowerActionAt)
      {events : List MachineEvent} (hev : ∀ e ∈ events, ∃ check device, e = .closed check device) :
      Assessed fm now fm' (events ++ [.released req])

theorem assessStorage_assessed (hasAlerts : Bool) (fm : FrameMachine) (a : ProbeAnswers) :
    Assessed fm a.releaseNow (assessStorage hasAlerts fm a).1 (assessStorage hasAlerts fm a).2 := by
  unfold assessStorage
  split
  · rename_i alerts _ _
    split
    · unfold releaseStorageAlerts
      cases hreq : fm.spec.alertRelease with
      | none => exact .idle
      | some req =>
        have hev := releaseLoop_events req.device alerts {} (by simp)
        simp only
        by_cases hdue : due fm.status.lastAlertReleaseAt req.requestedAt = true
        · rw [if_pos hdue]
          cases herr : (releaseLoop req.device alerts {}).err with
          | some err => exact .fails hreq hdue hev
          | none =>
            refine .releases hreq hdue ?_ ?_ hev
            · rfl
            · rfl
        · rw [if_neg hdue]
          exact .idle
    · exact .idle
  · exact .idle

/-! ## A run -/

/-- The acts are in order, and a release carried out is not tried again. -/
structure Orderly (fm : FrameMachine) (log : List MachineEvent) : Prop where
  power : Recorded PowerRequestSpec.requestedAt fm.status.lastPowerActionAt (acts log)
  release : Recorded AlertReleaseRequest.requestedAt fm.status.lastAlertReleaseAt (releases log)
  after : Each (fun before e => ∀ req, e.triesRelease req = true → req ∉ releases before) log

/-- No release is tried after it was carried out. -/
abbrev Released (log : List MachineEvent) : Prop := Each (fun before e => ∀ req, e.triesRelease req = true → req ∉ releases before) log

theorem Released.quiet (h : Released log) (hev : ∀ e ∈ events, ∀ req, e.triesRelease req = false) : Released (log ++ events) := by
  induction events generalizing log with
  | nil => rwa [append_nil]
  | cons e events ih =>
    rw [← singleton_append, ← append_assoc]
    refine ih (h.snoc fun req hr => ?_) fun e' he' => hev e' (mem_cons_of_mem _ he')
    rw [hev e mem_cons_self req] at hr
    cases hr

/-- A pass that acts in time keeps the acts in order. -/
theorem Orderly.powered {fm' : FrameMachine} (h : Orderly fm log)
    (hp : Powered fm now fm' events) (hok : ∀ req ∈ fm.spec.powerRequest, due fm.status.lastPowerActionAt req.requestedAt →
      req.requestedAt ≤ stored now) :
    Recorded PowerRequestSpec.requestedAt
        (mergePart (fm.status.lastPowerActionAt.map stored) (fm'.status.lastPowerActionAt.map stored) fm.status.lastPowerActionAt)
        (acts (log ++ events)) ∧
      releases (log ++ events) = releases log ∧ (∀ e ∈ events, ∀ req, e.triesRelease req = false) ∧
      fm'.spec = fm.spec ∧ fm'.status.lastAlertReleaseAt = fm.status.lastAlertReleaseAt := by
  cases hp with
  | idle =>
    rw [append_nil, mergePart_same]
    exact ⟨h.power, rfl, by simp, rfl, rfl⟩
  | @acts req hreq hdue _ hat hspec hrelease _ hev =>
    have hn := hok req hreq hdue
    rw [hat, merge_stored hdue hn, acts_append, releases_append]
    rcases hev with rfl | ⟨action, rfl⟩
    · rw [show acts [] = [] from rfl, append_nil]
      exact ⟨h.power.advance hdue hn, append_nil _, by simp, hspec, hrelease⟩
    · exact ⟨h.power.act hdue hn, append_nil _, by simp [MachineEvent.triesRelease], hspec, hrelease⟩

theorem closed_quiet (hev : ∀ e ∈ events, ∃ check device, e = .closed check device) :
    acts events = [] ∧ releases events = [] ∧ ∀ e ∈ events, ∀ req, e.triesRelease req = false := by
  refine ⟨filterMap_eq_nil_iff.mpr fun e he => ?_, filterMap_eq_nil_iff.mpr fun e he => ?_, fun e he req => ?_⟩ <;>
    (obtain ⟨check, device, rfl⟩ := hev e he; rfl)

theorem assessed_release {fm' : FrameMachine} {last : Option Time} (hlast : fm.status.lastAlertReleaseAt = last)
    (h : Recorded AlertReleaseRequest.requestedAt last (releases log))
    (hafter : Released log)
    (ha : Assessed fm now fm' events) (hok : ∀ req ∈ fm.spec.alertRelease, due last req.requestedAt → req.requestedAt ≤ stored now) :
    Recorded AlertReleaseRequest.requestedAt (mergePart (last.map stored) (fm'.status.lastAlertReleaseAt.map stored) last)
        (releases (log ++ events)) ∧
      Released (log ++ events) ∧
      acts (log ++ events) = acts log ∧ fm'.status.lastPowerActionAt = fm.status.lastPowerActionAt := by
  subst hlast
  have hsnoc : ∀ {req : AlertReleaseRequest} {e : MachineEvent} {closed : List MachineEvent},
      due fm.status.lastAlertReleaseAt req.requestedAt = true → (∀ req', e.triesRelease req' = true → req' = req) →
      (∀ e ∈ closed, ∃ check device, e = .closed check device) →
      Released (log ++ (closed ++ [e])) := by
    intro req e closed hdue he hcl
    obtain ⟨-, hr, hq⟩ := closed_quiet hcl
    rw [← append_assoc]
    refine (Released.quiet hafter hq).snoc fun req' ht hmem => ?_
    obtain rfl := he req' ht
    rw [releases_append, hr, append_nil] at hmem
    rw [h.not_due hmem] at hdue
    cases hdue
  cases ha with
  | idle =>
    rw [append_nil, mergePart_same]
    exact ⟨h, hafter, rfl, rfl⟩
  | @fails req hreq hdue closed hev =>
    obtain ⟨hact, hr, -⟩ := closed_quiet hev
    refine ⟨?_, hsnoc hdue (by simp [MachineEvent.triesRelease]) hev, ?_, rfl⟩
    · rw [mergePart_same, releases_append, releases_append, hr]
      simpa [releases] using h
    · rw [acts_append, acts_append, hact]
      exact append_nil _
  | @releases req hreq hdue _ hat hpower closed hev =>
    obtain ⟨hact, hr, -⟩ := closed_quiet hev
    have hn := hok req hreq hdue
    refine ⟨?_, hsnoc hdue (by simp [MachineEvent.triesRelease]) hev, ?_, hpower⟩
    · rw [hat, merge_stored hdue hn, releases_append, releases_append, hr]
      exact h.act hdue hn
    · rw [acts_append, acts_append, hact]
      exact append_nil _

/-- Every pass in time keeps the acts in order. -/
theorem Orderly.step (h : Orderly fm log) (hasAlerts : Bool) (action : MachineAction)
    (hok : OnTime fm action) : Orderly (machineStep hasAlerts fm action).1 (log ++ (machineStep hasAlerts fm action).2) := by
  cases action with
  | edit spec =>
    rw [show (machineStep hasAlerts fm (.edit spec)).2 = [] from rfl, append_nil]
    exact ⟨h.power, h.release, h.after⟩
  | reconcile a =>
    have hpow : Powered fm a.actionNow (if a.newClient.isSome then (fm, []) else runPowerRequest fm a).1
        (if a.newClient.isSome then (fm, []) else runPowerRequest fm a).2 := by
      split
      · exact .idle
      · exact runPowerRequest_powered fm a
    simp only [machineStep, reconcile]
    generalize (if a.newClient.isSome then (fm, []) else runPowerRequest fm a) = p at hpow ⊢
    have hass := assessStorage_assessed hasAlerts p.1 a
    generalize assessStorage hasAlerts p.1 a = q at hass ⊢
    obtain ⟨hpower, hrel, hquiet, hspec, hlast⟩ := h.powered hpow hok.1
    have hreleased : Recorded AlertReleaseRequest.requestedAt fm.status.lastAlertReleaseAt (releases (log ++ p.2)) :=
      hrel ▸ h.release
    obtain ⟨hrelease, hafter, hacts, hsame⟩ := assessed_release hlast hreleased (Released.quiet h.after hquiet) hass
      (fun req hreq => hok.2 req (hspec ▸ hreq))
    rw [← append_assoc]
    refine ⟨?_, hrelease, hafter⟩
    rw [hacts]
    simp only [FrameMachineStatus.patched, hsame]
    exact hpower

namespace Fixture

def ms (n : Int) : Time := n * 1000000

def asked : FrameMachine where
  spec := { powerRequest := some ⟨.forceRestart, ms 10700⟩, alertRelease := some ⟨"md0", ms 90000⟩ }
  status := {}

def passAt (n : Int) : MachineAction :=
  .reconcile { actionNow := ms n, releaseNow := ms n, openAlerts := .ok [⟨"StorageDegraded", "md0", false, true, none⟩] }

end Fixture

end FrameOperator.Machine
