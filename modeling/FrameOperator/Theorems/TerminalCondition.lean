import FrameOperator.Provision.Liveness
import FrameOperator.Theorems.InstallOnce

/-!
# A terminal installation says nothing of its installer

A pass asks for the phase of the copy it read, not of the object it patches: one that read it Installing writes the condition back
after the goroutine has recorded the result, and nothing comes after it.
-/

namespace FrameOperator.Provision

open Option

/-- No call is under way. -/
def Scene.quiet (w : Scene) : Prop := w.pass.isNone ∧ w.driver.isNone
deriving Decidable

/-- The goroutine is between the read and the patch of its result. -/
def Scene.recording (w : Scene) : Bool :=
  match w.driver with
  | some ⟨_, .recording _ _⟩ => true
  | _ => false

/-- The condition is written while its phase lasts, and the result is recorded. -/
def Undisturbed (w : Scene) : SceneAction → Prop
  | .reconcile _ =>
    match w.pass with
    | some (.setting _ _) => w.object.install.status.phase = some .installing ∧ w.recording = false
    | _ => True
  | .drive a =>
    match w.driver with
    | some ⟨_, .returned⟩ => a.readable = true
    | some ⟨_, .recording _ _⟩ => a.committed = true
    | _ => True
  | .crash => w.object.install.terminal = false ∨ w.driver.isNone
  | .start _ _ | .edit _ => True

instance (w : Scene) (action : SceneAction) : Decidable (Undisturbed w action) := by
  unfold Undisturbed
  split
  · split <;> infer_instance
  · split <;> infer_instance
  all_goals infer_instance

/-! ## What a patch does to the condition -/

namespace Watched

def Covers (copy o : Watched) : Prop := o.responding = true → copy.responding = true

theorem silenced_eq {o : Watched} (h : o.responding = false) : o.silenced = o.conditions := by
  rw [silenced, Meta.removeStatusCondition, List.filter_eq_self]
  intro c hc
  simpa using (List.any_eq_false.mp h) c hc

theorem not_responding_silenced (o : Watched) : (o.silenced.any fun c => c.type = installerResponding) = false := by
  rw [List.any_eq_false]
  intro c hc
  have := (List.mem_filter.mp hc).2
  simpa using this

theorem not_responding_patched {o copy : Watched} (h : copy.Covers o) (status : FrameInstallStatus) :
    (o.patched copy status copy.silenced).responding = false := by
  simp only [responding, patched]
  cases hc : copy.responding with
  | false =>
    rw [silenced_eq hc, mergePart_same]
    exact Bool.eq_false_iff.mpr fun ho => Bool.eq_false_iff.mp hc (h ho)
  | true =>
    rw [mergePart_of_ne]
    · exact not_responding_silenced copy
    · intro heq
      have := not_responding_silenced copy
      rw [← heq] at this
      exact Bool.eq_false_iff.mp this hc

theorem conditions_patched (o copy : Watched) (status : FrameInstallStatus) :
    (o.patched copy status copy.conditions).conditions = o.conditions :=
  mergePart_same _ _

theorem phase_patched (o copy : Watched) (conditions : List Meta.Condition) :
    (o.patched copy copy.install.status conditions).install.status.phase = o.install.status.phase :=
  mergePart_same _ _

end Watched

/-! ## One step -/

/-- A terminal object with the condition has a goroutine that will take it away, and a copy that has it. -/
structure Silencing (w : Scene) : Prop where
  driven : w.object.install.terminal = true → w.object.responding = true → w.driver ≠ none
  recording : ∀ i fi status, w.driver = some ⟨i, .recording fi status⟩ → fi.Covers w.object
  got : ∀ fi, w.pass = some (.got fi) → fi.Covers w.object
  failing : ∀ fi status, w.pass = some (.failing fi status) → fi.Covers w.object

namespace Silencing

variable {w : Scene}

section

variable (h : Silencing w)
include h

theorem endPass : Silencing { w with pass := none } :=
  ⟨h.driven, h.recording, fun _ hp => (by cases hp), fun _ _ hp => (by cases hp)⟩

theorem setPass {p : Watch} (hg : ∀ fi, p ≠ .got fi) (hf : ∀ fi status, p ≠ .failing fi status) (seen : Bool) :
    Silencing { w with pass := some p, seenBeacon := seen } :=
  ⟨h.driven, h.recording, fun fi hp => absurd (some.inj hp) (hg fi),
    fun fi status hp => absurd (some.inj hp) (hf fi status)⟩

theorem poll (fi : Watched) (a : WatchAnswers) : Silencing (w.poll fi a) := by
  unfold Scene.poll
  split
  · exact h.endPass
  split
  · exact h.setPass (by simp) (by simp) w.seenBeacon
  split
  · exact h.setPass (by simp) (by simp) w.seenBeacon
  · exact h.setPass (by simp) (by simp) w.seenBeacon
  · exact h.setPass (by simp) (by simp) true

omit h in
theorem setsCondition (hp : w.object.install.status.phase = some .installing) (hr : w.recording = false)
    (latest : Watched) (conditions : List Meta.Condition) :
    Silencing { w with object := w.object.patched latest latest.install.status conditions, pass := none } := by
  refine ⟨fun ht => ?_, fun i fi status hd => ?_, fun _ hp => (by cases hp), fun _ _ hp => (by cases hp)⟩
  · rw [FrameInstall.terminal, Watched.phase_patched, hp] at ht
    cases ht
  · rw [Scene.recording, hd] at hr
    cases hr

omit h in
theorem removed {object : Watched} (ho : object.responding = false) (driver : Option Driver) (token : Option String) (seen : Bool)
    (pass : Option Watch) : Silencing ⟨object, pass, driver, token, seen⟩ := by
  have hc : ∀ fi : Watched, fi.Covers object := fun _ h => (by rw [ho] at h; cases h)
  exact ⟨fun _ h => (by rw [ho] at h; cases h), fun _ fi _ _ => hc fi, fun fi _ => hc fi, fun fi _ _ => hc fi⟩

theorem reconcile (progress : Bool) (a : WatchAnswers) (hok : Undisturbed w (.reconcile a)) :
    Silencing (w.reconcile progress a) := by
  unfold Scene.reconcile
  cases hp : w.pass with
  | none =>
    simp only
    split
    · refine ⟨h.driven, h.recording, fun fi hfi => ?_, fun _ _ hp => (by cases hp)⟩
      obtain rfl := Watch.got.inj (some.inj hfi)
      exact id
    · exact h
  | some p =>
    cases p with
    | got fi =>
      simp only
      split
      · split
        · exact h.poll fi a
        · exact h.endPass
      · split
        · refine ⟨h.driven, h.recording, fun _ hp => (by cases hp), fun fi' status hfi => ?_⟩
          obtain ⟨rfl, -⟩ := Watch.failing.inj (some.inj hfi)
          exact h.got fi hp
        · exact h.endPass
    | polled cond =>
      simp only
      split
      · exact h.setPass (by simp) (by simp) w.seenBeacon
      · exact h.endPass
    | setting latest cond =>
      simp only [Undisturbed, hp] at hok
      simp only
      split
      · exact setsCondition hok.1 hok.2 latest _
      · exact h.endPass
    | failing fi status =>
      simp only
      split
      · exact removed (Watched.not_responding_patched (h.failing fi status hp) _) _ _ _ _
      · exact h.endPass

theorem drives {object : Watched} (hc : object.conditions = w.object.conditions) {d : Driver}
    (hd : ∀ fi status, d.stage = .recording fi status → fi.Covers object) (token : Option String) :
    Silencing { w with object := object, driver := some d, token := token } := by
  have hcov : ∀ fi : Watched, fi.Covers w.object → fi.Covers object := by
    intro fi hfi ho
    rw [Watched.responding, hc] at ho
    exact hfi ho
  refine ⟨fun _ _ => by simp, fun i fi status hdr => ?_, fun fi hp => hcov fi (h.got fi hp),
    fun fi status hp => hcov fi (h.failing fi status hp)⟩
  obtain rfl := some.inj hdr
  exact hd fi status rfl

theorem drive (r : FrameInstallReconciler) {d : Driver} (hd : w.driver = some d) (a : GoAnswers)
    (hok : Undisturbed w (.drive a)) : Silencing (w.drive r d a) := by
  obtain ⟨i, stage⟩ := d
  cases stage with
  | installing =>
    simp only [Scene.drive]
    split
    · split
      · exact h.drives rfl (by simp) w.token
      · exact h.drives rfl (by simp) w.token
    · exact h.drives rfl (by simp) w.token
    · exact h.drives rfl (by simp) _
  | reporting fi =>
    simp only [Scene.drive]
    split
    · exact h.drives (Watched.conditions_patched _ _ _) (by simp) w.token
    · exact h.drives rfl (by simp) w.token
  | returned =>
    simp only [Undisturbed, hd] at hok
    simp only [Scene.drive, hok, if_true]
    refine h.drives rfl (fun fi status hs => ?_) w.token
    obtain ⟨rfl, -⟩ := DriverStage.recording.inj hs
    exact id
  | recording fi status =>
    simp only [Undisturbed, hd] at hok
    simp only [Scene.drive, hok, if_true]
    exact removed (Watched.not_responding_patched (h.recording i fi status hd) _) _ _ _ _

theorem step (r : FrameInstallReconciler) (progress : Bool) (action : SceneAction) (hok : Undisturbed w action) :
    Silencing (sceneStep r progress w action) := by
  cases action with
  | reconcile a => exact h.reconcile progress a hok
  | start s o =>
    simp only [sceneStep]
    split
    · exact h.drives rfl (by simp) w.token
    · exact h
  | drive a =>
    simp only [sceneStep]
    split
    · exact h
    · rename_i d hd
      exact h.drive r hd a hok
  | edit spec => exact ⟨h.driven, h.recording, h.got, h.failing⟩
  | crash =>
    refine ⟨fun ht hr => ?_, fun _ _ _ hd => (by cases hd), fun _ hp => (by cases hp), fun _ _ hp => (by cases hp)⟩
    rcases hok with hn | hn
    · exact absurd ht (Bool.eq_false_iff.mp hn)
    · exact absurd (isNone_iff_eq_none.mp hn) (h.driven ht hr)

end

end Silencing

/-- A terminal object has no condition, where it is written only while Installing and the result is recorded. -/
theorem terminal_silent (r : FrameInstallReconciler) (progress : Bool) (w : Scene) (hquiet : w.quiet)
    (hstart : w.object.install.terminal = true → w.object.responding = false) (actions : List SceneAction)
    (hok : Meets (silent (sceneStep r progress)) Undisturbed w actions) :
    let w' := (run (silent (sceneStep r progress)) w actions).1
    w'.quiet → w'.object.install.terminal = true → w'.object.responding = false := by
  have hdriver : w.driver = none := Option.isNone_iff_eq_none.mp hquiet.2
  have hpass : w.pass = none := Option.isNone_iff_eq_none.mp hquiet.1
  have h0 : Silencing w := by
    refine ⟨fun ht hr => ?_, fun _ _ _ hd => ?_, fun _ hp => ?_, fun _ _ hp => ?_⟩
    · rw [hstart ht] at hr
      cases hr
    · rw [hdriver] at hd
      cases hd
    · rw [hpass] at hp
      cases hp
    · rw [hpass] at hp
      cases hp
  have h := silent_induct h0 (fun w action h hok => h.step r progress action hok) actions hok
  intro w' hq ht
  exact Bool.eq_false_iff.mpr fun hr => h.driven ht hr (Option.isNone_iff_eq_none.mp hq.2)

namespace Fixture

def watchedInstall : FrameInstall where
  key := install "a"
  uid := 1
  resourceVersion := 3
  generation := 1
  deleting := false
  finalizers := [frameInstallFinalizer]
  spec := installSpec "a" "m1"
  status := { observedGeneration := 1 }

def scene : Scene := ⟨⟨watchedInstall, []⟩, none, none, none, false⟩

def startScene : SceneAction :=
  .start (toProvisionSpec watchedInstall "5f1c" ⟨"", "", ""⟩) (installer.options watchedInstall ⟨"", "", ""⟩)

/-- Steps in which all succeeds: sixteen to the report of Installing, as many after. -/
def driveScene (n : Nat) : List SceneAction :=
  List.replicate n (.drive
    { serial := .ok "CZ1"
      build := .ok ("http://192.0.2.10:30581/3c9e.iso", "3c9e")
      attempt := .marker "5f1c" "ssh-ed25519 AAAAC3NzaC1lZDI1NTE5"
      joinInit := .ok kubeconfig })

def pollScene (n : Nat) : List SceneAction :=
  List.replicate n (.reconcile { progress := .ok (some { lastCheckpoint := "early", lastSeen := 0 }) })

def overtaken : List SceneAction := startScene :: driveScene 16 ++ pollScene 3 ++ driveScene 16 ++ pollScene 1

def inTime : List SceneAction := startScene :: driveScene 16 ++ pollScene 4 ++ driveScene 16

end Fixture

set_option maxRecDepth 8000

open Fixture in
/-- The machine is installed, every call has returned, and the object says that its installer responds. -/
theorem ready_still_responding :
    let w := (run (silent (sceneStep installer true)) scene overtaken).1
    w.quiet ∧ w.object.install.status.phase = some .ready ∧ w.object.conditions.map (fun c => (c.type, c.status)) =
      [("InstallerResponding", "True")] := by
  decide

open Fixture in
/-- The condition is written in time. -/
theorem terminal_silent_in_time :
    let w := (run (silent (sceneStep installer true)) scene inTime).1
    w.object.install.status.phase = some .ready ∧ w.object.responding = false := by
  intro w
  refine ⟨by decide, terminal_silent installer true scene (by decide) (by decide) inTime (by decide) ?_ ?_⟩
  · decide
  · decide

end FrameOperator.Provision
