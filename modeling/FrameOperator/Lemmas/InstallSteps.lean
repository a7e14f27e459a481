import FrameOperator.Provision.Controller

/-!
# What a pass and a goroutine of the FrameInstall controller can do in one step

`Nexts` lists the outcomes of one step of an installation, `Reconciled` those of a pass, `Driven` those of a goroutine, each with
what was found on the way.
-/

namespace FrameOperator.Provision

open World

/-! ## The deletion of an object -/

variable (w : World) (k : ObjectKey)

theorem World.delete_cases :
    (∃ o, w.objects.get? k = some o ∧ o.finalizers = [] ∧ w.delete k = { w with objects := w.objects.erase k }) ∨ w.delete k = w ∨
      w.delete k = w.write k (fun fi => { fi with deleting := true, generation := fi.generation + 1 }) (fun _ => rfl) := by
  unfold delete
  cases ho : w.objects.get? k with
  | none => exact .inr (.inl rfl)
  | some o =>
    simp only
    by_cases hf : o.finalizers = []
    · rw [if_pos hf]
      exact .inl ⟨o, rfl, hf, rfl⟩
    rw [if_neg hf]
    refine .inr ?_
    by_cases hd : o.deleting = true
    · rw [if_pos hd]
      exact .inl rfl
    · rw [if_neg hd]
      exact .inr rfl

theorem World.removeFinalizer_cases (copy : FrameInstall) :
    w.removeFinalizer k copy = w ∨ w.removeFinalizer k copy = { w with objects := w.objects.erase k } ∨
      w.removeFinalizer k copy =
        w.write k (fun fi => { fi with finalizers := fi.finalizers.filter (· ≠ frameInstallFinalizer) }) (fun _ => rfl) := by
  unfold removeFinalizer
  cases ho : w.objects.get? k with
  | none => exact .inl rfl
  | some o =>
    simp only
    split
    · split
      · exact .inr (.inl rfl)
      · exact .inr (.inr rfl)
    · exact .inl rfl

/-! ## The steps of an installation -/

def Pc.plain : Pc → Bool
  | .report _ | .nodeReady | .ejectMedia | .clearBootOverride | .removeImage | .returned => false
  | _ => true

inductive Nexts (i : Install) (a : Answers) : Install → Prop where
  | fails (p : Phase) (e : String) : Nexts i a (i.fail p e)
  | goes {pc : Pc} (hp : pc.plain = true) (built : Bool) : Nexts i a { i with built := built, pc := pc }
  | enters {p : Phase} (hp : p = .ready → i.pc = .nodeReady) : Nexts i a (i.enter p)
  | found (hostKey : String) : Nexts i a ({ i with res.hostKey := hostKey, last := none }.enter .installed)
  /-- A wait that goes on. -/
  | waits (hp : i.pc = .waitForOurSystem ∨ i.pc = .nodeReady) (last : Option String) : Nexts i a { i with last := last }
  | joins {kubeconfig : String} (hj : join i.spec.cluster a = .ok kubeconfig) :
      Nexts i a { i with res.kubeconfig := kubeconfig, res.nodeName := i.spec.hostname, pc := .nodeReady }
  | ejects (hp : i.pc = .ejectMedia) : Nexts i a { i with ejectErr := a.ejectMedia, pc := .clearBootOverride }
  | clears (hp : i.pc = .clearBootOverride) (he : i.ejectErr = none) :
      Nexts i a { i with clearErr := a.clearBootOverride, pc := .removeImage }
  | keepsImage (hp : i.pc = .clearBootOverride) (he : i.ejectErr ≠ none) :
      Nexts i a ({ i with clearErr := a.clearBootOverride }.cleanedUp none)
  | removesImage (hp : i.pc = .removeImage) : Nexts i a (i.cleanedUp a.removeImage)

/-- One call of `Install` is one of `Nexts`. -/
theorem next_nexts (v : Spec → String → Option String) {i : Install} (a : Answers) (hr : ∀ p, i.pc ≠ .report p)
    (hret : i.pc ≠ .returned) : Nexts i a (i.next v a) := by
  cases hp : i.pc with
  | report p => exact absurd hp (hr p)
  | returned => exact absurd hp hret
  | validate =>
    simp only [Install.next, hp]
    split
    · exact .fails _ _
    split
    · exact .fails _ _
    · exact .goes rfl i.built
  | serial =>
    simp only [Install.next, hp]
    split
    · exact .fails _ _
    split
    · exact .fails _ _
    · exact .enters nofun
  | build =>
    simp only [Install.next, hp]
    split
    · exact .fails _ _
    · exact .goes rfl true
  | beforeMediaAttached =>
    simp only [Install.next, hp]
    split
    · exact .fails _ _
    · exact .enters nofun
  | insertMedia | setBootOnce | dial =>
    simp only [Install.next, hp]
    split
    · exact .fails _ _
    · exact .goes rfl i.built
  | mediaInserted =>
    simp only [Install.next, hp]
    split
    · exact .fails _ _
    · exact .fails _ _
    · exact .goes rfl i.built
  | reset =>
    simp only [Install.next, hp]
    split
    · exact .fails _ _
    · exact .enters nofun
  | waitForOurSystem =>
    simp only [Install.next, hp]
    split
    · exact .fails _ _
    split
    · split
      · exact .fails _ _
      · exact .fails _ _
    · split
      · rw [← hp]
        exact .waits (.inl hp) _
      · exact .found _
  | join =>
    simp only [Install.next, hp]
    split
    · exact .fails _ _
    · rename_i hj
      exact .joins hj
  | nodeReady =>
    simp only [Install.next, hp]
    split
    · exact .enters fun _ => hp
    split
    · exact .fails _ _
    · rw [← hp]
      exact .waits (.inr hp) _
  | ejectMedia =>
    simp only [Install.next, hp]
    exact .ejects hp
  | clearBootOverride =>
    simp only [Install.next, hp]
    split
    · rename_i he
      exact .clears hp he
    · rename_i he
      exact .keepsImage hp he
  | removeImage =>
    simp only [Install.next, hp]
    exact .removesImage hp

variable (r : FrameInstallReconciler)

inductive Reconciled (w : World) (k : ObjectKey) (a : PassAnswers) : World → List InstallEvent → Prop where
  /-- There is nothing to do, or the finalizer could not be added. -/
  | idle (hp : w.passes k = none) : Reconciled w k a w []
  | addsFinalizer {o : FrameInstall} (hp : w.passes k = none) (ho : w.objects.get? k = some o) :
      Reconciled w k a
        (w.write k (fun fi => { fi with finalizers := fi.finalizers ++ [frameInstallFinalizer] }) (fun _ => rfl)) []
  | reads {o : FrameInstall} (hp : w.passes k = none) (ho : w.objects.get? k = some o) (hd : o.deleting = false)
      (hf : frameInstallFinalizer ∈ o.finalizers) (ht : o.terminal = false) : Reconciled w k a (w.setPass k (some (.got o))) []
  | readsDeleting {o : FrameInstall} (hp : w.passes k = none) (ho : w.objects.get? k = some o)
      (hf : frameInstallFinalizer ∈ o.finalizers) : Reconciled w k a (w.setPass k (some (.finalizing o))) []
  /-- The pass gives up, without a slot. -/
  | ends {p : Pass} (hp : w.passes k = some p) (hc : ∀ fi s, p ≠ .claimed fi s) (hs : ∀ m fi s, p ≠ .stamped m fi s)
      {evs : List InstallEvent} (he : evs = [] ∨ ∃ fi, p = .finalizing fi ∧ evs = ejectAndClear fi.uid a) :
      Reconciled w k a (w.setPass k none) evs
  | restarts {fi : FrameInstall} (hp : w.passes k = some (.got fi)) (hr : w.inFlight fi.spec.machineRef = none)
      (hg : fi.status.observedGeneration = fi.generation) :
      Reconciled w k a (w.setPass k (some (.failing fi (failRestarted fi a)))) (ejectAndClear fi.uid a)
  | clears {fi : FrameInstall} (hp : w.passes k = some (.got fi)) (hg : fi.status.observedGeneration ≠ fi.generation) :
      Reconciled w k a (w.setPass k (some (.cleared fi))) []
  | cleans {fi : FrameInstall} (hp : w.passes k = some (.finalizing fi)) (hr : w.inFlight fi.spec.machineRef = none) :
      Reconciled w k a (w.setPass k (some (.removing fi))) (ejectAndClear fi.uid a)
  | removes {fi : FrameInstall} (hp : w.passes k = some (.removing fi)) :
      Reconciled w k a ((w.removeFinalizer k fi).setPass k none) []
  | fails {fi : FrameInstall} {status : FrameInstallStatus} (hp : w.passes k = some (.failing fi status)) :
      Reconciled w k a ((w.patchStatus k fi.status status).setPass k none) []
  | refuses {fi : FrameInstall} (hp : w.passes k = some (.cleared fi)) (msg : String) :
      Reconciled w k a (w.setPass k (some (.failing fi (failPending fi msg)))) []
  | claims {fi : FrameInstall} (hp : w.passes k = some (.cleared fi)) (hr : w.inFlight fi.spec.machineRef = none) (s : Secrets) :
      Reconciled w k a ((w.claim fi.spec.machineRef fi.uid).setPass k (some (.claimed fi s))) []
  | stamps {fi answer : FrameInstall} {s : Secrets} (hp : w.passes k = some (.claimed fi s))
      (ha : (w.patchStatus k fi.status { fi.status with observedGeneration := fi.generation }).objects.get? k = some answer) :
      Reconciled w k a ((w.patchStatus k fi.status { fi.status with observedGeneration := fi.generation }).setPass k
        (some (.stamped fi.spec.machineRef answer s))) []
  | unclaims {fi : FrameInstall} {s : Secrets} (hp : w.passes k = some (.claimed fi s)) :
      Reconciled w k a ((w.release fi.spec.machineRef).setPass k none) []
  | unstarts {machine : String} {fi : FrameInstall} {s : Secrets} (hp : w.passes k = some (.stamped machine fi s)) (msg : String) :
      Reconciled w k a ((w.release fi.spec.machineRef).setPass k (some (.failing fi (failPending fi msg)))) []
  | starts {machine : String} {fi : FrameInstall} {s : Secrets} (hp : w.passes k = some (.stamped machine fi s))
      (installUID : String) :
      Reconciled w k a ((w.spawn r k machine fi s installUID).setPass k none) [.installCalled fi.uid machine]

theorem beginPass_reconciled {w : World} {k : ObjectKey} {a : PassAnswers} (hp : w.passes k = none) :
    Reconciled r w k a (w.beginPass k a) [] := by
  unfold beginPass
  cases ho : w.objects.get? k with
  | none => exact .idle hp
  | some o =>
    simp only
    by_cases hd : o.deleting = true
    · rw [if_pos hd]
      by_cases hf : frameInstallFinalizer ∈ o.finalizers
      · rw [if_pos hf]
        exact .readsDeleting hp ho hf
      · rw [if_neg hf]
        exact .idle hp
    · rw [if_neg hd]
      by_cases hf : frameInstallFinalizer ∈ o.finalizers
      · rw [if_neg (not_not.mpr hf)]
        by_cases ht : o.terminal = true
        · rw [if_pos ht]
          exact .idle hp
        · rw [if_neg ht]
          exact .reads hp ho (by simpa using hd) hf (by simpa using ht)
      · rw [if_pos hf]
        by_cases hc : a.committed = true
        · rw [if_pos hc]
          exact .addsFinalizer hp ho
        · rw [if_neg hc]
          exact .idle hp

theorem inFlight_of_not_running {w : World} {m : String} (h : ¬w.running m = true) : w.inFlight m = none := by
  simpa [running] using h

/-- One step of a pass is one of `Reconciled`. -/
theorem reconcile_reconciled (a : PassAnswers) :
    Reconciled r w k a (w.reconcile r k a).1 (w.reconcile r k a).2 := by
  unfold reconcile
  cases hp : w.passes k with
  | none => exact beginPass_reconciled r hp
  | some p =>
    have hends : (∀ fi s, p ≠ .claimed fi s) → (∀ m fi s, p ≠ .stamped m fi s) → Reconciled r w k a (w.setPass k none) [] :=
      fun hc hs => .ends hp hc hs (.inl rfl)
    cases p with
    | got fi =>
      simp only
      by_cases hr : w.running fi.spec.machineRef = true
      · rw [if_pos hr]
        exact hends (by simp) (by simp)
      rw [if_neg hr]
      by_cases hg : fi.status.observedGeneration = fi.generation
      · rw [if_pos hg]
        exact .restarts hp (inFlight_of_not_running hr) hg
      · rw [if_neg hg]
        exact .clears hp hg
    | finalizing fi =>
      simp only
      by_cases hr : w.running fi.spec.machineRef = true
      · rw [if_pos hr]
        exact hends (by simp) (by simp)
      rw [if_neg hr]
      by_cases hc : cleanupFailed a = true
      · rw [if_pos hc]
        exact .ends hp (by simp) (by simp) (.inr ⟨fi, rfl, rfl⟩)
      · rw [if_neg hc]
        exact .cleans hp (inFlight_of_not_running hr)
    | removing fi =>
      simp only
      by_cases hc : a.committed = true
      · rw [if_pos hc]
        exact .removes hp
      · rw [if_neg hc]
        exact hends (by simp) (by simp)
    | failing fi status =>
      simp only
      by_cases hc : a.committed = true
      · rw [if_pos hc]
        exact .fails hp
      · rw [if_neg hc]
        exact hends (by simp) (by simp)
    | cleared fi =>
      simp only
      cases hm : refusal r a w.objects.items fi with
      | some msg => exact .refuses hp msg
      | none =>
        simp only
        by_cases hr : w.running fi.spec.machineRef = true
        · rw [if_pos hr]
          exact hends (by simp) (by simp)
        · rw [if_neg hr]
          exact .claims hp (inFlight_of_not_running hr) _
    | claimed fi s =>
      simp only
      by_cases hc : a.committed = true
      · rw [if_pos hc]
        cases ha : (w.patchStatus k fi.status { fi.status with observedGeneration := fi.generation }).objects.get? k with
        | some answer => exact .stamps hp ha
        | none => exact .unclaims hp
      · rw [if_neg hc]
        exact .unclaims hp
    | stamped machine fi s =>
      simp only
      cases hu : a.installUID with
      | error err => exact .unstarts hp _
      | ok installUID => exact .starts hp installUID

inductive Driven (w : World) (g : Goroutine) (a : GoAnswers) : World → List InstallEvent → Prop where
  /-- A report whose object could not be read. -/
  | skipsReport {p : Phase} (hs : g.stage = .installing) (hp : g.install.pc = .report p) :
      Driven w g a (w.setGoroutine g g.install.reported .installing) []
  | readsReport {p : Phase} {fi : FrameInstall} (hs : g.stage = .installing) (hp : g.install.pc = .report p)
      (ho : w.objects.get? g.key = some fi) : Driven w g a (w.setGoroutine g g.install (.reporting fi)) []
  | returns (hs : g.stage = .installing) (hp : g.install.pc = .returned) :
      Driven w g a (w.setGoroutine g g.install .returned) []
  | calls (hs : g.stage = .installing) (hp : ∀ p, g.install.pc ≠ .report p) (hr : g.install.pc ≠ .returned) :
      Driven w g a (w.setGoroutine g (g.install.next r.validatePendingSpec a.toAnswers) .installing)
        ((g.install.call a.toAnswers).map fun c => .called g.uid c.1 c.2)
  | reports {fi : FrameInstall} (hs : g.stage = .reporting fi) (hc : a.committed = true) :
      Driven w g a ((w.patchStatus g.key fi.status { fi.status with phase := some g.install.res.phase }).setGoroutine g
        g.install.reported .installing) []
  | losesReport {fi : FrameInstall} (hs : g.stage = .reporting fi) :
      Driven w g a (w.setGoroutine g g.install.reported .installing) []
  /-- A result whose object could not be read. -/
  | losesResult (hs : g.stage = .returned) (hr : a.readable = false ∨ w.objects.get? g.key = none) :
      Driven w g a (w.setGoroutine g g.install .recorded) []
  | computes {fi : FrameInstall} (hs : g.stage = .returned) (ho : w.objects.get? g.key = some fi) :
      Driven w g a
        (w.setGoroutine g g.install (.recording fi (finishStatus r fi g.install.res g.install.err a.createSecret).1))
        (if (finishStatus r fi g.install.res g.install.err a.createSecret).2 then [.secretCreated g.uid] else [])
  | records {fi : FrameInstall} {status : FrameInstallStatus} (hs : g.stage = .recording fi status) (hc : a.committed = true) :
      Driven w g a ((w.patchStatus g.key fi.status status).setGoroutine g g.install .recorded) []
  | losesRecord {fi : FrameInstall} {status : FrameInstallStatus} (hs : g.stage = .recording fi status)
      (hc : a.committed = false) : Driven w g a (w.setGoroutine g g.install .recorded) []
  | finishes (hs : g.stage = .recorded) :
      Driven w g a { w.release g.machineRef with goroutines := w.goroutines.erase g.id } []

/-- One step of a goroutine is one of `Driven`. -/
theorem drive_driven (g : Goroutine) (a : GoAnswers) : Driven r w g a (w.drive r g a).1 (w.drive r g a).2 := by
  unfold drive
  cases hs : g.stage with
  | installing =>
    cases hp : g.install.pc with
    | report p =>
      simp only
      by_cases hr : a.readable = true
      · rw [if_pos hr]
        cases ho : w.objects.get? g.key with
        | none => exact .skipsReport hs hp
        | some fi => exact .readsReport hs hp ho
      · rw [if_neg hr]
        exact .skipsReport hs hp
    | returned => exact .returns hs hp
    | validate | serial | build | beforeMediaAttached | insertMedia | mediaInserted | setBootOnce | reset | waitForOurSystem
    | dial | join | nodeReady | ejectMedia | clearBootOverride | removeImage =>
      exact .calls hs (by simp [hp]) (by simp [hp])
  | reporting fi =>
    simp only
    by_cases hc : a.committed = true
    · rw [if_pos hc]
      exact .reports hs hc
    · rw [if_neg hc]
      exact .losesReport hs
  | returned =>
    simp only
    by_cases hr : a.readable = true
    · rw [if_pos hr]
      cases ho : w.objects.get? g.key with
      | none => exact .losesResult hs (.inr ho)
      | some fi => exact .computes hs ho
    · rw [if_neg hr]
      exact .losesResult hs (.inl (by simpa using hr))
  | recording fi status =>
    simp only
    by_cases hc : a.committed = true
    · rw [if_pos hc]
      exact .records hs hc
    · rw [if_neg hc]
      exact .losesRecord hs (by simpa using hc)
  | recorded => exact .finishes hs

end FrameOperator.Provision
