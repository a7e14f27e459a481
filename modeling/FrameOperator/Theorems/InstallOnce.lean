import FrameOperator.Lemmas.InstallSound

/-!
# An installation runs once

`observedGeneration` says which generation was handed to `Install`, not that one was. As long as a spec is edited only before or
after its installation, every object has one call of `Install` and every machine one at a time.
-/

namespace FrameOperator.Provision

variable {w w' : World} {evs log : List InstallEvent} {k : ObjectKey} {o : FrameInstall} {r : FrameInstallReconciler}

/-- A call of `Install` on behalf of an object. -/
def InstallEvent.installs (u : Nat) : InstallEvent → Bool
  | .installCalled u' _ => u' == u
  | _ => false

/-- How often `Install` was called on behalf of an object. -/
def installCalls (u : Nat) (log : List InstallEvent) : Nat := log.countP (InstallEvent.installs u)

/-- A spec is edited only while nothing works on it, before or after its installation. -/
def EditsUnstarted (w : World) : InstallAction → Prop
  | .edit k _ => ∀ fi ∈ w.objects.get? k, w.idle fi ∧ (fi.status.observedGeneration = 0 ∨ fi.terminal = true)
  | _ => True

instance (w : World) (a : InstallAction) : Decidable (EditsUnstarted w a) := by
  cases a <;> unfold EditsUnstarted <;> infer_instance

theorem EditsUnstarted.editsIdle {a : InstallAction} (h : EditsUnstarted w a) : EditsIdle w a := by
  cases a with
  | edit k spec => exact fun fi hfi => (h fi hfi).1
  | create | delete | reconcile | drive | crash => trivial

/-- Nothing will start on the object any more. -/
structure Spent (w : World) (k : ObjectKey) (o : FrameInstall) : Prop where
  stamped : o.status.observedGeneration ≠ 0
  settled : o.deleting = true ∨ o.status.observedGeneration = o.generation ∨ (o.terminal = true ∧ w.Quiet k)

def Pass.mayStart : Pass → Bool
  | .got fi => fi.status.observedGeneration != fi.generation
  | .cleared _ | .claimed _ _ | .stamped _ _ _ => true
  | .finalizing _ | .removing _ | .failing _ _ => false

/-- No object had two calls, and a pass that may start is on one that had none. -/
structure Once (w : World) (log : List InstallEvent) : Prop where
  known : ∀ u, installCalls u log ≠ 0 → u < w.nextUid
  atMost : ∀ u, installCalls u log ≤ 1
  spent : ∀ k o, w.objects.get? k = some o → installCalls o.uid log ≠ 0 → Spent w k o
  starting : ∀ k p, w.passes k = some p → p.mayStart = true → installCalls p.copy.uid log = 0

theorem once_init : Once World.init [] where
  known := by intro u h; exact absurd rfl h
  atMost := fun _ => Nat.zero_le _
  spent := by intro k o h; cases h
  starting := by intro k p h; cases h

theorem installCalls_append (u : Nat) (log evs : List InstallEvent) :
    installCalls u (log ++ evs) = installCalls u log + installCalls u evs := List.countP_append

theorem installCalls_ejectAndClear (u u' : Nat) (a : PassAnswers) : installCalls u (ejectAndClear u' a) = 0 := by
  unfold ejectAndClear
  split <;> rfl

theorem Once.extend (h : Once w log) (he : ∀ u, installCalls u evs = 0) :
    Once w (log ++ evs) := by
  have heq : ∀ u, installCalls u (log ++ evs) = installCalls u log := by
    intro u
    rw [installCalls_append, he u, Nat.add_zero]
  constructor
  · intro u
    rw [heq u]
    exact h.known u
  · intro u
    rw [heq u]
    exact h.atMost u
  · intro k o
    rw [heq o.uid]
    exact h.spent k o
  · intro k p
    rw [heq p.copy.uid]
    exact h.starting k p

/-! ## What keeps it -/

theorem Spent.mono (h : Spent w k o) (hq : w.Quiet k → w'.Quiet k) :
    Spent w' k o := ⟨h.stamped, h.settled.imp_right (Or.imp_right (And.imp_right hq))⟩

theorem Once.setPass {p : Option Pass} (h : Once w log)
    (hp : ∀ q, p = some q → q.mayStart = true → installCalls q.copy.uid log = 0) : Once (w.setPass k p) log where
  known := h.known
  atMost := h.atMost
  spent := fun j o ho hu => (h.spent j o ho hu).mono id
  starting := by
    intro j q hq
    by_cases hj : j = k
    · subst hj
      rw [w.passes_setPass_self] at hq
      exact hp q hq
    · rw [w.passes_setPass_ne p hj] at hq
      exact h.starting j q hq

theorem Once.endPass (h : Once w log) : Once (w.setPass k none) log :=
  h.setPass (fun _ hq => by cases hq)

theorem Once.memory (h : Once w log) (inFlight : String → Option Nat)
    (goroutines : Keyed Goroutine Goroutine.id) (hg : ∀ k, w.Quiet k → World.Quiet { w with goroutines := goroutines } k) :
    Once { w with inFlight := inFlight, goroutines := goroutines } log where
  known := h.known
  atMost := h.atMost
  spent := fun k o ho hu => (h.spent k o ho hu).mono (hg k)
  starting := h.starting

theorem Once.setGoroutine {g : Goroutine} {i : Install} {s : Stage} (h : Once w log)
    (hg : w.live g) : Once (w.setGoroutine g i s) log :=
  h.memory w.inFlight _ (fun _ => World.quiet_setGoroutine hg)

/-- A write that leaves the spent spent keeps it at one call. -/
theorem Once.write {f : FrameInstall → FrameInstall}
    {hf : ∀ fi, (f fi).key = fi.key} (h : Once w log) (hu : ∀ o, w.objects.get? k = some o → (f o).uid = o.uid)
    (hs : ∀ o, w.objects.get? k = some o → installCalls o.uid log ≠ 0 → Spent w k o → Spent w k (o.written f)) :
    Once (w.write k f hf) log where
  known := h.known
  atMost := h.atMost
  spent := by
    intro j o' ho' hcalls
    by_cases hj : j = k
    · subst hj
      rw [World.get?_write, if_pos rfl] at ho'
      obtain ⟨o, ho, rfl⟩ := Option.map_eq_some_iff.mp ho'
      have hcalls' : installCalls o.uid log ≠ 0 := by
        rw [← hu o ho]
        exact hcalls
      exact (hs o ho hcalls' (h.spent j o ho hcalls')).mono id
    · rw [World.get?_write_ne hj] at ho'
      exact (h.spent j o' ho' hcalls).mono id
  starting := h.starting

theorem Once.erase (h : Once w log) (k : ObjectKey) :
    Once { w with objects := w.objects.erase k } log where
  known := h.known
  atMost := h.atMost
  spent := by
    intro j o ho hcalls
    have ho : (w.objects.erase k).get? j = some o := ho
    rw [Keyed.get?_erase] at ho
    split at ho
    · cases ho
    · exact (h.spent j o ho hcalls).mono id
  starting := h.starting

theorem Spent.mild {o' : FrameInstall} (h : Spent w k o) (hm : Mild o o')
    (hp : o.terminal = true → w.Quiet k → o'.terminal = true) : Spent w k o' where
  stamped := by
    rw [hm.handed]
    exact h.stamped
  settled := by
    rcases h.settled with hd | hg | ⟨ht, hq⟩
    · rcases hm.generation with ⟨-, hd'⟩ | ⟨hd', -⟩
      · exact .inl (hd'.trans hd)
      · exact .inl hd'
    · rcases hm.generation with ⟨hg', -⟩ | ⟨hd', -⟩
      · exact .inr (.inl (by rw [hm.handed, hg', hg]))
      · exact .inl hd'
    · exact .inr (.inr ⟨hp ht hq, hq⟩)

/-! ## The steps -/

section

variable (h : Once w log)
include h

theorem Once.create (k : ObjectKey) (spec : FrameInstallSpec) :
    Once (w.create k spec) log := by
  unfold World.create
  split
  · exact h
  refine ⟨fun u hu => Nat.lt_succ_of_lt (h.known u hu), h.atMost, ?_, h.starting⟩
  intro j o ho hcalls
  simp only [Keyed.get?_insertNew] at ho
  split at ho
  · cases ho
    exact absurd (h.known _ hcalls) (Nat.lt_irrefl _)
  · exact (h.spent j o ho hcalls).mono id

/-- An edit before or after keeps it at one call. -/
theorem Once.edit {spec : FrameInstallSpec} (hs : Sound w)
    (ha : EditsUnstarted w (.edit k spec)) : Once (w.edit k spec) log := by
  refine h.write (fun _ _ => rfl) ?_
  intro o ho _ hspent
  obtain ⟨⟨-, hidle⟩, hzero | hterm⟩ := ha o ho
  · exact absurd hzero hspent.stamped
  · exact ⟨hspent.stamped, .inr (.inr ⟨hterm, hs.quiet_of_uid ho hidle⟩)⟩

theorem Once.delete (k : ObjectKey) : Once (w.delete k) log := by
  rcases w.delete_cases k with ⟨-, -, -, hd⟩ | hd | hd <;> rw [hd]
  · exact h.erase k
  · exact h
  · exact h.write (fun _ _ => rfl) (fun o _ _ hspent => ⟨hspent.stamped, .inl rfl⟩)

theorem Once.crash : Once w.crash log where
  known := h.known
  atMost := h.atMost
  spent := fun k o ho hu => (h.spent k o ho hu).mono fun _ g hg => by cases hg
  starting := by intro k p hp; cases hp

theorem Once.removeFinalizer (k : ObjectKey) (fi : FrameInstall) :
    Once (w.removeFinalizer k fi) log := by
  rcases w.removeFinalizer_cases k fi with hr | hr | hr <;> rw [hr]
  · exact h
  · exact h.erase k
  · exact h.write (fun _ _ => rfl) (fun o _ _ hspent => ⟨hspent.stamped, hspent.settled⟩)

omit h in
theorem Sound.pass_of_uid {j : ObjectKey} {p q : Pass} (h : Sound w) (hp : w.passes k = some p)
    (hq : w.passes j = some q) (hu : p.copy.uid = q.copy.uid) : k = j := by
  obtain ⟨o, ho, hs⟩ := h.passes k p hp
  obtain ⟨o', ho', hs'⟩ := h.passes j q hq
  exact h.uids k j o o' ho ho' (by rw [← hs.copied.uid, ← hs'.copied.uid, hu])

/-- A start is the first call for its object. -/
theorem Once.starts {machine : String}
    {fi : FrameInstall} {s : Secrets} (hs : Sound w) (hp : w.passes k = some (.stamped machine fi s)) (u : String) :
    Once ((w.spawn r k machine fi s u).setPass k none) (log ++ [.installCalled fi.uid machine]) := by
  have hnone := h.starting k _ hp rfl
  obtain ⟨o, ho, hc, -, -, -, hg, hz⟩ := hs.passes k _ hp
  have hcount : ∀ x, installCalls x (log ++ [.installCalled fi.uid machine]) = installCalls x log + if fi.uid = x then 1 else 0 := by
    intro x
    rw [installCalls_append]
    simp [installCalls, InstallEvent.installs, List.countP_singleton]
  constructor
  case known =>
    intro x hx
    rw [hcount] at hx
    by_cases hux : fi.uid = x
    · subst hux
      change fi.uid < w.nextUid
      rw [hc.uid]
      exact hs.fresh k o ho
    · exact h.known x (by simpa [hux] using hx)
  case atMost =>
    intro x
    rw [hcount]
    by_cases hux : fi.uid = x
    · subst hux
      have hnone : installCalls fi.uid log = 0 := hnone
      simp [hnone]
    · simpa [hux] using h.atMost x
  case spent =>
    intro j o' ho' hcalls
    by_cases hj : j = k
    · subst hj
      have heq : o' = o := Option.some.inj (ho'.symm.trans ho)
      subst heq
      exact ⟨hz, hg.elim (fun hg => .inr (.inl hg)) .inl⟩
    · have hux : fi.uid ≠ o'.uid := by
        rw [hc.uid]
        exact fun heq => hj (hs.uids k j o o' ho ho' heq).symm
      rw [hcount, if_neg hux] at hcalls
      refine (h.spent j o' ho' hcalls).mono fun hq x hx => ?_
      rcases World.live_spawn hx with hx | rfl
      · exact hq x hx
      · exact Ne.symm hj
  case starting =>
    intro j q hq hm
    by_cases hj : j = k
    · subst hj
      rw [World.passes_setPass_self] at hq
      cases hq
    · rw [World.passes_setPass_ne _ _ hj] at hq
      have hux : fi.uid ≠ q.copy.uid := fun heq => hj (hs.pass_of_uid hp hq heq).symm
      rw [hcount, if_neg hux]
      exact h.starting j q hq hm

omit h in
theorem terminal_patch_failed {base new : FrameInstallStatus} (hp : new.phase = some .failed) (ht : o.terminal = true) :
    FrameInstall.terminal (o.written fun fi => { fi with status := base.merge new fi.status }) = true := by
  simp only [FrameInstall.terminal, FrameInstall.written, FrameInstallStatus.merge, hp, mergePart] at ht ⊢
  split
  · exact ht
  · rfl

/-- Every step of a pass keeps it at one call. -/
theorem Once.reconciled {a : PassAnswers} (hs : Sound w) (hr : Reconciled r w k a w' evs) : Once w' (log ++ evs) := by
  have hnil : ∀ u, installCalls u [] = 0 := fun _ => rfl
  cases hr with
  | idle hp => exact h.extend hnil
  | addsFinalizer hp ho =>
    exact Once.extend (h.write (fun _ _ => rfl) (fun o _ _ hspent => ⟨hspent.stamped, hspent.settled⟩)) hnil
  | @reads o hp ho hd hf ht =>
    refine (h.setPass fun q hq hm => ?_).extend hnil
    cases hq
    have hgen : o.status.observedGeneration ≠ o.generation := by simpa [Pass.mayStart] using hm
    -- a spent object is being deleted, or handed over, or terminal, and the pass found none of these
    by_contra hcalls
    rcases (h.spent k o ho hcalls).settled with hd' | hg | ⟨ht', -⟩
    · rw [hd] at hd'
      cases hd'
    · exact hgen hg
    · rw [ht] at ht'
      cases ht'
  | readsDeleting hp ho hf => exact (h.setPass (by rintro q ⟨⟩ ⟨⟩)).extend hnil
  | ends hp hc hsd he =>
    refine h.endPass.extend ?_
    rcases he with rfl | ⟨fi, -, rfl⟩
    · exact hnil
    · exact fun u => installCalls_ejectAndClear u fi.uid a
  | @restarts fi hp hr hg => exact (h.setPass (by rintro q ⟨⟩ ⟨⟩)).extend fun u => installCalls_ejectAndClear u fi.uid a
  | @clears fi hp hg =>
    refine (h.setPass ?_).extend hnil
    rintro q ⟨⟩ -
    exact h.starting k (.got fi) hp (by simpa [Pass.mayStart] using hg)
  | @cleans fi hp hr => exact (h.setPass (by rintro q ⟨⟩ ⟨⟩)).extend fun u => installCalls_ejectAndClear u fi.uid a
  | @removes fi hp => exact (h.removeFinalizer k fi).endPass.extend hnil
  | @fails fi status hp =>
    obtain ⟨o, ho, hc, hq, hphase, hobs⟩ := hs.passes k _ hp
    refine Once.extend (Once.endPass (h.write (fun _ _ => rfl) ?_)) hnil
    intro o' _ _ hspent
    exact hspent.mild (mild_patch hobs.symm o') (fun ht _ => terminal_patch_failed hphase ht)
  | refuses hp msg => exact (h.setPass (by rintro q ⟨⟩ ⟨⟩)).extend hnil
  | @claims fi hp hr s =>
    refine ((h.memory (Function.update w.inFlight fi.spec.machineRef (some fi.uid)) w.goroutines (fun _ => id)).setPass ?_).extend hnil
    rintro q ⟨⟩ -
    exact h.starting k (.cleared fi) hp rfl
  | @stamps fi answer s hp ha =>
    obtain ⟨o, ho, hc, hrest⟩ := hs.passes k _ hp
    have hnone := h.starting k _ hp rfl
    have hans : answer = stampedBy fi o := by
      rw [World.patchStatus, World.get?_write_self ho] at ha
      exact (Option.some.inj ha).symm
    subst hans
    have hcopy : installCalls (stampedBy fi o).uid log = 0 := by
      change installCalls o.uid log = 0
      rw [← hc.uid]
      exact hnone
    refine Once.extend (Once.setPass (h.write (fun _ _ => rfl) ?_) ?_) hnil
    · intro o' ho' hcalls
      rw [ho] at ho'
      cases ho'
      exact absurd hcopy hcalls
    · rintro q ⟨⟩ -
      exact hcopy
  | @unclaims fi s hp =>
    exact (h.memory (Function.update w.inFlight fi.spec.machineRef none) w.goroutines (fun _ => id)).endPass.extend hnil
  | @unstarts machine fi s hp msg =>
    exact ((h.memory (Function.update w.inFlight fi.spec.machineRef none) w.goroutines (fun _ => id)).setPass
      (by rintro q ⟨⟩ ⟨⟩)).extend hnil
  | starts hp u => exact h.starts hs hp u

/-- Every step of a goroutine keeps it at one call. -/
theorem Once.driven {g : Goroutine} {a : GoAnswers} (hs : Sound w) (hg : w.live g) (hd : Driven r w g a w' evs) :
    Once w' (log ++ evs) := by
  have hnil : ∀ u, installCalls u [] = 0 := fun _ => rfl
  -- a goroutine's own patch: its object is not quiet
  have hpatch : ∀ base new : FrameInstallStatus, base.observedGeneration = new.observedGeneration →
      Once (w.patchStatus g.key base new) log := fun base new hb =>
    h.write (fun _ _ => rfl) (fun o _ _ hspent => hspent.mild (mild_patch hb o) (fun _ hq => absurd rfl (hq g hg)))
  cases hd with
  | skipsReport | readsReport | returns | losesReport | losesResult | losesRecord => exact (h.setGoroutine hg).extend hnil
  | calls =>
    refine (h.setGoroutine hg).extend fun u => ?_
    rw [installCalls, List.countP_map]
    exact List.countP_eq_zero.mpr (by simp [InstallEvent.installs])
  | reports => exact (Once.setGoroutine (hpatch _ _ (by rfl)) hg).extend hnil
  | computes =>
    refine (h.setGoroutine hg).extend fun u => ?_
    split <;> rfl
  | records hst => exact (Once.setGoroutine (hpatch _ _ (hs.records g hg _ _ hst).symm) hg).extend hnil
  | finishes =>
    exact (h.memory _ _ (fun k hq x hx => hq x (World.live_erase hx).1)).extend hnil

/-- Every step keeps it at one call. -/
theorem Once.step {a : InstallAction}
    (hs : Sound w) (ha : EditsUnstarted w a) : Once (installStep r w a).1 (log ++ (installStep r w a).2) := by
  have hnil : ∀ u, installCalls u [] = 0 := fun _ => rfl
  cases a with
  | create k spec => exact (h.create k spec).extend hnil
  | edit k spec => exact (h.edit hs ha).extend hnil
  | delete k => exact (h.delete k).extend hnil
  | reconcile k answers => exact h.reconciled hs (reconcile_reconciled w k r answers)
  | drive id answers =>
    cases hg : w.goroutines.get? id with
    | none => simpa only [installStep, hg] using h.extend hnil
    | some g => simpa only [installStep, hg] using h.driven hs (Keyed.mem_of_get? hg) (drive_driven w r g answers)
  | crash => exact h.crash.extend hnil

end

/-- Where specs are edited only before or after their installation, it is called once, and no two drive one machine. -/
theorem install_runs_once (r : FrameInstallReconciler) (actions : List InstallAction)
    (hm : Meets (installStep r) EditsUnstarted World.init actions) :
    (∀ u, installCalls u (run (installStep r) World.init actions).2 ≤ 1) ∧
      ∀ g ∈ (run (installStep r) World.init actions).1.goroutines.items,
        ∀ g' ∈ (run (installStep r) World.init actions).1.goroutines.items,
          g.machine = g'.machine ∨ g.machineRef = g'.machineRef → g = g' := by
  obtain ⟨hs, ho⟩ := run_induct (I := fun w log => Sound w ∧ Once w log) ⟨sound_init, once_init⟩
    (fun _ _ _ h ha => ⟨h.1.step ha.editsIdle, h.2.step h.1 ha⟩) actions hm
  refine ⟨ho.atMost, ?_⟩
  intro g hg g' hg' hsame
  have href : g.machineRef = g'.machineRef := by
    rcases hsame with hmachine | href
    · rw [← hs.machines g hg, ← hs.machines g' hg', hmachine]
    · exact href
  exact (hs.held_by_goroutine hg').1 g hg href

namespace Fixture

def install (name : String) : ObjectKey := ⟨"default", name⟩

def kubeconfig : Kubeconfig := ⟨"apiVersion: v1", by decide⟩

def installSpec (hostname machineRef : String) : FrameInstallSpec where
  machineRef := machineRef
  confirmSerial := "CZ1"
  hostname := hostname
  network := ⟨"192.0.2.7/24", "192.0.2.1", ["192.0.2.1"]⟩
  layout := ⟨"single-disk", [⟨"/dev/disk/by-id/wwn-0x5000c500a1b2c3d4", 300000000000⟩]⟩
  cluster := ⟨clusterInit, "", "", "v1.33.4+k3s1"⟩
  bootMode := "UEFI"
  sshKeyRef := "node-ssh"

def installer : FrameInstallReconciler where
  mediaURLError := none
  operatorNamespace := ""
  phaseTimeout := none
  poll := 0
  validatePendingSpec := fun _ _ => none

def createInstall (name machineRef : String) : InstallAction := .create (install name) (installSpec name machineRef)

def editInstall (name machineRef : String) : InstallAction := .edit (install name) (installSpec name machineRef)

/-- Steps of a pass in which everything is answered: six take a new object to its installation. -/
def passSteps (n : Nat) (name : String) : List InstallAction :=
  List.replicate n (.reconcile (install name) { installUID := .ok "5f1c" })

/-- Under an installation the object is made to name another machine, and starts there. -/
def retargeted : List InstallAction := createInstall "a" "m1" :: passSteps 6 "a" ++ editInstall "a" "m2" :: passSteps 5 "a"

/-- The machine is changed between claim and stamp: one is driven, another freed. -/
def crossed : List InstallAction :=
  [createInstall "a" "m1", createInstall "b" "m2", createInstall "c" "m2"] ++ passSteps 4 "a" ++ editInstall "a" "m2" ::
    passSteps 2 "a" ++ passSteps 6 "b" ++ List.replicate 11 (.drive 0 {}) ++ passSteps 6 "c"

def corrected : List InstallAction :=
  createInstall "a" "m1" :: editInstall "a" "m2" :: passSteps 6 "a" ++ .crash :: passSteps 6 "a"

/-- The object is deleted while its installation runs. -/
def withdrawn : List InstallAction := createInstall "a" "m1" :: passSteps 6 "a" ++ [.delete (install "a")]

end Fixture

set_option maxRecDepth 8000 in
/-- An edit under an installation has it called again; one under the pass that starts it has two drive one machine. -/
theorem install_runs_twice :
    (run (installStep Fixture.installer) World.init Fixture.retargeted).2 = [.installCalled 1 "m1", .installCalled 1 "m2"] ∧
      (run (installStep Fixture.installer) World.init Fixture.crossed).1.goroutines.items.map (fun g => (g.uid, g.machine)) =
        [(2, "m2"), (3, "m2")] := by
  constructor <;> decide

set_option maxRecDepth 4000 in
/-- A spec corrected before its installation. -/
theorem install_runs_once_corrected :
    installCalls 1 (run (installStep Fixture.installer) World.init Fixture.corrected).2 = 1 ∧
      installCalls 1 (run (installStep Fixture.installer) World.init Fixture.corrected).2 ≤ 1 :=
  ⟨by decide, (install_runs_once Fixture.installer Fixture.corrected (by decide)).1 1⟩

end FrameOperator.Provision
