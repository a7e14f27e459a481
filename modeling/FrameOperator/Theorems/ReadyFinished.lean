import FrameOperator.Theorems.InstallOnce

/-!
# Ready means finished

`Install` reports Ready before its deferred cleanup and before `finishStatus` saves the kubeconfig. What the goroutine still has to
do is in its memory only: if that is lost, or its last word does not get through, the object stays Ready over a machine nobody
cleaned up.
-/

namespace FrameOperator.Provision

open Keyed World List

variable {w w' : World} {k : ObjectKey} {o : FrameInstall} {u : Nat} {evs log : List InstallEvent} {i : Install} {g : Goroutine}
  {r : FrameInstallReconciler}

/-- The call puts the installer's media into the machine or makes it boot from there. -/
def InstallEvent.drives (u : Nat) : InstallEvent → Bool
  | .called u' .insertMedia _ | .called u' .setBootOnce _ => u' == u
  | _ => false

/-- What has been seen since the last of those calls that was made on behalf of an object. -/
def sinceDriven (u : Nat) (log : List InstallEvent) : List InstallEvent := log.rtakeWhile fun e => !e.drives u

/-- The media is out of the machine, its boot override is cleared and the image is gone. -/
structure Cleaned (log : List InstallEvent) (u : Nat) : Prop where
  eject : .called u .ejectMedia true ∈ sinceDriven u log
  clear : .called u .clearBootOverride true ∈ sinceDriven u log
  remove : .called u .removeImage true ∈ sinceDriven u log

/-- The machine is cleaned up, and the kubeconfig of a new cluster is saved. -/
structure Finished (log : List InstallEvent) (o : FrameInstall) : Prop where
  cleaned : Cleaned log o.uid
  saved : o.spec.cluster.mode = clusterInit → .secretCreated o.uid ∈ log

def World.ready (w : World) (k : ObjectKey) : Bool := (w.objects.get? k).any fun fi => fi.status.phase == some .ready

/-- The result of a goroutine that is about to read its object for it, or to patch it, gets through. -/
def Goroutine.getsThrough (g : Goroutine) (a : GoAnswers) : Bool :=
  match g.stage with
  | .returned => a.readable
  | .recording _ _ => a.committed
  | _ => true

/-- The process does not end under an object that is Ready, its result gets through, and no edit comes between. -/
def ReadySafe (w : World) : InstallAction → Prop
  | .crash => ∀ g ∈ w.goroutines.items, w.ready g.key = false
  | .drive id a => ∀ g ∈ w.goroutines.get? id, w.ready g.key = true → g.getsThrough a = true
  | .edit k spec => ∀ fi ∈ w.objects.get? k, w.idle fi ∧ (w.ready k = true → spec.cluster.mode = fi.spec.cluster.mode)
  | _ => True

instance (w : World) : ∀ a, Decidable (ReadySafe w a)
  | .crash => inferInstanceAs (Decidable (∀ _ ∈ _, _))
  | .drive _ _ => inferInstanceAs (Decidable (∀ _ ∈ _, _))
  | .edit _ _ => inferInstanceAs (Decidable (∀ _ ∈ _, _))
  | .create _ _ | .delete _ | .reconcile _ _ => isTrue trivial

theorem ReadySafe.editsIdle {a : InstallAction} (h : ReadySafe w a) : EditsIdle w a := by
  cases a with
  | edit k spec => exact fun fi hfi => (h fi hfi).1
  | create | delete | reconcile | drive | crash => trivial

theorem World.ready_iff (ho : w.objects.get? k = some o) :
    w.ready k = true ↔ o.status.phase = some .ready := by
  simp [ready, ho]

/-! ## The log -/

theorem mem_sinceDriven_append (h : ∀ e ∈ evs, e.drives u = false) {e : InstallEvent}
    (he : e ∈ sinceDriven u log) : e ∈ sinceDriven u (log ++ evs) := by
  induction evs using List.reverseRecOn with
  | nil => simpa using he
  | append_singleton evs x ih =>
    have hx : x.drives u = false := h x (by simp)
    rw [← append_assoc, sinceDriven, rtakeWhile_concat, if_pos (by simp [hx])]
    exact mem_append_left _ (ih fun y hy => h y (mem_append_left _ hy))

theorem mem_sinceDriven_snoc (log : List InstallEvent) {e : InstallEvent} (h : e.drives u = false) :
    e ∈ sinceDriven u (log ++ [e]) := by
  rw [sinceDriven, rtakeWhile_concat, if_pos (by simp [h])]
  exact mem_append_right _ (mem_singleton_self e)

theorem Cleaned.append (h : Cleaned log u) (he : ∀ e ∈ evs, e.drives u = false) :
    Cleaned (log ++ evs) u :=
  ⟨mem_sinceDriven_append he h.eject, mem_sinceDriven_append he h.clear, mem_sinceDriven_append he h.remove⟩

theorem Finished.append (h : Finished log o)
    (he : ∀ e ∈ evs, e.drives o.uid = false) : Finished (log ++ evs) o :=
  ⟨h.cleaned.append he, fun hm => mem_append_left _ (h.saved hm)⟩

theorem Finished.congr {o' : FrameInstall} (h : Finished log o) (hu : o'.uid = o.uid)
    (hm : o'.spec.cluster.mode = o.spec.cluster.mode) : Finished log o' := by
  refine ⟨hu ▸ h.cleaned, fun hmode => ?_⟩
  rw [hu]
  exact h.saved (hm ▸ hmode)

/-! ## What an installation has done by the time it returns -/

/-- The calls that succeeded are in the log, and it returns Ready only after all. -/
def Progress (log : List InstallEvent) (u : Nat) (i : Install) : Prop :=
  match i.pc with
  | .report p => i.res.phase = p
  | .clearBootOverride => i.ejectErr = none → .called u .ejectMedia true ∈ sinceDriven u log
  | .removeImage => .called u .ejectMedia true ∈ sinceDriven u log ∧
      (i.clearErr = none → .called u .clearBootOverride true ∈ sinceDriven u log)
  | .returned => i.res.phase = .ready → Cleaned log u
  | _ => True

def Saves (i : Install) : Prop :=
  i.pc = .nodeReady ∨ i.res.phase = .ready → i.spec.cluster.mode = clusterInit → i.res.kubeconfig ≠ ""

structure Cleaning (log : List InstallEvent) (u : Nat) (i : Install) : Prop where
  progress : Progress log u i
  saves : Saves i

theorem cleaning_start (log : List InstallEvent) (u : Nat) (s : Spec) (o : Options) : Cleaning log u (Install.start s o) :=
  ⟨rfl, by rintro (h | h) <;> cases h⟩

theorem Cleaning.append (h : Cleaning log u i)
    (he : ∀ e ∈ evs, e.drives u = false) : Cleaning (log ++ evs) u i := by
  refine ⟨?_, h.saves⟩
  have hp := h.progress
  unfold Progress at hp ⊢
  split at hp
  · exact hp
  · exact fun hok => mem_sinceDriven_append he (hp hok)
  · exact ⟨mem_sinceDriven_append he hp.1, fun hok => mem_sinceDriven_append he (hp.2 hok)⟩
  · exact fun hr => (hp hr).append he
  · trivial

theorem Cleaning.enter {p : Phase} (h : p = .ready → Saves i ∧ i.pc = .nodeReady) :
    Cleaning log u (i.enter p) := by
  refine ⟨rfl, ?_⟩
  rintro (hpc | hp)
  · cases hpc
  · obtain ⟨hs, hpc⟩ := h hp
    exact hs (.inl hpc)

theorem Cleaning.fail (p : Phase) (e : String) : Cleaning log u (i.fail p e) :=
  Cleaning.enter nofun

theorem Cleaning.reported (h : Cleaning log u i) : Cleaning log u i.reported := by
  have hsaves : ∀ pc, pc ≠ .nodeReady → Saves { i with pc := pc } := fun pc hpc hor => h.saves (.inr (hor.resolve_left hpc))
  unfold Install.reported
  split
  case h_5 => exact Cleaning.enter nofun
  case h_8 hpc =>
    have hfailed : i.res.phase = .failed := by
      have hp := h.progress
      rw [Progress, hpc] at hp
      exact hp
    split
    · exact ⟨trivial, hsaves _ nofun⟩
    refine ⟨fun hr => ?_, hsaves _ nofun⟩
    rw [show i.res.phase = .ready from hr] at hfailed
    cases hfailed
  case h_9 => exact h
  all_goals exact ⟨trivial, hsaves _ nofun⟩

theorem Cleaning.cleanedUp {removeErr : Option String} (hs : Saves i)
    (h : i.ejectErr = none → i.clearErr = none → removeErr = none → Cleaned log u) :
    Cleaning log u (i.cleanedUp removeErr) := by
  unfold Install.cleanedUp
  split
  case isTrue hok =>
    refine ⟨fun _ => h hok.1 hok.2.1 hok.2.2, ?_⟩
    rintro (hpc' | hr)
    · cases hpc'
    · exact hs (.inr hr)
  case isFalse => exact Cleaning.enter nofun

/-- A call keeps account of the cleanup. -/
theorem Cleaning.next {i' : Install} {a : Answers} (h : Cleaning log u i) (hn : Nexts i a i') :
    Cleaning (log ++ (i.call a).map fun c => .called u c.1 c.2) u i' := by
  cases hn with
  | fails p e => exact Cleaning.fail p e
  | @goes pc hp built =>
    refine ⟨?_, fun hor => h.saves (hor.elim (fun hpc => ?_) .inr)⟩
    · unfold Progress
      cases pc <;> trivial
    · simp only at hpc
      subst hpc
      cases hp
  | enters hp => exact Cleaning.enter fun hready => ⟨h.saves, hp hready⟩
  | found hostKey => exact Cleaning.enter nofun
  | waits hp last =>
    refine ⟨?_, h.saves⟩
    rcases hp with hp | hp <;> simp [Progress, hp]
  | @joins kubeconfig hj =>
    refine ⟨trivial, fun _ hm => ?_⟩
    simp only [join, show i.spec.cluster.mode = clusterInit from hm, if_true] at hj
    cases hk : a.joinInit with
    | error err => simp [hk, Except.map] at hj
    | ok k =>
      simp only [hk, Except.map, Except.ok.injEq] at hj
      exact hj ▸ k.nonempty
  | ejects hp =>
    refine ⟨fun he => ?_, fun hor => h.saves (.inr (hor.resolve_left nofun))⟩
    rw [Install.call, hp, show a.ejectMedia = none from he]
    exact mem_sinceDriven_snoc log rfl
  | clears hp he =>
    have hprog := h.progress
    rw [Progress, hp] at hprog
    refine ⟨⟨?_, fun hc => ?_⟩, fun hor => h.saves (.inr (hor.resolve_left nofun))⟩
    · rw [Install.call, hp]
      exact mem_sinceDriven_append (by simp [InstallEvent.drives]) (hprog he)
    · rw [Install.call, hp, show a.clearBootOverride = none from hc]
      exact mem_sinceDriven_snoc log rfl
  | keepsImage hp he => exact Cleaning.cleanedUp h.saves fun hok => absurd hok he
  | removesImage hp =>
    have hprog := h.progress
    rw [Progress, hp] at hprog
    refine Cleaning.cleanedUp h.saves fun _ hclear hremove => ?_
    have hother : ∀ e ∈ [InstallEvent.called u .removeImage true], e.drives u = false := by simp [InstallEvent.drives]
    rw [Install.call, hp, hremove]
    exact ⟨mem_sinceDriven_append hother hprog.1, mem_sinceDriven_append hother (hprog.2 hclear), mem_sinceDriven_snoc log rfl⟩

/-! ## The invariant -/

def StageDone (log : List InstallEvent) (g : Goroutine) (o : FrameInstall) : Prop :=
  match g.stage with
  | .installing | .reporting _ => Cleaning log g.uid g.install
  | .returned => Cleaning log g.uid g.install ∧ g.install.pc = .returned
  | .recording fi status => o.status.phase = fi.status.phase ∧ (status.phase = some .ready → Finished log o)
  | .recorded => o.status.phase = some .ready → Finished log o

/-- What is Ready is finished. -/
structure ReadyDone (w : World) (log : List InstallEvent) : Prop where
  ready : ∀ k o, w.objects.get? k = some o → o.status.phase = some .ready → w.Quiet k → Finished log o
  stages : ∀ g, w.live g → ∀ o, w.objects.get? g.key = some o → StageDone log g o

theorem readyDone_init : ReadyDone init [] where
  ready := by intro k o h; cases h
  stages := by intro g h; cases h

theorem StageDone.append (h : StageDone log g o) (hu : o.uid = g.uid)
    (he : ∀ e ∈ evs, e.drives g.uid = false) : StageDone (log ++ evs) g o := by
  have hfin : Finished log o → Finished (log ++ evs) o := fun hf => hf.append (hu ▸ he)
  unfold StageDone at h ⊢
  split at h
  · exact h.append he
  · exact h.append he
  · exact ⟨h.1.append he, h.2⟩
  · exact ⟨h.1, fun hp => hfin (h.2 hp)⟩
  · exact fun hp => hfin (h hp)

section

variable (h : ReadyDone w log)
include h

theorem ReadyDone.extend (hs : Sound w)
    (he : ∀ e ∈ evs, ∀ u, e.drives u = false) : ReadyDone w (log ++ evs) where
  ready := fun k o ho hp hq => (h.ready k o ho hp hq).append fun e hmem => he e hmem _
  stages := by
    intro g hg o ho
    exact (h.stages g hg o ho).append (hs.drives hg ho).uid fun e hmem => he e hmem _

omit h in
theorem drives_ejectAndClear (u : Nat) (a : PassAnswers) : ∀ e ∈ ejectAndClear u a, ∀ x, e.drives x = false := by
  unfold ejectAndClear
  split <;> simp [InstallEvent.drives]

theorem ReadyDone.memory (inFlight : String → Option Nat)
    (passes : ObjectKey → Option Pass) : ReadyDone { w with inFlight := inFlight, passes := passes } log :=
  ⟨h.ready, h.stages⟩

/-- A write that makes nothing Ready keeps it finished. -/
theorem ReadyDone.write {f : FrameInstall → FrameInstall}
    {hf : ∀ fi, (f fi).key = fi.key}
    (hw : ∀ o, w.objects.get? k = some o → (f o).uid = o.uid ∧
      ((f o).status.phase = some .ready →
        o.status.phase = some .ready ∧ (f o).spec.cluster.mode = o.spec.cluster.mode) ∧
      (w.Quiet k ∨ ((f o).status.phase = o.status.phase ∧ (f o).spec.cluster.mode = o.spec.cluster.mode))) :
    ReadyDone (w.write k f hf) log where
  ready := by
    intro j o' ho' hp hq
    by_cases hj : j = k
    · subst hj
      rw [get?_write, if_pos rfl] at ho'
      obtain ⟨o, ho, rfl⟩ := Option.map_eq_some_iff.mp ho'
      obtain ⟨hu, hr, -⟩ := hw o ho
      obtain ⟨hp', hm⟩ := hr hp
      exact (h.ready j o ho hp' hq).congr hu hm
    · rw [get?_write_ne hj] at ho'
      exact h.ready j o' ho' hp hq
  stages := by
    intro g hg o' ho'
    by_cases hj : g.key = k
    · rw [get?_write, if_pos hj] at ho'
      obtain ⟨o, ho, rfl⟩ := Option.map_eq_some_iff.mp ho'
      obtain ⟨hu, -, hquiet | ⟨hp, hm⟩⟩ := hw o (hj ▸ ho)
      · exact absurd hj (hquiet g hg)
      · have hfin : Finished log o → Finished log (o.written f) := fun hfin => hfin.congr hu hm
        have hst := h.stages g hg o ho
        have hp : (o.written f).status.phase = o.status.phase := hp
        unfold StageDone at hst ⊢
        split at hst
        · exact hst
        · exact hst
        · exact hst
        · exact ⟨hp.trans hst.1, fun hready => hfin (hst.2 hready)⟩
        · exact fun hready => hfin (hst (hp ▸ hready))
    · rw [get?_write_ne hj] at ho'
      exact h.stages g hg o' ho'

theorem ReadyDone.erase (k : ObjectKey) :
    ReadyDone { w with objects := w.objects.erase k } log := by
  have hget : ∀ j o, (w.objects.erase k).get? j = some o → w.objects.get? j = some o := by
    intro j o ho
    rw [get?_erase] at ho
    split at ho
    · cases ho
    · exact ho
  exact ⟨fun j o ho => h.ready j o (hget j o ho), fun g hg o ho => h.stages g hg o (hget g.key o ho)⟩

theorem ReadyDone.advance {s : Stage}
    (hs : Sound w) (hg : w.live g) (hgo : w'.goroutines = w.goroutines)
    (hne : ∀ j, j ≠ g.key → w'.objects.get? j = w.objects.get? j) (he : ∀ e ∈ evs, ∀ u, u ≠ g.uid → e.drives u = false)
    (hst : ∀ o, w'.objects.get? g.key = some o → StageDone (log ++ evs) { g with install := i, stage := s } o) :
    ReadyDone (w'.setGoroutine g i s) (log ++ evs) := by
  have hlive : ∀ x, w'.live x ↔ w.live x := by
    intro x
    rw [live, hgo]
    rfl
  -- another object has another UID
  have huid : ∀ j o, j ≠ g.key → w.objects.get? j = some o → o.uid ≠ g.uid := by
    intro j o hj ho heq
    obtain ⟨o', ho', hd⟩ := hs.driven g hg
    exact hj (hs.uids j g.key o o' ho ho' (heq.trans hd.uid.symm))
  constructor
  · intro j o ho hp hq
    have hj : j ≠ g.key := by
      rintro rfl
      exact hq _ (live_setGoroutine_self i s ((hlive g).mpr hg)) rfl
    have ho : w.objects.get? j = some o := (hne j hj).symm.trans ho
    refine (h.ready j o ho hp ?_).append fun e hmem => he e hmem _ (huid j o hj ho)
    intro x hx hxj
    refine hq x (live_setGoroutine_ne i s ((hlive x).mpr hx) fun hid => ?_) hxj
    rw [w.goroutines.eq_of_key hx hg hid] at hxj
    exact hj hxj.symm
  · intro x hx o ho
    rcases live_setGoroutine ((hlive g).mpr hg) hx with ⟨hx, hid⟩ | rfl
    · have hx : w.live x := (hlive x).mp hx
      have hj : x.key ≠ g.key := fun hk => hid (congrArg Goroutine.id (hs.alone x g hx hg hk))
      have ho : w.objects.get? x.key = some o := (hne _ hj).symm.trans ho
      have hd := hs.drives hx ho
      exact (h.stages x hx o ho).append hd.uid fun e hmem => he e hmem _ (hd.uid ▸ huid _ o hj ho)
    · exact hst o ho

end

/-! ## The steps -/

theorem ReadyDone.create (h : ReadyDone w log) (hs : Sound w) (k : ObjectKey)
    (spec : FrameInstallSpec) : ReadyDone (w.create k spec) log := by
  unfold World.create
  split
  · exact h
  constructor
  · intro j o ho hp hq
    simp only [get?_insertNew] at ho
    split at ho
    · cases ho
      cases hp
    · exact h.ready j o ho hp hq
  · intro g hg o ho
    obtain ⟨o', ho', -⟩ := hs.driven g hg
    simp only [get?_insertNew] at ho
    split at ho
    · rename_i hnew
      rw [hnew.2, hnew.1] at ho'
      cases ho'
    · exact h.stages g hg o ho

theorem ReadyDone.edit {spec : FrameInstallSpec} (h : ReadyDone w log)
    (hs : Sound w) (ha : ReadySafe w (.edit k spec)) : ReadyDone (w.edit k spec) log := by
  refine h.write fun o ho => ?_
  obtain ⟨⟨-, hidle⟩, hmode⟩ := ha o ho
  exact ⟨rfl, fun hp => ⟨hp, hmode ((ready_iff ho).mpr hp)⟩, .inl (hs.quiet_of_uid ho hidle)⟩

theorem ReadyDone.delete (h : ReadyDone w log) (k : ObjectKey) : ReadyDone (w.delete k) log := by
  rcases w.delete_cases k with ⟨-, -, -, hd⟩ | hd | hd <;> rw [hd]
  · exact h.erase k
  · exact h
  · exact h.write fun o _ => ⟨rfl, fun hp => ⟨hp, rfl⟩, .inr ⟨rfl, rfl⟩⟩

theorem ReadyDone.removeFinalizer (h : ReadyDone w log) (k : ObjectKey) (fi : FrameInstall) :
    ReadyDone (w.removeFinalizer k fi) log := by
  rcases w.removeFinalizer_cases k fi with hr | hr | hr <;> rw [hr]
  · exact h
  · exact h.erase k
  · exact h.write fun o _ => ⟨rfl, fun hp => ⟨hp, rfl⟩, .inr ⟨rfl, rfl⟩⟩

theorem ReadyDone.crash (h : ReadyDone w log) (ha : ReadySafe w .crash) :
    ReadyDone w.crash log where
  ready := by
    intro k o ho hp _
    refine h.ready k o ho hp ?_
    rintro g hg rfl
    have hready := (ready_iff (w := w) ho).mpr hp
    rw [ha g hg] at hready
    cases hready
  stages := by intro g hg; cases hg

theorem ReadyDone.spawn {machine : String}
    {fi : FrameInstall} {s : Secrets} {u : String} (h : ReadyDone w log) : ReadyDone (w.spawn r k machine fi s u) log where
  ready := fun j o ho hp hq => h.ready j o ho hp fun g hg => hq g (live_spawn_of_live hg)
  stages := by
    intro g hg o ho
    rcases live_spawn hg with hg | rfl
    · exact h.stages g hg o ho
    · exact cleaning_start log fi.uid _ _

theorem ready_of_patch_failed {base new cur : FrameInstallStatus} (hf : new.phase = some .failed)
    (hp : (base.merge new cur).phase = some .ready) : cur.phase = some .ready := by
  simp only [FrameInstallStatus.merge, mergePart, hf] at hp
  split at hp
  · exact hp
  · cases hp

/-- A pass makes nothing Ready. -/
theorem ReadyDone.reconciled {a : PassAnswers}
    (h : ReadyDone w log) (hs : Sound w) (hr : Reconciled r w k a w' evs) : ReadyDone w' (log ++ evs) := by
  have hnil : ReadyDone w (log ++ []) := h.extend hs (by simp)
  have hclean : ∀ u, ReadyDone w (log ++ ejectAndClear u a) := fun u => h.extend hs (drives_ejectAndClear u a)
  cases hr with
  | idle hp => exact hnil
  | addsFinalizer hp ho => exact hnil.write fun o _ => ⟨rfl, fun hp => ⟨hp, rfl⟩, .inr ⟨rfl, rfl⟩⟩
  | reads | readsDeleting | clears | refuses | claims | unclaims | unstarts => exact hnil.memory _ _
  | ends hp hc hst he =>
    rcases he with rfl | ⟨fi, -, rfl⟩
    · exact hnil.memory _ _
    · exact (hclean fi.uid).memory _ _
  | @restarts fi hp hr hg | @cleans fi hp hr => exact (hclean fi.uid).memory _ _
  | @removes fi hp => exact (hnil.removeFinalizer k fi).memory _ _
  | @fails fi status hp =>
    obtain ⟨o, ho, -, hq, hfailed, -⟩ := hs.passes k _ hp
    refine ReadyDone.memory (hnil.write ?_) _ _
    exact fun o _ => ⟨rfl, fun hp => ⟨ready_of_patch_failed hfailed hp, rfl⟩, .inl hq⟩
  | @stamps fi answer s hp ha =>
    refine ReadyDone.memory (hnil.write fun o _ => ?_) _ _
    have hphase : (stampedBy fi o).status.phase = o.status.phase := stampedBy_phase fi o
    exact ⟨rfl, fun hp => ⟨hphase ▸ hp, rfl⟩, .inr ⟨hphase, rfl⟩⟩
  | @starts machine fi s hp u =>
    have hstarted : ReadyDone w (log ++ [.installCalled fi.uid machine]) := h.extend hs (by simp [InstallEvent.drives])
    exact (ReadyDone.spawn hstarted).memory _ _

theorem drives_called {u' : Nat} (h : u ≠ u') (c : Call) (ok : Bool) : (InstallEvent.called u' c ok).drives u = false := by
  cases c <;> simp [InstallEvent.drives, h.symm]

theorem finishStatus_ready {fi : FrameInstall} {res : Result} {err createSecret : Option String}
    (h : (finishStatus r fi res err createSecret).1.phase = some .ready) :
    res.phase = .ready ∧
      (fi.spec.cluster.mode = clusterInit → res.kubeconfig ≠ "" → (finishStatus r fi res err createSecret).2 = true) := by
  unfold finishStatus at h ⊢
  by_cases hk : fi.spec.cluster.mode = clusterInit ∧ res.kubeconfig ≠ ""
  · simp only [hk, ne_eq, not_false_eq_true, and_self, if_true] at h ⊢
    cases createSecret with
    | some err => cases h
    | none => exact ⟨Option.some.inj h, fun _ _ => rfl⟩
  · simp only [hk, if_false] at h ⊢
    exact ⟨Option.some.inj h, fun hm hne => absurd ⟨hm, hne⟩ hk⟩

theorem Cleaning.finished {createSecret : Option String} (h : Cleaning log g.uid g.install)
    (hpc : g.install.pc = .returned) (hd : Drives g o)
    (hp : (finishStatus r o g.install.res g.install.err createSecret).1.phase = some .ready) :
    Finished (log ++ if (finishStatus r o g.install.res g.install.err createSecret).2 then [.secretCreated g.uid] else []) o := by
  obtain ⟨hready, hsaved⟩ := finishStatus_ready hp
  have hcleaned : Cleaned log o.uid := by
    have hprog := h.progress
    rw [Progress, hpc] at hprog
    rw [hd.uid]
    exact hprog hready
  constructor
  · exact hcleaned.append (by split <;> simp [InstallEvent.drives])
  · intro hm
    rw [hsaved hm (h.saves (.inr hready) (hd.mode ▸ hm)), hd.uid]
    simp

/-- A goroutine makes Ready only what is finished. -/
theorem ReadyDone.driven {a : GoAnswers}
    (h : ReadyDone w log) (hs : Sound w) (hg : w.live g) (ha : ReadySafe w (.drive g.id a))
    (hd : Driven r w g a w' evs) : ReadyDone w' (log ++ evs) := by
  obtain ⟨o, ho, hdr⟩ := hs.driven g hg
  have hst := h.stages g hg o ho
  have hsafe := ha g (get?_of_mem hg)
  rw [StageDone] at hst
  -- a step that writes nothing leaves the object the goroutine finds
  have hmove : ∀ (i : Install) (s : Stage) (evs : List InstallEvent), (∀ e ∈ evs, ∀ u, u ≠ g.uid → e.drives u = false) →
      StageDone (log ++ evs) { g with install := i, stage := s } o → ReadyDone (w.setGoroutine g i s) (log ++ evs) := by
    intro i s evs he hdone
    refine h.advance hs hg rfl (fun _ _ => rfl) he fun o' ho' => ?_
    rw [ho] at ho'
    cases ho'
    exact hdone
  have hnil : ∀ e ∈ ([] : List InstallEvent), ∀ u, u ≠ g.uid → e.drives u = false := by simp
  cases hd with
  | skipsReport hstage hp =>
    rw [hstage] at hst
    refine hmove _ _ _ hnil ?_
    rw [append_nil]
    exact hst.reported
  | readsReport hstage hp ho' =>
    rw [hstage] at hst
    refine hmove _ _ _ hnil ?_
    rw [append_nil]
    exact hst
  | returns hstage hp =>
    rw [hstage] at hst
    refine hmove _ _ _ hnil ?_
    rw [append_nil]
    exact ⟨hst, hp⟩
  | calls hstage hp hr =>
    rw [hstage] at hst
    refine hmove _ _ _ ?_ (hst.next (next_nexts _ _ hp hr))
    intro e he u hu
    obtain ⟨c, -, rfl⟩ := mem_map.mp he
    exact drives_called hu c.1 c.2
  | @reports fi hstage hc =>
    rw [hstage] at hst
    refine h.advance hs hg rfl (fun j hj => get?_write_ne hj) hnil fun o' _ => ?_
    rw [append_nil]
    exact hst.reported
  | losesReport hstage =>
    rw [hstage] at hst
    refine hmove _ _ _ hnil ?_
    rw [append_nil]
    exact hst.reported
  | losesResult hstage hr =>
    refine hmove _ _ _ hnil fun hready => ?_
    have hread := hsafe ((ready_iff ho).mpr hready)
    rw [Goroutine.getsThrough, hstage] at hread
    rcases hr with hr | hr
    · rw [hr] at hread
      cases hread
    · rw [ho] at hr
      cases hr
  | @computes fi hstage ho' =>
    rw [ho] at ho'
    cases ho'
    rw [hstage] at hst
    refine hmove _ _ _ ?_ ⟨rfl, hst.1.finished hst.2 hdr⟩
    intro e he u hu
    split at he
    · rw [mem_singleton.mp he]
      rfl
    · cases he
  | @records fi status hstage hc =>
    rw [hstage] at hst
    refine h.advance hs hg rfl (fun j hj => get?_write_ne hj) hnil fun o' ho' => ?_
    rw [patchStatus, get?_write_self ho] at ho'
    cases ho'
    intro hready
    have hphase : mergePart fi.status.phase status.phase o.status.phase = some .ready := hready
    rw [hst.1, mergePart_base] at hphase
    rw [append_nil]
    exact (hst.2 hphase).congr rfl rfl
  | losesRecord hstage hc =>
    refine hmove _ _ _ hnil fun hready => ?_
    have hcommitted := hsafe ((ready_iff ho).mpr hready)
    rw [Goroutine.getsThrough, hstage, hc] at hcommitted
    cases hcommitted
  | finishes hstage =>
    rw [hstage] at hst
    rw [append_nil]
    constructor
    · intro k o' ho' hp hq
      by_cases hk : k = g.key
      · subst hk
        have heq : o' = o := Option.some.inj (ho'.symm.trans ho)
        subst heq
        exact hst hp
      · refine h.ready k o' ho' hp fun x hx hxk => ?_
        refine hq x (mem_filter.mpr ⟨hx, decide_eq_true fun hid => ?_⟩) hxk
        rw [w.goroutines.eq_of_key hx hg hid] at hxk
        exact hk hxk.symm
    · exact fun x hx o' ho' => h.stages x (live_erase hx).1 o' ho'

/-- Every step makes Ready only what is finished. -/
theorem ReadyDone.step {a : InstallAction} (h : ReadyDone w log)
    (hs : Sound w) (ha : ReadySafe w a) : ReadyDone (installStep r w a).1 (log ++ (installStep r w a).2) := by
  have hnil : ReadyDone w (log ++ []) := h.extend hs (by simp)
  cases a with
  | create k spec => exact hnil.create hs k spec
  | edit k spec => exact hnil.edit hs ha
  | delete k => exact hnil.delete k
  | reconcile k answers => exact h.reconciled hs (reconcile_reconciled w k r answers)
  | drive id answers =>
    cases hg : w.goroutines.get? id with
    | none => simpa only [installStep, hg] using hnil
    | some g =>
      have hid : g.id = id := key_of_get? hg
      subst hid
      simpa only [installStep, hg] using h.driven hs (mem_of_get? hg) ha (drive_driven w r g answers)
  | crash => exact hnil.crash ha

namespace Fixture

def driveSteps (n : Nat) : List InstallAction :=
  List.replicate n (.drive 0
    { serial := .ok "CZ1"
      build := .ok ("http://192.0.2.10:30581/3c9e.iso", "3c9e")
      attempt := .marker "5f1c" "ssh-ed25519 AAAAC3NzaC1lZDI1NTE5"
      joinInit := .ok kubeconfig })

def restarted : List InstallAction := createInstall "a" "m1" :: passSteps 6 "a" ++ driveSteps 26 ++ [.crash]

def installed : List InstallAction := createInstall "a" "m1" :: passSteps 6 "a" ++ driveSteps 33 ++ .crash :: passSteps 3 "a"

end Fixture

set_option maxRecDepth 8000

end FrameOperator.Provision
