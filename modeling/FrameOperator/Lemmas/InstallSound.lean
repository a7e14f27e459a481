import FrameOperator.Lemmas.InstallSteps

/-!
# What the memory of the manager says about the objects

As long as no spec is edited under a pass or a goroutine that works on the object, the manager's memory is right about what it names
(`Sound`).
-/

namespace FrameOperator.Provision

open Function Option

namespace World

open Keyed

def live (w : World) (g : Goroutine) : Prop := g ∈ w.goroutines.items

def Quiet (w : World) (k : ObjectKey) : Prop := ∀ g, w.live g → g.key ≠ k

/-- No pass and no goroutine works on an object. -/
def idle (w : World) (fi : FrameInstall) : Prop := (w.passes fi.key).isNone = true ∧ ∀ g ∈ w.goroutines.items, g.uid ≠ fi.uid
deriving Decidable

theorem get?_write (w : World) (k : ObjectKey) (f : FrameInstall → FrameInstall) (hf : ∀ fi, (f fi).key = fi.key) (j : ObjectKey) :
    (w.write k f hf).objects.get? j = if j = k then (w.objects.get? j).map (FrameInstall.written f) else w.objects.get? j :=
  get?_modify w.objects k (FrameInstall.written f) hf j

variable {w : World} {k : ObjectKey} {f : FrameInstall → FrameInstall} {hf : ∀ fi, (f fi).key = fi.key} {m : String}
  {fi : FrameInstall} {s : Secrets} {r : FrameInstallReconciler}

theorem get?_write_self {k : ObjectKey} {f : FrameInstall → FrameInstall} {hf : ∀ fi, (f fi).key = fi.key}
    {o : FrameInstall} (h : w.objects.get? k = some o) :
    (w.write k f hf).objects.get? k = some (o.written f) := by
  rw [get?_write, if_pos rfl, h, map_some]

theorem get?_write_ne {j : ObjectKey} (h : j ≠ k) : (w.write k f hf).objects.get? j = w.objects.get? j := by
  rw [get?_write, if_neg h]

theorem passes_setPass_self (w : World) (k : ObjectKey) (p : Option Pass) : (w.setPass k p).passes k = p :=
  update_self ..

theorem passes_setPass_ne (w : World) {j : ObjectKey} (p : Option Pass) (h : j ≠ k) : (w.setPass k p).passes j = w.passes j :=
  update_of_ne h ..

variable {i : Install} {g x : Goroutine}

theorem live_setGoroutine {s : Stage} (hg : w.live g)
    (hx : (w.setGoroutine g i s).live x) : (w.live x ∧ x.id ≠ g.id) ∨ x = { g with install := i, stage := s } := by
  have hx : x ∈ (w.goroutines.modify g.id (fun g => { g with install := i, stage := s }) (fun _ => rfl)).items := hx
  rcases mem_modify_cases hx with h | ⟨g', hg', rfl⟩
  · exact .inl h
  rw [get?_of_mem hg] at hg'
  cases hg'
  exact .inr rfl

variable {g : Goroutine}

theorem forall_live_setGoroutine {P : Goroutine → Prop} {s : Stage} (hg : w.live g)
    (h : ∀ x, w.live x → P x) (hn : P { g with install := i, stage := s }) : ∀ x, (w.setGoroutine g i s).live x → P x := by
  intro x hx
  rcases live_setGoroutine hg hx with ⟨hx, -⟩ | rfl
  · exact h x hx
  · exact hn

theorem live_setGoroutine_self (i : Install) (s : Stage) (hg : w.live g) :
    (w.setGoroutine g i s).live { g with install := i, stage := s } := by
  have hget : (w.goroutines.modify g.id (fun g => { g with install := i, stage := s }) (fun _ => rfl)).get? g.id =
      some { g with install := i, stage := s } := get?_modify_self (get?_of_mem hg)
  exact mem_of_get? hget

theorem live_setGoroutine_ne (i : Install) (s : Stage) (hx : w.live x) (hid : x.id ≠ g.id) :
    (w.setGoroutine g i s).live x := by
  have hget : (w.goroutines.modify g.id (fun g => { g with install := i, stage := s }) (fun _ => rfl)).get? x.id = some x := by
    rw [get?_modify_ne hid, get?_of_mem hx]
  exact mem_of_get? hget

theorem quiet_setGoroutine {s : Stage} (hg : w.live g) (h : w.Quiet k) : (w.setGoroutine g i s).Quiet k :=
  forall_live_setGoroutine hg h (h g hg)

variable {x : Goroutine}

/-- A goroutine ran before a start, or is the one started. -/
theorem live_spawn {u : String} (hx : (w.spawn r k m fi s u).live x) :
    w.live x ∨ x =
      { id := w.nextId
        machine := m
        machineRef := fi.spec.machineRef
        uid := fi.uid
        key := k
        install := Install.start (toProvisionSpec fi u s) (r.options fi s)
        stage := .installing } := by
  unfold live spawn at hx
  simp only [insertNew] at hx
  split at hx
  · exact .inl hx
  rcases List.mem_append.mp hx with hx | hx
  · exact .inl hx
  · exact .inr (List.mem_singleton.mp hx)

theorem live_spawn_of_live {u : String} (hx : w.live x) : (w.spawn r k m fi s u).live x := by
  unfold live spawn
  simp only [insertNew]
  split
  · exact hx
  · exact List.mem_append_left _ hx

theorem live_erase {i : Nat} (hx : x ∈ (w.goroutines.erase i).items) : w.live x ∧ x.id ≠ i := by
  obtain ⟨hx, hi⟩ := List.mem_filter.mp hx
  exact ⟨hx, of_decide_eq_true hi⟩

end World

/-! ## The invariant -/

structure Drives (g : Goroutine) (o : FrameInstall) : Prop where
  uid : o.uid = g.uid
  finalizer : frameInstallFinalizer ∈ o.finalizers
  ref : o.spec.machineRef = g.machineRef
  mode : o.spec.cluster.mode = g.install.spec.cluster.mode
  handed : o.status.observedGeneration = o.generation ∨ o.deleting = true

structure Copied (fi o : FrameInstall) : Prop where
  uid : fi.uid = o.uid
  spec : fi.spec = o.spec
  generation : fi.generation = o.generation ∨ o.deleting = true
  positive : 0 < fi.generation
  finalizer : frameInstallFinalizer ∈ o.finalizers

structure Alone (w : World) (k : ObjectKey) (fi o : FrameInstall) : Prop where
  quiet : w.Quiet k
  phase : o.status.phase = fi.status.phase
  unfinished : fi.terminal = false

/-- What a pass knows at each stage; one that has only read may still meet the object's goroutine. -/
def PassSound (w : World) (k : ObjectKey) (o : FrameInstall) : Pass → Prop
  | .got fi => Copied fi o ∧ fi.terminal = false ∧ fi.deleting = false ∧
      (fi.status.observedGeneration ≠ fi.generation → Alone w k fi o)
  | .finalizing fi => Copied fi o
  | .removing fi => Copied fi o ∧ w.Quiet k
  | .failing fi status => Copied fi o ∧ w.Quiet k ∧ status.phase = some .failed ∧
      status.observedGeneration = fi.status.observedGeneration
  | .cleared fi => Copied fi o ∧ Alone w k fi o ∧ fi.status.observedGeneration ≠ fi.generation
  | .claimed fi _ => Copied fi o ∧ Alone w k fi o ∧ fi.status.observedGeneration ≠ fi.generation ∧
      w.inFlight fi.spec.machineRef = some fi.uid
  | .stamped machine fi _ => Copied fi o ∧ Alone w k fi o ∧ w.inFlight fi.spec.machineRef = some fi.uid ∧
      machine = fi.spec.machineRef ∧ (o.status.observedGeneration = o.generation ∨ o.deleting = true) ∧
      o.status.observedGeneration ≠ 0

/-- The pass has claimed its machine. -/
def Pass.holding : Pass → Bool
  | .claimed _ _ | .stamped _ _ _ => true
  | _ => false

def Pass.copy : Pass → FrameInstall
  | .got fi | .finalizing fi | .removing fi | .failing fi _ | .cleared fi | .claimed fi _ | .stamped _ fi _ => fi

structure Sound (w : World) : Prop where
  fresh : ∀ k o, w.objects.get? k = some o → o.uid < w.nextUid
  uids : ∀ k k' o o', w.objects.get? k = some o → w.objects.get? k' = some o' → o.uid = o'.uid → k = k'
  generations : ∀ k o, w.objects.get? k = some o → 0 < o.generation
  ids : ∀ g, w.live g → g.id < w.nextId
  machines : ∀ g, w.live g → g.machine = g.machineRef
  driven : ∀ g, w.live g → ∃ o, w.objects.get? g.key = some o ∧ Drives g o
  slots : ∀ g, w.live g → w.inFlight g.machineRef = some g.uid
  alone : ∀ g g', w.live g → w.live g' → g.key = g'.key → g = g'
  records : ∀ g, w.live g → ∀ fi status, g.stage = .recording fi status →
    status.observedGeneration = fi.status.observedGeneration
  passes : ∀ k p, w.passes k = some p → ∃ o, w.objects.get? k = some o ∧ PassSound w k o p

/-- A process that has done nothing is sound. -/
theorem sound_init : Sound World.init where
  fresh := by intro k o h; cases h
  uids := by intro k k' o o' h; cases h
  generations := by intro k o h; cases h
  ids := by intro g h; cases h
  machines := by intro g h; cases h
  driven := by intro g h; cases h
  slots := by intro g h; cases h
  alone := by intro g g' h; cases h
  records := by intro g h; cases h
  passes := by intro k p h; cases h

variable {w w' : World} {k : ObjectKey} {o o' fi : FrameInstall} {m : String} {s : Secrets}
  {f : FrameInstall → FrameInstall} {hf : ∀ fi, (f fi).key = fi.key}

variable {p : Pass}

theorem PassSound.copied (h : PassSound w k o p) : Copied p.copy o := by
  cases p with
  | got fi => exact h.1
  | finalizing fi => exact h
  | removing | failing | cleared | claimed | stamped => exact h.1

/-- A pass that holds a slot holds it for its object. -/
theorem PassSound.held (h : PassSound w k o p) (hp : p.holding = true) :
    w.inFlight p.copy.spec.machineRef = some o.uid ∧ w.Quiet k := by
  cases p with
  | claimed fi s =>
    obtain ⟨hc, ha, -, hs⟩ := h
    exact ⟨hc.uid ▸ hs, ha.quiet⟩
  | stamped m fi s =>
    obtain ⟨hc, ha, hs, -⟩ := h
    exact ⟨hc.uid ▸ hs, ha.quiet⟩
  | got | finalizing | removing | failing | cleared => cases hp

theorem Alone.mono (h : Alone w k fi o) (hq : w.Quiet k → w'.Quiet k) :
    Alone w' k fi o := ⟨hq h.quiet, h.phase, h.unfinished⟩

theorem PassSound.mono (h : PassSound w k o p) (hq : w.Quiet k → w'.Quiet k)
    (hs : p.holding = true → w'.inFlight p.copy.spec.machineRef = w.inFlight p.copy.spec.machineRef) : PassSound w' k o p := by
  cases p with
  | got fi =>
    obtain ⟨hc, ht, hd, ha⟩ := h
    exact ⟨hc, ht, hd, fun hg => (ha hg).mono hq⟩
  | finalizing fi => exact h
  | removing fi => exact ⟨h.1, hq h.2⟩
  | failing fi status => exact ⟨h.1, hq h.2.1, h.2.2⟩
  | cleared fi => exact ⟨h.1, h.2.1.mono hq, h.2.2⟩
  | claimed fi s =>
    obtain ⟨hc, ha, hg, hi⟩ := h
    exact ⟨hc, ha.mono hq, hg, (hs rfl).trans hi⟩
  | stamped m fi s =>
    obtain ⟨hc, ha, hi, hrest⟩ := h
    exact ⟨hc, ha.mono hq, (hs rfl).trans hi, hrest⟩

/-! ## What keeps it -/

/-- A pass moves on soundly. -/
theorem Sound.setPass {p : Option Pass} (h : Sound w)
    (hp : ∀ q, p = some q → ∃ o, w.objects.get? k = some o ∧ PassSound w k o q) : Sound (w.setPass k p) :=
  { h with
    passes := by
      intro j q hq
      by_cases hj : j = k
      · subst hj
        rw [w.passes_setPass_self] at hq
        obtain ⟨o, ho, hs⟩ := hp q hq
        exact ⟨o, ho, hs.mono id (fun _ => rfl)⟩
      · rw [w.passes_setPass_ne p hj] at hq
        obtain ⟨o, ho, hs⟩ := h.passes j q hq
        exact ⟨o, ho, hs.mono id (fun _ => rfl)⟩ }

theorem Sound.endPass (h : Sound w) : Sound (w.setPass k none) :=
  h.setPass (fun _ hq => by cases hq)

variable {g : Goroutine}

/-- A goroutine moves on soundly. -/
theorem Sound.setGoroutine {i : Install} {s : Stage} (h : Sound w) (hg : w.live g) (hi : i.spec = g.install.spec)
    (hs : ∀ fi status, s = .recording fi status → status.observedGeneration = fi.status.observedGeneration) :
    Sound (w.setGoroutine g i s) where
  fresh := h.fresh
  uids := h.uids
  generations := h.generations
  ids := World.forall_live_setGoroutine hg h.ids (h.ids g hg)
  machines := World.forall_live_setGoroutine hg h.machines (h.machines g hg)
  driven := by
    refine World.forall_live_setGoroutine hg h.driven ?_
    obtain ⟨o, ho, hd⟩ := h.driven g hg
    exact ⟨o, ho, hd.uid, hd.finalizer, hd.ref, by rw [hd.mode, ← hi], hd.handed⟩
  slots := World.forall_live_setGoroutine hg h.slots (h.slots g hg)
  alone := by
    intro x y hx hy hk
    rcases World.live_setGoroutine hg hx with ⟨hx, hxi⟩ | rfl <;> rcases World.live_setGoroutine hg hy with ⟨hy, hyi⟩ | rfl
    · exact h.alone x y hx hy hk
    · exact absurd (congrArg Goroutine.id (h.alone x g hx hg hk)) hxi
    · exact absurd (congrArg Goroutine.id (h.alone y g hy hg hk.symm)) hyi
    · rfl
  records := World.forall_live_setGoroutine hg h.records hs
  passes := by
    intro k p hp
    obtain ⟨o, ho, hs⟩ := h.passes k p hp
    exact ⟨o, ho, hs.mono (World.quiet_setGoroutine hg) (fun _ => rfl)⟩

/-- What a write leaves alone that is no edit of the spec: it may only mark the object as being deleted. -/
structure Mild (o o' : FrameInstall) : Prop where
  uid : o'.uid = o.uid
  spec : o'.spec = o.spec
  finalizer : frameInstallFinalizer ∈ o.finalizers → frameInstallFinalizer ∈ o'.finalizers
  handed : o'.status.observedGeneration = o.status.observedGeneration
  generation : (o'.generation = o.generation ∧ o'.deleting = o.deleting) ∨ (o'.deleting = true ∧ 0 < o'.generation)

theorem Mild.generation_or (h : Mild o o') {n : Nat} (hn : n = o.generation ∨ o.deleting = true) :
    n = o'.generation ∨ o'.deleting = true := by
  rcases h.generation with ⟨hg, hd⟩ | ⟨hd, -⟩
  · rw [hg, hd]
    exact hn
  · exact .inr hd

theorem Mild.drives (h : Mild o o') (hd : Drives g o) : Drives g o' where
  uid := h.uid.trans hd.uid
  finalizer := h.finalizer hd.finalizer
  ref := by rw [h.spec, hd.ref]
  mode := by rw [h.spec, hd.mode]
  handed := by
    rw [h.handed]
    exact h.generation_or hd.handed

theorem Mild.copied (h : Mild o o') (hc : Copied fi o) : Copied fi o' where
  uid := hc.uid.trans h.uid.symm
  spec := hc.spec.trans h.spec.symm
  generation := h.generation_or hc.generation
  positive := hc.positive
  finalizer := h.finalizer hc.finalizer

theorem Mild.alone (hp : o'.status.phase = o.status.phase) (ha : Alone w k fi o) : Alone w k fi o' :=
  ⟨ha.quiet, hp.trans ha.phase, ha.unfinished⟩

theorem Mild.passSound (h : Mild o o') (hp : o'.status.phase = o.status.phase) (hs : PassSound w k o p) : PassSound w k o' p := by
  cases p with
  | got fi =>
    obtain ⟨hc, ht, hd, ha⟩ := hs
    exact ⟨h.copied hc, ht, hd, fun hg => Mild.alone hp (ha hg)⟩
  | finalizing fi => exact h.copied hs
  | removing | failing => exact ⟨h.copied hs.1, hs.2⟩
  | cleared | claimed => exact ⟨h.copied hs.1, Mild.alone hp hs.2.1, hs.2.2⟩
  | stamped m fi s =>
    obtain ⟨hc, ha, hi, hm, hg, hz⟩ := hs
    refine ⟨h.copied hc, Mild.alone hp ha, hi, hm, ?_, by rw [h.handed]; exact hz⟩
    rw [h.handed]
    exact h.generation_or hg

theorem Mild.passSound_of_live (h : Mild o o') (hg : w.live g) (hs : PassSound w g.key o p) :
    PassSound w g.key o' p := by
  cases p with
  | got fi =>
    obtain ⟨hc, ht, hd, ha⟩ := hs
    exact ⟨h.copied hc, ht, hd, fun hgen => absurd rfl ((ha hgen).quiet g hg)⟩
  | finalizing fi => exact h.copied hs
  | removing fi => exact absurd rfl (hs.2 g hg)
  | failing fi status => exact absurd rfl (hs.2.1 g hg)
  | cleared | claimed | stamped => exact absurd rfl (hs.2.1.quiet g hg)

/-- A mild write of an object keeps the world sound. -/
theorem Sound.write (h : Sound w) (hm : ∀ o, w.objects.get? k = some o → Mild o (o.written f))
    (hp : ∀ o p, w.objects.get? k = some o → w.passes k = some p → PassSound w k o p → PassSound w k (o.written f) p) :
    Sound (w.write k f hf) := by
  -- every object is one that was there, or the written one
  have hget : ∀ j o', (w.write k f hf).objects.get? j = some o' →
      ∃ o, w.objects.get? j = some o ∧ ((j ≠ k ∧ o' = o) ∨ (j = k ∧ o' = o.written f)) := by
    intro j o' ho'
    rw [World.get?_write] at ho'
    by_cases hj : j = k
    · rw [if_pos hj] at ho'
      obtain ⟨o, ho, rfl⟩ := map_eq_some_iff.mp ho'
      exact ⟨o, ho, .inr ⟨hj, rfl⟩⟩
    · rw [if_neg hj] at ho'
      exact ⟨o', ho', .inl ⟨hj, rfl⟩⟩
  have huid : ∀ j o', (w.write k f hf).objects.get? j = some o' → ∃ o, w.objects.get? j = some o ∧ o'.uid = o.uid := by
    intro j o' ho'
    obtain ⟨o, ho, ⟨-, rfl⟩ | ⟨rfl, rfl⟩⟩ := hget j o' ho'
    · exact ⟨o', ho, rfl⟩
    · exact ⟨o, ho, (hm o ho).uid⟩
  constructor
  case fresh =>
    intro j o' ho'
    obtain ⟨o, ho, hu⟩ := huid j o' ho'
    rw [hu]
    exact h.fresh j o ho
  case uids =>
    intro j j' o₁ o₂ h₁ h₂ heq
    obtain ⟨p₁, hp₁, hu₁⟩ := huid j o₁ h₁
    obtain ⟨p₂, hp₂, hu₂⟩ := huid j' o₂ h₂
    exact h.uids j j' p₁ p₂ hp₁ hp₂ (by rw [← hu₁, ← hu₂, heq])
  case generations =>
    intro j o' ho'
    obtain ⟨o, ho, ⟨-, rfl⟩ | ⟨rfl, rfl⟩⟩ := hget j o' ho'
    · exact h.generations j o' ho
    · rcases (hm o ho).generation with ⟨hg, -⟩ | ⟨-, hg⟩
      · rw [hg]
        exact h.generations j o ho
      · exact hg
  case ids => exact h.ids
  case machines => exact h.machines
  case driven =>
    intro g hg
    obtain ⟨o, ho, hd⟩ := h.driven g hg
    by_cases hk : g.key = k
    · rw [hk] at ho ⊢
      exact ⟨_, World.get?_write_self ho, (hm o ho).drives hd⟩
    · exact ⟨o, by rw [World.get?_write_ne hk]; exact ho, hd⟩
  case slots => exact h.slots
  case alone => exact h.alone
  case records => exact h.records
  case passes =>
    intro j p hj
    obtain ⟨o, ho, hs⟩ := h.passes j p hj
    by_cases hk : j = k
    · subst hk
      exact ⟨_, World.get?_write_self ho, (hp o p ho hj hs).mono id (fun _ => rfl)⟩
    · exact ⟨o, by rw [World.get?_write_ne hk]; exact ho, hs.mono id (fun _ => rfl)⟩

theorem Sound.isolated (objects : Keyed FrameInstall FrameInstall.key) (nextUid : Nat) (h : Sound w)
    (hp : w.passes k = none) (hq : w.Quiet k) (hne : ∀ j, j ≠ k → objects.get? j = w.objects.get? j) (hu : w.nextUid ≤ nextUid)
    (ho : ∀ o, objects.get? k = some o → o.uid < nextUid ∧ 0 < o.generation ∧
      ∀ j o', j ≠ k → w.objects.get? j = some o' → o.uid ≠ o'.uid) :
    Sound { w with objects := objects, nextUid := nextUid } where
  fresh := by
    intro j o hj
    by_cases hk : j = k
    · subst hk
      exact (ho o hj).1
    · exact Nat.lt_of_lt_of_le (h.fresh j o (by rw [← hne j hk]; exact hj)) hu
  uids := by
    intro j j' o o' hj hj' heq
    by_cases hk : j = k <;> by_cases hk' : j' = k
    · rw [hk, hk']
    · subst hk
      exact absurd heq ((ho o hj).2.2 j' o' hk' (by rw [← hne j' hk']; exact hj'))
    · subst hk'
      exact absurd heq.symm ((ho o' hj').2.2 j o hk (by rw [← hne j hk]; exact hj))
    · exact h.uids j j' o o' (by rw [← hne j hk]; exact hj) (by rw [← hne j' hk']; exact hj') heq
  generations := by
    intro j o hj
    by_cases hk : j = k
    · subst hk
      exact (ho o hj).2.1
    · exact h.generations j o (by rw [← hne j hk]; exact hj)
  ids := h.ids
  machines := h.machines
  driven := by
    intro g hg
    obtain ⟨o, hg', hd⟩ := h.driven g hg
    exact ⟨o, (hne g.key (hq g hg)).trans hg', hd⟩
  slots := h.slots
  alone := h.alone
  records := h.records
  passes := by
    intro j p hj
    obtain ⟨o, hj', hs⟩ := h.passes j p hj
    have hk : j ≠ k := by
      rintro rfl
      rw [hp] at hj
      cases hj
    exact ⟨o, (hne j hk).trans hj', hs.mono id (fun _ => rfl)⟩

/-- Claiming a free slot keeps the world sound. -/
theorem Sound.claim (h : Sound w) (hm : w.inFlight m = none) (u : Nat) : Sound (w.claim m u) :=
  { h with
    slots := by
      intro g hg
      have hs := h.slots g hg
      have hne : g.machineRef ≠ m := by
        intro heq
        rw [heq, hm] at hs
        cases hs
      exact (update_of_ne hne ..).trans hs
    passes := by
      intro k p hp
      obtain ⟨o, ho, hs⟩ := h.passes k p hp
      refine ⟨o, ho, hs.mono id fun hh => update_of_ne ?_ ..⟩
      intro heq
      have := (hs.held hh).1
      rw [heq, hm] at this
      cases this }

/-- Releasing a slot that nothing needs keeps the world sound. -/
theorem Sound.release (h : Sound w) (hg : ∀ g, w.live g → g.machineRef ≠ m)
    (hp : ∀ k p, w.passes k = some p → p.holding = true → p.copy.spec.machineRef ≠ m) : Sound (w.release m) :=
  { h with
    slots := by
      intro g hl
      exact (update_of_ne (hg g hl) ..).trans (h.slots g hl)
    passes := by
      intro k p hk
      obtain ⟨o, ho, hs⟩ := h.passes k p hk
      exact ⟨o, ho, hs.mono id fun hh => update_of_ne (hp k p hk hh) ..⟩ }

theorem Sound.eraseGoroutine {i : Nat} (h : Sound w) : Sound { w with goroutines := w.goroutines.erase i } where
  fresh := h.fresh
  uids := h.uids
  generations := h.generations
  ids := fun g hg => h.ids g (World.live_erase hg).1
  machines := fun g hg => h.machines g (World.live_erase hg).1
  driven := fun g hg => h.driven g (World.live_erase hg).1
  slots := fun g hg => h.slots g (World.live_erase hg).1
  alone := fun g g' hg hg' => h.alone g g' (World.live_erase hg).1 (World.live_erase hg').1
  records := fun g hg => h.records g (World.live_erase hg).1
  passes := by
    intro k p hp
    obtain ⟨o, ho, hs⟩ := h.passes k p hp
    exact ⟨o, ho, hs.mono (fun hq g hg => hq g (World.live_erase hg).1) (fun _ => rfl)⟩

theorem Sound.held_by_pass (h : Sound w) (hp : w.passes k = some p) (hh : p.holding = true) :
    (∀ g, w.live g → g.machineRef ≠ p.copy.spec.machineRef) ∧
      ∀ k' p', w.passes k' = some p' → p'.holding = true → p'.copy.spec.machineRef = p.copy.spec.machineRef → k' = k := by
  obtain ⟨o, ho, hs⟩ := h.passes k p hp
  obtain ⟨hslot, hquiet⟩ := hs.held hh
  constructor
  · intro g hg heq
    obtain ⟨o', ho', hd⟩ := h.driven g hg
    have hu := h.slots g hg
    rw [heq, hslot] at hu
    exact hquiet g hg (h.uids _ _ o' o ho' ho (by rw [hd.uid, some.inj hu]))
  · intro k' p' hp' hh' heq
    obtain ⟨o', ho', hs'⟩ := h.passes k' p' hp'
    have hu := (hs'.held hh').1
    rw [heq, hslot] at hu
    exact h.uids _ _ o' o ho' ho (some.inj hu).symm

theorem Sound.held_by_goroutine (h : Sound w) (hg : w.live g) :
    (∀ g', w.live g' → g'.machineRef = g.machineRef → g' = g) ∧
      ∀ k p, w.passes k = some p → p.holding = true → p.copy.spec.machineRef ≠ g.machineRef := by
  constructor
  · intro g' hg' heq
    obtain ⟨o, ho, hd⟩ := h.driven g hg
    obtain ⟨o', ho', hd'⟩ := h.driven g' hg'
    have hu := h.slots g' hg'
    rw [heq, h.slots g hg] at hu
    exact h.alone g' g hg' hg (h.uids _ _ o' o ho' ho (by rw [hd'.uid, hd.uid, some.inj hu]))
  · intro k p hp hh heq
    exact (h.held_by_pass hp hh).1 g hg heq.symm

variable {r : FrameInstallReconciler}

/-- Starting an installation on a held slot keeps it sound. -/
theorem Sound.spawn (h : Sound w) (hp : w.passes k = none) (ho : w.objects.get? k = some o) (hc : Copied fi o) (hq : w.Quiet k)
    (hslot : w.inFlight fi.spec.machineRef = some fi.uid) (hh : o.status.observedGeneration = o.generation ∨ o.deleting = true)
    (s : Secrets) (u : String) : Sound (w.spawn r k fi.spec.machineRef fi s u) where
  fresh := h.fresh
  uids := h.uids
  generations := h.generations
  ids := by
    intro x hx
    rcases World.live_spawn hx with hx | rfl
    · exact Nat.lt_succ_of_lt (h.ids x hx)
    · exact Nat.lt_succ_self _
  machines := by
    intro x hx
    rcases World.live_spawn hx with hx | rfl
    · exact h.machines x hx
    · rfl
  driven := by
    intro x hx
    rcases World.live_spawn hx with hx | rfl
    · exact h.driven x hx
    · exact ⟨o, ho, hc.uid.symm, hc.finalizer, by rw [← hc.spec], by rw [← hc.spec]; rfl, hh⟩
  slots := by
    intro x hx
    rcases World.live_spawn hx with hx | rfl
    · exact h.slots x hx
    · exact hslot
  alone := by
    intro x y hx hy hk
    rcases World.live_spawn hx with hx | rfl <;> rcases World.live_spawn hy with hy | rfl
    · exact h.alone x y hx hy hk
    · exact absurd hk (hq x hx)
    · exact absurd hk.symm (hq y hy)
    · rfl
  records := by
    intro x hx
    rcases World.live_spawn hx with hx | rfl
    · exact h.records x hx
    · intro fi status hs
      cases hs
  passes := by
    intro j p hj
    obtain ⟨o', ho', hs⟩ := h.passes j p hj
    have hne : k ≠ j := by
      rintro rfl
      exact absurd (hp.symm.trans hj) nofun
    refine ⟨o', ho', hs.mono (fun hqj x hx => ?_) (fun _ => rfl)⟩
    rcases World.live_spawn hx with hx | rfl
    · exact hqj x hx
    · exact hne

/-! ## The steps -/

section

variable (h : Sound w)
include h

theorem Sound.drives (hg : w.live g) (ho : w.objects.get? g.key = some o) : Drives g o := by
  obtain ⟨o', ho', hd⟩ := h.driven g hg
  rw [ho] at ho'
  cases ho'
  exact hd

theorem Sound.quiet_of_free (ho : w.objects.get? k = some o)
    (hc : Copied fi o) (hr : w.inFlight fi.spec.machineRef = none) : w.Quiet k := by
  rintro g hg rfl
  have hd := h.drives hg ho
  have hs := h.slots g hg
  rw [← hd.ref, ← hc.spec, hr] at hs
  cases hs

theorem Sound.quiet_of_uid (ho : w.objects.get? k = some o)
    (hu : ∀ g ∈ w.goroutines.items, g.uid ≠ o.uid) : w.Quiet k := by
  rintro g hg rfl
  exact hu g hg (h.drives hg ho).uid.symm

theorem Sound.free_of
    (hk : ∀ o, w.objects.get? k = some o → frameInstallFinalizer ∉ o.finalizers) : w.passes k = none ∧ w.Quiet k := by
  constructor
  · cases hp : w.passes k with
    | none => rfl
    | some p =>
      obtain ⟨o, ho, hs⟩ := h.passes k p hp
      exact absurd hs.copied.finalizer (hk o ho)
  · rintro g hg rfl
    obtain ⟨o, ho, hd⟩ := h.driven g hg
    exact hk o ho hd.finalizer

/-- A create keeps the world sound. -/
theorem Sound.create (k : ObjectKey) (spec : FrameInstallSpec) : Sound (w.create k spec) := by
  unfold World.create
  cases ho : w.objects.get? k with
  | some o => simpa using h
  | none =>
    obtain ⟨hp, hq⟩ := h.free_of (k := k) (by simp [ho])
    simp only [isSome_none, Bool.false_eq_true, if_false]
    refine h.isolated _ _ hp hq ?_ (Nat.le_succ _) ?_
    · intro j hj
      rw [Keyed.get?_insertNew, if_neg (fun hcond => hj hcond.2)]
    · intro o ho'
      rw [Keyed.get?_insertNew, if_pos ⟨ho, rfl⟩] at ho'
      cases ho'
      refine ⟨Nat.lt_succ_self _, Nat.one_pos, ?_⟩
      intro j o' _ hj heq
      exact absurd (h.fresh j o' hj) (heq ▸ Nat.lt_irrefl _)

theorem Sound.writeFree (hp : w.passes k = none) (hq : w.Quiet k)
    (hm : ∀ o, w.objects.get? k = some o → (f o).uid = o.uid ∧ 0 < (f o).generation) : Sound (w.write k f hf) := by
  refine h.isolated (w.write k f hf).objects w.nextUid hp hq (fun j hj => World.get?_write_ne hj) (Nat.le_refl _) ?_
  intro o' ho'
  have hw : (w.write k f hf).objects.get? k = some o' := ho'
  rw [World.get?_write, if_pos rfl] at hw
  obtain ⟨o, ho, rfl⟩ := map_eq_some_iff.mp hw
  obtain ⟨hu, hg⟩ := hm o ho
  refine ⟨?_, hg, ?_⟩
  · change (f o).uid < w.nextUid
    rw [hu]
    exact h.fresh k o ho
  · intro j o' hj ho' heq
    change (f o).uid = o'.uid at heq
    rw [hu] at heq
    exact hj (h.uids j k o' o ho' ho heq.symm)

theorem Sound.eraseFree (hp : w.passes k = none) (hq : w.Quiet k) :
    Sound { w with objects := w.objects.erase k } := by
  refine h.isolated (w.objects.erase k) w.nextUid hp hq ?_ (Nat.le_refl _) ?_
  · intro j hj
    rw [Keyed.get?_erase, if_neg hj]
  · intro o ho
    rw [Keyed.get?_erase, if_pos rfl] at ho
    cases ho

/-- An edit while nothing works on the object does. -/
theorem Sound.edit (hi : ∀ fi ∈ w.objects.get? k, w.idle fi) (spec : FrameInstallSpec) :
    Sound (w.edit k spec) := by
  cases ho : w.objects.get? k with
  | none =>
    obtain ⟨hp, hq⟩ := h.free_of (k := k) (by simp [ho])
    exact h.writeFree hp hq (by simp [ho])
  | some o =>
    obtain ⟨hp, hu⟩ := hi o ho
    rw [Keyed.key_of_get? ho] at hp
    exact h.writeFree (isNone_iff_eq_none.mp hp) (h.quiet_of_uid ho hu) (fun o _ => ⟨rfl, Nat.succ_pos _⟩)

/-- So does a delete. -/
theorem Sound.delete (k : ObjectKey) : Sound (w.delete k) := by
  rcases w.delete_cases k with ⟨o, ho, hf, hd⟩ | hd | hd <;> rw [hd]
  · obtain ⟨hp, hq⟩ := h.free_of (k := k) (by rw [ho]; rintro o ⟨⟩; simp [hf])
    exact h.eraseFree hp hq
  · exact h
  have hm : ∀ o : FrameInstall, Mild o (o.written fun fi => { fi with deleting := true, generation := fi.generation + 1 }) :=
    fun o => ⟨rfl, rfl, id, rfl, .inr ⟨rfl, Nat.succ_pos _⟩⟩
  exact h.write (fun o _ => hm o) (fun o p _ _ hs => (hm o).passSound rfl hs)

/-- A process that starts over is sound. -/
theorem Sound.crash : Sound w.crash where
  fresh := h.fresh
  uids := h.uids
  generations := h.generations
  ids := by intro g hg; cases hg
  machines := by intro g hg; cases hg
  driven := by intro g hg; cases hg
  slots := by intro g hg; cases hg
  alone := by intro g g' hg; cases hg
  records := by intro g hg; cases hg
  passes := by intro k p hp; cases hp

omit h in
theorem mild_patch {base new : FrameInstallStatus} (hb : base.observedGeneration = new.observedGeneration) (o : FrameInstall) :
    Mild o (o.written fun fi => { fi with status := base.merge new fi.status }) where
  uid := rfl
  spec := rfl
  finalizer := id
  handed := by simp [FrameInstall.written, FrameInstallStatus.merge, hb]
  generation := .inl ⟨rfl, rfl⟩

omit h in
theorem World.removeFinalizer_setPass (k j : ObjectKey) (fi : FrameInstall) (p : Option Pass) :
    (w.removeFinalizer k fi).setPass j p = (w.setPass j p).removeFinalizer k fi := by
  unfold World.removeFinalizer
  cases ho : w.objects.get? k with
  | none => simp only [World.setPass, ho]
  | some o =>
    simp only [World.setPass, ho]
    split
    · split
      · rfl
      · rfl
    · rfl

/-- The finalizer of an object at rest may go. -/
theorem Sound.removeFinalizer (hp : w.passes k = none) (hq : w.Quiet k)
    (fi : FrameInstall) : Sound (w.removeFinalizer k fi) := by
  rcases w.removeFinalizer_cases k fi with hr | hr | hr <;> rw [hr]
  · exact h
  · exact h.eraseFree hp hq
  · exact h.writeFree hp hq (fun o ho => ⟨rfl, h.generations k o ho⟩)

theorem Sound.unclaim (hp : w.passes k = some p) (hh : p.holding = true) :
    Sound ((w.setPass k none).release p.copy.spec.machineRef) := by
  obtain ⟨hg, hk⟩ := h.held_by_pass hp hh
  refine h.endPass.release hg ?_
  intro k' p' hp' hh' heq
  have hne : k' ≠ k := by
    rintro rfl
    rw [w.passes_setPass_self] at hp'
    cases hp'
  rw [w.passes_setPass_ne none hne] at hp'
  exact hne (hk k' p' hp' hh' heq)

end

theorem terminal_congr (h : o.status.phase = o'.status.phase) : o.terminal = o'.terminal := by
  simp [FrameInstall.terminal, h]

def stampedBy (fi o : FrameInstall) : FrameInstall :=
  o.written fun o => { o with status := fi.status.merge { fi.status with observedGeneration := fi.generation } o.status }

theorem stampedBy_phase (fi o : FrameInstall) : (stampedBy fi o).status.phase = o.status.phase := mergePart_same _ _

theorem stampedBy_observedGeneration (h : fi.status.observedGeneration ≠ fi.generation) :
    (stampedBy fi o).status.observedGeneration = fi.generation := mergePart_of_ne h _

theorem passSound_stamped (h : PassSound w k o (.claimed fi s))
    (hpos : 0 < o.generation) : PassSound w k (stampedBy fi o) (.stamped fi.spec.machineRef (stampedBy fi o) s) := by
  obtain ⟨hc, ha, hg, hi⟩ := h
  refine ⟨⟨rfl, rfl, .inl rfl, hpos, hc.finalizer⟩, ⟨ha.quiet, rfl, ?_⟩, ?_, ?_, ?_, ?_⟩
  · rw [terminal_congr ((stampedBy_phase fi o).trans ha.phase)]
    exact ha.unfinished
  · change w.inFlight o.spec.machineRef = some o.uid
    rw [← hc.spec, ← hc.uid]
    exact hi
  · change fi.spec.machineRef = o.spec.machineRef
    rw [hc.spec]
  · rw [stampedBy_observedGeneration hg]
    exact hc.generation
  · rw [stampedBy_observedGeneration hg]
    exact Nat.ne_of_gt hc.positive

theorem Sound.stamp {answer : FrameInstall} (h : Sound w) (hp : w.passes k = some (.claimed fi s))
    (ha : (w.patchStatus k fi.status { fi.status with observedGeneration := fi.generation }).objects.get? k = some answer) :
    Sound ((w.patchStatus k fi.status { fi.status with observedGeneration := fi.generation }).setPass k
      (some (.stamped fi.spec.machineRef answer s))) := by
  obtain ⟨o, ho, hs⟩ := h.passes k _ hp
  have hans : answer = stampedBy fi o := by
    rw [World.patchStatus, World.get?_write_self ho] at ha
    exact (some.inj ha).symm
  subst hans
  -- with the pass set aside nothing works on the object, so that it may be written
  have hfree : Sound ((w.setPass k none).patchStatus k fi.status { fi.status with observedGeneration := fi.generation }) :=
    h.endPass.writeFree (w.passes_setPass_self k none) hs.2.1.quiet (fun o ho => ⟨rfl, h.generations k o ho⟩)
  have heq : (w.patchStatus k fi.status { fi.status with observedGeneration := fi.generation }).setPass k
      (some (.stamped fi.spec.machineRef (stampedBy fi o) s)) =
        ((w.setPass k none).patchStatus k fi.status { fi.status with observedGeneration := fi.generation }).setPass k
          (some (.stamped fi.spec.machineRef (stampedBy fi o) s)) := by
    simp [World.setPass, World.patchStatus, World.write]
  rw [heq]
  refine hfree.setPass fun q hq => ?_
  cases hq
  exact ⟨stampedBy fi o, ha, (passSound_stamped hs (h.generations k o ho)).mono id (fun _ => rfl)⟩

variable {evs : List InstallEvent}

/-- Every step of a pass keeps the world sound. -/
theorem Sound.reconciled {a : PassAnswers} (h : Sound w) (hr : Reconciled r w k a w' evs) : Sound w' := by
  cases hr with
  | idle hp => exact h
  | addsFinalizer hp ho =>
    have hm : ∀ o : FrameInstall, Mild o (o.written fun fi => { fi with finalizers := fi.finalizers ++ [frameInstallFinalizer] }) :=
      fun o => ⟨rfl, rfl, fun hf => List.mem_append_left _ hf, rfl, .inl ⟨rfl, rfl⟩⟩
    exact h.write (fun o _ => hm o) (fun o p _ _ hs => (hm o).passSound rfl hs)
  | @reads o hp ho hd hf ht =>
    refine h.setPass fun q hq => ?_
    cases hq
    refine ⟨o, ho, ⟨rfl, rfl, .inl rfl, h.generations k o ho, hf⟩, ht, hd, fun hg => ⟨?_, rfl, ht⟩⟩
    rintro g hl rfl
    rcases (h.drives hl ho).handed with hgen | hdel
    · exact hg hgen
    · rw [hd] at hdel
      cases hdel
  | @readsDeleting o hp ho hf =>
    refine h.setPass fun q hq => ?_
    cases hq
    exact ⟨o, ho, rfl, rfl, .inl rfl, h.generations k o ho, hf⟩
  | ends hp hc hs he => exact h.endPass
  | @restarts fi hp hr hg =>
    obtain ⟨o, ho, hs⟩ := h.passes k _ hp
    refine h.setPass fun q hq => ?_
    cases hq
    exact ⟨o, ho, hs.1, h.quiet_of_free ho hs.1 hr, rfl, rfl⟩
  | @clears fi hp hg =>
    obtain ⟨o, ho, hs⟩ := h.passes k _ hp
    refine h.setPass fun q hq => ?_
    cases hq
    exact ⟨o, ho, hs.1, hs.2.2.2 hg, hg⟩
  | @cleans fi hp hr =>
    obtain ⟨o, ho, hs⟩ := h.passes k _ hp
    refine h.setPass fun q hq => ?_
    cases hq
    exact ⟨o, ho, hs, h.quiet_of_free ho hs hr⟩
  | @removes fi hp =>
    obtain ⟨o, ho, hs⟩ := h.passes k _ hp
    rw [World.removeFinalizer_setPass]
    exact h.endPass.removeFinalizer (w.passes_setPass_self k none) hs.2 fi
  | @fails fi status hp =>
    obtain ⟨o, ho, hs⟩ := h.passes k _ hp
    have hm := fun o => mild_patch hs.2.2.2.symm o
    refine Sound.endPass (h.write (fun o _ => hm o) ?_)
    intro o' p ho' hp' hs'
    rw [hp] at hp'
    cases hp'
    exact ⟨(hm o').copied hs'.1, hs'.2⟩
  | @refuses fi hp msg =>
    obtain ⟨o, ho, hs⟩ := h.passes k _ hp
    refine h.setPass fun q hq => ?_
    cases hq
    exact ⟨o, ho, hs.1, hs.2.1.quiet, rfl, rfl⟩
  | @claims fi hp hr s =>
    obtain ⟨o, ho, hs⟩ := h.passes k _ hp
    refine (h.claim hr fi.uid).setPass fun q hq => ?_
    cases hq
    exact ⟨o, ho, hs.1, hs.2.1.mono id, hs.2.2, update_self ..⟩
  | stamps hp ha => exact h.stamp hp ha
  | @unclaims fi s hp => exact h.unclaim hp rfl
  | @unstarts machine fi s hp msg =>
    obtain ⟨o, ho, hs⟩ := h.passes k _ hp
    have heq : (w.release fi.spec.machineRef).setPass k (some (.failing fi (failPending fi msg))) =
        ((w.setPass k none).release fi.spec.machineRef).setPass k (some (.failing fi (failPending fi msg))) := by
      simp [World.setPass, World.release]
    rw [heq]
    refine (h.unclaim hp rfl).setPass fun q hq => ?_
    cases hq
    exact ⟨o, ho, hs.1, hs.2.1.quiet, rfl, rfl⟩
  | @starts machine fi s hp u =>
    obtain ⟨o, ho, hc, ha, hi, hm, hg, -⟩ := h.passes k _ hp
    subst hm
    exact h.endPass.spawn (w.passes_setPass_self k none) ho hc ha.quiet hi hg s u

theorem Install.spec_reported (i : Install) : i.reported.spec = i.spec := by
  unfold Install.reported
  split <;> rfl

theorem Install.spec_cleanedUp (i : Install) (e : Option String) : (i.cleanedUp e).spec = i.spec := by
  unfold Install.cleanedUp
  split <;> rfl

theorem Nexts.spec {i i' : Install} {a : Answers} (h : Nexts i a i') : i'.spec = i.spec := by
  cases h with
  | keepsImage | removesImage => exact Install.spec_cleanedUp _ _
  | fails | goes | enters | found | waits | joins | ejects | clears => rfl

theorem observedGeneration_finishStatus (r : FrameInstallReconciler) (fi : FrameInstall)
    (res : Result) (err createSecret : Option String) :
    (finishStatus r fi res err createSecret).1.observedGeneration = fi.status.observedGeneration := by
  unfold finishStatus
  simp only
  split
  · split <;> rfl
  · rfl

/-- Every step of a goroutine keeps the world sound. -/
theorem Sound.driven_step {a : GoAnswers} (h : Sound w) (hg : w.live g) (hd : Driven r w g a w' evs) : Sound w' := by
  -- a status patch of the goroutine leaves the generation alone
  have hpatch : ∀ base new : FrameInstallStatus, base.observedGeneration = new.observedGeneration →
      Sound (w.patchStatus g.key base new) := fun base new hb =>
    h.write (fun o _ => mild_patch hb o) (fun o p _ _ hs => (mild_patch hb o).passSound_of_live hg hs)
  cases hd with
  | skipsReport hs hp => exact h.setGoroutine hg g.install.spec_reported (by simp)
  | readsReport | returns => exact h.setGoroutine hg rfl (by simp)
  | calls hs hp hr => exact h.setGoroutine hg (next_nexts _ _ hp hr).spec (by simp)
  | reports hs hc => exact (hpatch _ _ (by rfl)).setGoroutine hg g.install.spec_reported (by simp)
  | losesReport hs => exact h.setGoroutine hg g.install.spec_reported (by simp)
  | losesResult hs hr => exact h.setGoroutine hg rfl (by simp)
  | @computes fi hs ho =>
    refine h.setGoroutine hg rfl ?_
    rintro fi status ⟨⟩
    exact observedGeneration_finishStatus r _ _ _ _
  | records hs hc => exact (hpatch _ _ (h.records g hg _ _ hs).symm).setGoroutine hg rfl (by simp)
  | losesRecord hs hc => exact h.setGoroutine hg rfl (by simp)
  | finishes hs =>
    obtain ⟨hgo, hpa⟩ := h.held_by_goroutine hg
    refine (h.eraseGoroutine (i := g.id)).release ?_ hpa
    intro x hx heq
    exact (World.live_erase hx).2 (congrArg Goroutine.id (hgo x (World.live_erase hx).1 heq))

def EditsIdle (w : World) : InstallAction → Prop
  | .edit k _ => ∀ fi ∈ w.objects.get? k, w.idle fi
  | _ => True

/-- Every step keeps the world sound. -/
theorem Sound.step {a : InstallAction} (h : Sound w) (ha : EditsIdle w a) :
    Sound (installStep r w a).1 := by
  cases a with
  | create k spec => exact h.create k spec
  | edit k spec => exact h.edit ha spec
  | delete k => exact h.delete k
  | reconcile k answers => exact h.reconciled (reconcile_reconciled w k r answers)
  | drive id answers =>
    cases hg : w.goroutines.get? id with
    | none => simpa only [installStep, hg] using h
    | some g => simpa only [installStep, hg] using h.driven_step (Keyed.mem_of_get? hg) (drive_driven w r g answers)
  | crash => exact h.crash

end FrameOperator.Provision
