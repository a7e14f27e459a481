import FrameOperator.Theorems.OneCoordinate

/-!
# A FrameService and the Secrets it projects

The record in `status.binding.projected` is all that leads back to a Secret in another namespace. A pass writes the whole record
from the copy that it read first: where that copy is behind, Secrets are left behind for good.
-/

namespace FrameOperator.Services

open Api
open V1beta1 (FrameServiceStatus ProjectedSecretRef)

variable {π τ χ ω : Type} {B : π → Type} {key : NamespacedName} {s t : Cluster} {svc : FrameService} {coord : ProjectedSecretRef}

/-- A Secret in another namespace that a pass of the FrameService created. -/
def Placed (key : NamespacedName) (s : Cluster) (coord : ProjectedSecretRef) : Prop :=
  coord.namespaceName ≠ key.namespaceName ∧ ∃ secret, s.secrets.value? coord = some secret ∧ secret.createdBy = some key

/-- The finalized FrameService records the coordinate. -/
def Tracked (key : NamespacedName) (s : Cluster) (coord : ProjectedSecretRef) : Prop :=
  ∃ svc, s.services.value? key = some svc ∧ coord ∈ svc.projected ∧ frameServiceFinalizer ∈ svc.finalizers

/-- Whatever is placed is tracked. -/
def Remembers (key : NamespacedName) (s : Cluster) : Prop := ∀ coord, Placed key s coord → Tracked key s coord

/-- The finalizer goes when nothing is placed; what is placed is tracked and recorded. -/
def KeepsTrack (key : NamespacedName) (s : Cluster) : Request → Prop
  | .updateService base finalizers =>
    base.val.key = key ∧ (frameServiceFinalizer ∈ finalizers ∨ ∀ coord, ¬Placed key s coord)
  | .updateStatus base status => base.val.key = key ∧ ∀ coord, Placed key s coord → coord ∈ status.binding.projected.getD []
  | .createSecret service secret => service = key ∧ Tracked key s secret.coord
  | _ => True

variable {r : Request}

theorem placed_of_changed (hc : Changed s r t) (hr : ∀ service secret, r ≠ .createSecret service secret)
    (h : Placed key t coord) : Placed key s coord := by
  obtain ⟨hns, secret, hsec, hby⟩ := h
  cases hc with
  | nothing | shown | ended | finalized | stated => exact ⟨hns, secret, hsec, hby⟩
  | @created service secret' => exact absurd rfl (hr service secret')
  | updated =>
    rw [Cluster.value?_overwritten] at hsec
    split at hsec
    · obtain ⟨old, hold, rfl⟩ := Option.map_eq_some_iff.mp hsec
      exact ⟨hns, old, hold, hby⟩
    · exact ⟨hns, secret, hsec, hby⟩
  | deleted =>
    rw [Cluster.value?_withoutSecret] at hsec
    split at hsec
    · cases hsec
    · exact ⟨hns, secret, hsec, hby⟩

theorem placed_of_created {service : NamespacedName} {secret : Secret} (h : Placed key (s.withSecret (some service) secret) coord) :
    Placed key s coord ∨ coord = secret.coord := by
  obtain ⟨hns, o, ho, hby⟩ := h
  rw [Cluster.value?_withSecret] at ho
  split at ho
  · rename_i hid
    exact .inr hid.2
  · exact .inl ⟨hns, o, ho, hby⟩

/-- Every call that keeps track remembers all. -/
theorem Remembers.changed (h : Remembers key s) (hc : Changed s r t) (hg : KeepsTrack key s r) : Remembers key t := by
  intro coord hplaced
  cases hc with
  | nothing | shown => exact h coord hplaced
  | ended hlive =>
    rcases hg.2 with hfin | hnone
    · cases hfin
    · exact absurd hplaced (hnone coord)
  | @finalized base finalizers hlive hleft =>
    rcases hg.2 with hfin | hnone
    · obtain ⟨svc, hsvc, hmem, -⟩ := h coord hplaced
      refine ⟨{ svc with finalizers := finalizers }, ?_, hmem, hfin⟩
      rw [hg.1, Cluster.value?_withFinalizers, if_pos rfl, hsvc, Option.map_some]
    · exact absurd hplaced (hnone coord)
  | @stated base status hlive =>
    obtain ⟨svc, hsvc, -, hfin⟩ := h coord hplaced
    refine ⟨{ svc with status := status }, ?_, hg.2 coord hplaced, hfin⟩
    rw [hg.1, Cluster.value?_withStatus, if_pos rfl, hsvc, Option.map_some]
  | created hfree =>
    rcases placed_of_created hplaced with hold | rfl
    · exact h coord hold
    · exact hg.2
  | updated => exact h coord (placed_of_changed .updated (by simp) hplaced)
  | @deleted service gone => exact h coord (placed_of_changed (@Changed.deleted s service gone) (by simp) hplaced)

/-! ## What others do meanwhile -/

structure Unplaced (key : NamespacedName) (s t : Cluster) : Prop where
  steady : Steady key s t
  placed : ∀ coord, Placed key t coord → Placed key s coord

theorem Unplaced.refl (key : NamespacedName) (s : Cluster) : Unplaced key s s := ⟨.refl key s, fun _ h => h⟩

theorem Unplaced.trans {u : Cluster} (h : Unplaced key s t) (h' : Unplaced key t u) : Unplaced key s u :=
  ⟨h.steady.trans h'.steady, fun coord hp => h.placed coord (h'.placed coord hp)⟩

theorem unplaced_outside (s : Cluster) (o : Outside) : Unplaced key s (s.outside o) := by
  refine ⟨steady_outside s o, fun coord ⟨hns, secret, hsec, hby⟩ => ?_⟩
  rcases outside_secret s o hsec with hsec | ⟨-, ⟨old, hold, heq⟩ | hnone⟩
  · exact ⟨hns, secret, hsec, hby⟩
  · exact ⟨hns, old, hold, heq.trans hby⟩
  · rw [hnone] at hby
    cases hby

theorem Tracked.steady (h : Tracked key s coord) (hst : Steady key s t) : Tracked key t coord := by
  obtain ⟨svc, hsvc, hmem, hfin⟩ := h
  obtain ⟨svc', hsvc', hstatus, hfins, -⟩ := hst.service svc hsvc (List.ne_nil_of_mem hfin)
  exact ⟨svc', hsvc', by rwa [FrameService.projected, hstatus], by rwa [hfins]⟩

theorem Remembers.unplaced (h : Remembers key s) (hst : Unplaced key s t) : Remembers key t :=
  fun coord hp => (h coord (hst.placed coord hp)).steady hst.steady

/-! ## What a pass keeps -/

/-- The copy has all that is placed, and the finalizer only as the server has it. -/
def Knows (key : NamespacedName) (s : Cluster) (svc : FrameService) : Prop :=
  svc.key = key ∧ (Bound svc → (∀ coord, Placed key s coord → coord ∈ svc.projected) ∧ (frameServiceFinalizer ∈ svc.finalizers →
    ∃ cur, s.services.value? key = some cur ∧ cur.projected = svc.projected ∧ frameServiceFinalizer ∈ cur.finalizers))

theorem Knows.unplaced (h : Knows key s svc) (hst : Unplaced key s t) : Knows key t svc := by
  refine ⟨h.1, fun hb => ⟨fun coord hp => (h.2 hb).1 coord (hst.placed coord hp), fun hfin => ?_⟩⟩
  obtain ⟨cur, hcur, hproj, hcfin⟩ := (h.2 hb).2 hfin
  obtain ⟨cur', hcur', hstatus, hfins, -⟩ := hst.steady.service cur hcur (List.ne_nil_of_mem hcfin)
  exact ⟨cur', hcur', by rw [FrameService.projected, hstatus]; exact hproj, by rwa [hfins]⟩

theorem Knows.tracked (h : Knows key s svc) (hfin : frameServiceFinalizer ∈ svc.finalizers) (hmem : coord ∈ svc.projected) :
    Tracked key s coord := by
  obtain ⟨cur, hcur, hproj, hcfin⟩ := (h.2 (.inr hfin)).2 hfin
  exact ⟨cur, hcur, by rwa [hproj], hcfin⟩

/-- The server's version has the record that is read, and the finalizer if that has. -/
def InStep (key : NamespacedName) (s : Cluster) (svc : FrameService) : Prop :=
  ∃ cur ∈ s.services.value? key, cur.projected = svc.projected ∧
    (frameServiceFinalizer ∈ svc.finalizers → frameServiceFinalizer ∈ cur.finalizers)
deriving Decidable

theorem Remembers.knows (h : Remembers key s) (hkey : svc.key = key) (hstep : Bound svc → InStep key s svc) : Knows key s svc := by
  refine ⟨hkey, fun hb => ?_⟩
  obtain ⟨cur, hcur, hproj, hfins⟩ := hstep hb
  refine ⟨fun coord hp => ?_, fun hfin => ⟨cur, hcur, hproj, hfins hfin⟩⟩
  obtain ⟨cur', hcur', hmem, -⟩ := h coord hp
  rw [Option.mem_def.mp hcur] at hcur'
  cases hcur'
  rwa [← hproj]

/-- Recording more, a pass still knows all. -/
theorem Knows.record (h : Knows key s svc) (hfin : frameServiceFinalizer ∈ svc.finalizers) (toAdd : List ProjectedSecretRef)
    {status : FrameServiceStatus} (hproj : status.binding.projected = some (svc.projected ++ toAdd)) :
    Knows key (s.withStatus key status) (svc.withProjected (svc.projected ++ toAdd)) := by
  refine ⟨h.1, fun _ => ⟨fun coord hp => ?_, fun _ => ?_⟩⟩
  · exact List.mem_append_left _ ((h.2 (.inr hfin)).1 coord hp)
  · obtain ⟨cur, hcur, -, hcfin⟩ := (h.2 (.inr hfin)).2 hfin
    refine ⟨{ cur with status := status }, ?_, ?_, hcfin⟩
    · rw [Cluster.value?_withStatus, if_pos rfl, hcur, Option.map_some]
    · simp [FrameService.projected, hproj, FrameService.withProjected]

/-- A pass that writes a Secret knows of it. -/
theorem Knows.write (h : Knows key s svc)
    (hr : (∃ secret : Secret, r = .createSecret svc.key secret ∧ secret.coord ∈ svc.projected) ∨
      ∃ base secret, r = .updateSecret svc.key base secret) (hc : Changed s r t) : Knows key t svc := by
  have hsvcs : t.services = s.services := by
    refine hc.services ?_ ?_ <;>
    · intro _ _ h
      rcases hr with ⟨_, hr, -⟩ | ⟨_, _, hr⟩ <;> rw [hr] at h <;> cases h
  refine ⟨h.1, fun hb => ⟨fun coord hp => ?_, fun hf => by rw [hsvcs]; exact (h.2 hb).2 hf⟩⟩
  rcases hr with ⟨secret, rfl, hmem⟩ | ⟨base, secret, rfl⟩
  · cases hc with
    | nothing => exact (h.2 hb).1 coord hp
    | created =>
      rcases placed_of_created hp with hold | rfl
      · exact (h.2 hb).1 coord hold
      · exact hmem
  · exact (h.2 hb).1 coord (placed_of_changed hc (by simp) hp)

/-- If a pass goes on with the version that it reads first, the server has its record. -/
def UpToDate (key : NamespacedName) (w : Cluster × τ) : Call π → Answer × χ → Prop
  | .own (.getService _ false), a => ∀ v ∈ w.1.shown key a.1.age, Bound v.val → InStep key w.1 v.val
  | _, _ => True

instance (svc : FrameService) : Decidable (Bound svc) :=
  inferInstanceAs (Decidable (svc.deleting = true ∨ frameServiceFinalizer ∈ svc.finalizers))

instance (key : NamespacedName) (w : Cluster × τ) (r : Call π) (a : Answer × χ) : Decidable (UpToDate key w r a) :=
  match r with
  | .own (.getService _ false) =>
    inferInstanceAs (Decidable (∀ v ∈ w.1.shown key a.1.age, Bound v.val → InStep key w.1 v.val))
  | .own (.getService _ true) | .own .now | .own (.updateService _ _) | .own (.updateStatus _ _) | .own (.getNamespace _)
  | .own (.getSecret _) | .own (.createSecret _ _) | .own (.updateSecret _ _ _) | .own (.deleteSecret _ _) | .drop _ | .side _ =>
    isTrue trivial

def KeepsTrackCall (key : NamespacedName) (w : Cluster × τ) : Call π → Prop
  | .own r => KeepsTrack key w.1 r
  | _ => True

theorem knows_side {S : Side τ χ ω B} {α : Type} (p : Program B α) {w : Cluster × τ}
    (hw : Remembers key w.1) (hk : Knows key w.1 svc) :
    (Prog.side p).Safe S.serve ⟨fun w => Remembers key w.1, fun w w' => Unplaced key w.1 w'.1, UpToDate key, KeepsTrackCall key⟩
      (fun _ w => Knows key w.1 svc) w :=
  side_safe (Remembers key) (Unplaced key) (Knows key · svc) (fun _ _ => trivial) (fun _ _ => .unplaced) p hw hk

def trackDiscipline (M : Manager B) (S : Side τ χ ω B) (key : NamespacedName) : Discipline M S key where
  inv w := Remembers key w.1
  allow := UpToDate key
  guar := KeepsTrackCall key
  meanwhile w w' := Unplaced key w.1 w'.1
  know w := Knows key w.1
  free _ _ := True
  clear w coord := ¬Placed key w.1 coord
  published _ := True
  made _ := True
  keeps := by
    intro w r c hw hg _
    cases r with
    | own r => exact hw.changed (exec_changed w.1 r c.1) hg
    | drop | side => exact hw
  refl _ := .refl key _
  trans := .trans
  past h hv := h.steady.past _ hv
  know_key h := h.1
  know_read := by
    intro w c v hw hok ha
    have hshown := exec_getService ha
    have hkey : v.val.key = key := (shown_past hshown).2
    refine (hw.knows hkey (hok v hshown)).unplaced ⟨steady_read w.1 key false c.1, fun coord hp => ?_⟩
    exact placed_of_changed (exec_changed w.1 (.getService key false) c.1) (by simp) hp
  know_meanwhile h _ hst := h.unplaced hst
  free_meanwhile _ _ := trivial
  clear_meanwhile h hst hp := h (hst.placed _ hp)
  free_of_gone _ _ _ := trivial
  clear_of_gone h hp := by
    obtain ⟨-, secret, hsec, -⟩ := hp
    rw [h] at hsec
    cases hsec
  read_meanwhile w again c :=
    ⟨steady_read w.1 key again c.1, fun _ => placed_of_changed (exec_changed w.1 (.getService key again) c.1) (by simp)⟩
  delete_meanwhile w coord c :=
    ⟨steady_secret (by simp) (by simp) w.1 c.1, fun _ => placed_of_changed (exec_changed w.1 (.deleteSecret key coord) c.1) (by simp)⟩
  drop_meanwhile w _ _ := .refl key w.1
  now _ := trivial
  getService _ _ := trivial
  getNamespace _ _ := trivial
  getSecret _ _ := trivial
  deleteSecret _ _ _ _ := trivial
  drop _ _ _ _ := trivial
  record _ hk hfin _ _ hkey := ⟨hkey, fun coord hp => List.mem_append_left _ ((hk.2 (.inr hfin)).1 coord hp)⟩
  know_record _ hk hfin _ _ _ := hk.record hfin _ rfl
  createSecret _ hk hfin hmem := ⟨hk.1, hk.tracked hfin hmem⟩
  updateSecret _ _ _ _ := trivial
  know_write _ hk _ hr := hk.write hr (exec_changed _ _ _)
  report := by
    intro w svc svc' _ _ _ _ _ _ fresh _ hk hb hc _ _ hkey
    refine ⟨hkey, fun coord hp => ?_⟩
    rcases hc.kept coord ((hk.2 hb).1 coord hp) with hmem | hclear
    · exact hmem
    · exact absurd hp hclear
  addFinalizer _ hk _ := ⟨hk.1, .inl (by simp)⟩
  dropFinalizer := by
    intro w svc _ hk hdel _ hclear
    refine ⟨hk.1, .inr fun coord hp => hclear coord ?_ hp⟩
    refine List.mem_filter.mpr ⟨(hk.2 (.inl hdel)).1 coord hp, ?_⟩
    rw [hk.1]
    exact decide_eq_true hp.1
  size _ hw hk _ := knows_side _ hw hk
  reconcile _ hw hk _ := (knows_side _ hw hk).imp hw fun _ _ _ h => ⟨h, fun _ _ _ => trivial⟩
  bind _ hw hk _ := (knows_side _ hw hk).imp hw fun _ _ _ h => ⟨h, fun _ _ => trivial⟩

/-- Only passes of the FrameService, each of which goes on with the server's record. -/
def upToDate (key : NamespacedName) : Conditions NamespacedName (Cluster × τ) (Answer × χ) (Outside ⊕ ω) (Call π) where
  start k _ := k = key
  answer := UpToDate

def trackContract (M : Manager B) (S : Side τ χ ω B) (key : NamespacedName) :
    Contract (frameServiceReconciler M S) (upToDate key) where
  inv w := Remembers key w.1
  rely _ w w' := Unplaced key w.1 w'.1
  guar _ := KeepsTrackCall key
  post _ _ _ := True
  refl _ _ := .refl key _
  trans := .trans
  outside_inv := by
    rintro w (o | o) h -
    · exact h.unplaced (unplaced_outside w.1 o)
    · exact h
  outside_rely := by
    rintro k w (o | o) - -
    · exact unplaced_outside w.1 o
    · exact .refl key w.1
  pass := by
    rintro k w - rfl
    exact (trackDiscipline M S k).reconcile_safe w

/-- Every Secret placed elsewhere is recorded under the finalizer, where passes go on only with the server's record. -/
theorem never_forgets (M : Manager B) (S : Side τ χ ω B) (key : NamespacedName) (w : Cluster × τ)
    (hnone : ∀ coord, ¬Placed key w.1 coord) (ds : List (Drive NamespacedName (Answer × χ) (Outside ⊕ ω)))
    (hok : Meets (frameServiceReconciler M S).step (upToDate key).Ok ⟨w, none⟩ ds) :
    let out := (run (frameServiceReconciler M S).step ⟨w, none⟩ ds).1.server.1
    (∀ coord, Placed key out coord → ∃ svc, out.services.value? key = some svc ∧ coord ∈ svc.projected) ∧
      ((∀ svc, out.services.value? key = some svc → frameServiceFinalizer ∉ svc.finalizers) → ∀ coord, ¬Placed key out coord) := by
  have hsound := (trackContract M S key).run_sound (w := ⟨w, none⟩) rfl (fun coord hp => absurd hp (hnone coord)) ds hok
  refine ⟨fun coord hp => ?_, fun hoff coord hp => ?_⟩
  · obtain ⟨svc, hsvc, hmem, -⟩ := hsound.inv coord hp
    exact ⟨svc, hsvc, hmem⟩
  · obtain ⟨svc, hsvc, -, hfin⟩ := hsound.inv coord hp
    exact hoff svc hsvc hfin

instance (key : NamespacedName) :
    (upToDate key : Conditions NamespacedName (Cluster × τ) (Answer × χ) (Outside ⊕ ω) (Call π)).Decides where
  start k _ := inferInstanceAs (Decidable (k = key))
  answer k w r c := inferInstanceAs (Decidable (UpToDate k w r c))

namespace Fixture

def behind (rev : Nat) : Happening := .answer ({ age := .version rev }, false)

def down : Happening := .answer ({}, false)

/-- A pass is dropped before it reports, and the next reads what was before. -/
def reportedLate : List Happening :=
  projecting inA ++ pass inA 11 ++ [.crash, .start inA, behind 2, down, down, down, down]

def deletedLate : List Happening := reportedLate ++ .outside (.inl (.deleteService inA)) :: pass inA 2

/-- A pass is dropped, the next one reports, and a later read is behind in step. -/
def reportedInStep : List Happening :=
  projecting inA ++ pass inA 11 ++ [.crash] ++ pass inA 8 ++ [.start inA, behind 3, down, down, down, down]

def placed (s : Cluster) : List (List ProjectedSecretRef) × List (ProjectedSecretRef × Option NamespacedName) :=
  (s.services.live.items.map (·.val.projected), s.secrets.live.items.map fun o => (o.val.coord, o.val.createdBy))

end Fixture

set_option maxRecDepth 8000 in
/-- The report of a pass whose first read was behind puts an empty record over that of the pass before it. -/
theorem forgets_when_behind :
    Fixture.placed (run (frameServiceReconciler Fixture.manager Fixture.side).step ⟨Fixture.cluster, none⟩
        Fixture.reportedLate).1.server.1 =
      ([[]], [(⟨"a", "db"⟩, some Fixture.inA), (⟨"shared", "db"⟩, some Fixture.inA)]) ∧
    Fixture.placed (run (frameServiceReconciler Fixture.manager Fixture.side).step ⟨Fixture.cluster, none⟩
        Fixture.deletedLate).1.server.1 =
      ([], [(⟨"a", "db"⟩, some Fixture.inA), (⟨"shared", "db"⟩, some Fixture.inA)]) := by
  constructor <;> decide +kernel

set_option maxRecDepth 8000 in
/-- A read that is behind, and in step. -/
theorem never_forgets_in_step :
    Meets (frameServiceReconciler Fixture.manager Fixture.side).step (upToDate Fixture.inA).Ok ⟨Fixture.cluster, none⟩
        Fixture.reportedInStep ∧
      (let out :=
          (run (frameServiceReconciler Fixture.manager Fixture.side).step ⟨Fixture.cluster, none⟩ Fixture.reportedInStep).1.server.1;
        (∀ coord, Placed Fixture.inA out coord → ∃ svc, out.services.value? Fixture.inA = some svc ∧ coord ∈ svc.projected) ∧
          ((∀ svc, out.services.value? Fixture.inA = some svc → frameServiceFinalizer ∉ svc.finalizers) →
            ∀ coord, ¬Placed Fixture.inA out coord)) := by
  refine ⟨by decide +kernel, never_forgets Fixture.manager Fixture.side Fixture.inA Fixture.cluster ?_ _ (by decide +kernel)⟩
  rintro coord ⟨-, secret, hsec, -⟩
  cases hsec

end FrameOperator.Services
