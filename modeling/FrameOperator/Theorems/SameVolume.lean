import FrameOperator.Lemmas.CachePass
import FrameOperator.Theorems.AdoptionSpec

/-!
# A queue and the volume it ran on

A queue that loses its volume gets a new one under the same name; only the UID tells the two apart. From the first record on nothing
is rolled out and no volume is grown by a pass that has read another volume.
-/

namespace FrameOperator.Services

open Api

namespace Cache

variable {env : Env} {key : NamespacedName} {svc : FrameService} {s t : Objects} {past : List (Called Request.Resp)}

/-! ## What a call does to the record and to the volume -/

variable {r : Request}

theorem record_changed (hc : Changed s r t) (hg : Keeps svc past s r) {uid : String} (hrec : s.record svc.key = some uid)
    (hne : uid ≠ "") : t.record svc.key = some uid ∨ t.record svc.key = some (valueOf svc.params "restoredVolumeUID") := by
  cases hc with
  | nothing | shown | resized => exact .inl hrec
  | aside _ hsts => exact .inl (by rw [Objects.record, hsts]; exact hrec)
  | created hfree =>
    rw [Objects.record, ← hg.1, hfree] at hrec
    cases hrec
  | updated hcur =>
    obtain ⟨hkey, -, base, hbase, hrev, -, hhow, -⟩ := hg
    have hget := get?_of_rev hcur hkey hbase hrev
    rw [Objects.record, Versioned.value?_of_get? hget, Option.map_some] at hrec
    cases hrec
    rw [record_updated hcur hkey]
    rcases hhow with hsame | ⟨-, hparam⟩
    · exact .inl (by rw [hsame])
    · exact .inr (by rw [hparam hne])

structure Grows (key : NamespacedName) (s t : Objects) : Prop where
  used : ∀ u ∈ s.volumes.used, u ∈ t.volumes.used
  volume : ∀ w, t.volumes.get? (volumeKey key) = some w → w.uid ∈ s.volumes.used →
    ∃ v, s.volumes.get? (volumeKey key) = some v ∧ v.uid = w.uid ∧ v.request.value ≤ w.request.value

theorem Grows.of_eq (h : t.volumes = s.volumes) : Grows key s t := by
  refine ⟨by rw [h]; exact fun _ hu => hu, fun w hw _ => ⟨w, by rwa [← h], rfl, Int.le_refl _⟩⟩

theorem Grows.trans {u : Objects} (h : Grows key s t) (h' : Grows key t u) : Grows key s u := by
  refine ⟨fun x hx => h'.used x (h.used x hx), fun w hw hused => ?_⟩
  obtain ⟨v', hv', huid', hle'⟩ := h'.volume w hw (h.used _ hused)
  obtain ⟨v, hv, huid, hle⟩ := h.volume v' hv' (by rwa [huid'])
  exact ⟨v, hv, huid.trans huid', hle.trans hle'⟩

theorem grows_changed (hc : Changed s r t) (hg : Keeps svc past s r) : Grows svc.key s t := by
  cases hc with
  | nothing | shown | created | updated => exact .of_eq rfl
  | aside _ _ hvol => exact .of_eq hvol
  | @resized volume v size hv hsize =>
    obtain ⟨hkey, -, hgrow⟩ := hg
    refine ⟨fun _ hu => hu, fun w hw _ => ?_⟩
    rw [Objects.resized, Volumes.get?_modify, if_pos hkey.symm, ← hkey, hv, Option.map_some] at hw
    cases hw
    rw [hkey] at hv
    exact ⟨v, hv, rfl, hgrow v hv hsize⟩

theorem grows_outside (s : Objects) (o : Outside) : Grows key s (s.outside o) := by
  have hswap := swaps_outside (volumeKey key) s o
  refine ⟨hswap.used, fun w hw hused => ?_⟩
  rcases hswap.volume w hw with ⟨v, hv, huid, hreq, -⟩ | ⟨hnew, -⟩
  · exact ⟨v, hv, huid.symm, by rw [hreq]⟩
  · exact absurd hused hnew

/-! ## Runs -/

def queuePasses (key : NamespacedName) : Conditions FrameService Objects Answer Outside Request where
  start svc _ := svc.key = key ∧ valueOf svc.params "profile" = profileQueue

def queueCharter (env : Env) (key : NamespacedName) : Charter (reconciler env) (queuePasses key) where
  inv := Tracked key
  rely _ := Others key
  guar svc past s r := svc.key = key ∧ Keeps svc past s r
  post svc past a s := svc.key = key ∧ ∀ result, a = .ok result → Serves svc result past s
  refl _ := .refl key
  trans := .trans
  outside_inv s o hs _ := hs.others (others_outside key s o)
  outside_rely _ s o _ _ := others_outside key s o
  pass svc s hs hstart := by
    obtain ⟨rfl, hqueue⟩ := hstart
    exact ((reconcile_keeps hqueue hs).imp hs fun _ _ _ _ h => ⟨rfl, h⟩).weaken fun _ _ _ h => ⟨rfl, h⟩

variable {w : Work FrameService Objects Request.Resp (Except String Result)}
  {log : List (Deed FrameService Request.Resp (Except String Result))} {d : Drive FrameService Answer Outside}

section

variable (h : (queueCharter env key).Sound w log)
include h

/-- A step changes nothing, is of others, or keeps the volume. -/
theorem step_cases (d : Drive FrameService Answer Outside) :
    ((reconciler env).step w d).1.server = w.server ∨ (∃ o, ((reconciler env).step w d).1.server = w.server.outside o) ∨
      ∃ svc r next, w.task = some (svc, .call r next) ∧ svc.key = key ∧ Keeps svc (callsUnderWay log) w.server r ∧
        Changed w.server r ((reconciler env).step w d).1.server := by
  obtain ⟨s, task⟩ := w
  cases d with
  | start svc =>
    cases task <;> exact .inl rfl
  | answer c =>
    match task, h with
    | none, _ => exact .inl rfl
    | some (svc, .done a), _ => exact .inl rfl
    | some (svc, .call r next), h =>
      obtain ⟨hkey, hkeeps⟩ := h.guar rfl
      exact .inr (.inr ⟨svc, r, next, rfl, hkey, hkeeps, exec_changed s r c⟩)
  | crash =>
    cases task <;> exact .inl rfl
  | outside o => exact .inr (.inl ⟨o, rfl⟩)

theorem record_step (d : Drive FrameService Answer Outside) {uid : String} (hne : uid ≠ "")
    (hrec : w.server.record key = some uid) :
    ((reconciler env).step w d).1.server.record key = some uid ∨ ∃ svc r next, w.task = some (svc, .call r next) ∧
      ((reconciler env).step w d).1.server.record key = some (valueOf svc.params "restoredVolumeUID") := by
  rcases step_cases h d with heq | ⟨o, heq⟩ | ⟨svc, r, next, htask, hkey, hkeeps, hc⟩
  · rw [heq]
    exact .inl hrec
  · rw [heq, (others_outside key w.server o).record]
    exact .inl hrec
  · rw [← hkey] at hrec ⊢
    exact (record_changed hc hkeeps hrec hne).imp_right fun h => ⟨svc, r, next, htask, h⟩

theorem grows_step (d : Drive FrameService Answer Outside) :
    Grows key w.server ((reconciler env).step w d).1.server := by
  rcases step_cases h d with heq | ⟨o, heq⟩ | ⟨svc, r, next, htask, hkey, hkeeps, hc⟩
  · exact .of_eq (by rw [heq])
  · rw [heq]
    exact grows_outside w.server o
  · rw [← hkey]
    exact grows_changed hc hkeeps

end

/-- A request creates the StatefulSet, rolls something out on the live version, or patches the volume. -/
def Writes (key : NamespacedName) (s : Objects) : Request → Prop
  | .createStatefulSet _ | .patchVolume _ _ => True
  | .updateStatefulSet sts => ∃ cur, s.statefulSets.get? key = some cur ∧ cur.rev = sts.rev ∧ Moves sts.val cur.val
  | _ => False

theorem Keeps.onRecord (h : Keeps svc past s r) (hw : Writes svc.key s r) : OnRecord svc.key past s := by
  cases r with
  | createStatefulSet => exact h.2.2
  | patchVolume => exact h.2.1
  | updateStatefulSet sts =>
    obtain ⟨hkey, -, base, hbase, hrev, -, -, hmoves⟩ := h
    obtain ⟨cur, hget, hcrev, hmoved⟩ := hw
    have hcur : s.statefulSets.Current sts := ⟨cur, by rw [hkey]; exact hget, hcrev⟩
    have hbase' := get?_of_rev hcur hkey hbase hrev
    rw [hget] at hbase'
    cases hbase'
    exact hmoves hmoved
  | random | getStatefulSet | getService | createService | getSecret | createSecret | updateSecret | getVolume => exact absurd hw id

/-- Whatever lags, fails or is dropped, a queue keeps the volume that is recorded, and the request never decreases. -/
theorem queue_keeps_volume (env : Env) (key : NamespacedName) (s : Objects) (hnew : ∀ v ∈ s.statefulSets.past, v.val.key ≠ key)
    (ds : List (Drive FrameService Answer Outside)) (hok : Meets (reconciler env).step (queuePasses key).Ok ⟨s, none⟩ ds) :
    let out := run (reconciler env).step ⟨s, none⟩ ds
    (∀ d uid, uid ≠ "" → out.1.server.record key = some uid →
      ((reconciler env).step out.1 d).1.server.record key = some uid ∨ ∃ svc r next, out.1.task = some (svc, .call r next) ∧
        ((reconciler env).step out.1 d).1.server.record key = some (valueOf svc.params "restoredVolumeUID")) ∧
    (∀ d, (queuePasses key).Ok out.1 d → ∀ svc result, Deed.returned svc (.ok result) ∈ ((reconciler env).step out.1 d).2 →
      result.ready = true → svc.status.binding.endpoint ≠ "" →
      ∃ v, (⟨.getVolume (volumeKey key), .ok v⟩ : Called Request.Resp) ∈ callsUnderWay (out.2 ++ ((reconciler env).step out.1 d).2) ∧
        ((reconciler env).step out.1 d).1.server.record key = some v.uid) ∧
    (∀ svc r next, out.1.task = some (svc, .call r next) → Writes key out.1.server r →
      ∀ v, (⟨.getVolume (volumeKey key), .ok v⟩ : Called Request.Resp) ∈ callsUnderWay out.2 →
        ∀ uid, out.1.server.record key = some uid → uid ≠ "" → uid = v.uid) ∧
    (∀ ds', Meets (reconciler env).step (queuePasses key).Ok out.1 ds' → ∀ v v',
      out.1.server.volumes.get? (volumeKey key) = some v →
      (run (reconciler env).step out.1 ds').1.server.volumes.get? (volumeKey key) = some v' → v'.uid = v.uid →
      v.request.value ≤ v'.request.value) := by
  have hsound := (queueCharter env key).run_sound (tracked_of_new hnew) ds hok
  refine ⟨fun d uid hne hrec => record_step hsound d hne hrec, fun d hd svc result hret hready hend => ?_,
    fun svc r next htask hwrites => ?_, fun ds' hok' v v' hv hv' huid => ?_⟩
  · obtain ⟨hkey, hserves⟩ := (hsound.step hd).2 svc (.ok result) hret
    rw [← hkey]
    exact hserves result rfl hready hend
  · obtain ⟨hkey, hkeeps⟩ := hsound.guar htask
    subst hkey
    exact hkeeps.onRecord hwrites
  · -- from here on the run may begin within a pass
    have hgrows := run_induct
      (I := fun w _ => (∃ log, (queueCharter env key).Sound w log) ∧
        Grows key (run (reconciler env).step ⟨s, none⟩ ds).1.server w.server)
      ⟨⟨_, hsound⟩, .of_eq rfl⟩
      (fun w _ d ⟨⟨log, hw⟩, hg⟩ (hd : (queuePasses key).Ok w d) => ⟨⟨_, (hw.step hd).1⟩, hg.trans (grows_step hw d)⟩) ds' hok'
    obtain ⟨v₀, hv₀, -, hle⟩ := hgrows.2.volume v' hv' (by rw [huid]; exact Volumes.uid_used hv)
    rw [hv] at hv₀
    cases hv₀
    exact hle

instance (key : NamespacedName) : (queuePasses key).Decides where
  start svc _ := inferInstanceAs (Decidable (svc.key = key ∧ valueOf svc.params "profile" = profileQueue))

namespace CacheFixture

def libraries : Env where
  parseQuantity := Postgres.PostgresFixture.quantity
  isDNS1035Label _ := []
  hashOf template := .ok (template.authDigest ++ "/" ++ template.memory)
  hmac _ password := toString password.length
  quote password := password

def jobs : NamespacedName := ⟨"shop", "jobs"⟩

def queue (endpoint restored : String) : FrameService :=
  { key := jobs
    spec := { type := "cache", parameters := [("profile", "queue"), ("maxMemory", "1Gi"), ("volumeSize", "10Gi"),
      ("restoredVolumeUID", restored)].foldl (fun m e => m.copySet e.1 ⟨e.2⟩) none }
    status := { binding := { endpoint := endpoint } } }

def noObjects : Objects := ⟨.empty, fun _ => none, .empty, .empty, fun _ => none⟩

def data (uid : String) : Volume where
  key := volumeKey jobs
  uid := uid
  labels := GoMap.copySet none ownerLabel "jobs"
  request := ⟨10737418240, "10Gi"⟩

def volumeMade (uid : String) : List (Drive FrameService Answer Outside) :=
  [.outside (.createVolume (data uid)), .outside (.bindVolume (volumeKey jobs) 10737418240)]

def pass (svc : FrameService) (requests : Nat) : List (Drive FrameService Answer Outside) :=
  .start svc :: List.replicate requests (.answer { random := .ok [7] })

/-- A queue's volume is lost and made again, until the parameters name the new one. -/
def lostVolume : List (Drive FrameService Answer Outside) :=
  pass (queue "" "") 9 ++ volumeMade "aa" ++ [.outside (.setStatus jobs ⟨1, 1, 1⟩)] ++ pass (queue "" "") 5 ++
    [.outside (.deleteVolume (volumeKey jobs))] ++ volumeMade "bb" ++ pass (queue "jobs.shop.svc:6379" "") 3 ++
    pass (queue "jobs.shop.svc:6379" "bb") 5

def said (log : List (Deed FrameService Request.Resp (Except String Result))) : List String :=
  log.filterMap fun
    | .returned _ (.ok result) => some result.reason
    | _ => none

end CacheFixture

open CacheFixture in
set_option maxRecDepth 8000 in
/-- A volume is lost, and its successor accepted by UID. -/
theorem queue_keeps_volume_lost :
    Meets (reconciler libraries).step (queuePasses jobs).Ok ⟨noObjects, none⟩ lostVolume ∧
      said (run (reconciler libraries).step ⟨noObjects, none⟩ lostVolume).2 = ["Provisioning", "Running", "InstanceLost", "Running"] ∧
      (run (reconciler libraries).step ⟨noObjects, none⟩ lostVolume).1.server.record jobs = some "bb" ∧
      ∀ d uid, uid ≠ "" → (run (reconciler libraries).step ⟨noObjects, none⟩ lostVolume).1.server.record jobs = some uid →
        ((reconciler libraries).step (run (reconciler libraries).step ⟨noObjects, none⟩ lostVolume).1 d).1.server.record jobs =
            some uid ∨
          ∃ svc r next, (run (reconciler libraries).step ⟨noObjects, none⟩ lostVolume).1.task = some (svc, .call r next) ∧
            ((reconciler libraries).step (run (reconciler libraries).step ⟨noObjects, none⟩ lostVolume).1 d).1.server.record jobs =
              some (valueOf svc.params "restoredVolumeUID") :=
  ⟨by decide +kernel, by decide +kernel, by decide +kernel,
    (queue_keeps_volume libraries jobs noObjects nofun lostVolume (by decide +kernel)).1⟩

end Cache

end FrameOperator.Services
