import FrameOperator.Services.Cache

/-!
# What a request of the cache provider leaves

All that a request can do to StatefulSets and volumes (`Changed`), what its answer says, and what others leave of a volume
(`Volumes.Swaps`).
-/

namespace FrameOperator.Services

open Versioned Api

namespace Cache

variable {s t : Objects} {key : NamespacedName}

/-! ## Volumes -/

def Fitted (v : Volume) : Prop := v.bound = true → v.request.value ≤ v.capacity

theorem fitted_bind (capacity : Int) (v : Volume) (h : Fitted v) : Fitted (v.bind capacity) := by
  unfold Volume.bind
  split
  · rename_i hb
    exact fun _ => hb.2
  · exact h

theorem fitted_expand (capacity : Int) (v : Volume) (h : Fitted v) : Fitted (v.expand capacity) := by
  unfold Volume.expand
  split
  · rename_i hb
    exact fun _ => (h hb.1).trans hb.2
  · exact h

namespace Volumes

variable {a b c : Volumes}

theorem get?_modify (a : Volumes) (k : NamespacedName) (f : Volume → Volume) (hkey : ∀ v, (f v).key = v.key)
    (huid : ∀ v, (f v).uid = v.uid) (j : NamespacedName) :
    (a.modify k f hkey huid).get? j = if j = k then (a.get? j).map f else a.get? j :=
  Keyed.get?_modify a.live k f hkey j

theorem get?_delete (k j : NamespacedName) : (a.delete k).get? j = if j = k then none else a.get? j :=
  Keyed.get?_erase a.live k j

variable {j : NamespacedName}

theorem get?_create {v w : Volume} (h : (a.create v).get? j = some w) :
    a.get? j = some w ∨ (w.uid ∉ a.used ∧ w.bound = false) := by
  unfold create at h
  split at h
  · rename_i hfresh
    rw [get?, Keyed.get?_insertNew] at h
    split at h
    · cases h
      exact .inr ⟨hfresh.1, rfl⟩
    · exact .inl h
  · exact .inl h

theorem used_create {v : Volume} {u : String} (h : u ∈ a.used) : u ∈ (a.create v).used := by
  unfold create
  split
  · exact List.mem_cons_of_mem _ h
  · exact h

theorem uid_used {v : Volume} (h : a.get? j = some v) : v.uid ∈ a.used := a.live_used v (Keyed.mem_of_get? h)

structure Swaps (j : NamespacedName) (a b : Volumes) : Prop where
  used : ∀ u ∈ a.used, u ∈ b.used
  volume : ∀ w, b.get? j = some w →
    (∃ v, a.get? j = some v ∧ w.uid = v.uid ∧ w.request = v.request ∧ (Fitted v → Fitted w)) ∨ (w.uid ∉ a.used ∧ Fitted w)

theorem Swaps.refl (j : NamespacedName) (a : Volumes) : Swaps j a a := ⟨fun _ h => h, fun w h => .inl ⟨w, h, rfl, rfl, id⟩⟩

theorem Swaps.trans (h : Swaps j a b) (h' : Swaps j b c) : Swaps j a c := by
  refine ⟨fun u hu => h'.used u (h.used u hu), fun x hx => ?_⟩
  rcases h'.volume x hx with ⟨w, hw, huid, hreq, hfit⟩ | ⟨hnew, hfit⟩
  · rcases h.volume w hw with ⟨v, hv, huid', hreq', hfit'⟩ | ⟨hnew, hfit'⟩
    · exact .inl ⟨v, hv, huid.trans huid', hreq.trans hreq', fun hf => hfit (hfit' hf)⟩
    · exact .inr ⟨by rwa [huid], hfit hfit'⟩
  · exact .inr ⟨fun hmem => hnew (h.used _ hmem), hfit⟩

theorem swaps_create (j : NamespacedName) (a : Volumes) (v : Volume) : Swaps j a (a.create v) := by
  refine ⟨fun _ => used_create, fun w hw => ?_⟩
  rcases get?_create hw with hold | ⟨hnew, hfree⟩
  · exact .inl ⟨w, hold, rfl, rfl, id⟩
  · exact .inr ⟨hnew, fun hb => by rw [hfree] at hb; cases hb⟩

theorem swaps_modify (j k : NamespacedName) (a : Volumes) {f : Volume → Volume} (hkey : ∀ v, (f v).key = v.key)
    (huid : ∀ v, (f v).uid = v.uid) (hreq : ∀ v, (f v).request = v.request) (hfit : ∀ v, Fitted v → Fitted (f v)) :
    Swaps j a (a.modify k f hkey huid) := by
  refine ⟨fun _ h => h, fun w hw => .inl ?_⟩
  rw [get?_modify] at hw
  split at hw
  · obtain ⟨v, hv, rfl⟩ := Option.map_eq_some_iff.mp hw
    exact ⟨v, hv, huid v, hreq v, hfit v⟩
  · exact ⟨w, hw, rfl, rfl, id⟩

theorem swaps_delete (j k : NamespacedName) (a : Volumes) : Swaps j a (a.delete k) := by
  refine ⟨fun _ h => h, fun w hw => .inl ?_⟩
  rw [get?_delete] at hw
  split at hw
  · cases hw
  · exact ⟨w, hw, rfl, rfl, id⟩

end Volumes

/-! ## Requests -/

namespace Objects

def sees (s : Objects) (key : NamespacedName) (rev : Nat) : Objects :=
  { s with seen := fun k => if k = key then some rev else s.seen k }

def withStatefulSet (s : Objects) (sts : StatefulSet) : Objects := { s with statefulSets := s.statefulSets.create sts }

def updated (s : Objects) (sts : Stamped StatefulSet) : Objects :=
  { s with statefulSets := s.statefulSets.modify sts.val.key sts.val.accepted (StatefulSet.key_accepted sts) }

def resized (s : Objects) (key : NamespacedName) (size : Quantity) : Objects :=
  { s with
    volumes := s.volumes.modify key (fun v => { v with request := size }) (Volume.key_request size) (Volume.uid_request size) }

end Objects

def Aside : Request → Prop
  | .random | .getService _ | .createService _ | .getSecret _ | .createSecret _ | .updateSecret _ => True
  | _ => False

inductive Changed (s : Objects) : Request → Objects → Prop where
  | nothing {r : Request} : Changed s r s
  | shown {key : NamespacedName} {v : Stamped StatefulSet} :
      Changed s (.getStatefulSet key) (s.sees key v.rev)
  | created {sts : StatefulSet} (hfree : s.statefulSets.value? sts.key = none) :
      Changed s (.createStatefulSet sts) (s.withStatefulSet sts)
  | updated {sts : Stamped StatefulSet} (hcur : s.statefulSets.Current sts) :
      Changed s (.updateStatefulSet sts) (s.updated sts)
  | resized {volume v : Volume} {size : Quantity} (hv : s.volumes.get? volume.key = some v) (hsize : v.resizable size = true) :
      Changed s (.patchVolume volume size) (s.resized volume.key size)
  | aside {r : Request} {t : Objects} (hr : Aside r) (hsts : t.statefulSets = s.statefulSets) (hvol : t.volumes = s.volumes)
      (hseen : t.seen = s.seen) : Changed s r t

theorem readStatefulSet_cases (s : Objects) (key : NamespacedName) (age : Age) :
    (s.shown key age = none ∧ s.readStatefulSet key age = (s, .error .notFound)) ∨ ∃ v, s.shown key age = some v ∧
      s.readStatefulSet key age = (s.sees key v.rev, .ok v) := by
  unfold Objects.readStatefulSet
  split
  · rename_i h
    exact .inl ⟨h, rfl⟩
  · rename_i v hv
    exact .inr ⟨v, hv, rfl⟩

theorem createStatefulSet_cases (s : Objects) (sts : StatefulSet) :
    (∃ e, s.createStatefulSet sts = (s, .error e)) ∨
      (s.statefulSets.value? sts.key = none ∧ (s.createStatefulSet sts).1 = s.withStatefulSet sts) := by
  rcases add_cases s.statefulSets sts with ⟨hfree, h1, -⟩ | ⟨-, h1, h2⟩
  · exact .inr ⟨hfree, by simp only [Objects.createStatefulSet, h1]; rfl⟩
  · exact .inl ⟨.alreadyExists, by simp only [Objects.createStatefulSet, h1, h2]; rfl⟩

theorem updateStatefulSet_cases (s : Objects) (sts : Stamped StatefulSet) :
    (∃ e, s.updateStatefulSet sts = (s, .error e)) ∨ (s.statefulSets.Current sts ∧
      s.updateStatefulSet sts = (s.updated sts, (s.updated sts).statefulSets.read sts.val.key)) := by
  unfold Objects.updateStatefulSet put
  simp only
  split
  · exact .inl ⟨_, rfl⟩
  rename_i cur hcur
  split
  · rename_i hrev
    exact .inr ⟨⟨cur, hcur, hrev⟩, rfl⟩
  · exact .inl ⟨_, rfl⟩

theorem patchVolume_cases (s : Objects) (key : NamespacedName) (size : Quantity) :
    (∃ e, s.patchVolume key size = (s, .error e)) ∨ ∃ v, s.volumes.get? key = some v ∧ v.resizable size = true ∧
      (s.patchVolume key size).1 = s.resized key size := by
  unfold Objects.patchVolume
  split
  · exact .inl ⟨_, rfl⟩
  rename_i v hv
  split
  · rename_i hsize
    exact .inr ⟨v, hv, hsize, rfl⟩
  · exact .inl ⟨_, rfl⟩

/-- Every request does one of `Changed`. -/
theorem exec_changed (s : Objects) (r : Request) (a : Answer) : Changed s r (s.exec r a).1 := by
  -- a request that is not carried out changes nothing
  have hfate : ∀ {α : Type} {call : Objects × Except Error α}, Changed s r call.1 → Changed s r (a.fate.answer s call).1 :=
    Fate.answer_state a.fate .nothing
  cases r with
  | random => exact .nothing
  | getStatefulSet key =>
    refine hfate ?_
    rcases readStatefulSet_cases s key a.age with ⟨-, h⟩ | ⟨v, -, h⟩ <;> rw [h]
    · exact .nothing
    · exact .shown
  | createStatefulSet sts =>
    refine hfate ?_
    rcases createStatefulSet_cases s sts with ⟨e, h⟩ | ⟨hfree, h⟩ <;> rw [h]
    · exact .nothing
    · exact .created hfree
  | updateStatefulSet sts =>
    refine hfate ?_
    rcases updateStatefulSet_cases s sts with ⟨e, h⟩ | ⟨hcur, h⟩ <;> rw [h]
    · exact .nothing
    · exact .updated hcur
  | patchVolume volume size =>
    refine hfate ?_
    rcases patchVolume_cases s volume.key size with ⟨e, h⟩ | ⟨v, hv, hsize, h⟩ <;> rw [h]
    · exact .nothing
    · exact .resized hv hsize
  | createService service =>
    refine hfate ?_
    show Changed s _ (s.createService service).1
    unfold Objects.createService
    split
    · exact .nothing
    · exact .aside trivial rfl rfl rfl
  | getService | getSecret | getVolume => exact hfate .nothing
  | createSecret | updateSecret => exact hfate (.aside trivial rfl rfl rfl)

/-! ## What the answers say -/

variable {v : Stamped StatefulSet}

/-- What a cache shows was committed under the key. -/
theorem shown_past {age : Age} (h : s.shown key age = some v) :
    v ∈ s.statefulSets.past ∧ v.val.key = key := by
  cases age with
  | current => exact past_of_get? h
  | version rev =>
    simp only [Objects.shown] at h
    split at h
    · rename_i hfind
      cases h
      refine ⟨List.mem_of_find?_eq_some hfind, ?_⟩
      have hp := List.find?_some hfind
      simp only [Bool.and_eq_true, decide_eq_true_eq] at hp
      exact hp.1.1
    · exact past_of_get? h
  | unseen =>
    simp only [Objects.shown] at h
    split at h
    · cases h
    · exact past_of_get? h

/-- A cache shows nothing only of what is gone or unseen. -/
theorem shown_none {age : Age} (h : s.shown key age = none) : s.statefulSets.value? key = none ∨ s.seen key = none := by
  have hnone : s.statefulSets.get? key = none → s.statefulSets.value? key = none := fun hg => by rw [value?, hg, Option.map_none]
  cases age with
  | current => exact .inl (hnone h)
  | version rev =>
    simp only [Objects.shown] at h
    split at h
    · cases h
    · exact .inl (hnone h)
  | unseen =>
    simp only [Objects.shown] at h
    split at h
    · exact .inr ‹_›
    · exact .inl (hnone h)

variable {a : Answer}

theorem exec_getStatefulSet_ok (h : (s.exec (.getStatefulSet key) a).2 = .ok v) :
    s.shown key a.age = some v ∧ (s.exec (.getStatefulSet key) a).1 = s.sees key v.rev := by
  have hcall : s.exec (.getStatefulSet key) a = s.readStatefulSet key a.age := Fate.answer_ok h
  rw [hcall] at h ⊢
  rcases readStatefulSet_cases s key a.age with ⟨-, hr⟩ | ⟨v', hv, hr⟩ <;> rw [hr] at h ⊢ <;> cases h
  exact ⟨hv, rfl⟩

theorem exec_getStatefulSet_gone (h : (s.exec (.getStatefulSet key) a).2 = .error .notFound) :
    (s.statefulSets.value? key = none ∨ s.seen key = none) ∧ (s.exec (.getStatefulSet key) a).1 = s := by
  have hcall : s.exec (.getStatefulSet key) a = s.readStatefulSet key a.age := Fate.answer_notFound h
  rw [hcall] at h ⊢
  rcases readStatefulSet_cases s key a.age with ⟨hnone, hr⟩ | ⟨v', -, hr⟩ <;> rw [hr] at h ⊢
  · exact ⟨shown_none hnone, rfl⟩
  · cases h

theorem exec_updateStatefulSet_ok {sts v : Stamped StatefulSet} (h : (s.exec (.updateStatefulSet sts) a).2 = .ok v) :
    s.statefulSets.Current sts ∧ (s.exec (.updateStatefulSet sts) a).1 = s.updated sts ∧
      (s.updated sts).statefulSets.get? sts.val.key = some v := by
  have hcall : s.exec (.updateStatefulSet sts) a = s.updateStatefulSet sts := Fate.answer_ok h
  rw [hcall] at h ⊢
  rcases updateStatefulSet_cases s sts with ⟨e, hu⟩ | ⟨hcur, hu⟩ <;> rw [hu] at h ⊢
  · cases h
  · exact ⟨hcur, rfl, read_ok h⟩

@[simp] theorem exec_getVolume_state (a : Answer) : (s.exec (.getVolume key) a).1 = s :=
  Fate.answer_read _

theorem exec_getVolume {v : Volume} (h : (s.exec (.getVolume key) a).2 = .ok v) : s.volumes.get? key = some v := by
  rw [show s.exec (.getVolume key) a = (s, s.readVolume key) from Fate.answer_ok h] at h
  simp only [Objects.readVolume] at h
  split at h
  · cases h
  · cases h
    assumption

/-! ## What others leave -/

/-- Others put only volumes of new UIDs in the place of one. -/
theorem swaps_outside (j : NamespacedName) (s : Objects) (o : Outside) : Volumes.Swaps j s.volumes (s.outside o).volumes := by
  cases o with
  | createVolume v => exact Volumes.swaps_create j _ v
  | bindVolume k capacity =>
    exact Volumes.swaps_modify j k s.volumes (fun v => (v.bind_same capacity).1) (fun v => (v.bind_same capacity).2.1)
      (fun v => (v.bind_same capacity).2.2) (fitted_bind capacity)
  | expandVolume k capacity =>
    exact Volumes.swaps_modify j k s.volumes (fun v => (v.expand_same capacity).1) (fun v => (v.expand_same capacity).2.1)
      (fun v => (v.expand_same capacity).2.2) (fitted_expand capacity)
  | labelVolume k labels =>
    exact Volumes.swaps_modify j k s.volumes (f := fun v => { v with labels := labels }) (fun _ => rfl) (fun _ => rfl) (fun _ => rfl)
      fun _ h => h
  | deleteVolume k => exact Volumes.swaps_delete j k _
  | setStatus | setService | createSecret | editSecret | deleteSecret => exact .refl j _

theorem outside_statefulSets (s : Objects) (o : Outside) : (s.outside o).statefulSets = s.statefulSets ∨
    ∃ k status, (s.outside o).statefulSets = s.statefulSets.modify k (fun sts => { sts with status := status }) fun _ => rfl := by
  cases o with
  | setStatus k status => exact .inr ⟨k, status, rfl⟩
  | createVolume | bindVolume | expandVolume | labelVolume | deleteVolume | setService | createSecret | editSecret | deleteSecret =>
    exact .inl rfl

@[simp] theorem outside_seen (o : Outside) : (s.outside o).seen = s.seen := by
  cases o <;> rfl

end Cache

end FrameOperator.Services
