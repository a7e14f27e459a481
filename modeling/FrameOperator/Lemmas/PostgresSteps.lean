import FrameOperator.Services.Postgres

/-!
# What a request of the Postgres provider leaves

Everything a request can do to CRs and bucket claims (`Changed`), what its answer says, and what others leave of a CR.
-/

namespace FrameOperator.Services

open Keyed Api

namespace Postgres

variable {s t : Objects} {kind : Kind} {key : NamespacedName}

namespace Objects

def added (s : Objects) (o : Object) : Objects := { s with objects := s.objects.insertNew o }

def patched (s : Objects) (kind : Kind) (key : NamespacedName) (body : Patch) : Objects :=
  { s with objects := s.objects.modify (kind, key) body.apply body.id_apply }

theorem get?_added (o : Object) (kind : Kind) (key : NamespacedName) :
    (s.added o).get? kind key = if s.get? o.kind o.key = none ∧ (kind, key) = o.id then some o else s.get? kind key :=
  get?_insertNew s.objects o (kind, key)

theorem get?_patched (s : Objects) (kind' : Kind) (key' : NamespacedName) (body : Patch) (kind : Kind) (key : NamespacedName) :
    (s.patched kind' key' body).get? kind key =
      if (kind, key) = (kind', key') then (s.get? kind key).map body.apply else s.get? kind key :=
  get?_modify s.objects (kind', key') body.apply body.id_apply (kind, key)

theorem id_of_get? {o : Object} (h : s.get? kind key = some o) : o.kind = kind ∧ o.key = key := by
  have hid : o.id = (kind, key) := key_of_get? h
  exact Prod.mk.injEq .. ▸ hid

end Objects

inductive Changed (s : Objects) : Request → Objects → Prop where
  | nothing {r : Request} : Changed s r s
  | created {o : Object} {uid : String} (hin : o.kind ∈ s.installed) (hfree : s.get? o.kind o.key = none) :
      Changed s (.create o) (s.added { o with uid := uid })
  | patched {kind : Kind} {key : NamespacedName} {body : Patch} : Changed s (.patch kind key body) (s.patched kind key body)

theorem read_ok {o : Object} (h : s.read kind key = .ok o) : kind ∈ s.installed ∧ s.get? kind key = some o := by
  unfold Objects.read at h
  split at h
  · rename_i hin
    split at h
    · cases h
    · cases h
      exact ⟨hin, ‹_›⟩
  · cases h

theorem create_cases (s : Objects) (o : Object) :
    (∃ e, s.create o = (s, .error e)) ∨ (o.kind ∈ s.installed ∧ s.get? o.kind o.key = none ∧ s.create o = (s.added o, .ok o)) := by
  unfold Objects.create
  split
  · rename_i hin
    split
    · exact .inl ⟨_, rfl⟩
    · exact .inr ⟨hin, ‹_›, rfl⟩
  · exact .inl ⟨_, rfl⟩

theorem patch_cases (s : Objects) (kind : Kind) (key : NamespacedName) (body : Patch) :
    (∃ e, s.patch kind key body = (s, .error e)) ∨
      ∃ o, s.get? kind key = some o ∧ s.patch kind key body = (s.patched kind key body, .ok (body.apply o)) := by
  unfold Objects.patch
  split
  · exact .inl ⟨_, rfl⟩
  · rename_i o ho
    exact .inr ⟨o, (read_ok ho).2, rfl⟩

/-- Every request does one of `Changed`. -/
theorem exec_changed (s : Objects) (r : Request) (a : Answer) : Changed s r (s.exec r a).1 := by
  cases r with
  | get | getVolume | getCredentials => exact Fate.answer_state a.fate .nothing .nothing
  | create o =>
    refine Fate.answer_state a.fate .nothing ?_
    rcases create_cases s { o with uid := a.uid } with ⟨e, h⟩ | ⟨hin, hfree, h⟩ <;> rw [h]
    · exact .nothing
    · exact .created hin hfree
  | patch kind key body =>
    refine Fate.answer_state a.fate .nothing ?_
    rcases patch_cases s kind key body with ⟨e, h⟩ | ⟨o, -, h⟩ <;> rw [h]
    · exact .nothing
    · exact .patched

/-! ## What an answer says -/

variable {a : Answer}

/-- What is read is there, of an installed kind. -/
theorem exec_get_ok {o : Object} (h : (s.exec (.get kind key) a).2 = .ok o) :
    kind ∈ s.installed ∧ s.get? kind key = some o := by
  rw [show s.exec (.get kind key) a = _ from Fate.answer_ok h] at h
  exact read_ok h

theorem exec_get_gone (h : (s.exec (.get kind key) a).2 = .error .notFound) : s.get? kind key = none := by
  rw [show s.exec (.get kind key) a = (s, s.read kind key) from Fate.answer_notFound h] at h
  simp only [Objects.read] at h
  split at h
  · split at h
    · assumption
    · cases h
  · cases h

/-- What is created was not there. -/
theorem exec_create_ok {o o' : Object} (h : (s.exec (.create o) a).2 = .ok o') :
    o.kind ∈ s.installed ∧ s.get? o.kind o.key = none ∧ o' = { o with uid := a.uid } ∧
      (s.exec (.create o) a).1 = s.added { o with uid := a.uid } := by
  have hcall : s.exec (.create o) a = s.create { o with uid := a.uid } := Fate.answer_ok h
  rw [hcall] at h ⊢
  rcases create_cases s { o with uid := a.uid } with ⟨e, hc⟩ | ⟨hin, hfree, hc⟩ <;> rw [hc] at h ⊢ <;> cases h
  exact ⟨hin, hfree, rfl, rfl⟩

theorem exec_patch_ok {body : Patch} {o' : Object} (h : (s.exec (.patch kind key body) a).2 = .ok o') :
    ∃ o, s.get? kind key = some o ∧ o' = body.apply o ∧ (s.exec (.patch kind key body) a).1 = s.patched kind key body := by
  have hcall : s.exec (.patch kind key body) a = s.patch kind key body := Fate.answer_ok h
  rw [hcall] at h ⊢
  rcases patch_cases s kind key body with ⟨e, hc⟩ | ⟨o, ho, hc⟩ <;> rw [hc] at h ⊢ <;> cases h
  exact ⟨o, ho, rfl, rfl⟩

/-! ## What others do -/

def Alike (cr cr' : Object) : Prop := cr' = { cr with status := cr'.status }

theorem Alike.refl (cr : Object) : Alike cr cr := rfl

theorem Alike.trans {a b c : Object} (h : Alike a b) (h' : Alike b c) : Alike a c := by
  unfold Alike at *
  rw [h', h]

/-- Outside the passes the cluster is deleted, or only its status changes. -/
theorem outside_cluster (s : Objects) (o : Outside) (key : NamespacedName) :
    (o = .deleteCluster key ∧ (s.outside o).get? .cluster key = none) ∨
      ∃ f, (∀ cr, Alike cr (f cr)) ∧ (s.outside o).get? .cluster key = (s.get? .cluster key).map f := by
  have hsame (h : (s.outside o).get? .cluster key = s.get? .cluster key) :
      ∃ f, (∀ cr, Alike cr (f cr)) ∧ (s.outside o).get? .cluster key = (s.get? .cluster key).map f :=
    ⟨id, .refl, by rw [h, Option.map_id]; rfl⟩
  cases o with
  | deleteCluster k =>
    have hget := get?_erase s.objects (Kind.cluster, k) (.cluster, key)
    by_cases hk : key = k
    · subst hk
      rw [if_pos rfl] at hget
      exact .inl ⟨rfl, hget⟩
    · rw [if_neg (by simp [hk])] at hget
      exact .inr (hsame hget)
  | setStatus k status =>
    have hget := get?_modify s.objects (Kind.cluster, k) (fun o => { o with status := status }) (fun _ => rfl) (.cluster, key)
    by_cases hk : key = k
    · subst hk
      rw [if_pos rfl] at hget
      exact .inr ⟨({ · with status := status }), fun _ => rfl, hget⟩
    · rw [if_neg (by simp [hk])] at hget
      exact .inr (hsame hget)
  | createBucket k object =>
    have hget := get?_insertNew s.objects { object with kind := .bucket, key := k } (Kind.cluster, key)
    rw [if_neg (by simp [Object.id])] at hget
    exact .inr (hsame hget)
  | editBucket k object =>
    have hget := get?_modify s.objects (Kind.bucket, k)
      (fun o => { object with kind := o.kind, key := o.key, uid := o.uid }) (fun _ => rfl) (Kind.cluster, key)
    rw [if_neg (by simp)] at hget
    exact .inr (hsame hget)
  | deleteBucket k =>
    have hget := get?_erase s.objects (Kind.bucket, k) (Kind.cluster, key)
    rw [if_neg (by simp)] at hget
    exact .inr (hsame hget)
  | createVolume | deleteVolume | setCredentials | install => exact .inr (hsame rfl)

end Postgres

end FrameOperator.Services
