import FrameOperator.Lemmas.CacheSteps
import FrameOperator.Lib.Charter

/-!
# A pass over a queue

Every UID of a volume that was ever recorded on a StatefulSet is recorded now, or is that of a volume that is gone for good
(`Tracked`): so a version that names the volume a pass has read is right about the record, however old it is (`Keeps`).
-/

namespace FrameOperator.Services

open Api

namespace Cache

open Versioned Objects

variable {env : Env} {key : NamespacedName} {svc : FrameService} {s t : Objects} {past : List (Called Request.Resp)}

/-- The UID that is recorded for a queue. -/
def Objects.record (s : Objects) (key : NamespacedName) : Option String := (s.statefulSets.value? key).map StatefulSet.recorded

def Dead (key : NamespacedName) (s : Objects) (uid : String) : Prop := ∀ v, s.volumes.get? (volumeKey key) = some v → v.uid ≠ uid

/-- Each recorded UID is recorded now, or its volume is gone; the cache has shown the record. -/
structure Tracked (key : NamespacedName) (s : Objects) : Prop where
  used : ∀ v ∈ s.statefulSets.past, v.val.key = key → v.val.recorded ≠ "" → v.val.recorded ∈ s.volumes.used
  gone : ∀ v ∈ s.statefulSets.past, v.val.key = key → v.val.recorded ≠ "" →
    s.record key = some v.val.recorded ∨ Dead key s v.val.recorded
  seen : ∀ uid, s.record key = some uid → uid ≠ "" → s.seen key ≠ none

theorem tracked_of_new (h : ∀ v ∈ s.statefulSets.past, v.val.key ≠ key) : Tracked key s where
  used v hv hkey := absurd hkey (h v hv)
  gone v hv hkey := absurd hkey (h v hv)
  seen uid huid := by
    obtain ⟨sts, hsts, -⟩ := Option.map_eq_some_iff.mp huid
    obtain ⟨rev, hget⟩ := value?_eq_some hsts
    obtain ⟨hpast, hkey⟩ := past_of_get? hget
    exact absurd hkey (h _ hpast)

/-! ## What others do meanwhile -/

/-- Between two calls the record stays, and the volume or a UID of its own. -/
structure Others (key : NamespacedName) (s t : Objects) : Prop where
  past : ∀ v ∈ s.statefulSets.past, v ∈ t.statefulSets.past
  origin : ∀ v ∈ t.statefulSets.past, v.val.key = key →
    ∃ v' ∈ s.statefulSets.past, v'.val.key = key ∧ v'.val.recorded = v.val.recorded
  record : t.record key = s.record key
  seen : t.seen key = s.seen key
  volumes : Volumes.Swaps (volumeKey key) s.volumes t.volumes

theorem Others.of_eq (hsts : t.statefulSets = s.statefulSets) (hvol : t.volumes = s.volumes) (hseen : t.seen = s.seen) :
    Others key s t where
  past := by rw [hsts]; exact fun _ h => h
  origin := by rw [hsts]; exact fun v hv hkey => ⟨v, hv, hkey, rfl⟩
  record := by rw [Objects.record, hsts, Objects.record]
  seen := by rw [hseen]
  volumes := by rw [hvol]; exact .refl _ _

theorem Others.refl (key : NamespacedName) (s : Objects) : Others key s s := .of_eq rfl rfl rfl

theorem Others.trans {u : Objects} (h : Others key s t) (h' : Others key t u) : Others key s u where
  past v hv := h'.past v (h.past v hv)
  origin := by
    intro v hv hkey
    obtain ⟨v', hv', hkey', hrec⟩ := h'.origin v hv hkey
    obtain ⟨v'', hv'', hkey'', hrec'⟩ := h.origin v' hv' hkey'
    exact ⟨v'', hv'', hkey'', hrec'.trans hrec⟩
  record := h'.record.trans h.record
  seen := h'.seen.trans h.seen
  volumes := h.volumes.trans h'.volumes

theorem others_outside (key : NamespacedName) (s : Objects) (o : Outside) : Others key s (s.outside o) := by
  have hvol := swaps_outside (volumeKey key) s o
  have hseen : (s.outside o).seen key = s.seen key := by rw [outside_seen]
  rcases outside_statefulSets s o with hsts | ⟨k, status, hsts⟩
  · refine ⟨by rw [hsts]; exact fun _ h => h, by rw [hsts]; exact fun v hv hkey => ⟨v, hv, hkey, rfl⟩, ?_, hseen, hvol⟩
    rw [record, hsts, record]
  refine ⟨?_, ?_, ?_, hseen, hvol⟩
  · rw [hsts]
    exact fun _ hv => mem_past_modify _ _ _ hv
  · rw [hsts]
    intro v hv hkey
    rcases past_modify hv with hold | ⟨b, hb, rfl⟩
    · exact ⟨v, hold, hkey, rfl⟩
    · exact ⟨b, (past_of_get? hb).1, hkey, rfl⟩
  · rw [record, hsts, value?_modify, record]
    split
    · rw [Option.map_map]
      rfl
    · rfl

theorem Dead.others {uid : String} (h : Dead key s uid) (hused : uid ∈ s.volumes.used) (hst : Others key s t) : Dead key t uid := by
  intro w hw heq
  rcases hst.volumes.volume w hw with ⟨v, hv, huid, -⟩ | ⟨hnew, -⟩
  · exact h v hv (huid.symm.trans heq)
  · rw [heq] at hnew
    exact hnew hused

/-- What others do keeps the record tracked. -/
theorem Tracked.others (h : Tracked key s) (hst : Others key s t) : Tracked key t where
  used := by
    intro v hv hkey hne
    obtain ⟨v', hv', hkey', hrec⟩ := hst.origin v hv hkey
    rw [← hrec] at hne ⊢
    exact hst.volumes.used _ (h.used v' hv' hkey' hne)
  gone := by
    intro v hv hkey hne
    obtain ⟨v', hv', hkey', hrec⟩ := hst.origin v hv hkey
    rw [← hrec] at hne ⊢
    rw [hst.record]
    exact (h.gone v' hv' hkey' hne).imp_right fun hdead => hdead.others (h.used v' hv' hkey' hne) hst
  seen := by
    rw [hst.record, hst.seen]
    exact h.seen

/-! ## What a pass has to keep -/

def Met (key : NamespacedName) (s : Objects) (uid : String) : Prop :=
  uid ∈ s.volumes.used ∧ ∀ v ∈ s.statefulSets.past, v.val.key = key → v.val.recorded ≠ "" →
    v.val.recorded = uid ∨ (v.val.recorded ∈ s.volumes.used ∧ Dead key s v.val.recorded)

variable {v : Volume}

theorem Tracked.met (h : Tracked key s) (hv : s.volumes.get? (volumeKey key) = some v) : Met key s v.uid := by
  refine ⟨Volumes.uid_used hv, fun w hw hkey hne => ?_⟩
  by_cases heq : w.val.recorded = v.uid
  · exact .inl heq
  refine .inr ⟨h.used w hw hkey hne, fun v' hv' huid => heq ?_⟩
  rw [hv] at hv'
  cases hv'
  exact huid.symm

/-- A live volume that a version records is recorded now. -/
theorem Tracked.own (h : Tracked key s) (hv : s.volumes.get? (volumeKey key) = some v) {w : Stamped StatefulSet}
    (hw : w ∈ s.statefulSets.past) (hkey : w.val.key = key) (hrec : w.val.recorded = v.uid) : s.record key = some v.uid := by
  have hne : w.val.recorded ≠ "" := by
    intro hempty
    rw [hrec] at hempty
    exact s.volumes.used_ne (hempty ▸ Volumes.uid_used hv)
  rcases h.gone w hw hkey hne with hnow | hdead
  · rw [hnow, hrec]
  · exact absurd hrec.symm (hdead v hv)

theorem Met.others {uid : String} (h : Met key s uid) (hst : Others key s t) : Met key t uid := by
  refine ⟨hst.volumes.used _ h.1, fun v hv hkey hne => ?_⟩
  obtain ⟨v', hv', hkey', hrec⟩ := hst.origin v hv hkey
  rw [← hrec] at hne ⊢
  exact (h.2 v' hv' hkey' hne).imp_right fun ⟨hused, hdead⟩ => ⟨hst.volumes.used _ hused, hdead.others hused hst⟩

def OnRecord (key : NamespacedName) (past : List (Called Request.Resp)) (s : Objects) : Prop :=
  ∀ v, (⟨.getVolume (volumeKey key), .ok v⟩ : Called Request.Resp) ∈ past → ∀ uid, s.record key = some uid → uid ≠ "" → uid = v.uid

/-- An update rolls something out. -/
def Moves (new cur : StatefulSet) : Prop :=
  new.template ≠ cur.template ∨ new.replicas ≠ cur.replicas ∨
    valueOf new.annotations templateHashAnnotation ≠ valueOf cur.annotations templateHashAnnotation

def Keeps (svc : FrameService) (past : List (Called Request.Resp)) (s : Objects) : Request → Prop
  | .createStatefulSet sts => sts.key = svc.key ∧ sts.recorded = "" ∧ OnRecord svc.key past s
  | .updateStatefulSet sts => sts.val.key = svc.key ∧ s.seen svc.key ≠ none ∧
      ∃ base ∈ s.statefulSets.past, base.rev = sts.rev ∧ base.val.key = svc.key ∧
        (sts.val.recorded = base.val.recorded ∨ (Met svc.key s sts.val.recorded ∧
          (base.val.recorded ≠ "" → sts.val.recorded = valueOf svc.params "restoredVolumeUID"))) ∧
        (Moves sts.val base.val → OnRecord svc.key past s)
  | .patchVolume volume size => volume.key = volumeKey svc.key ∧ OnRecord svc.key past s ∧
      ∀ v, s.volumes.get? (volumeKey svc.key) = some v → v.resizable size = true → v.request.value ≤ size.value
  | _ => True

theorem get?_of_rev {sts base : Stamped StatefulSet} (hcur : s.statefulSets.Current sts) (hkey : sts.val.key = key)
    (hbase : base ∈ s.statefulSets.past) (hrev : base.rev = sts.rev) : s.statefulSets.get? key = some base := by
  obtain ⟨cur, hget, hcrev⟩ := hcur
  rw [hkey] at hget
  have heq := s.statefulSets.past_inj cur (past_of_get? hget).1 base hbase (hcrev.trans hrev.symm)
  rw [← heq]
  exact hget

variable {sts : Stamped StatefulSet}

theorem record_updated (hcur : s.statefulSets.Current sts) (hkey : sts.val.key = key) :
    (s.updated sts).record key = some sts.val.recorded := by
  subst hkey
  obtain ⟨cur, hget, -⟩ := hcur
  rw [record, updated, value?_modify, if_pos rfl, value?_of_get? hget]
  rfl

theorem past_updated {sts v : Stamped StatefulSet} (hv : v ∈ (s.updated sts).statefulSets.past) :
    v ∈ s.statefulSets.past ∨ v.val.recorded = sts.val.recorded := by
  rcases past_modify hv with hold | ⟨b, -, rfl⟩
  · exact .inl hold
  · exact .inr rfl

/-- An update of the pass keeps the record tracked. -/
theorem Tracked.updated (h : Tracked svc.key s) (hcur : s.statefulSets.Current sts)
    (hg : Keeps svc past s (.updateStatefulSet sts)) : Tracked svc.key (s.updated sts) := by
  obtain ⟨hkey, hseen, base, hbase, hrev, hbkey, hrec, -⟩ := hg
  have hget := get?_of_rev hcur hkey hbase hrev
  have hrecord := record_updated hcur hkey
  have hbrec : s.record svc.key = some base.val.recorded := by rw [record, value?_of_get? hget, Option.map_some]
  refine ⟨fun v hv hvkey hne => ?_, fun v hv hvkey hne => ?_, fun _ _ _ => hseen⟩
  · rcases past_updated hv with hold | hnew
    · exact h.used v hold hvkey hne
    · rw [hnew] at hne ⊢
      rcases hrec with hsame | ⟨hmet, -⟩
      · rw [hsame] at hne ⊢
        exact h.used base hbase hbkey hne
      · exact hmet.1
  · rcases past_updated hv with hold | hnew
    · rcases hrec with hsame | ⟨hmet, -⟩
      · rw [hrecord, hsame, ← hbrec]
        exact h.gone v hold hvkey hne
      · rcases hmet.2 v hold hvkey hne with heq | ⟨-, hdead⟩
        · exact .inl (by rw [hrecord, heq])
        · exact .inr hdead
    · exact .inl (by rw [hrecord, hnew])

/-- A create of the pass keeps the record tracked. -/
theorem Tracked.created (h : Tracked svc.key s) {sts : StatefulSet} (hfree : s.statefulSets.value? sts.key = none)
    (hg : Keeps svc past s (.createStatefulSet sts)) : Tracked svc.key (s.withStatefulSet sts) := by
  obtain ⟨hkey, hempty, -⟩ := hg
  have hrecord : (s.withStatefulSet sts).record svc.key = some "" := by
    rw [record, withStatefulSet, value?_create, if_pos ⟨hfree, hkey.symm⟩, Option.map_some, hempty]
  have hpast : ∀ v ∈ (s.statefulSets.create sts).past, v ∈ s.statefulSets.past ∨ v.val.recorded = "" := by
    intro v hv
    rcases past_create hv with hold | ⟨rfl, -⟩
    · exact .inl hold
    · exact .inr hempty
  refine ⟨fun v hv hvkey hne => ?_, fun v hv hvkey hne => ?_, fun uid huid hne => ?_⟩
  · rcases hpast v hv with hold | hnew
    · exact h.used v hold hvkey hne
    · exact absurd hnew hne
  · rcases hpast v hv with hold | hnew
    · rcases h.gone v hold hvkey hne with hnow | hdead
      · rw [record, ← hkey, hfree] at hnow
        cases hnow
      · exact .inr hdead
    · exact absurd hnew hne
  · rw [hrecord] at huid
    cases huid
    exact absurd rfl hne

variable {r : Request}

/-- Every call that keeps, keeps the record tracked. -/
theorem Tracked.changed (h : Tracked svc.key s) (hc : Changed s r t) (hg : Keeps svc past s r) : Tracked svc.key t := by
  cases hc with
  | nothing => exact h
  | @shown k v =>
    refine ⟨h.used, h.gone, fun uid huid hne => ?_⟩
    show (if svc.key = k then some v.rev else s.seen svc.key) ≠ none
    split
    · exact nofun
    · exact h.seen uid huid hne
  | created hfree => exact h.created hfree hg
  | updated hcur => exact h.updated hcur hg
  | resized =>
    refine ⟨h.used, fun v hv hvkey hne => (h.gone v hv hvkey hne).imp_right fun hdead w hw => ?_, h.seen⟩
    rw [resized, Volumes.get?_modify] at hw
    split at hw
    · obtain ⟨v', hv', rfl⟩ := Option.map_eq_some_iff.mp hw
      exact hdead v' hv'
    · exact hdead w hw
  | aside _ hsts hvol hseen => exact h.others (.of_eq hsts hvol hseen)

/-! ## Walking through a pass -/

abbrev queueDuties (svc : FrameService) : Duties Objects Answer Request.Resp :=
  ⟨Tracked svc.key, Others svc.key, fun _ _ _ => True, Keeps svc⟩

abbrev Keeping (svc : FrameService) {α : Type} (p : Prog α) (post : List (Called Request.Resp) → α → Objects → Prop)
    (past : List (Called Request.Resp)) (s : Objects) : Prop :=
  p.Honours Objects.exec (queueDuties svc) post past s

def Yields {α : Type} (J : α → List (Called Request.Resp) → Objects → Prop) (past : List (Called Request.Resp)) (r : Outcome α)
    (s : Objects) : Prop :=
  match r with
  | .ok (.go a) => J a past s
  | .ok (.stop result) => result.ready = false
  | .error _ => True

section Walk

variable {α β : Type} {J : α → List (Called Request.Resp) → Objects → Prop} {J' : β → List (Called Request.Resp) → Objects → Prop}

variable {post : List (Called Request.Resp) → α → Objects → Prop} {f : r.Resp → Prog α}

/-- One call of the pass, and what comes after it. -/
theorem keeping_ask
    (h : ∀ t, Tracked svc.key t → Others svc.key s t → Keeps svc past t r ∧ ∀ c, Tracked svc.key (t.exec r c).1 →
      Keeping svc (f (t.exec r c).2) post (past ++ [⟨r, (t.exec r c).2⟩]) (t.exec r c).1) :
    Keeping svc (Program.ask r >>= f) post past s :=
  honours_ask (fun _ t c ht hg _ => ht.changed (exec_changed t r c) hg) fun t ht hst =>
    ⟨(h t ht hst).1, fun c _ hinv => (h t ht hst).2 c hinv⟩

/-- A step that may end the pass, and the next. -/
theorem keeping_andThen {p : Prog (Outcome α)} {f : α → Prog (Outcome β)}
    (h : Keeping svc p (Yields J) past s) (hs : Tracked svc.key s)
    (hf : ∀ a later t, Tracked svc.key t → J a later t → Keeping svc (f a) (Yields J') later t) :
    Keeping svc (andThen p f) (Yields J') past s := by
  refine Program.Honours.bind h hs fun later r t ht hr => ?_
  match r, hr with
  | .error e, _ => trivial
  | .ok (.stop result), hr => exact hr
  | .ok (.go a), hr => exact hf a later t ht hr

structure Lasting (key : NamespacedName) (K : List (Called Request.Resp) → Objects → Prop) : Prop where
  others : ∀ {past s t}, K past s → Others key s t → K past t
  more : ∀ {past s c}, K past s → Aside c.1 → K (past ++ [c]) s

variable {K : List (Called Request.Resp) → Objects → Prop}

/-- A call aside from the volume keeps what lasts. -/
theorem aside_ask (hK : Lasting svc.key K) (hr : Aside r) (hs : K past s)
    (hf : ∀ a later t, Tracked svc.key t → K later t → Keeping svc (f a) post later t) :
    Keeping svc (Program.ask r >>= f) post past s := by
  refine keeping_ask fun t _ hst => ⟨?_, fun c hinv => hf _ _ _ hinv ?_⟩
  · cases r <;> trivial
  · have hsame : Others svc.key t (t.exec r c).1 := by
      have hc := exec_changed t r c
      generalize (t.exec r c).1 = u at hc
      cases hc with
      | nothing => exact .refl _ _
      | aside _ hsts hvol hseen => exact .of_eq hsts hvol hseen
      | shown | created | updated | resized => exact absurd hr id
    exact hK.others (hK.others (hK.more hs hr) hst) hsame

section

variable (hK : Lasting svc.key K)
include hK

theorem findService_keeps (hs : K past s) :
    Keeping svc (findOwned (Program.ask (Request.getService svc.key)) (fun service => service.controller) svc "Service")
      (Yields fun _ => K) past s := by
  unfold findOwned
  refine aside_ask hK trivial hs fun a later t _ ht => ?_
  cases a with
  | error e =>
    simp only
    split
    · exact ht
    · trivial
  | ok service =>
    simp only
    split
    · rfl
    · exact ht

theorem completeAuth_keeps (hs : K past s) (secret : Stamped AuthSecret) (password salt : Bytes) :
    Keeping svc (completeAuth env svc secret password salt) (Yields fun _ => K) past s := by
  unfold completeAuth
  refine aside_ask hK trivial hs fun a later t _ ht => ?_
  cases a with
  | ok => exact ht
  | error e =>
    simp only
    split
    · rfl
    · trivial

theorem createAuth_keeps (hs : K past s) : Keeping svc (createAuth env svc) (Yields fun _ => K) past s := by
  unfold createAuth
  refine aside_ask hK trivial hs fun raw later t _ ht => ?_
  cases raw with
  | error e => trivial
  | ok raw =>
    refine aside_ask hK trivial ht fun salt later t _ ht => ?_
    cases salt with
    | error e => trivial
    | ok salt =>
      refine aside_ask hK trivial ht fun a later t _ ht => ?_
      cases a with
      | ok => exact ht
      | error e =>
        simp only
        split
        · rfl
        · trivial

theorem ensureAuth_keeps (hs : K past s) : Keeping svc (ensureAuth env svc) (Yields fun _ => K) past s := by
  unfold ensureAuth
  refine aside_ask hK trivial hs fun a later t _ ht => ?_
  cases a with
  | error e =>
    simp only
    split
    · rfl
    split
    · trivial
    · exact createAuth_keeps hK ht
  | ok secret =>
    simp only
    split
    · rfl
    split
    · rfl
    split
    · refine aside_ask hK trivial ht fun fresh later t _ ht => ?_
      cases fresh with
      | error e => trivial
      | ok fresh => exact completeAuth_keeps hK ht _ _ _
    · split
      · exact completeAuth_keeps hK ht _ _ _
      · exact ht

theorem ensureService_keeps (hs : K past s) (found : Bool) :
    Keeping svc (ensureService svc found) (Yields fun _ => K) past s := by
  unfold ensureService
  split
  · exact hs
  refine aside_ask hK trivial hs fun a later t _ ht => ?_
  cases a with
  | ok => exact ht
  | error e => trivial

end

end Walk

/-! ## What a pass knows -/

def Found (key : NamespacedName) (sts : Option (Stamped StatefulSet)) (s : Objects) : Prop :=
  match sts with
  | none => ∀ uid, s.record key = some uid → uid = ""
  | some copy => copy ∈ s.statefulSets.past ∧ copy.val.key = key ∧ s.seen key ≠ none

theorem Found.others {sts : Option (Stamped StatefulSet)} (h : Found key sts s) (hst : Others key s t) : Found key sts t := by
  cases sts with
  | none =>
    intro uid huid
    rw [hst.record] at huid
    exact h uid huid
  | some copy => exact ⟨hst.past _ h.1, h.2.1, by rw [hst.seen]; exact h.2.2⟩

def Reads (key : NamespacedName) (past : List (Called Request.Resp)) (volume : Option Volume) : Prop :=
  ∀ v, (⟨.getVolume (volumeKey key), .ok v⟩ : Called Request.Resp) ∈ past ↔ volume = some v

variable {c : Called Request.Resp} {volume : Option Volume}

theorem Reads.more (h : Reads key past volume) (hc : ∀ k, c.1 ≠ .getVolume k) :
    Reads key (past ++ [c]) volume := by
  intro v
  rw [List.mem_append, List.mem_singleton, h v, or_iff_left]
  rintro rfl
  exact hc _ rfl

theorem Reads.aside (h : Reads key past volume) (hc : Aside c.1) :
    Reads key (past ++ [c]) volume :=
  h.more fun k hk => by rw [hk] at hc; exact hc

structure Sized (env : Env) (svc : FrameService) (v : Volume) (s : Objects) : Prop where
  key : v.key = volumeKey svc.key
  fits : ∀ want, Postgres.mustParse env.parseQuantity (valueOf svc.params "volumeSize") = .ok want → v.request.value ≤ want
  volume : ∀ w, s.volumes.get? (volumeKey svc.key) = some w → w.request = v.request ∨ Fitted w

theorem Sized.others (h : Sized env svc v s) (hst : Others svc.key s t) : Sized env svc v t := by
  refine ⟨h.key, h.fits, fun w hw => ?_⟩
  rcases hst.volumes.volume w hw with ⟨w', hw', -, hreq, hfit⟩ | ⟨-, hfit⟩
  · rw [hreq]
    exact (h.volume w' hw').imp_right hfit
  · exact .inr hfit

/-- The volume may be recorded, and a version that names it is right about the record. -/
structure Learnt (env : Env) (svc : FrameService) (sts : Option (Stamped StatefulSet)) (volume : Option Volume)
    (past : List (Called Request.Resp)) (s : Objects) : Prop where
  found : Found svc.key sts s
  reads : Reads svc.key past volume
  sized : ∀ v, volume = some v → Sized env svc v s
  met : ∀ v, volume = some v → Met svc.key s v.uid
  own : ∀ v, volume = some v → ∀ w ∈ s.statefulSets.past, w.val.key = svc.key → w.val.recorded = v.uid → s.record svc.key = some v.uid
  endpoint : volume = none → svc.status.binding.endpoint = ""

/-- What a pass knows once the volume is the StatefulSet's: its UID is recorded. -/
structure Settled (env : Env) (svc : FrameService) (sts : Option (Stamped StatefulSet)) (volume : Option Volume)
    (past : List (Called Request.Resp)) (s : Objects) : Prop where
  found : Found svc.key sts s
  reads : Reads svc.key past volume
  sized : ∀ v, volume = some v → Sized env svc v s
  recorded : ∀ v copy, volume = some v → sts = some copy → s.record svc.key = some v.uid
  endpoint : volume = none → svc.status.binding.endpoint = ""

section Know

variable {sts : Option (Stamped StatefulSet)} {volume : Option Volume}

theorem lasting_settled : Lasting svc.key (Settled env svc sts volume) where
  others h hst := ⟨h.found.others hst, h.reads, fun v hv => (h.sized v hv).others hst,
    fun v copy hv hc => by rw [hst.record]; exact h.recorded v copy hv hc, h.endpoint⟩
  more h hc := ⟨h.found, h.reads.aside hc, h.sized, h.recorded, h.endpoint⟩

theorem Settled.others (h : Settled env svc sts volume past s) (hst : Others svc.key s t) : Settled env svc sts volume past t :=
  lasting_settled.others h hst

theorem Settled.onRecord (h : Settled env svc sts volume past s) : OnRecord svc.key past s := by
  intro v hv uid huid hne
  have hvol := (h.reads v).mp hv
  cases sts with
  | none => exact absurd (h.found uid huid) hne
  | some copy =>
    rw [h.recorded v copy hvol rfl] at huid
    cases huid
    rfl

theorem findStatefulSet_keeps (s : Objects) :
    Keeping svc (findOwned (Program.ask (Request.getStatefulSet svc.key)) (fun sts => sts.val.controller) svc "StatefulSet")
      (Yields fun sts past s => Found svc.key sts s ∧ Reads svc.key past none) [] s := by
  have hreads : ∀ a, Reads svc.key ([] ++ [⟨Request.getStatefulSet svc.key, a⟩]) none := fun a =>
    Reads.more (fun v => ⟨fun h => (by cases h), fun h => (by cases h)⟩) nofun
  unfold findOwned
  refine keeping_ask fun t ht _ => ⟨trivial, fun c _ => ?_⟩
  cases ha : (t.exec (.getStatefulSet svc.key) c).2 with
  | error e =>
    simp only
    split
    · rename_i he
      subst he
      obtain ⟨hnone, hstate⟩ := exec_getStatefulSet_gone ha
      rw [hstate]
      refine ⟨fun uid huid => ?_, hreads _⟩
      by_contra hne
      rcases hnone with hnone | hunseen
      · rw [record, hnone] at huid
        cases huid
      · exact ht.seen uid huid hne hunseen
    · trivial
  | ok copy =>
    obtain ⟨hshown, hstate⟩ := exec_getStatefulSet_ok ha
    obtain ⟨hpast, hkey⟩ := shown_past hshown
    simp only
    split
    · rfl
    · rw [hstate]
      exact ⟨⟨hpast, hkey, by simp [sees]⟩, hreads _⟩

theorem checkVolume_keeps (hf : Found svc.key sts s) (hr : Reads svc.key past none) :
    Keeping svc (checkVolume env svc svc.params) (Yields fun volume => Learnt env svc sts volume) past s := by
  unfold checkVolume
  refine keeping_ask fun t ht hst => ⟨trivial, fun c _ => ?_⟩
  have hft := hf.others hst
  rw [exec_getVolume_state]
  cases ha : (t.exec (.getVolume (volumeKey svc.key)) c).2 with
  | error e =>
    have hreads : Reads svc.key (past ++ [⟨.getVolume (volumeKey svc.key), .error e⟩]) none := by
      intro v
      rw [List.mem_append, List.mem_singleton, hr v, or_iff_left]
      intro heq
      cases heq
    simp only
    split
    · split
      · rfl
      · rename_i hend
        exact ⟨hft, hreads, fun _ hv => (by cases hv), fun _ hv => (by cases hv), fun _ hv => (by cases hv), fun _ => not_not.mp hend⟩
    · trivial
  | ok pvc =>
    have hlive := exec_getVolume ha
    have hreads : Reads svc.key (past ++ [⟨.getVolume (volumeKey svc.key), .ok pvc⟩]) (some pvc) := by
      intro v
      rw [List.mem_append, List.mem_singleton, hr v, or_iff_right nofun]
      constructor
      · intro heq
        cases heq
        rfl
      · intro heq
        cases heq
        rfl
    simp only
    split
    · rfl
    split
    · rfl
    split
    · trivial
    rename_i want hwant
    split
    · rfl
    rename_i hle
    have hsized : Sized env svc pvc t := by
      refine ⟨Keyed.key_of_get? hlive, fun want' hwant' => ?_, fun w hw => .inl ?_⟩
      · rw [hwant] at hwant'
        cases hwant'
        omega
      · rw [hlive] at hw
        cases hw
        rfl
    refine ⟨hft, hreads, fun v hv => ?_, fun v hv => ?_, fun v hv w hw hkey hrec => ?_, nofun⟩ <;> cases hv
    · exact hsized
    · exact ht.met hlive
    · exact ht.own hlive hw hkey hrec

theorem recorded_copySet (sts : StatefulSet) (uid : String) :
    ({ sts with annotations := sts.annotations.copySet volumeUIDAnnotation uid } : StatefulSet).recorded = uid := by
  rw [StatefulSet.recorded, valueOf, GoMap.get?_copySet]
  rfl

theorem valueOf_copySet_ne (m : GoMap String String) {k k' : String} (h : k' ≠ k) (v : String) :
    valueOf (m.copySet k v) k' = valueOf m k' := by
  unfold valueOf GoMap.copySet GoMap.get?
  rw [show (GoMap.entries (some (m.entries.insert k v))).lookup k' = (m.entries.insert k v).lookup k' from rfl,
    Finmap.lookup_insert_of_ne _ h]

variable {copy : Stamped StatefulSet}

theorem checkVolumeIdentity_keeps (h : Learnt env svc (some copy) (some v) past s) :
    Keeping svc (checkVolumeIdentity copy v svc.params) (Yields fun sts => Settled env svc (some sts) (some v)) past s := by
  obtain ⟨hpast, hkey, hseen⟩ := h.found
  unfold checkVolumeIdentity
  split
  · rename_i hrec
    refine ⟨h.found, h.reads, h.sized, fun w copy' hw _ => ?_, nofun⟩
    cases hw
    exact h.own v rfl copy hpast hkey hrec
  · split
    · rfl
    · rename_i hother hrestored
      have hparam : copy.val.recorded ≠ "" → v.uid = valueOf svc.params "restoredVolumeUID" := by
        intro hne
        simp only [Bool.and_eq_true, decide_eq_true_eq, not_and, not_not] at hrestored
        exact (hrestored hne).symm
      have hrecorded := recorded_copySet copy.val v.uid
      have hhash : valueOf (copy.val.annotations.copySet volumeUIDAnnotation v.uid) templateHashAnnotation =
          valueOf copy.val.annotations templateHashAnnotation := valueOf_copySet_ne _ (by decide) _
      simp only
      generalize hrecording : ({ copy.val with annotations := copy.val.annotations.copySet volumeUIDAnnotation v.uid } : StatefulSet) =
        recording at hrecorded
      have hrkey : recording.key = svc.key := by rw [← hrecording]; exact hkey
      -- the template stays as it is
      have hstill : ¬Moves recording copy.val := by
        rw [← hrecording]
        rintro (hmoved | hmoved | hmoved)
        · exact hmoved rfl
        · exact hmoved rfl
        · exact hmoved hhash
      refine keeping_ask fun t ht hst => ⟨⟨hrkey, by rw [hst.seen]; exact hseen, copy, hst.past _ hpast, rfl, hkey,
        .inr ⟨?_, ?_⟩, fun hmoved => absurd hmoved hstill⟩, fun c _ => ?_⟩
      · rw [hrecorded]
        exact (h.met v rfl).others hst
      · rw [hrecorded]
        exact hparam
      · cases ha : (t.exec (.updateStatefulSet ⟨copy.rev, recording⟩) c).2 with
        | error e => trivial
        | ok sts' =>
          obtain ⟨hcur, hstate, hget⟩ := exec_updateStatefulSet_ok ha
          obtain ⟨hpast', hkey'⟩ := past_of_get? hget
          have hsized := (h.sized v rfl).others hst
          have hseen' : t.seen svc.key ≠ none := by rw [hst.seen]; exact hseen
          rw [hstate]
          refine ⟨⟨hpast', hkey'.trans hrkey, hseen'⟩, h.reads.more nofun, fun w hw => ?_, fun w copy' hw _ => ?_, nofun⟩ <;> cases hw
          · exact ⟨hsized.key, hsized.fits, hsized.volume⟩
          · rw [record_updated hcur hrkey, hrecorded]

theorem identify_keeps (hs : Tracked svc.key s) (h : Learnt env svc sts volume past s) :
    Keeping svc (identify sts volume svc.params) (Yields fun sts => Settled env svc sts volume) past s := by
  cases volume with
  | none =>
    have hdone : Settled env svc sts none past s := ⟨h.found, h.reads, h.sized, fun _ _ hv => (by cases hv), h.endpoint⟩
    exact hdone
  | some v =>
    cases sts with
    | none =>
      have hdone : Settled env svc none (some v) past s := ⟨h.found, h.reads, h.sized, fun _ _ _ hc => (by cases hc), h.endpoint⟩
      exact hdone
    | some copy => exact keeping_andThen (checkVolumeIdentity_keeps h) hs fun _ _ _ _ hr => hr

theorem Sized.grows (h : Sized env svc v s) {want : Int} {text : String}
    (hwant : Postgres.mustParse env.parseQuantity (valueOf svc.params "volumeSize") = .ok want) {w : Volume}
    (hw : s.volumes.get? (volumeKey svc.key) = some w) (hsize : w.resizable ⟨want, text⟩ = true) : w.request.value ≤ want := by
  rcases h.volume w hw with hsame | hfit
  · rw [hsame]
    exact h.fits want hwant
  simp only [Volume.resizable, Bool.and_eq_true, Bool.or_eq_true, decide_eq_true_eq] at hsize
  rcases hsize.2 with hmore | henough
  · exact hmore
  · exact (hfit hsize.1).trans henough

theorem growVolume_keeps (h : Settled env svc sts (some v) past s) :
    Keeping svc (growVolume env v (valueOf svc.params "volumeSize")) (Yields fun _ => Settled env svc sts (some v)) past s := by
  unfold growVolume
  split
  · trivial
  rename_i want hwant
  split
  · exact h
  refine keeping_ask fun t _ hst => ⟨?_, fun c _ => ?_⟩
  · have ht := h.others hst
    exact ⟨(ht.sized v rfl).key, ht.onRecord, fun w hw hsize => (ht.sized v rfl).grows hwant hw hsize⟩
  · generalize (t.exec _ c).2 = answer
    cases answer with
    | ok => rfl
    | error e =>
      simp only
      split
      · rfl
      · trivial

/-! ## The pass -/

def Serves (svc : FrameService) (result : Result) (past : List (Called Request.Resp)) (s : Objects) : Prop :=
  result.ready = true → svc.status.binding.endpoint ≠ "" →
    ∃ v, (⟨.getVolume (volumeKey svc.key), .ok v⟩ : Called Request.Resp) ∈ past ∧ s.record svc.key = some v.uid

theorem serves_degraded (reason message : String) : Serves svc (degraded reason message) past s := nofun

theorem createStatefulSet_keeps (h : Settled env svc sts volume past s) (template : Template) (hash : String) :
    Keeping svc (createStatefulSet env svc svc.params template hash) (Yields (Serves svc)) past s := by
  unfold createStatefulSet
  simp only
  split
  · trivial
  refine keeping_ask fun t _ hst => ⟨⟨rfl, ?_, ?_⟩, fun c _ => ?_⟩
  · rw [StatefulSet.recorded, valueOf_copySet_ne _ (by decide), valueOf_copySet_ne _ (by decide)]
    rfl
  · exact (h.others hst).onRecord
  · generalize (t.exec _ c).2 = answer
    cases answer with
    | error e => trivial
    | ok => exact serves_degraded _ _

theorem rollOut_keeps (h : Settled env svc (some copy) volume past s) (template : Template) (hash : String) :
    Keeping svc (rollOut copy svc svc.params template hash) (Yields (Serves svc)) past s := by
  obtain ⟨hpast, hkey, hseen⟩ := h.found
  unfold rollOut
  split
  · intro _ hend
    cases volume with
    | none => exact absurd (h.endpoint rfl) hend
    | some v => exact ⟨v, (h.reads v).mpr rfl, h.recorded v copy rfl rfl⟩
  · refine keeping_ask fun t _ hst => ⟨⟨hkey, by rw [hst.seen]; exact hseen, copy, hst.past _ hpast, rfl, hkey, .inl ?_, fun _ => ?_⟩,
      fun c _ => ?_⟩
    · exact valueOf_copySet_ne _ (by decide) _
    · exact (h.others hst).onRecord
    · generalize (t.exec _ c).2 = answer
      cases answer with
      | error e => trivial
      | ok => exact serves_degraded _ _

/-- Provisioning keeps the volume, as read so far. -/
theorem provision_keeps (hs : Tracked svc.key s) (h : Settled env svc sts volume past s)
    (sizing : V1beta1.Sizing) (serviceExists : Bool) :
    Keeping svc (provision env svc svc.params sizing sts serviceExists volume) (Yields (Serves svc)) past s := by
  unfold provision
  refine keeping_andThen (ensureAuth_keeps lasting_settled h) hs fun digest later t ht h => ?_
  refine keeping_andThen (ensureService_keeps lasting_settled h serviceExists) ht fun _ later t ht h => ?_
  refine keeping_andThen (J := fun _ => Settled env svc sts volume) ?_ ht fun _ later t _ h => ?_
  · cases volume with
    | none => exact h
    | some v => exact growVolume_keeps h
  · split
    · trivial
    · split
      · trivial
      · cases sts with
        | none => exact createStatefulSet_keeps h _ _
        | some copy => exact rollOut_keeps h _ _

theorem lasting_found : Lasting svc.key fun past s => Found svc.key sts s ∧ Reads svc.key past none where
  others h hst := ⟨h.1.others hst, h.2⟩
  more h hc := ⟨h.1, h.2.aside hc⟩

theorem converge_keeps (hqueue : valueOf svc.params "profile" = profileQueue) (hs : Tracked svc.key s) :
    Keeping svc (converge env svc) (Yields (Serves svc)) [] s := by
  unfold converge
  split
  · rfl
  split
  · trivial
  refine keeping_andThen (findStatefulSet_keeps s) hs fun sts later t ht h => ?_
  have hdrift : Keeping svc (return checkDrift sts svc.params)
      (Yields fun _ past s => Found svc.key sts s ∧ Reads svc.key past none) later t := by
    unfold checkDrift
    split
    · split
      · rfl
      · exact h
    · exact h
  refine keeping_andThen hdrift ht fun _ later t ht h => ?_
  refine keeping_andThen (findService_keeps lasting_found h) ht fun service later t ht h => ?_
  have hvolume : Keeping svc (findVolume env svc svc.params) (Yields fun volume => Learnt env svc sts volume) later t := by
    rw [findVolume, if_pos hqueue]
    exact checkVolume_keeps h.1 h.2
  refine keeping_andThen hvolume ht fun volume later t ht h => ?_
  exact keeping_andThen (identify_keeps ht h) ht fun sts later t ht h => provision_keeps ht h _ _

theorem reconcile_keeps (hqueue : valueOf svc.params "profile" = profileQueue) (hs : Tracked svc.key s) :
    Keeping svc (reconcile env svc) (fun past a s => ∀ result, a = .ok result → Serves svc result past s) [] s := by
  unfold reconcile
  refine (converge_keeps hqueue hs).bind hs fun later r t _ hr => ?_
  match r, hr with
  | .ok (.stop result), hr =>
    intro _ heq hready
    cases heq
    rw [show result.ready = false from hr] at hready
    cases hready
  | .ok (.go result), hr =>
    intro _ heq
    cases heq
    exact hr
  | .error e, _ =>
    simp only
    split
    · intro _ heq
      cases heq
      exact serves_degraded _ _
    · exact nofun

end Know

end Cache

end FrameOperator.Services
