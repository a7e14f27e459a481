import FrameOperator.Lemmas.ServiceAgree
import FrameOperator.Lemmas.ServiceQuiet
import FrameOperator.Theorems.StaysOwned

/-!
# The data of a Postgres FrameService

A cluster is created only for a FrameService that never published an endpoint, where neither a cluster nor a data volume is left,
and a cluster that exists is only moved. The provider's guards read the status, so the guarantee is about provider and controller
together.
-/

namespace FrameOperator.Services

open List Api
open V1beta1 (FrameServiceStatus)

namespace Postgres

open Versioned

variable {parseQuantity : String → Except String Int} {key : NamespacedName} {s t : Cluster} {svc : FrameService}

/-! ## What a pass has read before it writes -/

def Named : (r : Call Request) → Call.Resp Request.Resp r → Prop
  | .own (.getService key _), a => ∀ v, a = .ok v → v.val.key = key
  | _, _ => True

/-- A pass has been answered so. -/
def Asked (past : List (Called (Call.Resp Request.Resp))) (r : Call Request) (a : Call.Resp Request.Resp r) : Prop := ⟨r, a⟩ ∈ past

/-- A cluster is created by a pass that found none, and no volume of it; a spec is patched by a pass that owns the cluster. -/
def Justifies (key : NamespacedName) (past : List (Called (Call.Resp Request.Resp))) : Call Request → Prop
  | .side (.create o) => o.kind = .cluster → ∃ v : Stamped FrameService, Asked past (.own (.getService key false)) (.ok v) ∧
      valueOf v.val.params "create" = "true" ∧ valueOf v.val.params "adoptUID" = "" ∧ v.val.status.binding.endpoint = "" ∧
      Asked past (.side (.get .cluster key)) (.error .notFound) ∧ Asked past (.side (.getVolume (dataVolume key))) (.error .notFound)
  | .side (.patch .cluster _ body) => body.spec ≠ none → ∃ (v : Stamped FrameService) (st : Settings) (cr : Object),
      Asked past (.own (.getService key false)) (.ok v) ∧ settingsOf v.val = some st ∧
      Asked past (.side (.get .cluster key)) (.ok cr) ∧ isOwned cr v.val st = true ∧ driftOf cr st = []
  | _ => True

variable {before : List (Called (Call.Resp Request.Resp))} {v : Stamped FrameService}

theorem justifies_of_grounded
    (hv : Asked before (.own (.getService key false)) (.ok v)) (hkey : v.val.key = key)
    (calls : List (Called Request.Resp)) (r : Request)
    (h : Grounded v.val calls r) : Justifies key (before ++ calls.map ofSide) (.side r) := by
  have hside : ∀ (q : Request) (a : q.Resp), (⟨q, a⟩ : Called Request.Resp) ∈ calls → Asked (before ++ calls.map ofSide) (.side q) a :=
    fun q a hmem => mem_append_right _ (mem_map.mpr ⟨⟨q, a⟩, hmem, rfl⟩)
  cases r with
  | create o =>
    intro ho
    obtain ⟨hcreate, hadopt, hend, hgone, hvol⟩ := h ho
    rw [hkey] at hgone hvol
    exact ⟨v, mem_append_left _ hv, hcreate, hadopt, hend, hside _ _ hgone, hside _ _ hvol⟩
  | patch kind k body =>
    cases kind with
    | bucket => trivial
    | cluster =>
      intro hspec
      obtain ⟨st, cr, hst, hread, howned, hdrift⟩ := h hspec
      rw [hkey] at hread
      exact ⟨v, st, cr, mem_append_left _ hv, hst, hside _ _ hread, howned, hdrift⟩
  | get | getVolume | getCredentials => trivial

theorem justifies_quiet (past : List (Called (Call.Resp Request.Resp))) (r : Call Request) (h : ∀ r', r ≠ .side r') :
    Justifies key past r := by
  cases r with
  | own | drop => trivial
  | side r => exact absurd rfl (h r)

theorem size_grounded (svc : FrameService) (params : GoMap String String) : WellGrounded svc (size params) [] := by
  unfold size
  split
  · trivial
  split
  · trivial
  · split <;> trivial

theorem bind_grounded (svc : FrameService) : WellGrounded svc (bind svc) [] := by
  unfold bind
  split
  · trivial
  simp only
  split
  · trivial
  refine traced_ask trivial fun a _ => ?_
  cases a with
  | error e =>
    simp only
    split <;> trivial
  | ok data => trivial

theorem registry_get {isDNS1123Label : String → List String} {type : String} {p : Provisioner Request.Resp}
    (h : (manager parseQuantity isDNS1123Label).registry.get type = .ok (.provisions p)) : p = provisioner parseQuantity := by
  unfold manager Registry.get at h
  split at h
  · rename_i entry hfind
    have hmem := mem_of_find?_eq_some hfind
    obtain rfl := mem_singleton.mp hmem
    cases h
    rfl
  · cases h

/-- The provider's calls are justified. -/
theorem side_justified
    (hv : Asked before (.own (.getService key false)) (.ok v)) (hkey : v.val.key = key) {α : Type} {p : Prog α}
    (h : WellGrounded v.val p []) : (Services.Prog.side p).Traced Named (Justifies key) (fun _ _ => True) before := by
  have hside : (Services.Prog.side p).Traced Named (Justifies key) (fun _ _ => True)
      (before ++ ([] : List (Called Request.Resp)).map ofSide) :=
    traced_side (justifies_of_grounded hv hkey) h
  simpa using hside

theorem pass_justified (isDNS1123Label : String → List String) (key : NamespacedName) :
    (Services.reconcile (manager parseQuantity isDNS1123Label) key).Traced Named (Justifies key) (fun _ _ => True) [] := by
  unfold Services.reconcile
  refine traced_ask trivial fun a ha => ?_
  cases a with
  | error e =>
    simp only
    split <;> trivial
  | ok v =>
    have hkey : v.val.key = key := ha v rfl
    have hv : Asked ([] ++ [⟨.own (.getService key false), .ok v⟩]) (.own (.getService key false)) (.ok v) := mem_singleton.mpr rfl
    simp only
    split
    · exact (reconcileDelete_quiet v).traced justifies_quiet _
    split
    · unfold reconcileInstance
      split
      · exact (finish_quiet ..).traced justifies_quiet _
      · exact (finish_quiet ..).traced justifies_quiet _
      rename_i p hget
      obtain rfl := registry_get hget
      refine (side_justified hv hkey (size_grounded v.val _)).bind fun r later hl _ => ?_
      match r with
      | .error (.unread e) => trivial
      | .error (.refused e) => exact (finish_quiet ..).traced justifies_quiet _
      | .ok sizing =>
        unfold reconcileSized
        refine (side_justified (hl.subset hv) hkey (reconcile_grounded parseQuantity v.val)).bind fun r later' hl' _ => ?_
        cases r with
        | error e => trivial
        | ok result =>
          simp only
          split
          · exact (finish_quiet ..).traced justifies_quiet _
          refine (side_justified (hl'.subset (hl.subset hv)) hkey (bind_grounded v.val)).bind fun r _ _ _ => ?_
          match r with
          | .error (.forbidden e) => exact (finish_quiet ..).traced justifies_quiet _
          | .error (.failed e) => trivial
          | .ok binding => exact (reconcileReady_quiet ..).traced justifies_quiet _
    · refine traced_ask trivial fun b _ => ?_
      cases b <;> trivial

/-! ## What the status keeps -/

/-- What is being deleted or had an endpoint has a finalizer, and none lists an object. -/
structure Records (s : Cluster) : Prop where
  finalized : Finalized s
  uids : ∀ v ∈ s.services.past, v.val.uid < s.nextUid
  served : ∀ v ∈ s.services.past, v.val.status.binding.endpoint ≠ "" → ∀ svc, s.services.value? v.val.key = some svc →
    svc.uid = v.val.uid → svc.status.binding.endpoint ≠ ""
  lists : ∀ v ∈ s.services.past, v.val.status.provisioned = none

theorem records_of_empty (h : s.services.past = []) : Records s where
  finalized k svc hsvc _ := by
    obtain ⟨_, hv⟩ := value?_eq_some hsvc
    have hmem := (past_of_get? hv).1
    rw [h] at hmem
    cases hmem
  uids v hv := by rw [h] at hv; cases hv
  served v hv := by rw [h] at hv; cases hv
  lists v hv := by rw [h] at hv; cases hv

theorem Records.repeated (h : Records s) (hfin : Finalized t) (huids : s.nextUid ≤ t.nextUid)
    (hpast : ∀ v ∈ t.services.past, (∃ v' ∈ s.services.past, v'.val.key = v.val.key ∧ v'.val.uid = v.val.uid ∧
      v'.val.status = v.val.status) ∨ (v.val.status = {} ∧ v.val.uid < t.nextUid))
    (hlive : ∀ k svc, t.services.value? k = some svc →
      (∃ svc', s.services.value? k = some svc' ∧ svc'.status = svc.status ∧ svc'.uid = svc.uid) ∨ s.nextUid ≤ svc.uid) :
        Records t where
  finalized := hfin
  uids v hv := by
    rcases hpast v hv with ⟨v', hv', -, huid, -⟩ | ⟨-, huid⟩
    · rw [← huid]
      exact (h.uids v' hv').trans_le huids
    · exact huid
  served v hv hend svc hsvc huid := by
    rcases hpast v hv with ⟨v', hv', hkey, huid', hst⟩ | ⟨hst, -⟩
    · rcases hlive v.val.key svc hsvc with ⟨svc', hsvc', hst', huid''⟩ | hnew
      · rw [← hst']
        refine h.served v' hv' (by rwa [hst]) svc' (by rwa [hkey]) ?_
        rw [huid'', huid, huid']
      · have hold := h.uids v' hv'
        omega
    · rw [hst] at hend
      exact absurd rfl hend
  lists v hv := by
    rcases hpast v hv with ⟨v', hv', -, -, hst⟩ | ⟨hst, -⟩
    · rw [← hst]
      exact h.lists v' hv'
    · rw [hst]

theorem Records.outside (h : Records s) (o : Services.Outside) : Records (s.outside o) := by
  have hsteady : Steady ⟨"", ""⟩ s (s.outside o) := steady_outside s o
  refine h.repeated (h.finalized.outside o) hsteady.uids (fun v hv => ?_) fun k svc hsvc => ?_
  · rcases outside_versions s o hv with hold | ⟨hst, huid, hnext⟩
    · exact .inl hold
    · exact .inr ⟨hst, by omega⟩
  · rcases hsteady.origin k svc hsvc with hold | ⟨-, hnew⟩
    · exact .inl hold
    · exact .inr hnew

def Publishes (key : NamespacedName) (s : Cluster) : Services.Request → Prop
  | .updateStatus base status => base.val.key = key ∧ status.provisioned = none ∧
      (Live s base → ∀ cur, s.services.value? key = some cur → cur.status.binding.endpoint ≠ "" → status.binding.endpoint ≠ "")
  | _ => True

theorem Records.stated (h : Records s) {base : Stamped FrameService} {status : FrameServiceStatus} (hlive : Live s base)
    (hg : Publishes key s (.updateStatus base status)) : Records (s.withStatus base.val.key status) := by
  obtain ⟨rfl, hlist, hkeep⟩ := hg
  have hnew : ∀ v ∈ (s.withStatus base.val.key status).services.past, v ∈ s.services.past ∨
      ∃ b ∈ s.services.past, v.val.uid = b.val.uid ∧ v.val.status = status ∧ v.val.key = base.val.key := by
    intro v hv
    rcases past_modify hv with hold | ⟨b, hb, rfl⟩
    · exact .inl hold
    · exact .inr ⟨b, (past_of_get? hb).1, rfl, rfl, (past_of_get? hb).2⟩
  refine ⟨h.finalized.changed (.stated hlive), fun v hv => ?_, fun v hv hend svc hsvc huid => ?_, fun v hv => ?_⟩
  · rcases hnew v hv with hold | ⟨b, hb, huid, -⟩
    · exact h.uids v hold
    · rw [huid]
      exact h.uids b hb
  · rw [Cluster.value?_withStatus] at hsvc
    rcases hnew v hv with hold | ⟨b, hb, -, hst, hkey⟩
    · split at hsvc
      · rename_i hkey
        obtain ⟨old, holdlive, rfl⟩ := Option.map_eq_some_iff.mp hsvc
        refine hkeep hlive old (by rwa [← hkey]) ?_
        exact h.served v hold hend old holdlive huid
      · exact h.served v hold hend svc hsvc huid
    · rw [if_pos hkey] at hsvc
      obtain ⟨old, -, rfl⟩ := Option.map_eq_some_iff.mp hsvc
      rwa [hst] at hend
  · rcases hnew v hv with hold | ⟨b, -, -, hst, -⟩
    · exact h.lists v hold
    · rw [hst, hlist]

/-- Every request keeps the records. -/
theorem Records.changed {r : Services.Request} (h : Records s) (hc : Services.Changed s r t) (hg : Publishes key s r) : Records t := by
  have hold : ∀ v ∈ s.services.past, (∃ v' ∈ s.services.past, v'.val.key = v.val.key ∧ v'.val.uid = v.val.uid ∧
      v'.val.status = v.val.status) ∨ (v.val.status = {} ∧ v.val.uid < s.nextUid) := fun v hv => .inl ⟨v, hv, rfl, rfl, rfl⟩
  have hfin := h.finalized.changed hc
  cases hc with
  | nothing | shown | created | updated | deleted => exact ⟨hfin, h.uids, h.served, h.lists⟩
  | stated hlive => exact h.stated hlive hg
  | @ended base hlive =>
    refine h.repeated hfin (Nat.le_refl _) hold fun k svc hsvc => .inl ⟨svc, ?_, rfl, rfl⟩
    exact value?_of_remove hsvc
  | finalized hlive hleft =>
    refine h.repeated hfin (Nat.le_refl _) (fun v hv => ?_) fun k svc hsvc => .inl ?_
    · rcases past_modify hv with hv | ⟨b, hb, rfl⟩
      · exact hold v hv
      · exact .inl ⟨b, (past_of_get? hb).1, rfl, rfl, rfl⟩
    · rw [Cluster.value?_withFinalizers] at hsvc
      split at hsvc
      · obtain ⟨old, holdlive, rfl⟩ := Option.map_eq_some_iff.mp hsvc
        exact ⟨old, holdlive, rfl, rfl⟩
      · exact ⟨svc, hsvc, rfl, rfl⟩

/-! ## What a pass keeps -/

/-- A pass begins with the FrameService as it is. -/
def ReadsCurrent : Call Request → Services.Answer × Answer → Prop
  | .own (.getService _ false), a => a.1.age = .current
  | _, _ => True

instance (r : Call Request) (a : Services.Answer × Answer) : Decidable (ReadsCurrent r a) := by
  unfold ReadsCurrent
  split <;> infer_instance

def KeepsData (parseQuantity : String → Except String Int) (key : NamespacedName) (w : Cluster × Objects) : Call Request → Prop
  | .own r => Publishes key w.1 r
  | .drop _ => False
  | .side (.create o) => o.kind = .cluster →
      o.key = key ∧ w.2.get? .cluster key = none ∧ ∃ svc, w.1.services.value? key = some svc ∧ svc.status.binding.endpoint = ""
  | .side (.patch .cluster k body) =>
      k = key ∧ (body.spec ≠ none → ∀ cr, w.2.get? .cluster key = some cr → OnlyMoves parseQuantity cr (body.apply cr))
  | .side _ => True

def Between (key : NamespacedName) (w w' : Cluster × Objects) : Prop := Steady key w.1 w'.1 ∧ Fades key w.2 w'.2

theorem Between.refl (key : NamespacedName) (w : Cluster × Objects) : Between key w w := ⟨.refl key _, .refl key _⟩

theorem between_outside (key : NamespacedName) (w : Cluster × Objects) (o : Services.Outside ⊕ Outside) :
    Between key w (side.happens w o) := by
  cases o with
  | inl o => exact ⟨steady_outside w.1 o, .refl key _⟩
  | inr o => exact ⟨.refl key _, fades_outside key w.2 o⟩

theorem fades_drop (s : Objects) (ref : V1beta1.ProvisionedRef) (a : Answer) : Fades key s (side.drop s ref a).1 := by
  have hdelete : ∀ kind k, Fades key s (s.delete kind k).1 := by
    intro kind k cr' hcr'
    unfold Objects.delete at hcr'
    split at hcr'
    · exact ⟨cr', hcr', .refl cr'⟩
    · refine ⟨cr', ?_, .refl cr'⟩
      rw [Objects.get?, Keyed.get?_erase] at hcr'
      split at hcr'
      · cases hcr'
      · exact hcr'
  have hdrop : Fades key s (s.drop ref).1 := by
    simp only [Objects.drop]
    split
    · exact hdelete _ _
    split
    · exact hdelete _ _
    · split <;> exact .refl key s
  exact Fate.answer_state (P := Fades key s) a.fate (.refl key s) hdrop

variable {w : Cluster × Objects}

theorem keepsData_of_proper (hk : Agrees key w.1 svc) (hb : Bound svc) {r : Request}
    (h : Proper parseQuantity svc w.2 r) : KeepsData parseQuantity key w (.side r) := by
  obtain ⟨rfl, hk⟩ := hk
  cases r with
  | create o =>
    intro ho
    obtain ⟨hkey, hnone, hend⟩ := h ho
    obtain ⟨-, cur, hcur, hbind, -⟩ := hk hb
    exact ⟨hkey, hnone, cur, hcur, by rw [hbind, hend]⟩
  | patch kind k body =>
    cases kind with
    | bucket => trivial
    | cluster => exact h
  | get | getVolume | getCredentials => trivial

theorem side_proper {α : Type} {p : Prog α} {post : α → Objects → Prop} (hk : Agrees key w.1 svc)
    (hb : Bound svc) (h : Properly parseQuantity svc p post w.2) :
    (Services.Prog.side p).Safe side.serve ⟨fun w => Records w.1, Between key, fun _ => ReadsCurrent, KeepsData parseQuantity key⟩
      (fun a w => post a w.2 ∧ Agrees key w.1 svc) w := by
  have hkey := hk.1
  subst hkey
  exact Program.Safe.embed (K := fun w => Agrees svc.key w.1 svc) Prod.snd Prod.snd (fun _ _ _ => ⟨rfl, rfl⟩) (fun _ _ => trivial)
    (fun w w' (h : Between svc.key w w') => h.2) (fun _ _ _ _ => trivial) (fun w r _ hk hp => keepsData_of_proper hk hb hp)
    (fun _ _ _ hw hk _ _ => ⟨hw, hk⟩) (fun w w' hk (h : Between svc.key w w') => hk.steady h.1) h hk

theorem size_proper (params : GoMap String String) (s : Objects) :
    Properly parseQuantity svc (size params) (fun _ _ => True) s := by
  unfold size
  split
  · trivial
  split
  · trivial
  · split <;> trivial

theorem bind_proper (s : Objects) :
    Properly parseQuantity svc (bind svc) (fun r _ => ∀ binding, r = .ok binding → binding.endpoint ≠ "") s := by
  have hend : svc.key.name ++ "." ++ svc.key.namespaceName ++ ".svc" ++ ":5432" ≠ "" := by
    intro h
    have hlen := congrArg String.length h
    simp only [String.length_append] at hlen
    have hport : ":5432".length = 5 := rfl
    have hempty : "".length = 0 := rfl
    omega
  unfold bind
  split
  · exact fun _ h => by cases h
  simp only
  split
  · exact fun binding h => by cases h; exact hend
  intro t _ _
  refine ⟨trivial, fun a _ => ⟨trivial, ?_⟩⟩
  generalize (t.exec _ a).2 = answer
  cases answer with
  | error e =>
    show Properly parseQuantity svc (if isForbidden e then _ else _) _ _
    split <;> exact fun _ h => by cases h
  | ok data => exact fun binding h => by cases h; exact hend

def dataDiscipline (parseQuantity : String → Except String Int) (isDNS1123Label : String → List String) (key : NamespacedName) :
    Discipline (manager parseQuantity isDNS1123Label) side key where
  inv w := Records w.1
  allow _ := ReadsCurrent
  guar := KeepsData parseQuantity key
  meanwhile := Between key
  know w := Agrees key w.1
  free _ _ := True
  clear _ _ := True
  published endpoint := endpoint ≠ ""
  made _ := False
  keeps := by
    intro w r c hw hg _
    cases r with
    | own r => exact hw.changed (Services.exec_changed w.1 r c.1) hg
    | drop => exact absurd hg id
    | side => exact hw
  refl := .refl key
  trans h h' := ⟨h.1.trans h'.1, h.2.trans h'.2⟩
  past h hv := h.1.past _ hv
  know_key h := h.1
  know_read hw hok ha := agrees_read hw.finalized hok ha
  know_meanwhile h _ hst := h.steady hst.1
  free_meanwhile _ _ := trivial
  clear_meanwhile _ _ := trivial
  free_of_gone _ _ _ := trivial
  clear_of_gone _ := trivial
  read_meanwhile w again c := ⟨steady_read w.1 key again c.1, .refl key _⟩
  delete_meanwhile w coord c := ⟨steady_secret (by simp) (by simp) w.1 c.1, .refl key _⟩
  drop_meanwhile w ref c := ⟨.refl key _, fades_drop w.2 ref c.2⟩
  now _ := trivial
  getService _ _ := trivial
  getNamespace _ _ := trivial
  getSecret _ _ := trivial
  deleteSecret _ _ _ _ := trivial
  drop := by
    intro w svc ref hw hk hb hmem
    obtain ⟨-, cur, hcur, -, hprov, -⟩ := hk.2 hb
    obtain ⟨rev, hget⟩ := Versioned.value?_eq_some hcur
    have hnone := hw.lists _ (Versioned.past_of_get? hget).1
    rw [← hprov, hnone] at hmem
    cases hmem
  record := by
    intro w svc toAdd fresh hw hk hfin _ hpast hkey
    refine ⟨hkey, hw.lists fresh hpast, fun hlive cur hcur hend => ?_⟩
    obtain ⟨hcur', -⟩ := hk.live (.inr hfin) hpast hkey hlive
    rw [hcur] at hcur'
    cases hcur'
    exact hend
  know_record _ hk hfin hpast hkey hlive := hk.record hfin hpast hkey hlive _
  createSecret _ _ _ _ := trivial
  updateSecret _ _ _ _ := trivial
  know_write := by
    intro w svc r c _ hk _ hr
    refine hk.congr ((Services.exec_changed w.1 r c.1).services ?_ ?_) <;>
    · intro _ _ h
      rcases hr with ⟨_, hr, -⟩ | ⟨_, _, hr⟩ <;> rw [hr] at h <;> cases h
  report := by
    intro w svc svc' status reason message sizing provisioned t fresh hw hk hb hc hmade hpast hkey
    refine ⟨hkey, ?_, fun _ cur hcur hend => ?_⟩
    · simp only [statusOf]
      split
      · exact absurd (hmade ‹_›) id
      · exact hw.lists fresh hpast
    · obtain ⟨-, cur', hcur', hbind, -⟩ := hk.2 hb
      rw [hcur] at hcur'
      cases hcur'
      rcases hc.endpoint with heq | hnew
      · simp only [statusOf]
        rw [heq, ← hbind]
        exact hend
      · exact hnew
  addFinalizer _ _ _ := trivial
  dropFinalizer _ _ _ _ _ := trivial
  size := by
    intro w svc p hp hw hk hfin
    obtain rfl := registry_get hp
    exact (side_proper hk (.inr hfin) (size_proper svc.params w.2)).imp hw fun _ _ _ h => h.2
  reconcile := by
    intro w svc p hp hw hk hfin
    obtain rfl := registry_get hp
    refine (side_proper hk (.inr hfin) (reconcile_proper parseQuantity svc w.2)).imp hw fun r t _ h => ⟨h.2, ?_⟩
    intro result hr hsome
    rw [show result.provisioned = none from h.1 result hr] at hsome
    cases hsome
  bind := by
    intro w svc p hp hw hk hfin
    obtain rfl := registry_get hp
    have hbind : Properly parseQuantity svc (Postgres.bind svc) _ w.2 := bind_proper w.2
    exact (side_proper hk (.inr hfin) hbind).imp hw fun _ _ _ h => ⟨h.2, h.1⟩

def currentReads : Conditions NamespacedName (Cluster × Objects) (Services.Answer × Answer)
    (Services.Outside ⊕ Outside) (Call Request) where
  answer _ _ := ReadsCurrent

def dataContract (parseQuantity : String → Except String Int) (isDNS1123Label : String → List String) :
    Contract (frameServiceReconciler (manager parseQuantity isDNS1123Label) side) currentReads where
  inv w := Records w.1
  rely := Between
  guar := KeepsData parseQuantity
  post _ _ _ := True
  refl := .refl
  trans h h' := ⟨h.1.trans h'.1, h.2.trans h'.2⟩
  outside_inv w o hw _ := by
    cases o with
    | inl o => exact hw.outside o
    | inr o => exact hw
  outside_rely key w o _ _ := between_outside key w o
  pass key w _ _ := (dataDiscipline parseQuantity isDNS1123Label key).reconcile_safe w

/-- A call deletes nothing listed, creates only what never served, and patches a spec only to move what may move. -/
def Preserves (parseQuantity : String → Except String Int) (key : NamespacedName) (w : Cluster × Objects) : Call Request → Prop
  | .drop _ => False
  | .side (.create o) => o.kind = .cluster → o.key = key ∧ w.2.get? .cluster key = none ∧
      ∃ svc, w.1.services.value? key = some svc ∧
        ∀ v ∈ w.1.services.past, v.val.key = key → v.val.uid = svc.uid → v.val.status.binding.endpoint = ""
  | .side (.patch .cluster k body) =>
      k = key ∧ (body.spec ≠ none → ∀ cr, w.2.get? .cluster key = some cr → OnlyMoves parseQuantity cr (body.apply cr))
  | _ => True

/-- A call that keeps the data preserves it. -/
theorem KeepsData.preserves {r : Call Request} (h : KeepsData parseQuantity key w r) (hw : Records w.1) :
    Preserves parseQuantity key w r := by
  cases r with
  | own => trivial
  | drop => exact h
  | side r =>
    cases r with
    | create o =>
      intro ho
      obtain ⟨hkey, hnone, svc, hsvc, hend⟩ := h ho
      refine ⟨hkey, hnone, svc, hsvc, fun v hv hvkey hvuid => ?_⟩
      by_contra hne
      exact hw.served v hv hne svc (by rwa [hvkey]) hvuid.symm hend
    | patch kind k body =>
      cases kind with
      | bucket => trivial
      | cluster => exact h
    | get | getVolume | getCredentials => trivial

/-- In every run whose passes begin with the FrameService as it is, each create and each patch is justified and preserves. -/
theorem never_replaced (parseQuantity : String → Except String Int) (isDNS1123Label : String → List String) (s : Cluster)
    (hnew : s.services.past = []) (objects : Objects)
    (ds : List (Drive NamespacedName (Services.Answer × Answer) (Services.Outside ⊕ Outside)))
    (hok : Meets (frameServiceReconciler (manager parseQuantity isDNS1123Label) side).step currentReads.Ok ⟨(s, objects), none⟩ ds) :
    let out := run (frameServiceReconciler (manager parseQuantity isDNS1123Label) side).step ⟨(s, objects), none⟩ ds
    Each (Justified Justifies fun _ _ _ => True) out.2 ∧
      ∀ key r next, out.1.task = some (key, .call r next) → Preserves parseQuantity key out.1.server r := by
  have hnamed : ∀ (w : Cluster × Objects) (r : Call Request) (c : Services.Answer × Answer), Named r (side.serve w r c).2 := by
    intro w r c
    match r with
    | .own (.getService key again) => exact fun v hv => (shown_past (exec_getService hv)).2
    | .own .now | .own (.updateService _ _) | .own (.updateStatus _ _) | .own (.getNamespace _) | .own (.getSecret _)
    | .own (.createSecret _ _) | .own (.updateSecret _ _ _) | .own (.deleteSecret _ _) | .drop _ | .side _ => trivial
  refine ⟨run_traced hnamed (fun key => pass_justified isDNS1123Label key) rfl ds, fun key r next htask => ?_⟩
  have hsound := (dataContract parseQuantity isDNS1123Label).run_sound (w := ⟨(s, objects), none⟩) rfl (records_of_empty hnew) ds hok
  exact KeepsData.preserves (hsound.guar htask) hsound.inv

instance : currentReads.Decides where
  answer _ _ r a := inferInstanceAs (Decidable (ReadsCurrent r a))

namespace PostgresFixture

abbrev Happening : Type := Drive NamespacedName (Services.Answer × Answer) (Services.Outside ⊕ Outside)

def unused : Cluster := ⟨.empty, .empty, ["db"], 1, fun _ => 0⟩

def pass (requests : Nat) : List Happening := .start acidMain :: List.replicate requests (.answer ({}, { uid := "0a1b" }))

/-- A FrameService publishes its cluster; then all that is left of it is deleted. -/
def lostCluster : List Happening :=
  [.outside (.inl (.createService acidMain creating.spec []))] ++ pass 2 ++ pass 8 ++
    [.outside (.inr (.setStatus acidMain (Unstructured.ofMembers [("PostgresClusterStatus", .str "Running")]))),
      .outside (.inr (.setCredentials ⟨"db", "acid.acid-main.credentials.postgresql.acid.zalan.do"⟩ (some none)))] ++ pass 11 ++
    [.outside (.inr (.deleteCluster acidMain))] ++ pass 5

def stands (w : Cluster × Objects) : Option (String × List String) × Bool :=
  ((w.1.services.value? acidMain).map fun svc => (svc.status.binding.endpoint, (svc.status.conditions.getD []).map (·.reason)),
    (w.2.get? .cluster acidMain).isSome)

end PostgresFixture

open PostgresFixture in
set_option maxRecDepth 8000 in
/-- A cluster that is lost is not made again. -/
theorem never_replaced_lost :
    Meets (frameServiceReconciler (manager quantity fun _ => []) side).step currentReads.Ok ⟨(unused, empty), none⟩ lostCluster ∧
      stands (run (frameServiceReconciler (manager quantity fun _ => []) side).step ⟨(unused, empty), none⟩ lostCluster).1.server =
        (some ("acid-main.db.svc:5432", ["InstanceLost"]), false) ∧
      Each (Justified Justifies fun _ _ _ => True)
        (run (frameServiceReconciler (manager quantity fun _ => []) side).step ⟨(unused, empty), none⟩ lostCluster).2 :=
  ⟨by decide +kernel, by decide +kernel, (never_replaced quantity (fun _ => []) unused rfl empty lostCluster (by decide +kernel)).1⟩

end Postgres

end FrameOperator.Services
