import FrameOperator.Lib.Charter
import FrameOperator.Lemmas.PostgresPass
import FrameOperator.Theorems.AdoptionSpec

/-!
# A cluster that Frame created

A pass that creates a cluster writes twice: the CR with its label, and then the UID that the CR got. Until the second write is
carried out the cluster is nobody's, and every later pass says so.
-/

namespace FrameOperator.Services

open Fate Option Api

namespace Postgres

open Objects

variable {parseQuantity : String → Except String Int} {key : NamespacedName} {s t : Objects} {svc : FrameService}

/-- The cluster, if any, is claimed by its FrameService. -/
def Claimed (key : NamespacedName) (s : Objects) : Prop :=
  ∀ cr ∈ s.get? .cluster key, valueOf cr.labels ownerLabel = key.name ∧ valueOf cr.annotations claimedUIDAnnotation = cr.uid
deriving Decidable

structure Stays (key : NamespacedName) (s t : Objects) : Prop where
  absent : s.get? .cluster key = none → t.get? .cluster key = none
  present : ∀ cr, s.get? .cluster key = some cr → ∃ cr', t.get? .cluster key = some cr' ∧ Alike cr cr'
  installed : ∀ kind ∈ s.installed, kind ∈ t.installed

theorem Stays.refl (key : NamespacedName) (s : Objects) : Stays key s s := ⟨id, fun cr h => ⟨cr, h, .refl cr⟩, fun _ h => h⟩

theorem Stays.trans {u : Objects} (h : Stays key s t) (h' : Stays key t u) : Stays key s u := by
  refine ⟨fun hn => h'.absent (h.absent hn), fun cr hcr => ?_, fun kind hk => h'.installed kind (h.installed kind hk)⟩
  obtain ⟨cr', hcr', ha⟩ := h.present cr hcr
  obtain ⟨cr'', hcr'', ha'⟩ := h'.present cr' hcr'
  exact ⟨cr'', hcr'', ha.trans ha'⟩

/-- Others leave a cluster that they do not delete. -/
theorem stays_outside (s : Objects) {o : Outside} (ho : o ≠ .deleteCluster key) : Stays key s (s.outside o) := by
  obtain ⟨f, hf, hget⟩ := (outside_cluster s o key).resolve_left fun h => ho h.1
  refine ⟨fun hn => by rw [hget, hn]; rfl, fun cr hcr => ⟨f cr, by rw [hget, hcr]; rfl, hf cr⟩, fun kind hk => ?_⟩
  cases o with
  | install k => exact List.mem_cons_of_mem _ hk
  | deleteCluster | setStatus | createBucket | editBucket | deleteBucket | createVolume | deleteVolume | setCredentials => exact hk

theorem Claimed.stays (h : Claimed key s) (hst : Stays key s t) : Claimed key t := by
  intro cr' hcr'
  cases hcr : s.get? .cluster key with
  | none =>
    rw [mem_def, hst.absent hcr] at hcr'
    cases hcr'
  | some cr =>
    obtain ⟨cr'', hcr'', ha⟩ := hst.present cr hcr
    rw [mem_def, hcr''] at hcr'
    cases hcr'
    rw [ha]
    exact h cr hcr

/-! ## Requests that leave a claim -/

def Mild : Request → Prop
  | .create o => o.kind = .bucket
  | .patch .cluster _ body => body.labels = [] ∧ body.annotations = []
  | _ => True

theorem Claimed.mild (h : Claimed key s) {r : Request} (hr : Mild r) (a : Answer) : Claimed key (s.exec r a).1 := by
  have hc := exec_changed s r a
  generalize (s.exec r a).1 = t at hc
  intro cr hcr
  cases hc with
  | nothing => exact h cr hcr
  | created =>
    rw [mem_def, get?_added, if_neg (by rw [Object.id, show _ = Kind.bucket from hr]; simp)] at hcr
    exact h cr hcr
  | @patched kind k body =>
    rw [mem_def, get?_patched] at hcr
    split at hcr
    · rename_i hid
      cases hid
      obtain ⟨old, hold, rfl⟩ := map_eq_some_iff.mp hcr
      simp only [Mild] at hr
      simp only [Patch.apply, hr.1, hr.2, setAll, List.foldl_nil]
      exact h old hold
    · exact h cr hcr

def carriedOut : Fate Fault → Bool
  | .served | .lost _ => true
  | .failed _ => false

/-- An answer came from the server, or the request did not reach it. -/
def told : Fate Fault → Bool
  | .served | .failed _ => true
  | .lost _ => false

/-- A create of the cluster is answered or not carried out, nothing fails until it is claimed, and nobody deletes it. -/
def claims (key : NamespacedName) : Conditions FrameService Objects Answer Outside Request where
  start svc _ := svc.key = key ∧ valueOf svc.params "create" = "true" ∧ valueOf svc.params "adoptUID" = ""
  answer _ s r a :=
    (match r with
      | .create o => o.kind = .cluster → told a.fate = true
      | _ => True) ∧ (Claimed key s ∨ carriedOut a.fate = true)
  crash _ s _ := Claimed key s
  outside _ o := o ≠ .deleteCluster key

abbrev claimTerms (key : NamespacedName) (svc : FrameService) : Terms Objects Answer Request :=
  ⟨fun _ => True, Stays key, (claims key).answer svc, fun _ _ => True⟩

/-- The cluster is not found to be another's. -/
def OwnResult (a : Except String Result) : Prop := ∀ cr, a ≠ .ok (notOwned cr)

section Pass

variable {α : Type} {post : α → Objects → Prop}

theorem mild_ask {r : Request} {f : r.Resp → Prog α} (hs : Claimed key s) (hr : Mild r)
    (hf : ∀ t a, Claimed key t → Claimed key (t.exec r a).1 →
      (f (t.exec r a).2).Safe exec (claimTerms key svc) post (t.exec r a).1) :
    (Program.ask r >>= f).Safe exec (claimTerms key svc) post s :=
  fun t _ hst => ⟨trivial, fun a _ => ⟨trivial, hf t a (hs.stays hst) ((hs.stays hst).mild hr a)⟩⟩

variable {cr : Object}

/-- A claim that is carried out claims. -/
theorem claim_safe (hkey : svc.key = key) (hcr : s.get? .cluster key = some cr) (hin : .cluster ∈ s.installed) :
    (claim cr svc).Safe exec (claimTerms key svc) (fun _ t => Claimed key t) s := by
  intro t _ hst
  refine ⟨trivial, fun a hok => ⟨trivial, ?_⟩⟩
  obtain ⟨cr', hcr', ha⟩ := hst.present cr hcr
  have hkey' : cr.key = key := (Objects.id_of_get? hcr).2
  have hread : t.read .cluster key = .ok cr' := by simp [Objects.read, hst.installed _ hin, hcr']
  show Claimed key (t.exec (.patch .cluster cr.key (claimBody cr svc)) a).1
  rw [hkey']
  -- what the claim makes of the cluster, if it is carried out
  have hdone : Claimed key (t.patch .cluster key (claimBody cr svc)).1 := by
    intro o ho
    simp only [Objects.patch, hread] at ho
    rw [mem_def, show ({ t with objects := _ } : Objects).get? .cluster key = _ from Objects.get?_patched .., if_pos rfl, hcr',
      map_some] at ho
    cases ho
    have huid : cr'.uid = cr.uid := by rw [ha]
    simp [Patch.apply, claimBody, setAll, valueOf, GoMap.get?_copySet, hkey, huid]
  cases hf : a.fate with
  | served | lost => simpa [exec, answer, apply, hf] using hdone
  | failed e =>
    rcases hok.2 with hclaimed | hcarried
    · simpa [exec, answer, apply, hf] using hclaimed
    · simp [hf, carriedOut] at hcarried

theorem ownResult_degraded {reason message : String} (h : reason ≠ reasonNotOwned) : OwnResult (.ok (degraded reason message)) :=
  fun _ heq => h (congrArg Result.reason (Except.ok.inj heq))

theorem ownResult_bucket (name owner : String) :
    OwnResult (.ok (degraded reasonNotOwned ("WAL bucket claim " ++ name ++ " belongs to FrameService " ++ owner))) := by
  intro cr heq
  have hmessage := congrArg (fun r => (Result.message r).toList.head?) (Except.ok.inj heq)
  simp [degraded, notOwned] at hmessage

section

variable (hs : Claimed key s)
include hs

theorem keepBucket_safe (name : String) :
    (keepBucket svc name).Safe exec (claimTerms key svc)
      (fun a t => Claimed key t ∧ ∀ result, a = .ok (some result) → OwnResult (.ok result)) s := by
  unfold keepBucket
  refine mild_ask hs trivial fun t a _ ht => ?_
  cases hget : (t.exec (.get .bucket ⟨svc.key.namespaceName, name⟩) a).2 with
  | error e => exact ⟨ht, nofun⟩
  | ok obc =>
    simp only
    split
    · exact ⟨ht, fun result h => by cases h; exact ownResult_bucket _ _⟩
    split
    · exact ⟨ht, nofun⟩
    refine mild_ask ht trivial fun u b _ hu => ⟨hu, fun result h => ?_⟩
    generalize (u.exec _ b).2 = answer at h
    cases answer <;> cases h

theorem keepArchive_safe (st : Settings) :
    (keepArchive svc st).Safe exec (claimTerms key svc)
      (fun a t => Claimed key t ∧ ∀ result, a = .ok (some result) → OwnResult (.ok result)) s := by
  unfold keepArchive
  split
  · exact keepBucket_safe hs _
  · exact ⟨hs, nofun⟩

theorem converge_safe {st : Settings} :
    (converge parseQuantity cr st).Safe exec (claimTerms key svc)
      (fun a t => Claimed key t ∧ ∀ result, a = .ok (some result) → OwnResult (.ok result)) s := by
  unfold converge
  simp only
  split
  · exact ⟨hs, nofun⟩
  split
  · exact ⟨hs, nofun⟩
  split
  · exact ⟨hs, fun result h => by cases h; exact ownResult_degraded (by decide)⟩
  split
  · exact ⟨hs, nofun⟩
  refine mild_ask hs ⟨rfl, rfl⟩ fun t a _ ht => ?_
  generalize (t.exec _ a).2 = answer
  cases answer with
  | error e => exact ⟨ht, nofun⟩
  | ok o => exact ⟨ht, fun result h => by cases h; exact ownResult_degraded (by decide)⟩

theorem reconcileClaimed_safe {st : Settings} :
    (reconcileClaimed parseQuantity svc st cr).Safe exec (claimTerms key svc) (fun a t => Claimed key t ∧ OwnResult a) s := by
  have herror : ∀ e, OwnResult (.error e) := nofun
  unfold reconcileClaimed
  refine (keepArchive_safe hs st).bind trivial fun a t _ ha => ?_
  match a with
  | .error e => exact ⟨ha.1, herror e⟩
  | .ok (some result) => exact ⟨ha.1, ha.2 result rfl⟩
  | .ok none =>
    refine (converge_safe ha.1).bind trivial fun a t _ ha => ?_
    match a with
    | .error e => exact ⟨ha.1, herror e⟩
    | .ok (some result) => exact ⟨ha.1, ha.2 result rfl⟩
    | .ok none =>
      simp only
      split
      · exact ⟨ha.1, ownResult_degraded (by decide)⟩
      refine ⟨ha.1, fun cr h => ?_⟩
      have hready := congrArg Result.ready (Except.ok.inj h)
      cases hready

theorem ensureBucket_safe (name : String) :
    (ensureBucket svc name).Safe exec (claimTerms key svc) (fun _ t => Claimed key t) s := by
  unfold ensureBucket
  refine mild_ask hs trivial fun t a _ ht => ?_
  generalize (t.exec _ a).2 = answer
  cases answer with
  | ok o => exact ht
  | error e =>
    simp only
    split
    · exact mild_ask ht rfl fun u b _ hu => hu
    · exact ht

theorem ensureArchive_safe (st : Settings) :
    (ensureArchive svc st).Safe exec (claimTerms key svc) (fun _ t => Claimed key t) s := by
  unfold ensureArchive
  split
  · exact ensureBucket_safe hs _
  · exact hs

end

theorem exec_create_error {o : Object} {a : Answer} {e : Error} (ht : told a.fate = true) (h : (s.exec (.create o) a).2 = .error e) :
    (s.exec (.create o) a).1 = s := by
  cases hf : a.fate with
  | lost f => simp [hf, told] at ht
  | failed f => simp [exec, answer, apply, hf]
  | served =>
    simp only [exec, answer, apply, hf] at h ⊢
    rcases create_cases s { o with uid := a.uid } with ⟨e', hc⟩ | ⟨-, -, hc⟩
    · rw [hc]
    · rw [hc] at h
      cases h

theorem createCluster_safe (hkey : svc.key = key) (hs : Claimed key s) (st : Settings) :
    (createCluster svc st).Safe exec (claimTerms key svc) (fun a t => Claimed key t ∧ OwnResult a) s := by
  have herror : ∀ e, OwnResult (.error e) := nofun
  unfold createCluster
  refine (ensureArchive_safe hs st).bind trivial fun a t _ ht => ?_
  cases a with
  | error e => exact ⟨ht, herror e⟩
  | ok _ =>
    intro u _ htu
    refine ⟨trivial, fun b hb => ⟨trivial, ?_⟩⟩
    cases hres : (u.exec (.create (newCluster svc st)) b).2 with
    | error e =>
      rw [exec_create_error (hb.1 rfl) hres]
      exact ⟨ht.stays htu, herror _⟩
    | ok cr =>
      obtain ⟨hin, hfree, rfl, hstate⟩ := exec_create_ok hres
      rw [hstate]
      have hthere : (u.added { newCluster svc st with uid := b.uid }).get? .cluster key =
          some { newCluster svc st with uid := b.uid } := by
        rw [get?_added, if_pos ⟨hfree, by rw [← hkey]; rfl⟩]
      refine (claim_safe hkey hthere hin).bind trivial fun a v _ hv => ?_
      cases a with
      | error e => exact ⟨hv, herror e⟩
      | ok cr => exact ⟨hv, ownResult_degraded (by decide)⟩

theorem reconcileAbsent_safe (hkey : svc.key = key) (hs : Claimed key s) (st : Settings) :
    (reconcileAbsent svc st).Safe exec (claimTerms key svc) (fun a t => Claimed key t ∧ OwnResult a) s := by
  unfold reconcileAbsent
  split
  · exact ⟨hs, ownResult_degraded (by decide)⟩
  split
  · exact ⟨hs, ownResult_degraded (by decide)⟩
  split
  · exact ⟨hs, ownResult_degraded (by decide)⟩
  refine mild_ask hs trivial fun t a _ ht => ?_
  generalize (t.exec _ a).2 = answer
  cases answer with
  | ok _ => exact ⟨ht, ownResult_degraded (by decide)⟩
  | error e =>
    simp only
    split
    · exact createCluster_safe hkey ht st
    · exact ⟨ht, nofun⟩

theorem reconcilePresent_safe (hkey : svc.key = key) {st : Settings} (hcreate : st.create = true) (hadopt : st.adoptUID = "")
    (hs : Claimed key s) (hcr : s.get? .cluster key = some cr) (hin : .cluster ∈ s.installed) :
    (reconcilePresent parseQuantity svc st cr).Safe exec (claimTerms key svc) (fun a t => Claimed key t ∧ OwnResult a) s := by
  have hclaimed : isClaimed cr svc = true := by simp [isClaimed, hkey, hs cr hcr]
  have howned : isOwned cr svc st = true := by simp [isOwned, hcreate, hadopt, hclaimed]
  simp only [reconcilePresent, howned, differences, hclaimed, Bool.not_true, Bool.false_eq_true, if_false, if_true]
  split
  · exact ⟨hs, ownResult_degraded (by decide)⟩
  split
  · refine (claim_safe hkey hcr hin).bind trivial fun a t _ ht => ?_
    cases a with
    | error e => exact ⟨ht, fun _ h => by cases h⟩
    | ok cr => exact reconcileClaimed_safe ht
  · exact reconcileClaimed_safe hs

/-- A pass never finds its cluster another's. -/
theorem reconcile_safe (hkey : svc.key = key) (hcreate : valueOf svc.params "create" = "true")
    (hadopt : valueOf svc.params "adoptUID" = "")
    (hs : Claimed key s) :
    (reconcile parseQuantity svc).Safe exec (claimTerms key svc) (fun a t => Claimed key t ∧ OwnResult a) s := by
  unfold reconcile
  cases hst : settingsOf svc with
  | none => exact ⟨hs, ownResult_degraded (by decide)⟩
  | some st =>
    obtain ⟨hc, ha⟩ := settingsOf_create hst
    refine mild_ask hs trivial fun t a ht _ => ?_
    have hstate : (t.exec (.get .cluster svc.key) a).1 = t := answer_read a.fate
    rw [hstate]
    cases hget : (t.exec (.get .cluster svc.key) a).2 with
    | ok cr =>
      obtain ⟨hin, hcr⟩ := exec_get_ok hget
      rw [hkey] at hcr
      exact reconcilePresent_safe hkey (by rw [hc]; simpa using hcreate) (by rw [ha, hadopt]) ht hcr hin
    | error e =>
      simp only
      split
      · exact ⟨ht, ownResult_degraded (by decide)⟩
      split
      · exact reconcileAbsent_safe hkey ht st
      · exact ⟨ht, nofun⟩

end Pass

def claimCycle (parseQuantity : String → Except String Int) (key : NamespacedName) :
    Cycle (reconciler parseQuantity) (claims key) where
  rest := Claimed key
  rely _ := Stays key
  guar _ _ _ := True
  post _ := OwnResult
  refl _ := .refl key
  trans := .trans
  outside_rest s _ h ho := h.stays (stays_outside s ho)
  outside_rely _ s _ ho := stays_outside s ho
  crash_rest _ _ _ _ h := h
  pass _ _ hs h := reconcile_safe h.1 h.2.1 h.2.2 hs

/-- No pass says that the cluster it created is not its own, where nothing fails between the create and the claim. -/
theorem created_stays_owned (parseQuantity : String → Except String Int) (key : NamespacedName) (s : Objects)
    (hnone : s.get? .cluster key = none) (ds : List (Drive FrameService Answer Outside))
    (hok : Meets (reconciler parseQuantity).step (claims key).Ok ⟨s, none⟩ ds) :
    ∀ svc result, Deed.returned svc result ∈ (run (reconciler parseQuantity).step ⟨s, none⟩ ds).2 →
      ∀ cr, result ≠ .ok (notOwned cr) := by
  have hclaimed : Claimed key s := fun cr hcr => by rw [Option.mem_def, hnone] at hcr; cases hcr
  exact (claimCycle parseQuantity key).run_returns hclaimed ds hok

instance (key : NamespacedName) : (claims key).Decides where
  start _ _ := inferInstanceAs (Decidable (_ ∧ _))
  answer _ s r a := by
    cases r <;> dsimp only [claims] <;> infer_instance
  crash _ s _ := inferInstanceAs (Decidable (Claimed key s))
  outside _ o := inferInstanceAs (Decidable (o ≠ .deleteCluster key))

namespace PostgresFixture

def creating : FrameService := service [("instances", "1"), ("volumeSize", "10Gi"), ("create", "true")]

def empty : Objects where
  objects := .empty
  volumes := []
  credentials _ := none
  installed := [.cluster, .bucket]

def unreachable : Fault := .failed "connection refused"

def claimFails : List (Drive FrameService Answer Outside) :=
  [.start creating, .answer {}, .answer {}, .answer { uid := "0a1b" },
    .answer { fate := .failed unreachable }, .start creating, .answer {}]

def said (log : List (Deed FrameService Request.Resp (Except String Result))) : List (String × String) :=
  log.filterMap fun
    | .returned _ (.ok result) => some (result.reason, result.message)
    | _ => none

/-- A create is not carried out, the next is, and the answer to the claim is lost. -/
def claimLost : List (Drive FrameService Answer Outside) :=
  [.start creating, .answer {}, .answer {}, .answer { fate := .failed unreachable },
    .start creating, .answer {}, .answer {}, .answer { uid := "0a1b" }, .answer { fate := .lost unreachable },
    .outside (.setStatus acidMain (Unstructured.ofMembers [("PostgresClusterStatus", .str "Running")])), .start creating, .answer {}]

end PostgresFixture

set_option maxRecDepth 8000

open PostgresFixture in
/-- The claim of a cluster fails after its create: the next pass says that the cluster is not its own. -/
theorem created_not_owned :
    said (run (reconciler quantity).step ⟨empty, none⟩ claimFails).2 =
      [("ClusterNotOwned",
        "a cluster acid-main exists (UID 0a1b) and this FrameService does not claim it: set adoptUID to take it over")] := by
  decide +kernel

open PostgresFixture in
/-- The answer to the claim is lost. -/
theorem created_stays_owned_lost :
    Meets (reconciler quantity).step (claims acidMain).Ok ⟨empty, none⟩ claimLost ∧
      said (run (reconciler quantity).step ⟨empty, none⟩ claimLost).2 =
        [("Running", "cluster acid-main running")] ∧
      ∀ svc result, Deed.returned svc result ∈ (run (reconciler quantity).step ⟨empty, none⟩ claimLost).2 →
        ∀ cr, result ≠ .ok (notOwned cr) :=
  ⟨by decide +kernel, by decide +kernel,
    created_stays_owned quantity acidMain empty rfl claimLost (by decide +kernel)⟩

end Postgres

end FrameOperator.Services
