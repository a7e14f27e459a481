import FrameOperator.Lib.Charter
import FrameOperator.Lib.Titles
import FrameOperator.Lemmas.ServiceAgree

/-!
# One FrameService for a coordinate

A coordinate that is recorded and has no Secret looks free to every other FrameService. Then two FrameServices record it, and each
overwrites what the other wrote.
-/

namespace FrameOperator.Services

open Api
open V1beta1 (FrameServiceStatus ProjectedSecretRef)

variable {π τ χ ω : Type} {B : π → Type} {key : NamespacedName} {s t : Cluster} {svc : FrameService}

/-- Which FrameService has recorded a coordinate, and whose pass wrote the Secret there last. -/
def Cluster.titles (s : Cluster) : Titles NamespacedName ProjectedSecretRef where
  records key coord := ∃ svc, s.services.value? key = some svc ∧ coord ∈ svc.projected
  made writer coord := ∃ secret, s.secrets.value? coord = some secret ∧ secret.writtenBy = some writer

/-- No coordinate has two claimants, and no FrameService is being deleted without a finalizer. -/
structure Orderly (s : Cluster) : Prop where
  finalized : Finalized s
  exclusive : s.titles.Exclusive

variable {coord : ProjectedSecretRef}

/-- A request records what is unclaimed, and writes and deletes what is recorded. -/
def Respects (key : NamespacedName) (s : Cluster) : Request → Prop
  | .updateStatus base status =>
    base.val.key = key ∧ (Live s base → ∀ coord ∈ status.binding.projected.getD [], s.titles.Unclaimed key coord)
  | .createSecret service secret => service = key ∧ s.titles.records key secret.coord
  | .updateSecret service base _ => service = key ∧ s.titles.records key base.val.coord
  | .deleteSecret service coord => service = key ∧ s.titles.records key coord
  | _ => True

/-- A request of this kind leaves every coordinate with one claimant. -/
theorem Orderly.changed {r : Request} (h : Orderly s) (hc : Changed s r t) (hg : Respects key s r) : Orderly t := by
  refine ⟨h.finalized.changed hc, ?_⟩
  cases hc with
  | nothing | shown => exact h.exclusive
  | ended => exact h.exclusive.mono (fun _ _ ⟨svc, hsvc, hmem⟩ => ⟨svc, Versioned.value?_of_remove hsvc, hmem⟩) fun _ _ => .inl
  | finalized =>
    refine h.exclusive.mono ?_ fun _ _ => .inl
    rintro k coord ⟨svc, hsvc, hmem⟩
    rw [Cluster.value?_withFinalizers] at hsvc
    split at hsvc
    · obtain ⟨old, hold, rfl⟩ := Option.map_eq_some_iff.mp hsvc
      exact ⟨old, hold, hmem⟩
    · exact ⟨svc, hsvc, hmem⟩
  | stated hlive =>
    refine h.exclusive.claim (k := key) ?_ fun _ _ hm => hm
    rintro k coord ⟨svc, hsvc, hmem⟩
    rw [Cluster.value?_withStatus] at hsvc
    split at hsvc
    · rename_i hk
      obtain ⟨old, -, rfl⟩ := Option.map_eq_some_iff.mp hsvc
      exact .inr ⟨hk.trans hg.1, hg.2 hlive coord hmem⟩
    · exact .inl ⟨svc, hsvc, hmem⟩
  | created =>
    obtain ⟨rfl, hrec⟩ := hg
    refine h.exclusive.mono (fun _ _ hr => hr) ?_
    rintro writer coord ⟨secret, hsec, hw⟩
    rw [Cluster.value?_withSecret] at hsec
    split at hsec
    · rename_i hid
      cases hsec
      cases hw
      exact .inr (hid.2 ▸ hrec)
    · exact .inl ⟨secret, hsec, hw⟩
  | updated =>
    obtain ⟨rfl, hrec⟩ := hg
    refine h.exclusive.mono (fun _ _ hr => hr) ?_
    rintro writer coord ⟨secret, hsec, hw⟩
    rw [Cluster.value?_overwritten] at hsec
    split at hsec
    · rename_i hid
      obtain ⟨old, -, rfl⟩ := Option.map_eq_some_iff.mp hsec
      cases hw
      exact .inr (hid ▸ hrec)
    · exact .inl ⟨secret, hsec, hw⟩
  | deleted =>
    refine h.exclusive.mono (fun _ _ hr => hr) ?_
    rintro writer coord ⟨secret, hsec, hw⟩
    rw [Cluster.value?_withoutSecret] at hsec
    split at hsec
    · cases hsec
    · exact .inl ⟨secret, hsec, hw⟩

/-! ## What others do meanwhile -/

/-- Between two calls nobody writes a Secret as a pass does. -/
structure Undisputed (key : NamespacedName) (s t : Cluster) : Prop where
  steady : Steady key s t
  made : ∀ writer coord, t.titles.made writer coord → s.titles.made writer coord

theorem Undisputed.refl (key : NamespacedName) (s : Cluster) : Undisputed key s s := ⟨.refl key s, fun _ _ h => h⟩

theorem Undisputed.trans {u : Cluster} (h : Undisputed key s t) (h' : Undisputed key t u) : Undisputed key s u :=
  ⟨h.steady.trans h'.steady, fun writer coord hm => h.made writer coord (h'.made writer coord hm)⟩

/-- Nobody else does anything that a pass would be disputed by. -/
theorem undisputed_outside (s : Cluster) (o : Outside) : Undisputed key s (s.outside o) := by
  refine ⟨steady_outside s o, fun writer coord ⟨secret, hs, hw⟩ => ?_⟩
  rcases outside_secret s o hs with hs | ⟨hnone, -⟩
  · exact ⟨secret, hs, hw⟩
  · rw [hnone] at hw
    cases hw

/-- What is recorded after a steady change was recorded before it. -/
theorem Steady.records (h : Steady key s t) (k : NamespacedName) (coord : ProjectedSecretRef) (hr : t.titles.records k coord) :
    s.titles.records k coord := by
  obtain ⟨svc, hsvc, hmem⟩ := hr
  rcases h.origin k svc hsvc with ⟨old, hold, heq, -⟩ | ⟨heq, -⟩
  · exact ⟨old, hold, by rw [FrameService.projected, heq]; exact hmem⟩
  · rw [FrameService.projected, heq] at hmem
    cases hmem

theorem Orderly.undisputed (h : Orderly s) (hst : Undisputed key s t) (ht : Finalized t) : Orderly t :=
  ⟨ht, h.exclusive.mono hst.steady.records fun writer coord hm => .inl (hst.made writer coord hm)⟩

theorem undisputed_read (s : Cluster) (k : NamespacedName) (again : Bool) (a : Answer) :
    Undisputed key s (s.exec (.getService k again) a).1 := by
  refine ⟨steady_read s k again a, fun writer coord ⟨secret, hs, hw⟩ => ⟨secret, ?_, hw⟩⟩
  rw [← (exec_getService_services s k again a).2.1]
  exact hs

theorem undisputed_deleteSecret (s : Cluster) (service : NamespacedName) (coord : ProjectedSecretRef) (a : Answer) :
    Undisputed key s (s.exec (.deleteSecret service coord) a).1 := by
  refine ⟨steady_secret (by simp) (by simp) s a, fun writer j ⟨secret, hs, hw⟩ => ⟨secret, ?_, hw⟩⟩
  have hc := exec_changed s (.deleteSecret service coord) a
  generalize (s.exec (.deleteSecret service coord) a).1 = t at hc hs
  cases hc with
  | nothing => exact hs
  | deleted =>
    rw [Cluster.value?_withoutSecret] at hs
    split at hs
    · cases hs
    · exact hs

/-! ## What a pass keeps -/

theorem Agrees.records (h : Agrees key s svc) (hb : Bound svc) (hmem : coord ∈ svc.projected) :
    s.titles.records key coord := by
  obtain ⟨-, cur, hcur, hbind, -⟩ := h.2 hb
  exact ⟨cur, hcur, by rw [FrameService.projected, hbind]; exact hmem⟩

/-- A pass reads live, and a recorded coordinate that it looks up is taken. -/
def Settled (key : NamespacedName) (w : Cluster × τ) : Call π → Answer × χ → Prop
  | .own (.getService _ _), a => a.1.age = .current
  | .own (.getSecret coord), _ =>
    ∀ v ∈ w.1.services.live.items, v.val.key ≠ key → coord ∈ v.val.projected → (w.1.secrets.value? coord).isSome
  | _, _ => True

instance (key : NamespacedName) (w : Cluster × τ) (r : Call π) (a : Answer × χ) : Decidable (Settled key w r a) := by
  unfold Settled
  split <;> infer_instance

variable {w : Cluster × τ}

/-- A coordinate without a Secret is unclaimed. -/
theorem unclaimed_of_gone {a : Answer × χ}
    (hok : Settled key w (.own (.getSecret coord) : Call π) a) (h : w.1.secrets.value? coord = none) :
    w.1.titles.Unclaimed key coord := by
  refine ⟨fun k ⟨svc, hsvc, hmem⟩ => ?_, fun writer ⟨secret, hs, _⟩ => by rw [h] at hs; cases hs⟩
  by_contra hne
  obtain ⟨rev, hget⟩ := Versioned.value?_eq_some hsvc
  have hitem := Keyed.get?_eq_some_iff.mp (show w.1.services.live.get? k = some ⟨rev, svc⟩ from hget)
  have hkey : svc.key = k := hitem.2
  have hsome := hok ⟨rev, svc⟩ hitem.1 (by rw [hkey]; exact hne) hmem
  rw [h] at hsome
  cases hsome

def RespectsCall (key : NamespacedName) (w : Cluster × τ) : Call π → Prop
  | .own r => Respects key w.1 r
  | _ => True

/-- Every call that respects keeps the coordinates in order. -/
theorem Orderly.serve {S : Side τ χ ω B} {r : Call π} {c : Answer × χ} (h : Orderly w.1)
    (hg : RespectsCall key w r) : Orderly (S.serve w r c).1.1 := by
  cases r with
  | own r => exact h.changed (exec_changed w.1 r c.1) hg
  | drop | side => exact h

theorem agrees_side {S : Side τ χ ω B} {α : Type} (p : Program B α) (hw : Orderly w.1) (hk : Agrees key w.1 svc) :
    (Prog.side p).Safe S.serve ⟨fun w => Orderly w.1, fun w w' => Undisputed key w.1 w'.1, Settled key, RespectsCall key⟩
      (fun _ w => Agrees key w.1 svc) w :=
  side_safe Orderly (Undisputed key) (Agrees key · svc) (fun _ _ => trivial) (fun _ _ h hst => h.steady hst.steady) p hw hk

def claimDiscipline (M : Manager B) (S : Side τ χ ω B) (key : NamespacedName) : Discipline M S key where
  inv w := Orderly w.1
  allow := Settled key
  guar := RespectsCall key
  meanwhile w w' := Undisputed key w.1 w'.1
  know w := Agrees key w.1
  free w := w.1.titles.Unclaimed key
  clear _ _ := True
  published _ := True
  made _ := True
  keeps h hg _ := h.serve hg
  refl _ := .refl key _
  trans := .trans
  past h hv := h.steady.past _ hv
  know_key h := h.1
  know_read hw hok ha := agrees_read hw.finalized hok ha
  know_meanwhile h _ hst := h.steady hst.steady
  free_meanwhile h hst := h.mono (hst.steady.records · _) (hst.made · _)
  clear_meanwhile _ _ := trivial
  free_of_gone _ hok h := unclaimed_of_gone hok h
  clear_of_gone _ := trivial
  read_meanwhile w again c := undisputed_read w.1 key again c.1
  delete_meanwhile w coord c := undisputed_deleteSecret w.1 key coord c.1
  drop_meanwhile w _ _ := .refl key w.1
  now _ := trivial
  getService _ _ := trivial
  getNamespace _ _ := trivial
  getSecret _ _ := trivial
  deleteSecret _ hk hb hmem := ⟨hk.1, hk.records hb hmem⟩
  drop _ _ _ _ := trivial
  record := by
    intro w svc toAdd fresh hw hk hfin hfree _ hkey
    refine ⟨hkey, fun _ coord hmem => ?_⟩
    rcases List.mem_append.mp hmem with hmem | hmem
    · exact hw.exclusive.unclaimed (hk.records (.inr hfin) hmem)
    · exact hfree coord hmem
  know_record _ hk hfin hp hkey hlive := hk.record hfin hp hkey hlive _
  createSecret _ hk hfin hmem := ⟨hk.1, hk.records (.inr hfin) hmem⟩
  updateSecret _ hk hfin hmem := ⟨hk.1, hk.records (.inr hfin) hmem⟩
  know_write := by
    intro w svc r c _ hk _ hr
    refine hk.congr ((exec_changed w.1 r c.1).services ?_ ?_) <;>
    · intro _ _ h
      rcases hr with ⟨_, hr, -⟩ | ⟨_, _, hr⟩ <;> rw [hr] at h <;> cases h
  report := by
    intro w svc svc' _ _ _ _ _ _ fresh hw hk hb hc _ _ hkey
    exact ⟨hkey, fun _ coord hmem => hw.exclusive.unclaimed (hk.records hb (hc.projected coord hmem))⟩
  addFinalizer _ _ _ := trivial
  dropFinalizer _ _ _ _ _ := trivial
  size _ hw hk _ := agrees_side _ hw hk
  reconcile _ hw hk _ := (agrees_side _ hw hk).imp hw fun _ _ _ h => ⟨h, fun _ _ _ => trivial⟩
  bind _ hw hk _ := (agrees_side _ hw hk).imp hw fun _ _ _ h => ⟨h, fun _ _ => trivial⟩

def settled : Conditions NamespacedName (Cluster × τ) (Answer × χ) (Outside ⊕ ω) (Call π) where
  answer := Settled

instance : (settled : Conditions NamespacedName (Cluster × τ) (Answer × χ) (Outside ⊕ ω) (Call π)).Decides where
  answer k w r c := inferInstanceAs (Decidable (Settled k w r c))

def claimContract (M : Manager B) (S : Side τ χ ω B) : Contract (frameServiceReconciler M S) settled where
  inv w := Orderly w.1
  rely k w w' := Undisputed k w.1 w'.1
  guar := RespectsCall
  post _ _ _ := True
  refl k _ := .refl k _
  trans := .trans
  outside_inv := by
    rintro w (o | o) h -
    · exact h.undisputed (show Undisputed ⟨"", ""⟩ w.1 _ from undisputed_outside w.1 o) (h.finalized.outside o)
    · exact h
  outside_rely := by
    rintro k w (o | o) - -
    · exact undisputed_outside w.1 o
    · exact .refl k w.1
  pass k w _ _ := (claimDiscipline M S k).reconcile_safe w

def touches : Request → Option ProjectedSecretRef
  | .updateSecret _ base _ => some base.val.coord
  | .deleteSecret _ coord => some coord
  | _ => none

/-- Where recorded coordinates are taken when looked up, no two FrameServices record one or overwrite one's Secret. -/
theorem one_coordinate (M : Manager B) (S : Side τ χ ω B) (w : Cluster × τ) (hnone : ∀ k, w.1.services.value? k = none)
    (ds : List (Drive NamespacedName (Answer × χ) (Outside ⊕ ω)))
    (hok : Meets (frameServiceReconciler M S).step settled.Ok ⟨w, none⟩ ds) :
    let out := (run (frameServiceReconciler M S).step ⟨w, none⟩ ds).1
    (∀ k k' svc svc' coord, out.server.1.services.value? k = some svc → out.server.1.services.value? k' = some svc' →
        coord ∈ svc.projected → coord ∈ svc'.projected → k = k') ∧
      ∀ k r next coord, out.task = some (k, .call (.own r) next) → touches r = some coord →
        ∀ secret writer, out.server.1.secrets.value? coord = some secret → secret.writtenBy = some writer → writer = k := by
  have horderly : Orderly w.1 := by
    refine ⟨fun k svc hsvc => ?_, fun ⟨svc, hsvc, _⟩ => ?_, fun _ ⟨svc, hsvc, _⟩ => ?_⟩ <;>
    · rw [hnone] at hsvc
      cases hsvc
  have hsound := (claimContract M S).run_sound (w := ⟨w, none⟩) rfl horderly ds hok
  refine ⟨fun k k' svc svc' coord hsvc hsvc' hmem hmem' => hsound.inv.exclusive.one ⟨svc, hsvc, hmem⟩ ⟨svc', hsvc', hmem'⟩,
    fun k r next coord ht hr secret writer hs hw => ?_⟩
  have hg := hsound.guar ht
  cases r with
  | updateSecret service base secret' | deleteSecret service coord' =>
    cases hr
    exact (hsound.inv.exclusive.unclaimed hg.2).made writer ⟨secret, hs, hw⟩
  | now | getService | updateService | updateStatus | getNamespace | getSecret | createSecret => cases hr

namespace Fixture

/-- A provider that makes nothing: an instance is up or not. -/
def external : Provisioner (fun _ : Unit => Bool) where
  size _ := .done (.ok {})
  reconcile _ := do
    let up ← Program.ask ()
    return .ok { ready := up, reason := if up then "Up" else "Down" }
  bind svc := .done (.ok { data := GoMap.copySet none "user" (utf8 svc.key.namespaceName), endpoint := "host:5432" })

def manager : Manager (fun _ : Unit => Bool) := ⟨[("external", .provisions external)], fun _ => []⟩

def side : Side Unit Bool Empty (fun _ : Unit => Bool) := ⟨fun s _ up => (s, up), fun s _ _ => (s, .ok ()), fun s _ => s⟩

def cluster : Cluster × Unit := (⟨.empty, .empty, ["a", "b", "shared"], 1, fun _ => 0⟩, ())

abbrev Happening : Type := Drive NamespacedName (Answer × Bool) (Outside ⊕ Empty)

def served (requests : Nat) : List Happening := List.replicate requests (.answer ({}, true))

def pass (key : NamespacedName) (requests : Nat) : List Happening := .start key :: served requests

def refused : Happening := .answer ({ fate := .failed (.forbidden "secrets is forbidden") }, true)

def inA : NamespacedName := ⟨"a", "db"⟩
def inB : NamespacedName := ⟨"b", "db"⟩

def projecting (key : NamespacedName) : List Happening :=
  .outside (.inl (.createService key { type := "external", binding := { projectTo := some ["shared"] } } [])) :: pass key 2

/-- A write is refused where it projects to; another projects there, and then it too. -/
def refusedAtFirst : List Happening := projecting inA ++ pass inA 10 ++ [refused] ++ served 3 ++ projecting inB ++ pass inB 14

def records (s : Cluster) : List (List ProjectedSecretRef) × List (ProjectedSecretRef × Option NamespacedName) :=
  (s.services.live.items.map (·.val.projected), s.secrets.live.items.map fun o => (o.val.coord, o.val.writtenBy))

def inTurn : List Happening := projecting inA ++ pass inA 14 ++ projecting inB ++ pass inB 8

end Fixture

set_option maxRecDepth 8000

open Fixture in
/-- A write is refused and its coordinate stays recorded; another FrameService finds it free, and is overwritten. -/
theorem two_at_one_coordinate :
    records (run (frameServiceReconciler manager side).step ⟨cluster, none⟩
        refusedAtFirst).1.server.1 =
      ([[⟨"a", "db"⟩, ⟨"shared", "db"⟩], [⟨"b", "db"⟩, ⟨"shared", "db"⟩]],
        [(⟨"a", "db"⟩, some inA), (⟨"b", "db"⟩, some inB), (⟨"shared", "db"⟩, some inB)]) ∧
    records (run (frameServiceReconciler manager side).step ⟨cluster, none⟩
        (refusedAtFirst ++ pass inA 6)).1.server.1 =
      ([[⟨"a", "db"⟩, ⟨"shared", "db"⟩], [⟨"b", "db"⟩, ⟨"shared", "db"⟩]],
        [(⟨"a", "db"⟩, some inA), (⟨"b", "db"⟩, some inB), (⟨"shared", "db"⟩, some inA)]) := by
  constructor <;> decide +kernel

open Fixture in
/-- Two FrameServices project in turn. -/
theorem one_coordinate_in_turn :
    Meets (frameServiceReconciler manager side).step settled.Ok ⟨cluster, none⟩ inTurn ∧
      ∀ k k' svc svc' coord,
        (run (frameServiceReconciler manager side).step ⟨cluster, none⟩
          inTurn).1.server.1.services.value? k = some svc →
        (run (frameServiceReconciler manager side).step ⟨cluster, none⟩
          inTurn).1.server.1.services.value? k' = some svc' →
        coord ∈ svc.projected → coord ∈ svc'.projected → k = k' :=
  ⟨by decide +kernel, (one_coordinate manager side cluster (fun _ => rfl) _ (by decide +kernel)).1⟩

end FrameOperator.Services
