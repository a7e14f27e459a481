import FrameOperator.Quotas.Controller

/-!
# Quotas and the labels they follow

Nothing ever takes a ResourceQuota away: it stays when the label of its Namespace changes, and when the last FrameResourceQuota of
its class is deleted or is given another one.
-/

namespace FrameOperator.Quotas

open Option Api Keyed

variable {s t : Cluster} {key : NamespacedName} {frq : FrameResourceQuota} {n : String} {c : ServiceClass}

namespace Cluster

variable (s : Cluster) (n : String) (c : ServiceClass)

def held : Option ResourceQuota := s.resourceQuotas.get? ⟨n, quotaName c⟩

def labelled : Option String := (s.namespaces.get? n).bind Namespace.serviceClass

/-- A FrameResourceQuota of a class is there to stay, with these limits. -/
def offers (hard : List (String × Limit)) : Prop :=
  ∃ k frq, s.frameResourceQuotas.get? k = some frq ∧ frq.deleting = false ∧
    frq.spec.serviceClass = c ∧ buildResourceList frq.spec = hard

/-- Every FrameResourceQuota was applied after the last change, and none is to be deleted. -/
def Settled : Prop := ∀ k frq, s.frameResourceQuotas.get? k = some frq → frq.deleting = false ∧ k ∈ s.applied

/-- A Namespace has a ResourceQuota exactly as its label and a FrameResourceQuota say. -/
def Follows : Prop :=
  ∀ n c, ((s.held n c).isSome ↔ s.labelled n = some c.value ∧
      ∃ k frq, s.frameResourceQuotas.get? k = some frq ∧ frq.spec.serviceClass = c) ∧
    ∀ q, s.held n c = some q → ∃ k frq, s.frameResourceQuotas.get? k = some frq ∧ frq.spec.serviceClass = c ∧
      q.hard = buildResourceList frq.spec

end Cluster

/-- What was projected for stays: the label, and the FrameResourceQuotas of the class. -/
def Stays (s : Cluster) : Input → Prop
  | .label n value => ∀ c, s.held n c ≠ none → value = some c.value
  | .edit key spec => ∀ frq, s.frameResourceQuotas.get? key = some frq → spec.serviceClass = frq.spec.serviceClass ∨
      ∀ n, s.held n frq.spec.serviceClass = none
  | .delete key => ∀ frq, s.frameResourceQuotas.get? key = some frq → ∀ n, s.held n frq.spec.serviceClass = none
  | _ => True

structure Projected (s : Cluster) : Prop where
  grounded : ∀ n c, s.held n c ≠ none → s.labelled n = some c.value ∧ ∃ hard, s.offers c hard
  applied : ∀ k ∈ s.applied, ∀ frq, s.frameResourceQuotas.get? k = some frq → ∀ n, s.labelled n = some frq.spec.serviceClass.value →
    ∃ q, s.held n frq.spec.serviceClass = some q ∧ s.offers frq.spec.serviceClass q.hard

theorem quotaName_inj {c d : ServiceClass} (h : quotaName c = quotaName d) : c = d := by
  revert h
  cases c <;> cases d <;> decide

theorem get?_createOrUpdate (k j : NamespacedName) (hard : List (String × Limit)) :
    (s.createOrUpdate k hard).resourceQuotas.get? j = if j = k then some ⟨k, hard⟩ else s.resourceQuotas.get? j := by
  unfold Cluster.createOrUpdate
  cases hget : s.resourceQuotas.get? k with
  | none => simp only [get?_insertNew, hget, true_and]
  | some q =>
    simp only [get?_modify]
    split
    · rename_i hj
      have hkey : q.key = k := key_of_get? hget
      rw [hj, hget, map_some, hkey]
    · rfl

theorem foldl_createOrUpdate (l : List Namespace) (name : String) (hard : List (String × Limit)) :
    (l.foldl (fun s ns => s.createOrUpdate ⟨ns.name, name⟩ hard) s).frameResourceQuotas = s.frameResourceQuotas ∧
    (l.foldl (fun s ns => s.createOrUpdate ⟨ns.name, name⟩ hard) s).namespaces = s.namespaces ∧
    (l.foldl (fun s ns => s.createOrUpdate ⟨ns.name, name⟩ hard) s).applied = s.applied ∧
    ∀ m j, (l.foldl (fun s ns => s.createOrUpdate ⟨ns.name, name⟩ hard) s).resourceQuotas.get? ⟨m, j⟩ =
      if j = name ∧ m ∈ l.map Namespace.name then some ⟨⟨m, j⟩, hard⟩ else s.resourceQuotas.get? ⟨m, j⟩ := by
  induction l generalizing s with
  | nil => exact ⟨rfl, rfl, rfl, fun m j => by simp⟩
  | cons ns l ih =>
    obtain ⟨hfrqs, hns, happ, hget⟩ := ih (s := s.createOrUpdate ⟨ns.name, name⟩ hard)
    refine ⟨hfrqs, hns, happ, fun m j => ?_⟩
    rw [List.foldl_cons, hget m j, get?_createOrUpdate]
    by_cases hj : j = name <;> by_cases hm : m = ns.name <;> by_cases hl : m ∈ l.map Namespace.name <;> simp_all

theorem mem_selected : n ∈ (s.selected c).map Namespace.name ↔ s.labelled n = some c.value := by
  rw [Cluster.labelled, bind_eq_some_iff]
  simp only [Cluster.selected, List.mem_map, List.mem_filter, decide_eq_true_eq, get?_eq_some_iff]
  exact ⟨fun ⟨ns, ⟨hmem, hl⟩, hname⟩ => ⟨ns, ⟨hmem, hname⟩, hl⟩, fun ⟨ns, ⟨hmem, hname⟩, hl⟩ => ⟨ns, ⟨hmem, hl⟩, hname⟩⟩

theorem held_project (c : ServiceClass) :
    (s.project frq).held n c = if c = frq.spec.serviceClass ∧ s.labelled n = some c.value then
      some ⟨⟨n, quotaName c⟩, buildResourceList frq.spec⟩ else s.held n c := by
  unfold Cluster.project Cluster.held
  rw [(foldl_createOrUpdate _ _ _).2.2.2]
  simp only [mem_selected]
  by_cases hc : c = frq.spec.serviceClass
  · rw [hc]
    simp
  · rw [if_neg (fun h => hc (quotaName_inj h.1)), if_neg (fun h => hc h.1)]

/-! ## One step -/

/-- What is there to stay does, and all that is left was there, with its spec. -/
structure Carries (f g : Keyed FrameResourceQuota FrameResourceQuota.key) : Prop where
  stays : ∀ k a, f.get? k = some a → a.deleting = false → ∃ b, g.get? k = some b ∧ b.deleting = false ∧ b.spec = a.spec
  origin : ∀ k b, g.get? k = some b → ∃ a, f.get? k = some a ∧ b.spec = a.spec

theorem Carries.offers (h : Carries s.frameResourceQuotas t.frameResourceQuotas)
    {hard : List (String × Limit)} (ho : s.offers c hard) :
    t.offers c hard := by
  obtain ⟨k, a, ha, hlive, hclass, hhard⟩ := ho
  obtain ⟨b, hb, hlive', hspec⟩ := h.stays k a ha hlive
  exact ⟨k, b, hb, hlive', by rw [hspec, hclass], by rw [hspec, hhard]⟩

theorem carries_modify {t : Keyed FrameResourceQuota FrameResourceQuota.key} (k : NamespacedName)
    {f : FrameResourceQuota → FrameResourceQuota} (hf : ∀ a, (f a).key = a.key)
    (h : ∀ a, (f a).deleting = a.deleting ∧ (f a).spec = a.spec) : Carries t (t.modify k f hf) := by
  refine ⟨fun j a ha hlive => ?_, fun j b hb => ?_⟩
  · rw [get?_modify]
    split
    · exact ⟨f a, by rw [ha, map_some], (h a).1.trans hlive, (h a).2⟩
    · exact ⟨a, ha, hlive, rfl⟩
  · rw [get?_modify] at hb
    split at hb
    · obtain ⟨a, ha, rfl⟩ := map_eq_some_iff.mp hb
      exact ⟨a, ha, (h a).2⟩
    · exact ⟨b, hb, rfl⟩

/-- A change that takes nothing away that a ResourceQuota was projected for. -/
theorem Projected.of_change (h : Projected s) (happ : t.applied = []) (hheld : ∀ n c, t.held n c = s.held n c)
    (hlabel : ∀ n c, s.held n c ≠ none → s.labelled n = some c.value → t.labelled n = some c.value)
    (hoffer : ∀ n c hard, s.held n c ≠ none → s.offers c hard → ∃ hard, t.offers c hard) : Projected t where
  grounded := by
    intro n c hne
    rw [hheld] at hne
    obtain ⟨hl, hard, ho⟩ := h.grounded n c hne
    exact ⟨hlabel n c hne hl, hoffer n c hard hne ho⟩
  applied := by
    intro k hk
    rw [happ] at hk
    cases hk

theorem Projected.updateFinalizers (h : Projected s) (hfrq : s.frameResourceQuotas.get? key = some frq) (finalizers : List String) :
    Projected (s.updateFinalizers frq finalizers) := by
  have hkey : frq.key = key := key_of_get? hfrq
  have hkept : ∀ frqs, Carries s.frameResourceQuotas frqs → Projected { s with frameResourceQuotas := frqs } := by
    intro frqs hc
    refine ⟨fun n c hne => ?_, fun k hk b hb n hl => ?_⟩
    · obtain ⟨hl, hard, ho⟩ := h.grounded n c hne
      exact ⟨hl, hard, Carries.offers hc ho⟩
    · obtain ⟨a, ha, hspec⟩ := hc.origin k b hb
      rw [hspec] at hl ⊢
      obtain ⟨q, hheld, ho⟩ := h.applied k hk a ha n hl
      exact ⟨q, hheld, Carries.offers hc ho⟩
  unfold Cluster.updateFinalizers
  split
  · rename_i hgone
    refine hkept _ ⟨fun j a ha hlive => ⟨a, ?_, hlive, rfl⟩, fun j b hb => ?_⟩
    · simp only [get?_erase]
      rw [if_neg, ha]
      rintro rfl
      rw [hkey, hfrq] at ha
      cases ha
      rw [hgone.1] at hlive
      cases hlive
    · simp only [get?_erase] at hb
      split at hb
      · cases hb
      · exact ⟨b, hb, rfl⟩
  · refine hkept _ (carries_modify frq.key _ ?_)
    exact fun _ => ⟨rfl, rfl⟩

/-- A pass that projects keeps what is projected. -/
theorem Projected.project (h : Projected s) (hfrq : s.frameResourceQuotas.get? key = some frq) (hlive : frq.deleting = false) :
    Projected ((s.project frq).patchStatus frq) := by
  have hkey : frq.key = key := key_of_get? hfrq
  obtain ⟨hfrqs, hns, happ, -⟩ := foldl_createOrUpdate (s := s) (s.selected frq.spec.serviceClass) (quotaName frq.spec.serviceClass)
    (buildResourceList frq.spec)
  have hp : (s.project frq).frameResourceQuotas = s.frameResourceQuotas := hfrqs
  have hc : Carries s.frameResourceQuotas ((s.project frq).patchStatus frq).frameResourceQuotas := by
    rw [← hp]
    refine carries_modify frq.key (fun _ => ?_) (fun _ => ?_)
    · rfl
    · exact ⟨rfl, rfl⟩
  have hlabelled : ∀ n, ((s.project frq).patchStatus frq).labelled n = s.labelled n := fun n => by
    show (((s.project frq).namespaces.get? n).bind _) = _
    rw [Cluster.project, hns, Cluster.labelled]
  have hheld : ∀ n c, ((s.project frq).patchStatus frq).held n c = (s.project frq).held n c := fun _ _ => rfl
  have hown : s.offers frq.spec.serviceClass (buildResourceList frq.spec) := ⟨key, frq, hfrq, hlive, rfl, rfl⟩
  constructor
  · intro n c hne
    rw [hheld, held_project] at hne
    rw [hlabelled]
    split at hne
    · rename_i hown'
      exact ⟨hown'.2, _, hc.offers (hown'.1 ▸ hown)⟩
    · obtain ⟨hl, hard, ho⟩ := h.grounded n c hne
      exact ⟨hl, hard, hc.offers ho⟩
  · intro k hk b hb n hl
    rw [hlabelled] at hl
    obtain ⟨a, ha, hspec⟩ := hc.origin k b hb
    rw [hspec] at hl ⊢
    rw [hheld, held_project]
    by_cases hclass : a.spec.serviceClass = frq.spec.serviceClass
    · rw [if_pos ⟨hclass, hl⟩]
      exact ⟨_, rfl, hc.offers (hclass ▸ hown)⟩
    rw [if_neg fun h => hclass h.1]
    have hk : k ∈ s.applied := by
      rcases List.mem_cons.mp hk with rfl | hk
      · rw [hkey, hfrq] at ha
        cases ha
        exact absurd rfl hclass
      · exact happ ▸ hk
    obtain ⟨q, hq, ho⟩ := h.applied k hk a ha n hl
    exact ⟨q, hq, hc.offers ho⟩

/-- Every step that stays keeps what is projected. -/
theorem Projected.step (h : Projected s) {i : Input} (hi : Stays s i) : Projected (s.step i) := by
  cases i with
  | pass key =>
    simp only [Cluster.step, Cluster.reconcile]
    split
    · exact h
    rename_i frq hfrq
    split
    · exact h.updateFinalizers hfrq _
    rename_i hlive
    split
    · exact h.project hfrq (Bool.eq_false_iff.mpr hlive)
    · exact h.updateFinalizers hfrq _
  | create key spec =>
    refine h.of_change rfl (fun _ _ => rfl) (fun _ _ _ hl => hl) fun n c hard _ ho => ⟨hard, ?_⟩
    obtain ⟨k, a, ha, hrest⟩ := ho
    exact ⟨k, a, get?_insertNew_of_some ha _, hrest⟩
  | edit key spec =>
    refine h.of_change rfl (fun _ _ => rfl) (fun _ _ _ hl => hl) fun n c hard hne ho => ?_
    obtain ⟨k, a, ha, hlive, hclass, -⟩ := ho
    by_cases hk : k = key
    · subst hk
      rcases hi a ha with hsame | hnone
      · exact ⟨_, k, { a with spec := spec, generation := a.generation + 1 }, by simp [Cluster.step, get?_modify, ha], hlive,
          hsame.trans hclass, rfl⟩
      · exact absurd (hclass ▸ hnone n) hne
    · exact ⟨_, k, a, by simp [Cluster.step, get?_modify, hk, ha], hlive, hclass, rfl⟩
  | delete key =>
    simp only [Cluster.step]
    split
    · rename_i frq hfrq
      have hother : ∀ n c hard, s.held n c ≠ none → s.offers c hard → ∃ k a, k ≠ key ∧ s.frameResourceQuotas.get? k = some a ∧
          a.deleting = false ∧ a.spec.serviceClass = c := by
        rintro n c hard hne ⟨k, a, ha, hlive, hclass, -⟩
        refine ⟨k, a, ?_, ha, hlive, hclass⟩
        rintro rfl
        exact hne (hclass ▸ hi a ha n)
      split
      · refine h.of_change rfl (fun _ _ => rfl) (fun _ _ _ hl => hl) fun n c hard hne ho => ?_
        obtain ⟨k, a, hk, ha, hlive, hclass⟩ := hother n c hard hne ho
        exact ⟨_, k, a, by simp [get?_erase, hk, ha], hlive, hclass, rfl⟩
      · refine h.of_change rfl (fun _ _ => rfl) (fun _ _ _ hl => hl) fun n c hard hne ho => ?_
        obtain ⟨k, a, hk, ha, hlive, hclass⟩ := hother n c hard hne ho
        exact ⟨_, k, a, by simp [get?_modify, hk, ha], hlive, hclass, rfl⟩
    · exact h
  | createNamespace name value =>
    refine h.of_change rfl (fun _ _ => rfl) (fun n c _ hl => ?_) fun n c hard _ ho => ⟨hard, ho⟩
    obtain ⟨ns, hns, hvalue⟩ := bind_eq_some_iff.mp hl
    simp only [Cluster.labelled, Cluster.step, get?_insertNew_of_some hns, bind_some, hvalue]
  | label name value =>
    refine h.of_change rfl (fun _ _ => rfl) (fun n c hne hl => ?_) fun n c hard _ ho => ⟨hard, ho⟩
    obtain ⟨ns, hns, hvalue⟩ := bind_eq_some_iff.mp hl
    simp only [Cluster.labelled, Cluster.step, get?_modify]
    split
    · rename_i hn
      subst hn
      rw [hns]
      exact hi c hne
    · rw [hns, bind_some, hvalue]

/-- The cluster after a run that begins with nothing. -/
def after (is : List Input) : Cluster := (run (silent Cluster.step) {} is).1

/-- The ResourceQuotas follow the labels after a round, where labels and classes stay once something was projected. -/
theorem quotas_follow (is : List Input) (hm : Meets (silent Cluster.step) Stays {} is) (hs : (after is).Settled) :
    (after is).Follows := by
  have hinit : Projected {} := ⟨fun n c hne => absurd rfl hne, nofun⟩
  have h : Projected (after is) := silent_induct (I := Projected) hinit (fun s i h hi => h.step hi) is hm
  generalize after is = s at h hs
  have hhard : ∀ n k frq, s.frameResourceQuotas.get? k = some frq → s.labelled n = some frq.spec.serviceClass.value →
      ∃ q, s.held n frq.spec.serviceClass = some q ∧ s.offers frq.spec.serviceClass q.hard :=
    fun n k frq hfrq hl => h.applied k (hs k frq hfrq).2 frq hfrq n hl
  intro n c
  refine ⟨⟨fun hsome => ?_, ?_⟩, fun q hq => ?_⟩
  · obtain ⟨hl, hard, k, frq, hfrq, -, hclass, -⟩ := h.grounded n c (Option.isSome_iff_ne_none.mp hsome)
    exact ⟨hl, k, frq, hfrq, hclass⟩
  · rintro ⟨hl, k, frq, hfrq, rfl⟩
    obtain ⟨q, hq, -⟩ := hhard n k frq hfrq hl
    rw [hq]
    rfl
  · obtain ⟨hl, hard, k, frq, hfrq, -, rfl, -⟩ := h.grounded n c (by rw [hq]; exact nofun)
    obtain ⟨q', hq', k', frq', hfrq', -, hclass, hb⟩ := hhard n k frq hfrq hl
    rw [hq] at hq'
    cases hq'
    exact ⟨k', frq', hfrq', hclass, hb.symm⟩

theorem settled_of_all (h : s.frameResourceQuotas.items.all (fun frq => !frq.deleting && frq.key ∈ s.applied) = true) : s.Settled := by
  intro k frq hfrq
  have hone := List.all_eq_true.mp h frq (mem_of_get? hfrq)
  rw [key_of_get? hfrq] at hone
  simpa using hone

namespace QuotaFixture

def tier : NamespacedName := ⟨"infra", "tier"⟩

def projected : List Input :=
  [.createNamespace "team" (some "HIGH"), .create tier { serviceClass := .HIGH, maxJobs := 4 }, .pass tier, .pass tier]

def relabelled : List Input := projected ++ [.label "team" (some "LOW"), .pass tier]

end QuotaFixture

open QuotaFixture in
/-- The label of a Namespace is changed, and the ResourceQuota of the former class stays, whatever is reconciled again. -/
theorem quota_stays : (after relabelled).Settled ∧ (after relabelled).labelled "team" = some "LOW" ∧
    ((after relabelled).held "team" .HIGH).isSome ∧ ¬(after relabelled).Follows := by
  have hlabel : (after relabelled).labelled "team" = some "LOW" := by decide +kernel
  have hheld : ((after relabelled).held "team" .HIGH).isSome := by decide +kernel
  refine ⟨settled_of_all (by decide +kernel), hlabel, hheld, fun h => ?_⟩
  have hl := ((h "team" .HIGH).1.mp hheld).1
  rw [hlabel] at hl
  revert hl
  decide

open QuotaFixture in
/-- A class is projected onto a Namespace. -/
theorem quotas_follow_projected : Meets (silent Cluster.step) Stays {} projected ∧ (after projected).Settled ∧
    (after projected).Follows := by
  have hm : Meets (silent Cluster.step) Stays {} projected := ⟨trivial, trivial, trivial, trivial, trivial⟩
  have hs : (after projected).Settled := settled_of_all (by decide +kernel)
  exact ⟨hm, hs, quotas_follow _ hm hs⟩

end FrameOperator.Quotas
