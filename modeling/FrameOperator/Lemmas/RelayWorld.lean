import FrameOperator.Lemmas.RelaySteps
import FrameOperator.Lib.Charter

/-!
# What happens to an alert and its records

The relay's records of an alert change only in its own writes, whatever receivers and others do meanwhile (`Kept`), and the tenants
are told only by its own notifications.
-/

namespace FrameOperator.Alerting

open Versioned List Api Relay

namespace World

def records (w : World) (key : NamespacedName) : Option (List AlertDelivery) := (w.alerts.value? key).map FrameAlert.deliveries

def record (w : World) (key : NamespacedName) (sub : String) : Option AlertDelivery := (w.records key).bind (existing · sub)

def used (w : World) (name : String) : Prop := ∃ v ∈ w.subscriptions.past, v.val.name = name
deriving Decidable

def gone (w : World) (name : String) : Prop := w.used name ∧ w.subscriptions.value? name = none

theorem used_of_value? {w : World} {name : String} {sub : FrameAlertSubscription} (h : w.subscriptions.value? name = some sub) :
    w.used name := by
  obtain ⟨r, hr⟩ := value?_eq_some h
  exact ⟨_, past_of_get? hr⟩

/-- The record agrees with what the tenant was told: it is open while the tenant last heard that the alert fires. -/
def Agrees (w : World) (key : NamespacedName) (sub : String) : Prop :=
  shown (w.record key sub) = some .firing ↔ (w.heard sub).getLast? = some .firing
deriving Decidable

end World

/-! ## Receivers -/

structure Carried (fa fa' : FrameAlert) : Prop where
  deliveries : fa'.deliveries = fa.deliveries
  creationTimestamp : fa'.creationTimestamp = fa.creationTimestamp

variable (alerts : Alerts)

theorem receive_carried (clock : Time) (r : Receiver.Request) (key : NamespacedName) :
    (∀ fa, alerts.value? key = some fa → ∃ fa', (alerts.receive clock r).1.value? key = some fa' ∧ Carried fa fa') ∧
      (alerts.value? key = none →
        (alerts.receive clock r).1.value? key = none ∨ ∃ fa', (alerts.receive clock r).1.value? key = some fa' ∧
          fa'.deliveries = []) := by
  have hmodify : ∀ (k : NamespacedName) (f : FrameAlert → FrameAlert) (hf : ∀ fa, (f fa).key = fa.key), (∀ fa, Carried fa (f fa)) →
      (∀ fa, alerts.value? key = some fa → ∃ fa', (alerts.modify k f hf).value? key = some fa' ∧ Carried fa fa') ∧
        (alerts.value? key = none → (alerts.modify k f hf).value? key = none ∨
          ∃ fa', (alerts.modify k f hf).value? key = some fa' ∧ fa'.deliveries = []) := by
    intro k f hf hcarried
    rw [value?_modify]
    refine ⟨fun fa h => ?_, fun h => .inl ?_⟩
    · rw [h]
      split
      · exact ⟨f fa, rfl, hcarried fa⟩
      · exact ⟨fa, rfl, rfl, rfl⟩
    · rw [h]
      split <;> rfl
  cases r with
  | getAlert k => exact ⟨fun fa h => ⟨fa, h, rfl, rfl⟩, fun h => .inl h⟩
  | createAlert fa =>
    rcases add_cases alerts (fa.created clock) with ⟨-, hadd, -⟩ | ⟨-, hadd, -⟩
    · have hreceive : (alerts.receive clock (.createAlert fa)).1 = alerts.create (fa.created clock) := hadd
      rw [hreceive, value?_create]
      refine ⟨fun cur h => ?_, fun h => ?_⟩
      · rw [if_neg fun hc => by rw [hc.2, hc.1] at h; cases h]
        exact ⟨cur, h, rfl, rfl⟩
      · split
        · exact .inr ⟨_, rfl, rfl⟩
        · exact .inl h
    · have hreceive : (alerts.receive clock (.createAlert fa)).1 = alerts := hadd
      rw [hreceive]
      exact ⟨fun fa h => ⟨fa, h, rfl, rfl⟩, fun h => .inl h⟩
  | patchSpec | patchStatus => exact hmodify _ _ _ fun _ => ⟨rfl, rfl⟩

theorem exec_receive (fate : Fate Fault) (clock : Time) (r : Receiver.Request) :
    (alerts.exec fate clock r).1 = (alerts.receive clock r).1 ∨ (alerts.exec fate clock r).1 = alerts := by
  cases r <;> cases fate <;> first | exact .inl rfl | exact .inr rfl

theorem exec_carried (fate : Fate Fault) (clock : Time) (r : Receiver.Request) (key : NamespacedName) :
    (∀ fa, alerts.value? key = some fa → ∃ fa', (alerts.exec fate clock r).1.value? key = some fa' ∧ Carried fa fa') ∧
      (alerts.value? key = none →
        (alerts.exec fate clock r).1.value? key = none ∨ ∃ fa', (alerts.exec fate clock r).1.value? key = some fa' ∧
          fa'.deliveries = []) := by
  rcases exec_receive alerts fate clock r with h | h <;> rw [h]
  · exact receive_carried alerts clock r key
  · exact ⟨fun fa h => ⟨fa, h, rfl, rfl⟩, fun h => .inl h⟩

/-! ## What happens beside the relay -/

/-- A name is not used again. -/
def FreshName (w : World) : Outside → Prop
  | .subscribe sub => ¬w.used sub.name
  | _ => True

instance (w : World) (o : Outside) : Decidable (FreshName w o) := by
  cases o <;> unfold FreshName <;> infer_instance

namespace World

structure Kept (key : NamespacedName) (w w' : World) : Prop where
  alert : ∀ fa, w.alerts.value? key = some fa → ∃ fa', w'.alerts.value? key = some fa' ∧ Carried fa fa'
  absent : w.alerts.value? key = none → w'.alerts.value? key = none ∨ ∃ fa', w'.alerts.value? key = some fa' ∧ fa'.deliveries = []
  used : ∀ name, w.used name → w'.used name
  gone : ∀ name, w.gone name → w'.gone name
  creation : ∀ name sub sub', w.subscriptions.value? name = some sub → w'.subscriptions.value? name = some sub' →
    sub'.creationTimestamp = sub.creationTimestamp

variable {key : NamespacedName}

variable {sub : FrameAlertSubscription} {u v : World}

theorem Kept.meanwhile (h : Kept key u v) {name : String} (hu : u.subscriptions.value? name = some sub) (hv : ¬v.gone name) :
    ∃ sub', v.subscriptions.value? name = some sub' := by
  cases hsub : v.subscriptions.value? name with
  | some sub' => exact ⟨sub', rfl⟩
  | none => exact absurd ⟨h.used name (used_of_value? hu), hsub⟩ hv

theorem Kept.refl (w : World) : Kept key w w := by
  refine ⟨fun fa h => ⟨fa, h, rfl, rfl⟩, .inl, fun _ h => h, fun _ h => h, fun name sub sub' h h' => ?_⟩
  rw [h] at h'
  cases h'
  rfl

theorem not_gone_of_value? {w : World} {name : String} (h : w.subscriptions.value? name = some sub) :
    ¬w.gone name := by
  rintro ⟨-, hn⟩
  rw [h] at hn
  cases hn

theorem Kept.trans {u v w : World} (h : Kept key u v) (h' : Kept key v w) : Kept key u w := by
  refine ⟨fun fa hfa => ?_, fun hn => ?_, fun n hn => h'.used n (h.used n hn), fun n hn => h'.gone n (h.gone n hn),
    fun n sub sub' hu hw => ?_⟩
  · obtain ⟨fa', hfa', hc⟩ := h.alert fa hfa
    obtain ⟨fa'', hfa'', hc'⟩ := h'.alert fa' hfa'
    exact ⟨fa'', hfa'', hc'.deliveries.trans hc.deliveries, hc'.creationTimestamp.trans hc.creationTimestamp⟩
  · rcases h.absent hn with hv | ⟨fa, hfa, hd⟩
    · exact h'.absent hv
    · obtain ⟨fa', hfa', hc⟩ := h'.alert fa hfa
      exact .inr ⟨fa', hfa', hc.deliveries.trans hd⟩
  · obtain ⟨mid, hmid⟩ := h.meanwhile hu fun hg => not_gone_of_value? hw (h'.gone n hg)
    rw [h'.creation n mid sub' hmid hw, h.creation n sub mid hu hmid]

variable {ds : List AlertDelivery}

/-- What others do leaves the records of the alert. -/
theorem Kept.records (h : Kept key u v) (hu : u.records key = some ds) :
    v.records key = some ds := by
  obtain ⟨fa, hfa, rfl⟩ := Option.map_eq_some_iff.mp hu
  obtain ⟨fa', hfa', hc⟩ := h.alert fa hfa
  rw [World.records, hfa', Option.map_some, hc.deliveries]

theorem Kept.record (h : Kept key u v) (sub : String) : v.record key sub = u.record key sub := by
  unfold World.record
  cases hu : u.records key with
  | some ds => rw [h.records hu]
  | none =>
    rcases h.absent (Option.map_eq_none_iff.mp hu) with hv | ⟨fa, hfa, hd⟩
    · simp [World.records, hv]
    · simp [World.records, hfa, hd, existing]

/-- What others do leaves a record in agreement. -/
theorem Kept.agrees (h : Kept key u v) (htold : v.told = u.told) {sub : String} (ha : u.Agrees key sub) :
    v.Agrees key sub := by
  unfold Agrees World.heard at ha ⊢
  rw [h.record, htold]
  exact ha

variable {w w' : World}

theorem Kept.of_subscriptions (halerts : w'.alerts = w.alerts) (hused : ∀ n, w.used n → w'.used n)
    (hsubs : ∀ n, w.used n → w'.subscriptions.value? n = none ∨
      ∃ f : FrameAlertSubscription → FrameAlertSubscription,
        w'.subscriptions.value? n = (w.subscriptions.value? n).map f ∧ ∀ sub, (f sub).creationTimestamp = sub.creationTimestamp) :
    Kept key w w' := by
  refine ⟨fun fa h => ⟨fa, by rw [halerts, h], rfl, rfl⟩, fun h => .inl (by rw [halerts, h]), hused, fun n h => ⟨hused n h.1, ?_⟩,
    fun n sub sub' h h' => ?_⟩
  · rcases hsubs n h.1 with hn | ⟨f, hf, -⟩
    · exact hn
    · rw [hf, h.2]
      rfl
  · rcases hsubs n (used_of_value? h) with hn | ⟨f, hf, hcreation⟩
    · rw [hn] at h'
      cases h'
    · rw [hf, h] at h'
      cases h'
      exact hcreation sub

theorem Kept.of_same (halerts : w'.alerts = w.alerts) (hsubs : w'.subscriptions = w.subscriptions) : Kept key w w' := by
  refine .of_subscriptions halerts (fun n h => ?_) fun n _ => .inr ⟨id, by rw [hsubs, Option.map_id]; rfl, fun _ => rfl⟩
  unfold World.used at h ⊢
  rwa [hsubs]

theorem Kept.of_alerts (hsubs : w'.subscriptions = w.subscriptions)
    (hthere : ∀ fa, w.alerts.value? key = some fa → ∃ fa', w'.alerts.value? key = some fa' ∧ Carried fa fa')
    (hnone : w.alerts.value? key = none → w'.alerts.value? key = none ∨ ∃ fa', w'.alerts.value? key = some fa' ∧ fa'.deliveries = []) :
    Kept key w w' := by
  have hsame : Kept key w { w' with alerts := w.alerts } := .of_same rfl hsubs
  exact ⟨hthere, hnone, hsame.used, hsame.gone, hsame.creation⟩

theorem outside_kept (namespaceName : String) (w : World) (o : Outside) (h : FreshName w o) :
    Kept key w (w.outside namespaceName o) ∧ (w.outside namespaceName o).told = w.told := by
  cases o with
  | report a now => exact ⟨.of_same rfl rfl, rfl⟩
  | receive i fate clock =>
    simp only [outside, receive]
    split
    · rename_i r next _
      obtain ⟨hthere, hnone⟩ := exec_carried w.alerts fate clock r key
      exact ⟨.of_alerts rfl hthere hnone, rfl⟩
    · exact ⟨.refl _, rfl⟩
  | subscribe sub =>
    refine ⟨.of_subscriptions rfl ?_ fun n hused => .inr ⟨id, ?_, fun _ => rfl⟩, rfl⟩
    · rintro n ⟨v, hv, hn⟩
      exact ⟨v, mem_past_create sub hv, hn⟩
    · have hne : n ≠ sub.name := fun heq => h (heq ▸ hused)
      simp only [outside, value?_create, hne, and_false, if_false, Option.map_id, id]
  | edit name spec =>
    refine ⟨.of_subscriptions rfl ?_ fun n _ => .inr ?_, rfl⟩
    · rintro n ⟨v, hv, hn⟩
      exact ⟨v, mem_past_modify _ _ _ hv, hn⟩
    · by_cases hn : n = name
      · exact ⟨FrameAlertSubscription.withSpec spec, by simp only [outside, value?_modify, hn, if_true], fun _ => rfl⟩
      · exact ⟨id, by simp only [outside, value?_modify, hn, if_false, Option.map_id, id], fun _ => rfl⟩
  | unsubscribe name =>
    refine ⟨.of_subscriptions rfl (fun _ h => h) fun n _ => ?_, rfl⟩
    by_cases hn : n = name
    · exact .inl (by simp only [outside, value?_remove, hn, if_true])
    · exact .inr ⟨id, by simp only [outside, value?_remove, hn, if_false, Option.map_id, id], fun _ => rfl⟩
  | setSecret k secret => exact ⟨.of_same rfl rfl, rfl⟩

/-! ## The relay's requests -/

theorem exec_tell {fa : FrameAlert} {r : Request} (h : MayTell fa sub r) (w : World) (a : Answer) :
    (w.exec r a).1 = { w with told := w.told ++ acceptedIn [⟨r, (w.exec r a).2⟩] } := by
  cases r with
  | getSecret key =>
    have hread : (w.exec (.getSecret key) a).1 = w := Fate.answer_read a.fate
    have hnone : ∀ answer, acceptedIn [⟨.getSecret key, answer⟩] = [] := fun _ => rfl
    rw [hread, hnone, append_nil]
  | post url token payload =>
    simp only [exec, acceptedIn, accepted, filterMap_cons, filterMap_nil]
    cases a.reply.accepts <;> simp
  | getAlert _ | listSubscriptions | patchDeliveries _ _ | deleteAlert _ _ => exact h.elim

structure Same (d d' : Option AlertDelivery) : Prop where
  shown : shown d = shown d'
  driven : keepDriving d = keepDriving d'
  isNone : d.isNone = d'.isNone

variable (d : Option AlertDelivery)

theorem Same.refl : Same d d := ⟨rfl, rfl, rfl⟩

theorem Same.stored : Same (d.map AlertDelivery.stored) d := by cases d <;> exact ⟨rfl, rfl, rfl⟩

theorem Same.symm {d d' : Option AlertDelivery} (h : Same d d') : Same d' d := ⟨h.shown.symm, h.driven.symm, h.isNone.symm⟩

theorem Same.trans {d d' d'' : Option AlertDelivery} (h : Same d d') (h' : Same d' d'') : Same d d'' :=
  ⟨h.shown.trans h'.shown, h.driven.trans h'.driven, h.isNone.trans h'.isNone⟩

theorem existing_map_stored (ds : List AlertDelivery) (sub : String) :
    existing (ds.map AlertDelivery.stored) sub = (existing ds sub).map AlertDelivery.stored := by
  induction ds using reverseRecOn with
  | nil => rfl
  | append_singleton ds d ih =>
    rw [map_append, map_cons, map_nil, existing_snoc, existing_snoc, ih, show d.stored.subscription = d.subscription from rfl]
    by_cases hd : d.subscription = sub
    · rw [if_pos hd, if_pos hd, Option.map_some]
    · rw [if_neg hd, if_neg hd]

theorem patchDeliveries_value? (base : FrameAlert) (next : List AlertDelivery) :
    (w.patchDeliveries base next).1.alerts.value? base.key = (w.alerts.value? base.key).map (base.withDeliveries next) := by
  have hmodify := value?_modify w.alerts base.key (base.withDeliveries next) (base.key_withDeliveries next) base.key
  rwa [if_pos rfl] at hmodify

variable {next : List AlertDelivery} {base : FrameAlert}

theorem patchDeliveries_records {w : World}
    (hbase : w.records base.key = some base.deliveries) (hold : ∀ d ∈ base.deliveries, Proper d) (hnext : ∀ d ∈ next, Proper d) :
    ∃ ds, (w.patchDeliveries base next).1.records base.key = some ds ∧ (∀ sub, Same (existing ds sub) (existing next sub)) ∧
      ∀ d ∈ ds, Proper d := by
  obtain ⟨cur, hcur, hdeliveries⟩ := Option.map_eq_some_iff.mp hbase
  refine ⟨(base.withDeliveries next cur).deliveries, by rw [records, patchDeliveries_value?, hcur]; rfl, ?_⟩
  simp only [FrameAlert.withDeliveries, mergePart]
  split
  · rename_i heq
    rw [hdeliveries]
    refine ⟨fun sub => ?_, hold⟩
    have hstored := existing_map_stored base.deliveries sub
    rw [heq, existing_map_stored] at hstored
    exact (Same.stored _).symm.trans (hstored ▸ Same.stored _)
  · refine ⟨fun sub => ?_, fun d hd => ?_⟩
    · rw [existing_map_stored]
      exact Same.stored _
    · obtain ⟨x, hx, rfl⟩ := mem_map.mp hd
      exact hnext x hx

theorem patchDeliveries_ok {w : World}
    (hbase : w.records base.key = some ds) : ∃ answer, (w.patchDeliveries base next).2 = .ok answer ∧ answer.val.key = base.key := by
  obtain ⟨cur, hcur, -⟩ := Option.map_eq_some_iff.mp hbase
  cases h : (w.patchDeliveries base next).2 with
  | ok answer => exact ⟨answer, rfl, (past_of_get? (read_ok h)).2⟩
  | error e =>
    have hnone : (w.patchDeliveries base next).1.alerts.value? base.key = none := (read_error h).2
    rw [patchDeliveries_value?, hcur] at hnone
    cases hnone

/-- A delete is refused, or of the version that was read. -/
theorem deleteAlert_cases (w : World) (key : NamespacedName) (rev : Nat) :
    (w.deleteAlert key rev).1 = w ∨
      ((w.deleteAlert key rev).1 = { w with alerts := w.alerts.remove key } ∧
        ∃ cur, w.alerts.get? key = some cur ∧ cur.rev = rev) := by
  unfold deleteAlert
  cases h : w.alerts.get? key with
  | none => exact .inl rfl
  | some cur =>
    dsimp only
    split
    · exact .inr ⟨rfl, cur, rfl, by assumption⟩
    · exact .inl rfl

end World

end FrameOperator.Alerting
