import FrameOperator.Theorems.AlertOrder

/-!
# Which alerts are purged

The relay deletes an alert under the precondition of a revision, which is the one its own patch was answered with: an alert that
fires again may be deleted (`purges_firing`).
-/

namespace FrameOperator.Alerting

open Option Api Relay World Versioned

variable {w w' : World} {r : Request} {next : List AlertDelivery}

/-- The alert is over, and every tenant was told. -/
def Closed (fa : FrameAlert) : Prop := fa.state = some .resolved ∧ ∀ d ∈ fa.deliveries, d.deliveredState = some .resolved

/-- An alert read as resolved is still so when its records are written. -/
def purgeRuns : Conditions Time World Answer Outside Request where
  answer _ w r _ :=
    match r with
    | .patchDeliveries base _ => base.state = some .resolved → ∀ cur ∈ w.alerts.value? base.key, cur.state = some .resolved
    | _ => True

instance : purgeRuns.Decides where
  answer _ w r _ :=
    match r with
    | .patchDeliveries base _ =>
      inferInstanceAs (Decidable (base.state = some .resolved → ∀ cur ∈ w.alerts.value? base.key, cur.state = some .resolved))
    | .getAlert _ | .listSubscriptions | .getSecret _ | .post _ _ _ | .deleteAlert _ _ => isTrue trivial

/-! ## What happens to an alert during a pass -/

namespace World

structure Lasts (key : NamespacedName) (w w' : World) : Prop where
  past : w.alerts.past ⊆ w'.alerts.past
  records : ∀ ds, w.records key = some ds → w'.records key = some ds

variable {key : NamespacedName}

theorem Lasts.refl (w : World) : Lasts key w w := ⟨fun _ h => h, fun _ h => h⟩

theorem Lasts.trans {u v : World} (h : Lasts key u v) (h' : Lasts key v w) : Lasts key u w :=
  ⟨fun _ hv => h'.past (h.past hv), fun ds hds => h'.records ds (h.records ds hds)⟩

theorem Lasts.of_alerts (h : w'.alerts = w.alerts) : Lasts key w w' := by
  refine ⟨fun v hv => by rwa [h], fun ds hds => ?_⟩
  rwa [World.records, h]

theorem Lasts.value? (h : Lasts key w w') {fa : FrameAlert} (hfa : w.alerts.value? key = some fa) :
    w'.alerts.value? key ≠ none := by
  intro hnone
  have hrecords := h.records fa.deliveries (by rw [World.records, hfa, map_some])
  rw [World.records, hnone] at hrecords
  cases hrecords

end World

theorem receive_past (alerts : Alerts) (clock : Time) (r : Receiver.Request) : alerts.past ⊆ (alerts.receive clock r).1.past := by
  cases r with
  | getAlert k => exact fun _ h => h
  | createAlert fa =>
    rcases add_cases alerts (fa.created clock) with ⟨-, hadd, -⟩ | ⟨-, hadd, -⟩
    · have hreceive : (alerts.receive clock (.createAlert fa)).1 = alerts.create (fa.created clock) := hadd
      rw [hreceive]
      exact fun _ h => mem_past_create _ h
    · have hreceive : (alerts.receive clock (.createAlert fa)).1 = alerts := hadd
      rw [hreceive]
      exact fun _ h => h
  | patchSpec | patchStatus => exact fun _ h => mem_past_modify _ _ _ h

/-- What others do leaves an alert that is there. -/
theorem outside_lasts (namespaceName : String) (key : NamespacedName) (w : World) (o : Outside) :
    Lasts key w (w.outside namespaceName o) := by
  cases o with
  | receive i fate clock =>
    simp only [outside, receive]
    split
    · rename_i r next _
      refine ⟨?_, fun ds hds => ?_⟩
      · rcases exec_receive w.alerts fate clock r with h | h
        · exact fun _ hv => by rw [h]; exact receive_past _ _ _ hv
        · exact fun _ hv => by rw [h]; exact hv
      · obtain ⟨fa, hfa, rfl⟩ := map_eq_some_iff.mp hds
        obtain ⟨fa', hfa', hcarried⟩ := (exec_carried w.alerts fate clock r key).1 fa hfa
        rw [World.records, hfa', map_some, hcarried.deliveries]
    · exact .refl w
  | report _ _ | subscribe _ | edit _ _ | unsubscribe _ | setSecret _ _ => exact .of_alerts rfl

def Tells : Request → Prop
  | .getSecret _ | .post _ _ _ => True
  | .getAlert _ | .listSubscriptions | .patchDeliveries _ _ | .deleteAlert _ _ => False

theorem exec_alerts (h : Tells r) (w : World) (a : Answer) : (w.exec r a).1.alerts = w.alerts := by
  cases r with
  | getSecret key => exact congrArg World.alerts (Fate.answer_read (a := w.readSecret key) a.fate)
  | post url token payload =>
    simp only [World.exec]
    split <;> rfl
  | getAlert _ | listSubscriptions | patchDeliveries _ _ | deleteAlert _ _ => exact h.elim

section Tells

variable {env : Env} {fa : FrameAlert} {state : AlertState} {now : Time}

theorem sendAll_tells (sub : FrameAlertSubscription) (token : Bytes) (seq : List AlertState) (d : AlertDelivery)
    (past : List (Called Request.Resp)) :
    (sendAll sub fa token state now seq d).Traced (fun _ _ => True) (fun _ r => Tells r) (fun _ _ => True) past := by
  induction seq generalizing d past with
  | nil => exact trivial
  | cons st rest ih =>
    unfold sendAll
    split
    · exact ih d past
    refine traced_ask trivial fun reply _ => ?_
    dsimp only
    split
    · exact trivial
    · exact ih _ _

theorem deliver_tells (sub : FrameAlertSubscription) (d : AlertDelivery) (past : List (Called Request.Resp)) :
    (deliver env sub fa d state now).Traced (fun _ _ => True) (fun _ r => Tells r) (fun _ _ => True) past := by
  unfold deliver
  split
  · exact trivial
  split
  · exact trivial
  refine traced_ask trivial fun answer _ => ?_
  cases readToken sub answer with
  | ok token => exact sendAll_tells sub token _ d _
  | error e => cases e <;> exact trivial

theorem relayAll_tells (subs : List FrameAlertSubscription) (next : List AlertDelivery) (requeue : Duration)
    (past : List (Called Request.Resp)) :
    (relayAll env fa state now subs next requeue).Traced (fun _ _ => True) (fun _ r => Tells r) (fun _ _ => True) past := by
  induction subs generalizing next requeue past with
  | nil => exact trivial
  | cons sub subs ih =>
    have hrelay : (relay env fa state now sub).Traced (fun _ _ => True) (fun _ r => Tells r) (fun _ _ => True) past := by
      simp [relay, (deliver_tells sub _ past).bind]
    exact hrelay.bind fun r later _ _ => ih _ _ later

end Tells

/-! ## A pass -/

/-- A deletion is of an alert that was closed in the version that the precondition names. -/
def Justifies (key : NamespacedName) (w : World) : Request → Prop
  | .deleteAlert k rev => k = key ∧ ∃ v ∈ w.alerts.past, v.rev = rev ∧ v.val.key = key ∧ Closed v.val
  | .getAlert _ | .listSubscriptions | .getSecret _ | .post _ _ _ | .patchDeliveries _ _ => True

theorem Justifies.lasts {key : NamespacedName} (h : Justifies key w r) (hl : Lasts key w w') :
    Justifies key w' r := by
  cases r with
  | deleteAlert k rev =>
    obtain ⟨hk, v, hv, hclosed⟩ := h
    exact ⟨hk, v, hl.past hv, hclosed⟩
  | getAlert _ | listSubscriptions | getSecret _ | post _ _ _ | patchDeliveries _ _ => exact trivial

/-- A call that removes an alert removes one that is closed. -/
theorem Justifies.closed {key : NamespacedName} (h : Justifies key w r) (a : Answer) {cur : FrameAlert}
    (hcur : w.alerts.value? key = some cur) (hgone : (w.exec r a).1.alerts.value? key = none) : Closed cur := by
  have hstays : (w.exec r a).1.alerts = w.alerts → Closed cur := by
    intro hsame
    rw [hsame, hcur] at hgone
    cases hgone
  cases r with
  | getAlert _ | listSubscriptions => exact hstays (congrArg World.alerts (Fate.answer_read a.fate))
  | getSecret k => exact hstays (exec_alerts (r := .getSecret k) trivial w a)
  | post url token payload => exact hstays (exec_alerts (r := .post url token payload) trivial w a)
  | patchDeliveries base next =>
    have hkept : (w.patchDeliveries base next).1.alerts.value? key ≠ none := by
      rw [show (w.patchDeliveries base next).1.alerts.value? key = _ from value?_modify _ _ _ _ _, hcur]
      split <;> exact some_ne_none _
    have hbefore : w.alerts.value? key ≠ none := hcur ▸ some_ne_none _
    exact absurd hgone (Fate.answer_state (P := fun u : World => u.alerts.value? key ≠ none) a.fate hbefore hkept)
  | deleteAlert k rev =>
    obtain ⟨rfl, v, hv, hrev, -, hclosed⟩ := h
    have hcases : (w.exec (.deleteAlert k rev) a).1 = w ∨ (w.exec (.deleteAlert k rev) a).1 = (w.deleteAlert k rev).1 :=
      Fate.answer_state (P := fun u => u = w ∨ u = (w.deleteAlert k rev).1) a.fate (.inl rfl) (.inr rfl)
    rcases hcases with h | h
    · exact hstays (congrArg World.alerts h)
    rcases deleteAlert_cases w k rev with hsame | ⟨-, x, hx, hxrev⟩
    · exact hstays (congrArg World.alerts (h.trans hsame))
    have heq := w.alerts.past_inj x (past_of_get? hx).1 v hv (hxrev.trans hrev.symm)
    rw [value?_of_get? hx] at hcur
    cases hcur
    rwa [heq]

def purgeDuties (key : NamespacedName) (now : Time) : Duties World Answer Request.Resp where
  inv _ := True
  rely := Lasts key
  allow := purgeRuns.answer now
  guar _ := Justifies key

section Pass

variable {env : Env} {key : NamespacedName} {now : Time} {past : List (Called Request.Resp)} {fa : Stamped FrameAlert}

variable {state : AlertState} {requeue : Duration}

/-- The purge asks only what it is justified to. -/
theorem purge_checks {t : World}
    (h : state = .resolved → allDelivered next state = true → Justifies key t (.deleteAlert fa.val.key fa.rev)) :
    (purge env fa next state now requeue).Honours World.exec (purgeDuties key now) (fun _ _ _ => True) past t := by
  unfold purge
  split
  · exact trivial
  split
  · rename_i hdone
    simp only [Bool.and_eq_true, decide_eq_true_eq] at hdone
    dsimp only
    split
    · exact trivial
    intro u _ hl
    refine ⟨(h hdone.1 hdone.2).lasts hl, fun a _ => ⟨trivial, ?_⟩⟩
    cases (u.exec (.deleteAlert fa.val.key fa.rev) a).2 with
    | ok _ => exact trivial
    | error e => cases e <;> exact trivial
  · exact trivial

theorem closed_withDeliveries {fa cur : FrameAlert} (hcur : cur.deliveries = fa.deliveries)
    (hstate : cur.state = some .resolved) (hall : allDelivered next .resolved = true) : Closed (fa.withDeliveries next cur) := by
  refine ⟨hstate, fun d hd => ?_⟩
  have hnext : ∀ x ∈ next, x.stored.deliveredState = some .resolved := by
    intro x hx
    have hx' : x.deliveredState = some .resolved := by simpa using List.all_eq_true.mp hall x hx
    exact hx'
  simp only [FrameAlert.withDeliveries, mergePart] at hd
  split at hd
  · -- the patch says nothing of the records, as they are the same once stored
    rename_i heq
    rw [hcur] at hd
    obtain ⟨x, hx, hstored⟩ := List.mem_map.mp (heq ▸ List.mem_map_of_mem hd : d.stored ∈ next.map AlertDelivery.stored)
    rw [← hnext x hx, hstored]
    rfl
  · obtain ⟨x, hx, rfl⟩ := List.mem_map.mp hd
    exact hnext x hx

theorem writeDeliveries_checks {t : World}
    (hkey : fa.val.key = key) (hpast : fa ∈ t.alerts.past) (hrecords : t.records key = some fa.val.deliveries)
    (hstate : fa.val.state = some state) :
    (writeDeliveries env fa next state now requeue).Honours World.exec (purgeDuties key now) (fun _ _ _ => True) past t := by
  unfold writeDeliveries
  split
  · rename_i hsame
    refine purge_checks fun hres hall => ⟨hkey, fa, hpast, rfl, hkey, hres ▸ hstate, fun d hd => ?_⟩
    rw [hres] at hall
    simpa using List.all_eq_true.mp hall d (hsame ▸ hd)
  · intro u _ hl
    refine ⟨trivial, fun a hok => ⟨trivial, ?_⟩⟩
    cases hanswer : (u.exec (.patchDeliveries fa.val next) a).2 with
    | error e => exact trivial
    | ok answer =>
      have hexec : u.exec (.patchDeliveries fa.val next) a = u.patchDeliveries fa.val next := Fate.answer_ok hanswer
      rw [hexec] at hanswer ⊢
      obtain ⟨hget, cur, hcur, hval⟩ := patch_ok hanswer
      obtain ⟨hthere, hanswerkey⟩ := past_of_get? hget
      have hdeliveries : cur.deliveries = fa.val.deliveries := by
        have hnow := hl.records _ hrecords
        rw [World.records, ← hkey, hcur] at hnow
        exact some.inj hnow
      refine purge_checks fun hres hall => ⟨hanswerkey.trans hkey, answer, hthere, rfl, hanswerkey.trans hkey, ?_⟩
      subst hres
      rw [hval]
      exact closed_withDeliveries hdeliveries (hok hstate cur hcur) hall

theorem reconcile_checks (s : World) :
    (reconcile env key now).Honours World.exec (purgeDuties key now) (fun _ _ _ => True) [] s := by
  unfold reconcile
  refine honours_ask (fun _ _ _ _ _ _ => trivial) fun t _ _ => ⟨trivial, fun a _ _ => ?_⟩
  cases hanswer : (t.exec (.getAlert key) a).2 with
  | error e => cases e <;> exact trivial
  | ok fa =>
    have hget := getAlert_ok hanswer
    obtain ⟨hpast, hkey⟩ := past_of_get? hget
    have hrecords : t.records key = some fa.val.deliveries := by rw [World.records, value?_of_get? hget, map_some]
    have hsame : (t.exec (.getAlert key) a).1 = t := Fate.answer_read a.fate
    rw [hsame]
    dsimp only
    split
    · exact trivial
    rename_i state hstate
    refine honours_ask (fun _ _ _ _ _ _ => trivial) fun u _ hl => ⟨trivial, fun b _ _ => ?_⟩
    have hsame' : (u.exec .listSubscriptions b).1 = u := Fate.answer_read b.fate
    rw [hsame']
    cases (u.exec .listSubscriptions b).2 with
    | error e => exact trivial
    | ok subs =>
      have hsent : (relayAll env fa.val state now subs [] 0).Honours World.exec (purgeDuties key now) (fun _ _ v => Lasts key u v)
          [⟨.getAlert key, .ok fa⟩, ⟨.listSubscriptions, .ok subs⟩] u := by
        refine ((relayAll_tells subs [] 0 _).honours (J := fun _ v => Lasts key u v) (fun _ _ _ => trivial)
          (fun _ _ _ h _ hr => h.trans hr) (fun _ _ r _ _ hr => ?_) (fun _ v r c _ h hr _ => ⟨trivial, h.trans ?_⟩)
          (.refl u)).imp trivial fun _ _ _ _ h => h.2
        · cases r <;> first | exact trivial | exact hr.elim
        · exact .of_alerts (exec_alerts hr v c)
      refine hsent.bind trivial fun later r v _ hv => ?_
      have hlater := hl.trans hv
      exact writeDeliveries_checks hkey (hlater.past hpast) (hlater.records _ hrecords) hstate

end Pass

def purgeCharter (env : Env) (key : NamespacedName) : Charter (relayRunner env key) purgeRuns where
  inv _ := True
  rely _ := Lasts key
  guar _ _ := Justifies key
  post _ _ _ _ := True
  refl _ w := .refl w
  trans := Lasts.trans
  outside_inv _ _ _ _ := trivial
  outside_rely _ w o _ _ := outside_lasts env.namespaceName key w o
  pass _ s _ _ := reconcile_checks s

/-- An alert that goes away was resolved and told everywhere, if what a pass read as resolved is so when it writes. -/
theorem purged_closed (env : Env) (key : NamespacedName) (w : World) (ds : List (Drive Time Answer Outside))
    (hok : Meets (relayRunner env key).step purgeRuns.Ok ⟨w, none⟩ ds) :
    let out := run (relayRunner env key).step ⟨w, none⟩ ds
    ∀ d cur, out.1.server.alerts.value? key = some cur → ((relayRunner env key).step out.1 d).1.server.alerts.value? key = none →
      cur.state = some .resolved ∧ ∀ x ∈ cur.deliveries, x.deliveredState = some .resolved := by
  intro out d cur hcur hgone
  have hsound : (purgeCharter env key).Sound out.1 out.2 := (purgeCharter env key).run_sound trivial ds hok
  generalize out.1 = work at hcur hgone hsound
  obtain ⟨s, task⟩ := work
  have hstays : ∀ {s' : World}, s'.alerts.value? key = none → s' = s → Closed cur := by
    rintro s' hnone rfl
    rw [hcur] at hnone
    cases hnone
  cases d with
  | outside o => exact absurd hgone ((outside_lasts env.namespaceName key s o).value? hcur)
  | start | crash => cases task <;> exact hstays hgone rfl
  | answer a =>
    cases task with
    | none => exact hstays hgone rfl
    | some kp =>
      obtain ⟨now, p⟩ := kp
      cases p with
      | done _ => exact hstays hgone rfl
      | call r next => exact (hsound.guar rfl).closed a hcur hgone

namespace Fixture

def pastRetention : Time := seconds 1209700

def reports (status : String) : Drive Time Answer Outside := .outside (.report (reported status) pastRetention)

def receives (i : Nat) : Drive Time Answer Outside := .outside (.receive i .served pastRetention)

/-- An alert past retention is reported as resolved again, and a pass tells the tenant. -/
def latePass : List (Drive Time Answer Outside) :=
  [.outside opsToken, .outside (.subscribe (subscription 0))] ++ recorded 0 3 statusFiring ++ recorded 1 3 statusResolved ++
    [reports statusResolved, receives 2, receives 2, .start pastRetention] ++ List.replicate 5 (.answer {})

/-- Of two receivers given the alert as firing and as resolved, the second finds nothing to do, and the first writes last. -/
def overtaken : List (Drive Time Answer Outside) :=
  latePass ++ [reports statusFiring, receives 3, receives 3, reports statusResolved, receives 4, receives 4, receives 3, .answer {}]

def undisturbed : List (Drive Time Answer Outside) := latePass ++ [.answer {}]

/-- The relay deletes an alert that fires; it may keep fields that an answer lacks. -/
def DeletesFiring (keepsAbsent : Bool) (ds : List (Drive Time Answer Outside)) (last : Drive Time Answer Outside) : Prop :=
  let runner := relayRunner { relayEnv with keepsAbsent := keepsAbsent } diskFull
  let before := (run runner.step ⟨.empty, none⟩ ds).1
  (before.server.alerts.value? diskFull).map FrameAlert.state = some (some .firing) ∧
    (runner.step before last).1.server.alerts.value? diskFull = none
deriving Decidable

end Fixture

open Fixture in
/-- The deletion of an alert that fires is let through: the revision is the one that the relay's own patch was answered with. -/
theorem purges_firing : DeletesFiring false overtaken (.answer {}) ∧ DeletesFiring true overtaken (.answer {}) := by decide +kernel

open Fixture in
/-- An alert that nobody touches is purged when it is over. -/
theorem purged_closed_undisturbed :
    (outcome (undisturbed ++ [.answer {}])).server.alerts.value? diskFull = none ∧
      ∃ cur, (outcome undisturbed).server.alerts.value? diskFull = some cur ∧ cur.state = some .resolved ∧
        ∀ x ∈ cur.deliveries, x.deliveredState = some .resolved :=
  ⟨by decide +kernel, _, rfl, purged_closed relayEnv diskFull .empty undisturbed (by decide +kernel)
    (.answer {}) _ rfl (by decide +kernel)⟩

end FrameOperator.Alerting
