import FrameOperator.Lemmas.RelayPass

/-!
# Tenants are told of each incident in order

As long as the relay's writes go through, each tenant is told that the alert fires, that it is over, and so on (`told_in_order`). A
write that fails after a tenant was told leaves a record that is behind, and the tenant may be left with an alert that fires for
good (`stuck_firing`).
-/

namespace FrameOperator.Alerting

open List Api Relay World

/-- Names are not used again, no pass is dropped between telling a tenant and writing it down, and records are written. -/
def relayRuns (fails : Bool) : Conditions Time World Answer Outside Request where
  answer _ := Commits fails
  crash _ _ r := Droppable r
  outside := FreshName

instance (fails : Bool) : (relayRuns fails).Decides where
  answer _ _ r a := by
    cases r <;> dsimp only [relayRuns, Commits] <;> infer_instance
  crash _ _ r := by
    cases r <;> dsimp only [relayRuns, Droppable] <;> infer_instance
  outside w o := inferInstanceAs (Decidable (FreshName w o))

abbrev RelayWork : Type := Work Time World Request.Resp (Except Error Duration)

/-- The alert and the filters change only between passes, and while each record agrees with what its tenant was told. -/
def Undisturbed (env : Env) (key : NamespacedName) (w : RelayWork) : Drive Time Answer Outside → Prop
  | .outside o => Still key w.server (w.server.outside env.namespaceName o) ∨ (w.task.isNone = true ∧ w.server.Settled key)
  | .start _ | .answer _ | .crash => True

instance (env : Env) (key : NamespacedName) (w : RelayWork) : (d : Drive Time Answer Outside) → Decidable (Undisturbed env key w d)
  | .outside _ => inferInstanceAs (Decidable (_ ∨ _))
  | .start _ | .answer _ | .crash => isTrue trivial

/-- The steps of a run in which records that are behind are caught up with. -/
def Careful (env : Env) (key : NamespacedName) (fails : Bool) (w : RelayWork) (d : Drive Time Answer Outside) : Prop :=
  (relayRuns fails).Ok w d ∧ (fails = true → Undisturbed env key w d)
deriving Decidable

def relayRound (env : Env) (key : NamespacedName) (fails : Bool) : Round (relayRunner env key) (Careful env key fails) where
  inv := Sane key
  rest := Rest key fails
  rely _ := Meantime key fails
  allow _ := Commits fails
  guar _ := (relayDuties key fails).guar
  post now past _ t := Ends env key fails now past t
  refl _ w := .refl w
  trans := Meantime.trans
  outside_idle w o hs hr hok := by
    obtain ⟨hkept, htold⟩ := outside_kept env.namespaceName w o hok.1
    refine ⟨hs.kept htold hkept, ?_⟩
    by_cases hf : fails = true
    · rcases hok.2 hf with hstill | ⟨-, hsettled⟩
      · exact hr.meantime ⟨htold, hkept, fun _ => hstill⟩
      · exact hr.settled hsettled htold hkept
    · exact hr.meantime ⟨htold, hkept, fun h => absurd h hf⟩
  outside_busy now p w o hs hok := by
    obtain ⟨hkept, htold⟩ := outside_kept env.namespaceName w o hok.1
    refine ⟨hs.kept htold hkept, htold, hkept, fun hf => ?_⟩
    rcases hok.2 hf with hstill | ⟨hidle, -⟩
    · exact hstill
    · cases hidle
  answered _ _ _ _ _ hok := hok.1
  crash_rest _ _ _ _ _ _ hg hok := hg.1 hok.1
  pass _ _ _ hr _ := reconcile_honours hr

/-- Where there is nothing, the records are sane. -/
theorem sane_empty (key : NamespacedName) : Sane key .empty := by
  refine ⟨fun p hp => (by cases hp), fun ds hds => ?_⟩
  cases hds

theorem rest_empty (key : NamespacedName) (fails : Bool) : Rest key fails .empty := by
  refine ⟨fun name _ => .inl (iff_of_false (fun h => ?_) fun h => ?_), fun _ name => ⟨fun h => ?_, isChain_nil⟩⟩ <;> cases h

theorem told_grows (w : World) (r : Request) (a : Answer) : w.told <+: (w.exec r a).1.told := by
  have hanswer : ∀ {α : Type} (call : World × Except Error α), call.1.told = w.told → w.told <+: (a.fate.answer w call).1.told :=
    fun _ h => Fate.answer_state (P := fun (w' : World) => w.told <+: w'.told) a.fate (prefix_refl _) (h ▸ prefix_refl _)
  cases r with
  | getAlert _ | listSubscriptions | getSecret _ | patchDeliveries _ _ => exact hanswer _ rfl
  | deleteAlert key rev =>
    refine hanswer _ ?_
    rcases deleteAlert_cases w key rev with h | ⟨h, -⟩ <;> rw [h]
  | post _ _ _ =>
    simp only [World.exec]
    split
    · exact prefix_append _ _
    · exact prefix_refl _

theorem heard_grows {u w : World} (h : u.told <+: w.told) (name : String) : u.heard name <+: w.heard name := by
  obtain ⟨more, hmore⟩ := h
  rw [World.heard, World.heard, ← hmore, heardBy_append]
  exact prefix_append _ _

theorem in_order_of_sound {env : Env} {key : NamespacedName} {w : RelayWork}
    {log : List (Deed Time Request.Resp (Except Error Duration))}
    (h : (relayRound env key false).Sound w log) (name : String) : InOrder (w.server.heard name) := by
  obtain ⟨s, task⟩ := w
  cases task with
  | none => exact (h.idle rfl).order rfl name
  | some kp =>
    obtain ⟨-, hp⟩ := h.busy kp.1 kp.2 rfl
    obtain ⟨later, a, t, hst, hrest, -⟩ := hp.finishes (fun u w => u.told <+: w.told) (fun w => Meantime.refl w)
      (fun w r => ⟨{}, by cases r <;> first | exact .inl rfl | trivial⟩) told_grows (fun w => prefix_refl _)
      (fun {u v w : World} (h : u.told <+: v.told) (h' : v.told <+: w.told) => h.trans h') h.inv
    have horder : InOrder (t.heard name) := hrest.order rfl name
    exact horder.of_append (heard_grows hst name)

/-- Each tenant is told of an alert in order, and after a pass each knows of the state that was neither held nor failed. -/
theorem told_in_order (env : Env) (key : NamespacedName) (ds : List (Drive Time Answer Outside))
    (hok : Meets (relayRunner env key).step (relayRuns false).Ok ⟨.empty, none⟩ ds) :
    let out := run (relayRunner env key).step ⟨.empty, none⟩ ds
    (∀ name, InOrder (out.1.server.heard name)) ∧
    Each (Justified (fun _ past r => FiringMatches key past r) fun _ _ _ => True) out.2 ∧
    (∀ d, (relayRuns false).Ok out.1 d → ∀ now result, Deed.returned now result ∈ ((relayRunner env key).step out.1 d).2 →
      Informs env key now (callsUnderWay (out.2 ++ ((relayRunner env key).step out.1 d).2))
        ((relayRunner env key).step out.1 d).1.server) := by
  have hcareful : ∀ w d, (relayRuns false).Ok w d → Careful env key false w d := fun w d h => ⟨h, nofun⟩
  have hmeets := hok.imp hcareful
  have hsound := (relayRound env key false).run_sound (sane_empty key) (rest_empty key false) ds hmeets
  refine ⟨in_order_of_sound hsound, ?_, fun d hd now result hret => ?_⟩
  · exact (relayRound env key false).run_justified (fun _ _ _ _ hg => hg.2) (sane_empty key) (rest_empty key false) ds hmeets
  · exact ((hsound.step (hcareful _ d hd)).2 now result hret).1

namespace Fixture

def relayEnv : Env := { namespaceName := "frame-system", retention := seconds 1209600, keepsAbsent := false }

def diskFull : NamespacedName := ⟨"frame-system", "fa-d1"⟩

def reported (status : String) : Alert := { status := status, startsAt := seconds 1, endsAt := seconds 60, fingerprint := "d1" }

def subscription (made : Time) : FrameAlertSubscription :=
  { name := "ops", creationTimestamp := made,
    spec := { url := "https://ops.example/alerts", tokenSecretRef := ⟨"ops-token", "token"⟩ } }

def opsToken : Outside :=
  .setSecret ⟨"frame-system", "ops-token"⟩
    (some { labels := GoMap.copySet none alertTokenLabel "true", data := GoMap.copySet none "token" [7] })

def recorded (i requests : Nat) (status : String) : List (Drive Time Answer Outside) :=
  .outside (.report (reported status) (seconds 60)) :: List.replicate requests (.outside (.receive i .served (seconds 1)))

def relayPass (requests : Nat) : List (Drive Time Answer Outside) := .start (seconds 60) :: List.replicate requests (.answer {})

def lostWrite : List (Drive Time Answer Outside) := relayPass 4 ++ [.answer { fate := .failed (.failed "etcd: request timed out") }]

def incident : List (Drive Time Answer Outside) :=
  [.outside opsToken, .outside (.subscribe (subscription 0))] ++ recorded 0 3 statusFiring ++
    relayPass 5 ++ recorded 1 3 statusResolved ++
    relayPass 5

def lostRecord : List (Drive Time Answer Outside) :=
  incident ++ recorded 2 3 statusFiring ++ lostWrite ++ recorded 3 3 statusResolved ++ relayPass 2

def caughtUp : List (Drive Time Answer Outside) :=
  [.outside opsToken, .outside (.subscribe (subscription 0))] ++ recorded 0 3 statusFiring ++ lostWrite ++ relayPass 5 ++
    recorded 1 3 statusResolved ++ relayPass 4

def outcome (ds : List (Drive Time Answer Outside)) : RelayWork := (run (relayRunner relayEnv diskFull).step ⟨.empty, none⟩ ds).1

end Fixture

open Fixture in
/-- An incident that fires, is told and ends. -/
theorem told_in_order_incident :
    (outcome incident).server.heard "ops" = [.firing, .resolved] ∧ InOrder ((outcome incident).server.heard "ops") :=
  ⟨by decide +kernel, (told_in_order relayEnv diskFull incident (by decide +kernel)).1 "ops"⟩

open Fixture in
/-- The alert is over, the record says that the tenant was told so, and the tenant is left with one that fires. -/
theorem stuck_firing :
    Meets (relayRunner relayEnv diskFull).step (relayRuns true).Ok ⟨.empty, none⟩ lostRecord ∧
      (run (relayRunner relayEnv diskFull).step ⟨.empty, none⟩ lostRecord).2.getLast?.bind Deed.result? =
        some (seconds 60, .ok (seconds 1209600)) ∧
      ((outcome lostRecord).server.alerts.value? diskFull).map FrameAlert.state = some (some .resolved) ∧
      ((outcome lostRecord).server.subscriptions.value? "ops").map (fun sub => (sub.spec.filter, sub.spec.paused)) = some ({}, false) ∧
      ((outcome lostRecord).server.alerts.value? diskFull).map FrameAlert.deliveries =
        some [{ subscription := "ops", deliveredState := some .resolved, lastAttemptAt := some (seconds 60),
                lastDeliveredAt := some (seconds 60), subscriptionGeneration := 1 }] ∧
      (outcome lostRecord).server.heard "ops" = [.firing, .resolved, .firing] := by
  decide +kernel

/-- Where nothing changes under a pass or before the records agree, a pass leaves each tenant with the alert's state. -/
theorem told_current (env : Env) (key : NamespacedName) (ds : List (Drive Time Answer Outside))
    (hok : Meets (relayRunner env key).step (Careful env key true) ⟨.empty, none⟩ ds) :
    let out := run (relayRunner env key).step ⟨.empty, none⟩ ds
    ∀ d, Careful env key true out.1 d → ∀ now result, Deed.returned now result ∈ ((relayRunner env key).step out.1 d).2 →
      ∀ fa subs, Opened key (callsUnderWay (out.2 ++ ((relayRunner env key).step out.1 d).2)) fa subs →
        ∀ cur state, ((relayRunner env key).step out.1 d).1.server.alerts.value? key = some cur → cur.state = some state →
          ∀ sub ∈ subs, filterMatches sub.spec.filter cur = true →
            Unfailed env (callsUnderWay (out.2 ++ ((relayRunner env key).step out.1 d).2)) sub → ¬Held fa.val state now sub →
              Informed (((relayRunner env key).step out.1 d).1.server.heard sub.name) state := by
  intro out d hd now result hret fa subs hopen cur state hcur hstate sub hsub hmatch hun hheld
  have hsound := (relayRound env key true).run_sound (sane_empty key) (rest_empty key true) ds hok
  obtain ⟨hinforms, hread⟩ := (hsound.step hd).2 now result hret
  have hgist : gist cur = gist fa.val := hread rfl fa subs hopen cur hcur
  have hsame : fa.val.state = some state := by
    rw [← hstate]
    exact congrArg Prod.fst hgist.symm
  rw [filterMatches_congr hgist] at hmatch
  exact hinforms fa subs state hopen hsame sub hsub hmatch hun hheld

open Fixture in
/-- The alert changes only when its record has caught up. -/
theorem told_current_caughtUp :
    (outcome (caughtUp ++ [.answer {}])).server.heard "ops" = [.firing, .firing, .resolved] ∧
      Informed ((outcome (caughtUp ++ [.answer {}])).server.heard "ops") .resolved := by
  refine ⟨by decide +kernel, ?_⟩
  exact told_current relayEnv diskFull caughtUp (by decide +kernel) (.answer {})
    (by decide +kernel) (seconds 60) (.ok (seconds 1209600))
    (.tail _ (.head _)) _ _ ⟨_, rfl⟩ _ .resolved rfl (by decide +kernel) _ (.head _) (by decide +kernel)
    (unfailed_of_all (by decide +kernel)) (by decide +kernel)

end FrameOperator.Alerting
