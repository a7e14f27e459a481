import FrameOperator.Alerting.System

/-!
# What a pass of the relay tells

A record shows the state that the tenant was told last (`Handled`); a tenant is told another state than the record shows.
-/

namespace FrameOperator.Alerting

open Api

namespace Relay

open List

variable {calls cs cs' : List (Called Request.Resp)} {ds : List AlertDelivery} {d : AlertDelivery}

/-- The notification that a call told a tenant. -/
def accepted : Called Request.Resp → Option Payload
  | ⟨.post _ _ payload, reply⟩ => if Reply.accepts reply then some payload else none
  | _ => none

def acceptedIn (calls : List (Called Request.Resp)) : List Payload := calls.filterMap accepted

@[simp] theorem acceptedIn_append : acceptedIn (cs ++ cs') = acceptedIn cs ++ acceptedIn cs' :=
  filterMap_append

@[simp] theorem heardBy_append (ps ps' : List Payload) (sub : String) :
    heardBy (ps ++ ps') sub = heardBy ps sub ++ heardBy ps' sub := by
  simp [heardBy]

theorem heardBy_of_others {ps : List Payload} {sub : String} (h : ∀ p ∈ ps, p.receiver ≠ sub) : heardBy ps sub = [] := by
  have hnone : ps.filter (·.receiver = sub) = [] := filter_eq_nil_iff.mpr fun p hp => by simpa using h p hp
  rw [heardBy, hnone, map_nil]

def shown (d : Option AlertDelivery) : Option AlertState := d.bind AlertDelivery.deliveredState

def Proper (d : AlertDelivery) : Prop := d.excluded = true → d.deliveredState = some .resolved

/-- No attempt on a subscription failed: its token was there, and every notification was accepted. -/
def Unfailed (env : Env) (calls : List (Called Request.Resp)) (sub : FrameAlertSubscription) : Prop :=
  (∀ url token payload reply, ⟨.post url token payload, reply⟩ ∈ calls → Reply.accepts reply = true) ∧
    ∀ answer, ⟨.getSecret (tokenKey env sub), answer⟩ ∈ calls → ∃ v, readToken sub answer = .ok v

variable {sub : FrameAlertSubscription}

theorem Unfailed.mono {env : Env} (h : Unfailed env cs' sub) (hsub : cs ⊆ cs') : Unfailed env cs sub :=
  ⟨fun url token payload reply hm => h.1 url token payload reply (hsub hm), fun answer hm => h.2 answer (hsub hm)⟩

def wentThrough (env : Env) (sub : FrameAlertSubscription) : Called Request.Resp → Bool
  | ⟨.post _ _ _, reply⟩ => Reply.accepts reply
  | ⟨.getSecret key, answer⟩ => key ≠ tokenKey env sub || (readToken sub answer).isOk
  | ⟨.getAlert _, _⟩ | ⟨.listSubscriptions, _⟩ | ⟨.patchDeliveries _ _, _⟩ | ⟨.deleteAlert _ _, _⟩ => true

theorem unfailed_of_all {env : Env} (h : calls.all (wentThrough env sub) = true) : Unfailed env calls sub := by
  rw [all_eq_true] at h
  refine ⟨fun url token payload reply hm => h _ hm, fun answer hm => ?_⟩
  have hread := h _ hm
  cases htoken : readToken sub answer with
  | ok v => exact ⟨v, rfl⟩
  | error e => simp [wentThrough, htoken, Except.isOk, Except.toBool] at hread

def recordOf (fa : FrameAlert) (state : AlertState) (sub : FrameAlertSubscription) : AlertDelivery :=
  lifted sub state ((existing fa.deliveries sub.name).getD { subscription := sub.name })

/-- The subscription is paused, its delivery failed for good, or its time has not come. -/
def Held (fa : FrameAlert) (state : AlertState) (now : Time) (sub : FrameAlertSubscription) : Prop :=
  sub.spec.paused = true ∨ (recordOf fa state sub).permanentFailure = true ∨ (backoffLeft (recordOf fa state sub) now).isSome = true
deriving Decidable

def Due (fa : FrameAlert) (state : AlertState) (sub : FrameAlertSubscription) (d : Option AlertDelivery) : Prop :=
  (filterMatches sub.spec.filter fa = true ∨ keepDriving d = true) ∧ shown d ≠ some state ∧ cameLate sub fa d state = false

/-- The states that tell a tenant on from what its record shows, each another than the one before. -/
structure Follows (before : Option AlertState) (states : List AlertState) : Prop where
  chain : states.IsChain (· ≠ ·)
  first : ∀ st ∈ states.head?, st = .firing ↔ before ≠ some .firing

theorem Follows.nil (before : Option AlertState) : Follows before [] := ⟨isChain_nil, nofun⟩

/-! ## Sending -/

structure Sent (sub : FrameAlertSubscription) (fa : FrameAlert) (seq : List AlertState) (d : AlertDelivery)
    (calls : List (Called Request.Resp)) (d' : AlertDelivery) (states : List AlertState) : Prop where
  told : acceptedIn calls = states.map (buildPayload sub.name fa)
  chain : (d.deliveredState.toList ++ states).IsChain (· ≠ ·)
  first : ∀ st ∈ states.head?, seq.find? (fun st => decide (d.deliveredState ≠ some st)) = some st
  shows : d'.deliveredState = (d.deliveredState.toList ++ states).getLast?
  excluded : if states = [] then d'.excluded = d.excluded else d'.excluded = false
  name : d'.subscription = d.subscription
  ends : ∀ env, Unfailed env calls sub → d'.deliveredState = (d.deliveredState.toList ++ seq).getLast?

def MayTell (fa : FrameAlert) (sub : FrameAlertSubscription) : Request → Prop
  | .getSecret _ => True
  | .post _ _ payload => ∃ st, payload = buildPayload sub.name fa st ∧ (st = .firing → filterMatches sub.spec.filter fa = true)
  | _ => False

/-- A call tells only the tenant of its subscription. -/
theorem MayTell.receiver {fa : FrameAlert} {r : Request} (h : MayTell fa sub r) (answer : r.Resp) :
    ∀ p ∈ acceptedIn [⟨r, answer⟩], p.receiver = sub.name := by
  intro p hp
  cases r with
  | post url token payload =>
    obtain ⟨st, rfl, -⟩ := h
    obtain ⟨c, hc, hp⟩ := mem_filterMap.mp hp
    cases mem_singleton.mp hc
    simp only [accepted] at hp
    split at hp
    · cases hp
      rfl
    · cases hp
  | getSecret _ => cases hp
  | getAlert _ | listSubscriptions | patchDeliveries _ _ | deleteAlert _ _ => exact h.elim

theorem fail_same (d : AlertDelivery) (out : Outcome) (err : Option Bytes) (state : AlertState) (now : Time) :
    (fail d out err state now).1.deliveredState = d.deliveredState ∧ (fail d out err state now).1.excluded = d.excluded ∧
      (fail d out err state now).1.subscription = d.subscription := by
  unfold fail
  split <;> exact ⟨rfl, rfl, rfl⟩

section Traced

variable {may : List (Called Request.Resp) → Request → Prop} {env : Env} {sub : FrameAlertSubscription} {fa : FrameAlert}
  {state : AlertState} {now : Time}

theorem sendAll_traced (hmay : ∀ past r, MayTell fa sub r → may past r) (token : Bytes) (seq : List AlertState) (d : AlertDelivery)
    (past : List (Called Request.Resp)) (hseq : AlertState.firing ∈ seq → filterMatches sub.spec.filter fa = true) :
    (sendAll sub fa token state now seq d).Traced (fun _ _ => True) may
      (fun later r => ∃ cs states, later = past ++ cs ∧ Sent sub fa seq d cs r.1 states) past := by
  induction seq generalizing d past with
  | nil =>
    refine ⟨[], [], by simp, ⟨rfl, ?_, nofun, by cases d.deliveredState <;> rfl, rfl, rfl, fun _ _ => ?_⟩⟩
    · cases d.deliveredState <;> simp
    · cases d.deliveredState <;> rfl
  | cons st rest ih =>
    have hrest : AlertState.firing ∈ rest → filterMatches sub.spec.filter fa = true := fun h => hseq (mem_cons_of_mem _ h)
    unfold sendAll
    by_cases hskip : d.deliveredState = some st
    · rw [if_pos hskip]
      refine (ih d past hrest).imp fun later r h => ?_
      obtain ⟨cs, states, hl, hsent⟩ := h
      refine ⟨cs, states, hl, hsent.told, hsent.chain, fun x hx => ?_, hsent.shows, hsent.excluded, hsent.name, fun env hu => ?_⟩
      · rw [find?_cons_of_neg (by simp [hskip])]
        exact hsent.first x hx
      · rw [hsent.ends env hu, hskip]
        cases rest <;> rfl
    · rw [if_neg hskip]
      refine traced_ask (hmay _ _ ⟨st, rfl, fun h => hseq (h ▸ mem_cons_self)⟩) fun reply _ => ?_
      dsimp only
      by_cases hout : (Reply.outcome reply).1 = .delivered
      · rw [if_neg (not_not.mpr hout)]
        have hacc : Reply.accepts reply = true := by simpa [Reply.accepts] using hout
        refine (ih (delivered d st now) _ hrest).imp fun later r h => ?_
        obtain ⟨cs, states, hl, hsent⟩ := h
        refine ⟨_ :: cs, st :: states, by rw [hl, append_assoc]; rfl, ?_, ?_, fun x hx => ?_, ?_, ?_, hsent.name, fun env hu => ?_⟩
        · have htold := hsent.told
          simp only [acceptedIn] at htold ⊢
          rw [filterMap_cons_some (b := buildPayload sub.name fa st) (by simp [accepted, hacc]), htold, map_cons]
        · have hchain : (st :: states).IsChain (· ≠ ·) := hsent.chain
          cases hd : d.deliveredState with
          | none => exact hchain
          | some x =>
            refine isChain_cons_cons.mpr ⟨fun h => hskip ?_, hchain⟩
            rw [hd, h]
        · cases hx
          exact find?_cons_of_pos (by simpa using hskip)
        · rw [hsent.shows]
          cases d.deliveredState <;> rfl
        · have hexcl := hsent.excluded
          rw [if_neg (cons_ne_nil _ _)]
          split at hexcl <;> exact hexcl
        · rw [hsent.ends env (hu.mono (subset_cons_self _ _))]
          cases d.deliveredState <;> rfl
      · rw [if_pos hout]
        obtain ⟨hstate, hexcl, hname⟩ := fail_same d (Reply.outcome reply).1 (Reply.outcome reply).2 state now
        have hrej : Reply.accepts reply = false := by simpa [Reply.accepts] using hout
        refine ⟨[_], [], rfl, ?_, ?_, nofun, ?_, ?_, hname, fun env hu => ?_⟩
        · simp [acceptedIn, accepted, hrej]
        · cases d.deliveredState <;> simp
        · rw [hstate]
          cases d.deliveredState <;> rfl
        · rw [if_pos rfl]
          exact hexcl
        · have hacc := hu.1 _ _ _ _ (mem_singleton.mpr rfl)
          rw [hrej] at hacc
          cases hacc

end Traced

/-! ## One subscription -/

theorem existing_snoc (sub : String) :
    existing (ds ++ [d]) sub = if d.subscription = sub then some d else existing ds sub := by
  simp [existing]

theorem existing_append (ds ds' : List AlertDelivery) (sub : String) :
    existing (ds ++ ds') sub = (existing ds' sub).or (existing ds sub) := by
  induction ds' using reverseRecOn with
  | nil => simp [existing]
  | append_singleton ds' d ih =>
    rw [← append_assoc, existing_snoc, existing_snoc, ih]
    split <;> rfl

/-- The record that is found is one of the subscription. -/
theorem mem_existing {sub : String} (h : existing ds sub = some d) :
    d ∈ ds ∧ d.subscription = sub := by
  induction ds using reverseRecOn with
  | nil => cases h
  | append_singleton ds x ih =>
    rw [existing_snoc] at h
    split at h
    · rename_i hx
      cases h
      exact ⟨by simp, hx⟩
    · obtain ⟨hmem, hname⟩ := ih h
      exact ⟨mem_append_left _ hmem, hname⟩

theorem existing_none {sub : String} (h : sub ∉ ds.map AlertDelivery.subscription) : existing ds sub = none := by
  cases hx : existing ds sub with
  | none => rfl
  | some d =>
    obtain ⟨hmem, hname⟩ := mem_existing hx
    exact absurd (mem_map.mpr ⟨d, hmem, hname⟩) h

theorem existing_of_mem (hnodup : (ds.map AlertDelivery.subscription).Nodup) (hd : d ∈ ds) :
    existing ds d.subscription = some d := by
  induction ds using reverseRecOn with
  | nil => cases hd
  | append_singleton ds x ih =>
    rw [map_append, nodup_append] at hnodup
    rw [existing_snoc]
    rcases mem_append.mp hd with hd | hd
    · have hne : x.subscription ≠ d.subscription :=
        fun heq => hnodup.2.2 _ (mem_map_of_mem hd) _ (mem_singleton.mpr rfl) heq.symm
      rw [if_neg hne]
      exact ih hnodup.1 hd
    · cases mem_singleton.mp hd
      rw [if_pos rfl]

theorem existing_perm {ds' : List AlertDelivery} (h : ds'.Perm ds)
    (hnodup : (ds.map AlertDelivery.subscription).Nodup) (sub : String) :
    existing ds' sub = existing ds sub := by
  have hnodup' : (ds'.map AlertDelivery.subscription).Nodup := (h.map _).nodup_iff.mpr hnodup
  cases hd : existing ds sub with
  | some d =>
    obtain ⟨hmem, rfl⟩ := mem_existing hd
    exact existing_of_mem hnodup' (h.mem_iff.mpr hmem)
  | none =>
    cases hd' : existing ds' sub with
    | none => rfl
    | some d =>
      obtain ⟨hmem, rfl⟩ := mem_existing hd'
      rw [existing_of_mem hnodup (h.mem_iff.mp hmem)] at hd
      cases hd

theorem lifted_same (sub : FrameAlertSubscription) (state : AlertState) (d : AlertDelivery) :
    (lifted sub state d).deliveredState = d.deliveredState ∧ (lifted sub state d).excluded = d.excluded ∧
      (lifted sub state d).subscription = d.subscription := by
  unfold lifted
  dsimp only
  split <;> split <;> exact ⟨rfl, rfl, rfl⟩

structure Handled (env : Env) (fa : FrameAlert) (state : AlertState) (now : Time) (sub : FrameAlertSubscription)
    (calls : List (Called Request.Resp)) (heard : List AlertState) (d' : Option AlertDelivery) : Prop where
  follows : Follows (shown (existing fa.deliveries sub.name)) heard
  shows : heard ≠ [] → shown d' = heard.getLast?
  quiet : heard = [] → (shown d' = some .firing ↔ shown (existing fa.deliveries sub.name) = some .firing)
  was : heard ≠ [] → Due fa state sub (existing fa.deliveries sub.name)
  due : heard = [] → Due fa state sub (existing fa.deliveries sub.name) → Due fa state sub d'
  recorded : state = .resolved → d'.isSome = true
  name : ∀ x ∈ d', x.subscription = sub.name
  proper : ∀ x ∈ d', Proper x
  done : Unfailed env calls sub → ¬Held fa state now sub → filterMatches sub.spec.filter fa = true → shown d' = some state
  sent : Unfailed env calls sub → ¬Held fa state now sub → Due fa state sub (existing fa.deliveries sub.name) → heard ≠ []

section Traced

variable {may : List (Called Request.Resp) → Request → Prop} {env : Env} {sub : FrameAlertSubscription} {fa : FrameAlert}
  {state : AlertState} {now : Time}

theorem recordOf_same (fa : FrameAlert) (state : AlertState) (sub : FrameAlertSubscription) :
    (recordOf fa state sub).deliveredState = shown (existing fa.deliveries sub.name) ∧
      (recordOf fa state sub).subscription = sub.name ∧
      (keepDriving (some (recordOf fa state sub)) = keepDriving (existing fa.deliveries sub.name)) := by
  obtain ⟨hstate, hexcl, hname⟩ := lifted_same sub state ((existing fa.deliveries sub.name).getD { subscription := sub.name })
  unfold recordOf
  cases hd : existing fa.deliveries sub.name with
  | none =>
    rw [hd] at hstate hexcl hname
    refine ⟨hstate, hname, ?_⟩
    simp only [keepDriving, hstate, hexcl]
    rfl
  | some d =>
    rw [hd] at hstate hexcl hname
    refine ⟨hstate, hname.trans (mem_existing hd).2, ?_⟩
    rw [Option.getD_some] at hstate hexcl ⊢
    simp only [keepDriving, hstate, hexcl]

theorem proper_recordOf (hp : ∀ d ∈ fa.deliveries, Proper d) : Proper (recordOf fa state sub) := by
  obtain ⟨hstate, hexcl, -⟩ := lifted_same sub state ((existing fa.deliveries sub.name).getD { subscription := sub.name })
  unfold recordOf Proper
  rw [hstate, hexcl]
  cases hd : existing fa.deliveries sub.name with
  | none => exact nofun
  | some d => exact hp d (mem_existing hd).1

/-- A record that is left as it is was handled. -/
theorem Handled.kept {d' : AlertDelivery}
    (hp : ∀ d ∈ fa.deliveries, Proper d) (hstate : d'.deliveredState = (recordOf fa state sub).deliveredState)
    (hexcl : d'.excluded = (recordOf fa state sub).excluded) (hname : d'.subscription = (recordOf fa state sub).subscription)
    (hdone : Unfailed env calls sub → ¬Held fa state now sub → d'.deliveredState = some state) :
    Handled env fa state now sub calls [] (some d') := by
  obtain ⟨hshown, hsub, hdriven⟩ := recordOf_same fa state sub
  have hkeep : keepDriving (some d') = keepDriving (existing fa.deliveries sub.name) := by
    rw [← hdriven]
    simp only [keepDriving, hstate, hexcl]
  have hsame : shown (some d') = shown (existing fa.deliveries sub.name) := hstate.trans hshown
  refine ⟨.nil _, fun h => absurd rfl h, fun _ => by rw [hsame], fun h => absurd rfl h, fun _ h => ⟨?_, ?_, rfl⟩, fun _ => rfl, ?_, ?_,
    fun hu hh _ => hdone hu hh, fun hu hh h => absurd (hdone hu hh) ?_⟩
  · rw [hkeep]
    exact h.1
  · rw [hsame]
    exact h.2.1
  · rintro x hx
    cases hx
    rw [hname, hsub]
  · rintro x hx
    cases hx
    have hrecord : Proper (recordOf fa state sub) := proper_recordOf hp
    unfold Proper at hrecord ⊢
    rwa [hstate, hexcl]
  · have hnot := h.2.1
    rwa [← hsame] at hnot

theorem sendSequence_first {st : AlertState} (hdue : d.deliveredState ≠ some state)
    (h : (sendSequence d state).find? (fun st => decide (d.deliveredState ≠ some st)) = some st) :
    st = .firing ↔ d.deliveredState ≠ some .firing := by
  unfold sendSequence at h
  rcases hd : d.deliveredState with _ | before
  · cases state <;> simp_all
  · cases before <;> cases state <;> cases st <;> simp_all

variable {states : List AlertState}

/-- A tenant that is told was handled. -/
theorem Handled.told {d' : AlertDelivery}
    (hp : ∀ d ∈ fa.deliveries, Proper d) (hdue : Due fa state sub (existing fa.deliveries sub.name))
    (hsent : Sent sub fa (sendSequence (recordOf fa state sub) state) (recordOf fa state sub) cs d' states) (hcs : cs ⊆ calls) :
    Handled env fa state now sub calls states (some d') := by
  obtain ⟨hshown, hsub, -⟩ := recordOf_same fa state sub
  have hends : Unfailed env calls sub → shown (some d') = some state := by
    intro hu
    refine (hsent.ends env (hu.mono hcs)).trans ?_
    unfold sendSequence
    split <;> simp
  cases states with
  | nil =>
    have hstate : d'.deliveredState = (recordOf fa state sub).deliveredState := by
      rw [hsent.shows]
      cases (recordOf fa state sub).deliveredState <;> rfl
    exact Handled.kept hp hstate hsent.excluded hsent.name fun hu _ => hends hu
  | cons st states =>
    have hlast : shown (some d') = (st :: states).getLast? := by
      refine hsent.shows.trans ?_
      cases (recordOf fa state sub).deliveredState <;> simp [getLast?_cons]
    have hexcl : d'.excluded = false := hsent.excluded
    refine ⟨⟨hsent.chain.right_of_append, fun x hx => ?_⟩, fun _ => hlast, fun h => (by cases h), fun _ => hdue, fun h => (by cases h),
      fun _ => rfl, ?_, ?_,
      fun hu _ _ => hends hu, fun _ _ _ => cons_ne_nil _ _⟩
    · cases hx
      have hlacks := hdue.2.1
      rw [← hshown] at hlacks ⊢
      exact sendSequence_first hlacks (hsent.first st rfl)
    · rintro x hx
      cases hx
      rw [hsent.name, hsub]
    · rintro x hx
      cases hx
      intro h
      rw [hexcl] at h
      cases h

theorem deliver_traced (hmay : ∀ past r, MayTell fa sub r → may past r) (hp : ∀ d ∈ fa.deliveries, Proper d)
    (hconcern : filterMatches sub.spec.filter fa = true ∨ keepDriving (existing fa.deliveries sub.name) = true)
    (hlate : cameLate sub fa (existing fa.deliveries sub.name) state = false) (past : List (Called Request.Resp)) :
    (deliver env sub fa (recordOf fa state sub) state now).Traced (fun _ _ => True) may
      (fun later r => ∃ cs states, later = past ++ cs ∧ acceptedIn cs = states.map (buildPayload sub.name fa) ∧
        Handled env fa state now sub cs states (some r.1)) past := by
  unfold deliver
  by_cases hstop : (sub.spec.paused || (recordOf fa state sub).permanentFailure ||
    (recordOf fa state sub).deliveredState = some state) = true
  · rw [if_pos hstop]
    refine ⟨[], [], by simp, rfl, Handled.kept hp rfl rfl rfl fun _ hh => ?_⟩
    simp only [Bool.or_eq_true, decide_eq_true_eq] at hstop
    rcases hstop with (hpause | hperm) | hsame
    · exact absurd (.inl hpause) hh
    · exact absurd (.inr (.inl hperm)) hh
    · exact hsame
  · rw [if_neg hstop]
    simp only [Bool.or_eq_true, decide_eq_true_eq, not_or] at hstop
    have hdue : Due fa state sub (existing fa.deliveries sub.name) := by
      refine ⟨hconcern, ?_, hlate⟩
      rw [← (recordOf_same fa state sub).1]
      exact hstop.2
    cases hb : backoffLeft (recordOf fa state sub) now with
    | some wait =>
      refine ⟨[], [], by simp, rfl, Handled.kept hp rfl rfl rfl fun _ hh => ?_⟩
      exact absurd (.inr (.inr (by rw [hb]; rfl))) hh
    | none =>
      refine traced_ask (hmay _ _ trivial) fun answer _ => ?_
      dsimp only [Program.pure_eq, Program.done_bind]
      cases htoken : readToken sub answer with
      | error e =>
        have hfailed : ∀ out err, Handled env fa state now sub [⟨.getSecret (tokenKey env sub), answer⟩] []
            (some (fail (recordOf fa state sub) out err state now).1) := by
          intro out err
          obtain ⟨hstate, hexcl, hname⟩ := fail_same (recordOf fa state sub) out err state now
          refine Handled.kept hp hstate hexcl hname fun hu _ => ?_
          obtain ⟨v, hv⟩ := hu.2 answer (mem_singleton.mpr rfl)
          rw [htoken] at hv
          cases hv
        cases e with
        | unlabelled secret | missing name | api e => exact ⟨_, [], rfl, rfl, hfailed _ _⟩
      | ok token =>
        have hfiring : AlertState.firing ∈ sendSequence (recordOf fa state sub) state → filterMatches sub.spec.filter fa = true := by
          intro hmem
          refine hconcern.resolve_right fun hkeep => ?_
          rw [← (recordOf_same fa state sub).2.2] at hkeep
          simp only [keepDriving, Bool.and_eq_true, decide_eq_true_eq] at hkeep
          simp only [sendSequence, hkeep.1] at hmem
          cases mem_singleton.mp hmem
          exact hstop.2 hkeep.1
        refine (sendAll_traced hmay token _ (recordOf fa state sub) _ hfiring).imp fun later r h => ?_
        obtain ⟨cs, states, hl, hsent⟩ := h
        refine ⟨_ :: cs, states, by rw [hl, append_assoc]; rfl, ?_, Handled.told hp hdue hsent (subset_cons_self _ _)⟩
        exact hsent.told

theorem Handled.unmatched (hp : ∀ d ∈ fa.deliveries, Proper d) (hmatch : filterMatches sub.spec.filter fa = false)
    (hkeep : keepDriving (existing fa.deliveries sub.name) = false) :
    Handled env fa state now sub [] [] (unmatchedDelivery sub.name (existing fa.deliveries sub.name) state) := by
  have hnot : ¬Due fa state sub (existing fa.deliveries sub.name) := by
    rintro ⟨h | h, -⟩
    · rw [hmatch] at h
      cases h
    · rw [hkeep] at h
      cases h
  have hclosed : shown (existing fa.deliveries sub.name) ≠ some .firing := by
    cases hd : existing fa.deliveries sub.name with
    | none => exact nofun
    | some d =>
      intro h
      have hstate : d.deliveredState = some .firing := h
      rw [hd, keepDriving, hstate] at hkeep
      have hexcl : d.excluded = true := by simpa using hkeep
      have hover := hp d (mem_existing hd).1 hexcl
      rw [hstate] at hover
      cases hover
  have hfresh : ∀ x : AlertDelivery, x = { subscription := sub.name, excluded := true, deliveredState := some .resolved } →
      x.subscription = sub.name ∧ Proper x ∧ shown (some x) ≠ some .firing := by
    rintro x rfl
    exact ⟨rfl, fun _ => rfl, nofun⟩
  have hresult : ∀ x ∈ unmatchedDelivery sub.name (existing fa.deliveries sub.name) state,
      x.subscription = sub.name ∧ Proper x ∧ shown (some x) ≠ some .firing := by
    intro x hx
    cases state with
    | firing => cases hx
    | resolved =>
      cases hd : existing fa.deliveries sub.name with
      | none =>
        rw [hd] at hx
        exact hfresh x (by cases hx; rfl)
      | some d =>
        rw [hd] at hx
        simp only [unmatchedDelivery] at hx
        split at hx
        · cases hx
          rw [hd] at hclosed
          exact ⟨(mem_existing hd).2, hp x (mem_existing hd).1, hclosed⟩
        · exact hfresh x (by cases hx; rfl)
  refine ⟨.nil _, fun h => absurd rfl h, fun _ => iff_of_false ?_ hclosed, fun h => absurd rfl h,
    fun _ h => absurd h hnot, fun hstate => ?_,
    fun x hx => (hresult x hx).1, fun x hx => (hresult x hx).2.1, fun _ _ h => ?_, fun _ _ h => absurd h hnot⟩
  · cases hu : unmatchedDelivery sub.name (existing fa.deliveries sub.name) state with
    | none => exact nofun
    | some x => exact (hresult x hu).2.2
  · subst hstate
    cases hd : existing fa.deliveries sub.name with
    | none => rfl
    | some d =>
      simp only [unmatchedDelivery]
      split <;> rfl
  · rw [hmatch] at h
    cases h

theorem Handled.late (hlate : cameLate sub fa (existing fa.deliveries sub.name) state = true) :
    Handled env fa state now sub [] [] (some { recordOf fa state sub with deliveredState := some state }) := by
  have hover : existing fa.deliveries sub.name = none ∧ state = .resolved := by
    simp only [cameLate, Bool.and_eq_true, Option.isNone_iff_eq_none, decide_eq_true_eq] at hlate
    exact hlate.1
  have hnot : ¬Due fa state sub (existing fa.deliveries sub.name) := by
    intro h
    rw [h.2.2] at hlate
    cases hlate
  refine ⟨.nil _, fun h => absurd rfl h, fun _ => ?_, fun h => absurd rfl h, fun _ h => absurd h hnot, fun _ => rfl, ?_, ?_,
    fun _ _ _ => rfl, fun _ _ h => absurd h hnot⟩
  · rw [hover.1, hover.2]
    exact iff_of_false (nofun) nofun
  · rintro x hx
    cases hx
    exact (recordOf_same fa state sub).2.1
  · rintro x hx
    cases hx
    rw [hover.2]
    exact fun _ => rfl

theorem relay_traced (hmay : ∀ past r, MayTell fa sub r → may past r) (hp : ∀ d ∈ fa.deliveries, Proper d)
    (past : List (Called Request.Resp)) :
    (relay env fa state now sub).Traced (fun _ _ => True) may
      (fun later r => ∃ cs states, later = past ++ cs ∧ acceptedIn cs = states.map (buildPayload sub.name fa) ∧
        Handled env fa state now sub cs states r.1) past := by
  unfold relay
  dsimp only
  split
  · rename_i hskip
    simp only [Bool.and_eq_true, Bool.not_eq_true'] at hskip
    exact ⟨[], [], by simp, rfl, Handled.unmatched hp hskip.1 hskip.2⟩
  · rename_i hgo
    split
    · rename_i hlate
      exact ⟨[], [], by simp, rfl, Handled.late hlate⟩
    rename_i hlate
    have hconcern : filterMatches sub.spec.filter fa = true ∨ keepDriving (existing fa.deliveries sub.name) = true := by
      cases hm : filterMatches sub.spec.filter fa <;> cases hk : keepDriving (existing fa.deliveries sub.name) <;> simp_all
    exact (deliver_traced hmay hp hconcern (by simpa using hlate) past).bind fun r later _ h => h

/-! ## All subscriptions -/

structure Relayed (env : Env) (fa : FrameAlert) (state : AlertState) (now : Time) (subs : List FrameAlertSubscription)
    (calls : List (Called Request.Resp)) (records : List AlertDelivery) : Prop where
  receivers : ∀ p ∈ acceptedIn calls, p.receiver ∈ subs.map FrameAlertSubscription.name
  names : (records.map AlertDelivery.subscription).Sublist (subs.map FrameAlertSubscription.name)
  proper : ∀ d ∈ records, Proper d
  each : ∀ sub ∈ subs, Handled env fa state now sub calls (heardBy (acceptedIn calls) sub.name) (existing records sub.name)

theorem Handled.mono {heard : List AlertState} {d' : Option AlertDelivery}
    (h : Handled env fa state now sub cs heard d') (hsub : cs ⊆ cs') : Handled env fa state now sub cs' heard d' :=
  { h with done := fun hu => h.done (hu.mono hsub), sent := fun hu => h.sent (hu.mono hsub) }

theorem heardBy_map_buildPayload (sub : String) (states : List AlertState) :
    heardBy (states.map (buildPayload sub fa)) sub = states := by
  induction states with
  | nil => rfl
  | cons st states ih =>
    rw [map_cons, ← singleton_append, heardBy_append, ih]
    simp [heardBy]

variable {d : Option AlertDelivery}

theorem existing_toList {sub : String} (h : ∀ x ∈ d, x.subscription = sub) : existing d.toList sub = d := by
  cases d with
  | none => rfl
  | some x => simp [existing, h x rfl]

variable {subs : List FrameAlertSubscription}

/-- One subscription, and the rest. -/
theorem Relayed.cons {records : List AlertDelivery} (hnew : sub.name ∉ subs.map FrameAlertSubscription.name)
    (hacc : acceptedIn cs = states.map (buildPayload sub.name fa)) (h : Handled env fa state now sub cs states d)
    (hrest : Relayed env fa state now subs cs' records) :
    Relayed env fa state now (sub :: subs) (cs ++ cs') (d.toList ++ records) := by
  have hmine : ∀ p ∈ acceptedIn cs, p.receiver = sub.name := by
    intro p hp
    rw [hacc] at hp
    obtain ⟨st, -, rfl⟩ := mem_map.mp hp
    rfl
  refine ⟨fun p hp => ?_, ?_, fun x hx => ?_, fun s hs => ?_⟩
  · rw [acceptedIn_append] at hp
    rcases mem_append.mp hp with hp | hp
    · rw [hmine p hp]
      exact mem_cons_self
    · exact mem_cons_of_mem _ (hrest.receivers p hp)
  · cases d with
    | none => exact hrest.names.cons _
    | some x =>
      have hx : x.subscription = sub.name := h.name x rfl
      simpa [hx] using hrest.names.cons_cons sub.name
  · rcases mem_append.mp hx with hx | hx
    · exact h.proper x (Option.mem_toList.mp hx)
    · exact hrest.proper x hx
  · rw [acceptedIn_append, heardBy_append, existing_append]
    rcases mem_cons.mp hs with rfl | hs
    · have hnone : existing records s.name = none := existing_none fun hm => hnew (hrest.names.subset hm)
      have hothers : heardBy (acceptedIn cs') s.name = [] := by
        refine heardBy_of_others fun p hp heq => hnew ?_
        rw [← heq]
        exact hrest.receivers p hp
      rw [hnone, hothers, hacc, heardBy_map_buildPayload, append_nil, Option.none_or, existing_toList h.name]
      exact h.mono (subset_append_left _ _)
    · have hne : sub.name ≠ s.name := fun heq => hnew (heq ▸ mem_map_of_mem hs)
      have hnone : existing d.toList s.name = none := by
        refine existing_none fun hm => ?_
        obtain ⟨x, hx, hxs⟩ := mem_map.mp hm
        exact hne ((h.name x (Option.mem_toList.mp hx)).symm.trans hxs)
      rw [heardBy_of_others fun p hp heq => hne ((hmine p hp).symm.trans heq), hnone, Option.or_none, nil_append]
      exact (hrest.each s hs).mono (subset_append_right _ _)

theorem relayAll_traced (hmay : ∀ past r, ∀ sub ∈ subs, MayTell fa sub r → may past r)
    (hp : ∀ d ∈ fa.deliveries, Proper d) (hnodup : (subs.map FrameAlertSubscription.name).Nodup) (next : List AlertDelivery)
    (requeue : Duration) (past : List (Called Request.Resp)) :
    (relayAll env fa state now subs next requeue).Traced (fun _ _ => True) may
      (fun later r => ∃ cs records, later = past ++ cs ∧ r.1 = next ++ records ∧ Relayed env fa state now subs cs records) past := by
  induction subs generalizing next requeue past with
  | nil => exact ⟨[], [], by simp, by simp, nofun, by simp, nofun, nofun⟩
  | cons sub subs ih =>
    rw [map_cons, nodup_cons] at hnodup
    refine (relay_traced (hmay · · sub mem_cons_self) hp past).bind fun r later _ h => ?_
    obtain ⟨cs, states, hl, hacc, hhandled⟩ := h
    refine (ih (fun past r s hs => hmay past r s (mem_cons_of_mem _ hs)) hnodup.2 (next ++ r.1.toList) (sooner requeue r.2)
      later).imp fun later' r' h' => ?_
    obtain ⟨cs', records, hl', hr', hrest⟩ := h'
    refine ⟨cs ++ cs', r.1.toList ++ records, ?_, ?_, hrest.cons hnodup.1 hacc hhandled⟩
    · rw [hl', hl, append_assoc]
    · rw [hr', append_assoc]

end Traced

end Relay

end FrameOperator.Alerting
