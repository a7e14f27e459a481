import FrameOperator.Lemmas.RelayWorld

/-!
# A pass of the relay

What holds between two passes: the record of each subscription agrees with what its tenant was told, in order. A write that fails
leaves records that are behind (`fails`).
-/

namespace FrameOperator.Alerting

open Api Relay World List Versioned

variable {fa' : FrameAlert} {sub : FrameAlertSubscription} {u v w : World} {name : String} {ds : List AlertDelivery}
  {past : List (Called Request.Resp)}

/-- A tenant is told that the alert fires, and then of each turn once. -/
def InOrder (states : List AlertState) : Prop := states.head? ≠ some .resolved ∧ states.IsChain (· ≠ ·)

/-- What is told in order, and goes on in order. -/
theorem InOrder.append {heard states : List AlertState} {before : Option AlertState} (h : InOrder heard) (hf : Follows before states)
    (hlast : before = some .firing ↔ heard.getLast? = some .firing) : InOrder (heard ++ states) := by
  refine ⟨?_, isChain_append.mpr ⟨h.2, hf.chain, fun x hx y hy hxy => ?_⟩⟩
  · cases heard with
    | cons x heard => exact h.1
    | nil =>
      intro hres
      have hfirst := hf.first .resolved hres
      have hopen : before = some .firing := by simpa using hfirst
      cases hlast.mp hopen
  · have hfirst := hf.first y hy
    rw [Option.mem_def] at hx
    subst hxy
    cases x with
    | firing => exact hfirst.mp rfl (hlast.mpr hx)
    | resolved =>
      have hopen : before = some .firing := by simpa using hfirst
      rw [hlast.mp hopen] at hx
      cases hx

theorem InOrder.of_append {states states' : List AlertState} (h : InOrder states') (hp : states <+: states') : InOrder states := by
  obtain ⟨rest, rfl⟩ := hp
  refine ⟨fun hhead => h.1 ?_, h.2.left_of_append⟩
  rw [head?_append, hhead]
  rfl

def gist (fa : FrameAlert) : Option AlertState × Bytes × Bytes × Bytes :=
  (fa.state, fa.spec.alertName, fa.spec.severity, fa.spec.namespaceName)

variable {fa : FrameAlert}

theorem filterMatches_congr (h : gist fa' = gist fa) (f : AlertFilter) : filterMatches f fa' = filterMatches f fa := by
  simp only [gist, Prod.mk.injEq] at h
  obtain ⟨-, hname, hseverity, hnamespace⟩ := h
  simp only [filterMatches, hname, hseverity, hnamespace]

variable {sub' : FrameAlertSubscription}

theorem due_congr {state : AlertState} {d d' : Option AlertDelivery}
    (hgist : gist fa' = gist fa) (hfa : fa'.creationTimestamp = fa.creationTimestamp) (hfilter : sub'.spec.filter = sub.spec.filter)
    (hsub : sub'.creationTimestamp = sub.creationTimestamp) (hd : World.Same d' d) (h : Due fa state sub d) :
    Due fa' state sub' d' := by
  unfold Due cameLate at h ⊢
  rw [hfilter, filterMatches_congr hgist, hd.driven, hd.shown, hd.isNone, hfa, hsub]
  exact h

namespace World

/-- Neither the state of the alert nor what filters see of it changes, and no filter does. -/
def Still (key : NamespacedName) (w w' : World) : Prop :=
  (w'.alerts.value? key).map gist = (w.alerts.value? key).map gist ∧
    ∀ v ∈ w.subscriptions.live.items, ∀ v' ∈ w'.subscriptions.live.items, v'.val.name = v.val.name →
      v'.val.spec.filter = v.val.spec.filter
deriving Decidable

def Settled (key : NamespacedName) (w : World) : Prop := ∀ v ∈ w.subscriptions.live.items, w.Agrees key v.val.name
deriving Decidable

def Redelivers (key : NamespacedName) (w : World) (name : String) : Prop :=
  ∃ sub fa state, w.subscriptions.value? name = some sub ∧ w.alerts.value? key = some fa ∧ fa.state = some state ∧
    Due fa state sub (existing fa.deliveries name)

variable {key : NamespacedName}

theorem mem_live_of_value? (h : w.subscriptions.value? name = some sub) :
    ∃ v ∈ w.subscriptions.live.items, v.val = sub ∧ sub.name = name := by
  obtain ⟨r, hr⟩ := value?_eq_some h
  obtain ⟨hmem, hname⟩ := Keyed.get?_eq_some_iff.mp (show w.subscriptions.live.get? name = some ⟨r, sub⟩ from hr)
  exact ⟨_, hmem, rfl, hname⟩

theorem value?_of_mem_live {v : Stamped FrameAlertSubscription} (h : v ∈ w.subscriptions.live.items) :
    w.subscriptions.value? v.val.name = some v.val :=
  value?_of_get? (Keyed.get?_of_mem h)

theorem Still.filter {w' : World} (h : Still key w w')
    (hw : w.subscriptions.value? name = some sub) (hw' : w'.subscriptions.value? name = some sub') :
    sub'.spec.filter = sub.spec.filter := by
  obtain ⟨v, hv, rfl, hname⟩ := mem_live_of_value? hw
  obtain ⟨v', hv', rfl, hname'⟩ := mem_live_of_value? hw'
  exact h.2 v hv v' hv' (hname'.trans hname.symm)

theorem Still.alert {w' : World} (h : Still key w w') (hw : w.alerts.value? key = some fa)
    (hw' : w'.alerts.value? key = some fa') : gist fa' = gist fa := by
  have hgist := h.1
  rw [hw, hw'] at hgist
  exact Option.some.inj hgist

theorem Still.refl (w : World) : Still key w w := by
  refine ⟨rfl, fun v hv v' hv' hname => ?_⟩
  rw [w.subscriptions.live.eq_of_key hv' hv hname]

theorem Still.trans (hkept : Kept key u v) (hkept' : Kept key v w) (h : Still key u v) (h' : Still key v w) :
    Still key u w := by
  refine ⟨h'.1.trans h.1, fun x hx z hz hname => ?_⟩
  have hu := value?_of_mem_live hx
  have hw := value?_of_mem_live hz
  rw [hname] at hw
  obtain ⟨mid, hmid⟩ := hkept.meanwhile hu fun hg => not_gone_of_value? hw (hkept'.gone _ hg)
  rw [h'.filter hmid hw, h.filter hu hmid]

def Steady (key : NamespacedName) (w w' : World) : Prop :=
  ∀ cur, w'.alerts.value? key = some cur → (w.alerts.value? key).map gist = some (gist cur)

theorem Steady.refl (w : World) : Steady key w w := fun cur h => by rw [h, Option.map_some]

theorem Steady.trans (h : Steady key u v) (h' : Steady key v w) : Steady key u w := by
  intro cur hcur
  obtain ⟨mid, hmid, hgist⟩ := Option.map_eq_some_iff.mp (h' cur hcur)
  rw [h mid hmid, hgist]

theorem Still.steady (h : Still key u v) : Steady key u v := fun cur hcur => by rw [← h.1, hcur, Option.map_some]

theorem Redelivers.kept (h : Redelivers key u name) (hkept : Kept key u v) (hstill : Still key u v)
    (hgone : ¬v.gone name) : Redelivers key v name := by
  obtain ⟨sub, fa, state, hsub, hfa, hstate, hdue⟩ := h
  obtain ⟨fa', hfa', hcarried⟩ := hkept.alert fa hfa
  obtain ⟨sub', hsub'⟩ := hkept.meanwhile hsub hgone
  have hgist := hstill.alert hfa hfa'
  refine ⟨sub', fa', state, hsub', hfa', ?_, ?_⟩
  · rw [← hstate]
    exact congrArg Prod.fst hgist
  · rw [hcarried.deliveries]
    exact due_congr hgist hcarried.creationTimestamp (hstill.filter hsub hsub') (hkept.creation _ _ _ hsub hsub') (.refl _) hdue

structure Sane (key : NamespacedName) (w : World) : Prop where
  told : ∀ p ∈ w.told, w.used p.receiver
  proper : ∀ ds, w.records key = some ds → ∀ d ∈ ds, Proper d

structure Rest (key : NamespacedName) (fails : Bool) (w : World) : Prop where
  agrees : ∀ name, ¬w.gone name → w.Agrees key name ∨ (fails = true ∧ w.Redelivers key name)
  order : fails = false → ∀ name, InOrder (w.heard name)

structure Meantime (key : NamespacedName) (fails : Bool) (w w' : World) : Prop where
  told : w'.told = w.told
  kept : Kept key w w'
  still : fails = true → Still key w w'

variable {fails : Bool}

theorem Meantime.refl (w : World) : Meantime key fails w w := ⟨rfl, .refl w, fun _ => .refl w⟩

theorem Meantime.trans (h : Meantime key fails u v) (h' : Meantime key fails v w) : Meantime key fails u w :=
  ⟨h'.told.trans h.told, h.kept.trans h'.kept, fun hf => (h.still hf).trans h.kept h'.kept (h'.still hf)⟩

/-- What others do keeps the records sane. -/
theorem Sane.kept (h : Sane key u) (htold : v.told = u.told) (hkept : Kept key u v) : Sane key v := by
  refine ⟨fun p hp => hkept.used _ (h.told p (htold ▸ hp)), fun ds hds d hd => ?_⟩
  cases hu : u.records key with
  | some ds' =>
    rw [hkept.records hu] at hds
    cases hds
    exact h.proper ds hu d hd
  | none =>
    rcases hkept.absent (Option.map_eq_none_iff.mp hu) with hv | ⟨fa, hfa, hnil⟩
    · rw [records, hv] at hds
      cases hds
    rw [records, hfa, Option.map_some, hnil] at hds
    cases hds
    cases hd

theorem Rest.meantime (h : Rest key fails u) (hm : Meantime key fails u v) : Rest key fails v := by
  refine ⟨fun name hn => ?_, fun hf name => ?_⟩
  · rcases h.agrees name fun hg => hn (hm.kept.gone name hg) with ha | ⟨hf, hr⟩
    · exact .inl (hm.kept.agrees hm.told ha)
    · exact .inr ⟨hf, hr.kept hm.kept (hm.still hf) hn⟩
  · rw [heard, hm.told]
    exact h.order hf name

/-- What others do leaves settled records at rest. -/
theorem Rest.settled (h : Rest key fails u) (hs : Settled key u) (htold : v.told = u.told) (hkept : Kept key u v) :
    Rest key fails v := by
  refine ⟨fun name hn => .inl ?_, fun hf name => by rw [heard, htold]; exact h.order hf name⟩
  refine hkept.agrees htold ?_
  rcases h.agrees name fun hg => hn (hkept.gone name hg) with ha | ⟨-, sub, fa, state, hsub, -⟩
  · exact ha
  · obtain ⟨x, hx, rfl, rfl⟩ := mem_live_of_value? hsub
    exact hs x hx

/-! ## After the tenants were told -/

/-- What holds where a pass has read the alert and the subscriptions. -/
structure Listing (key : NamespacedName) (fails : Bool) (t : World) (fa : FrameAlert) (state : AlertState)
    (subs : List FrameAlertSubscription) : Prop where
  sane : Sane key t
  rest : Rest key fails t
  records : t.records key = some fa.deliveries
  listed : subs = t.subscriptions.live.items.map Stamped.val
  state : fa.state = some state
  still : fails = true → ∃ cur, t.alerts.value? key = some cur ∧ gist cur = gist fa ∧ cur.creationTimestamp = fa.creationTimestamp

structure After (key : NamespacedName) (fails : Bool) (t t' : World) (calls : List (Called Request.Resp)) : Prop where
  told : t'.told = t.told ++ acceptedIn calls
  kept : Kept key t t'
  still : fails = true → Still key t t'

variable {t t' : World} {fa : FrameAlert} {state : AlertState} {subs : List FrameAlertSubscription} {env : Env} {now : Time}
  {calls : List (Called Request.Resp)} {next : List AlertDelivery}

section

variable (h : Listing key fails t fa state subs)
include h

theorem Listing.mem_iff :
    sub ∈ subs ↔ t.subscriptions.value? sub.name = some sub := by
  rw [h.listed, mem_map]
  constructor
  · rintro ⟨v, hv, rfl⟩
    exact value?_of_mem_live hv
  · intro hsub
    obtain ⟨v, hv, rfl, -⟩ := mem_live_of_value? hsub
    exact ⟨v, hv, rfl⟩

theorem Listing.nodup : (subs.map FrameAlertSubscription.name).Nodup := by
  rw [h.listed, map_map]
  exact t.subscriptions.live.nodup

/-- What a record says when a pass lists it. -/
theorem Listing.start (hsub : sub ∈ subs) :
    (shown (existing fa.deliveries sub.name) = some .firing ↔ (t.heard sub.name).getLast? = some .firing) ∨
      (fails = true ∧ Due fa state sub (existing fa.deliveries sub.name)) := by
  have hvalue := h.mem_iff.mp hsub
  have hrecord : t.record key sub.name = existing fa.deliveries sub.name := by rw [record, h.records, Option.bind_some]
  rcases h.rest.agrees sub.name (not_gone_of_value? hvalue) with ha | ⟨hf, sub', fa', state', hsub', hfa', hstate', hdue⟩
  · rw [Agrees, hrecord] at ha
    exact .inl ha
  refine .inr ⟨hf, ?_⟩
  rw [hvalue] at hsub'
  cases hsub'
  obtain ⟨cur, hcur, hgist, hcreation⟩ := h.still hf
  rw [hfa'] at hcur
  cases hcur
  have hdeliveries : fa'.deliveries = fa.deliveries := by
    have hrecords := h.records
    rw [World.records, hfa', Option.map_some] at hrecords
    exact Option.some.inj hrecords
  have hsame : state' = state := by
    have hstate := congrArg Prod.fst hgist
    simp only [gist, hstate', h.state] at hstate
    exact Option.some.inj hstate
  subst hsame
  rw [hdeliveries] at hdue
  exact due_congr hgist.symm hcreation.symm rfl rfl (.refl _) hdue

theorem Listing.unlisted (hnone : t.subscriptions.value? name = none) (hgone : ¬t.gone name) : t.heard name = [] := by
  refine heardBy_of_others fun p hp heq => hgone ⟨?_, hnone⟩
  rw [← heq]
  exact h.sane.told p hp

theorem Listing.unlisted_calls (hr : Relayed env fa state now subs calls next)
    (hnone : t.subscriptions.value? name = none) : heardBy (acceptedIn calls) name = [] ∧ existing next name = none := by
  have hnot : name ∉ subs.map FrameAlertSubscription.name := by
    intro hmem
    obtain ⟨sub, hsub, rfl⟩ := mem_map.mp hmem
    rw [h.mem_iff.mp hsub] at hnone
    cases hnone
  refine ⟨heardBy_of_others fun p hp heq => hnot (heq ▸ hr.receivers p hp), existing_none fun hmem => hnot (hr.names.subset hmem)⟩

end

/-- What a tenant heard, with what the calls told it. -/
theorem After.heard (h : After key fails t t' calls) (name : String) :
    t'.heard name = t.heard name ++ heardBy (acceptedIn calls) name := by
  rw [World.heard, h.told, heardBy_append]
  rfl

theorem Listing.in_order (h : Listing key false t fa state subs) (hr : Relayed env fa state now subs calls next)
    (ha : After key false t t' calls) (name : String) : InOrder (t'.heard name) := by
  have hbefore := h.rest.order rfl name
  rw [ha.heard]
  cases hsub : t.subscriptions.value? name with
  | none =>
    rw [(h.unlisted_calls hr hsub).1, append_nil]
    exact hbefore
  | some sub =>
    obtain ⟨v, hv, rfl, rfl⟩ := mem_live_of_value? hsub
    have hmem := h.mem_iff.mpr hsub
    rcases h.start hmem with hagree | ⟨hf, -⟩
    · exact hbefore.append (hr.each _ hmem).follows hagree
    · cases hf

structure Holds (key : NamespacedName) (t w : World) (ds : List AlertDelivery) : Prop where
  subscriptions : w.subscriptions = t.subscriptions
  alert : ∀ cur, t.alerts.value? key = some cur → ∃ fa, w.alerts.value? key = some fa ∧ fa.deliveries = ds ∧ gist fa = gist cur ∧
    fa.creationTimestamp = cur.creationTimestamp

theorem Listing.redelivers (h : Listing key fails t fa state subs) (ha : After key fails t t' calls) (hf : fails = true)
    (hw : Holds key t' w ds) (hsub : sub ∈ subs) (hgone : ¬w.gone sub.name)
    (hdue : Due fa state sub (existing ds sub.name)) : Redelivers key w sub.name := by
  obtain ⟨cur, hcur, hgist, hcreation⟩ := h.still hf
  obtain ⟨cur', hcur', hcarried⟩ := ha.kept.alert cur hcur
  obtain ⟨fa', hfa', hdeliveries, hgist', hcreation'⟩ := hw.alert cur' hcur'
  have hvalue := h.mem_iff.mp hsub
  have hthere : ¬t'.gone sub.name := by
    unfold gone used at hgone ⊢
    rwa [← hw.subscriptions]
  obtain ⟨sub', hsub'⟩ := ha.kept.meanwhile hvalue hthere
  have hsame := hgist'.trans (((ha.still hf).alert hcur hcur').trans hgist)
  refine ⟨sub', fa', state, by rw [hw.subscriptions, hsub'], hfa', ?_, ?_⟩
  · rw [← h.state]
    exact congrArg Prod.fst hsame
  · rw [hdeliveries]
    exact due_congr hsame (hcreation'.trans (hcarried.creationTimestamp.trans hcreation)) ((ha.still hf).filter hvalue hsub')
      (ha.kept.creation _ _ _ hvalue hsub') (.refl _) hdue

theorem Holds.gone (h : Holds key t w ds) (name : String) : w.gone name ↔ t.gone name := by
  unfold World.gone World.used
  rw [h.subscriptions]

/-- The records are written as the tenants were told. -/
theorem Listing.written (h : Listing key fails t fa state subs) (hr : Relayed env fa state now subs calls next)
    (ha : After key fails t t' calls) (hw : Holds key t' w ds) (htold : w.told = t'.told)
    (hds : w.records key = some ds) (hsame : ∀ name, Same (existing ds name) (existing next name)) : Rest key fails w := by
  refine ⟨fun name hgone => ?_, fun hf name => ?_⟩
  · have hrecord : shown (w.record key name) = shown (existing next name) := by
      rw [record, hds, Option.bind_some]
      exact (hsame name).shown
    have hheard : w.heard name = t.heard name ++ heardBy (acceptedIn calls) name := by
      rw [← ha.heard, heard, htold]
      rfl
    have hbefore : ¬t.gone name := fun hg => hgone ((hw.gone name).mpr (ha.kept.gone name hg))
    cases hsub : t.subscriptions.value? name with
    | none =>
      obtain ⟨htold', hnone⟩ := h.unlisted_calls hr hsub
      refine .inl ?_
      rw [Agrees, hrecord, hheard, htold', hnone, h.unlisted hsub hbefore]
      exact iff_of_false nofun nofun
    | some sub =>
      obtain ⟨v, -, rfl, rfl⟩ := mem_live_of_value? hsub
      have hmem := h.mem_iff.mpr hsub
      have hhandled := hr.each _ hmem
      rw [Agrees, hrecord, hheard]
      by_cases hquiet : heardBy (acceptedIn calls) v.val.name = []
      · rcases h.start hmem with hagree | ⟨hf, hdue⟩
        · refine .inl ?_
          rw [hquiet, append_nil]
          exact (hhandled.quiet hquiet).trans hagree
        · refine .inr ⟨hf, h.redelivers ha hf hw hmem hgone ?_⟩
          exact due_congr rfl rfl rfl rfl (hsame _) (hhandled.due hquiet hdue)
      · refine .inl ?_
        rw [hhandled.shows hquiet, getLast?_append_of_ne_nil _ hquiet]
  · subst hf
    rw [heard, htold]
    exact h.in_order hr ha name

/-- Records that are not written agree, or are due again. -/
theorem Listing.lost (h : Listing key true t fa state subs) (hr : Relayed env fa state now subs calls next)
    (ha : After key true t t' calls) : Rest key true t' := by
  have hrecords := ha.kept.records h.records
  have hw : Holds key t' t' fa.deliveries := by
    refine ⟨rfl, fun cur hcur => ⟨cur, hcur, ?_, rfl, rfl⟩⟩
    rw [World.records, hcur, Option.map_some] at hrecords
    exact Option.some.inj hrecords
  refine ⟨fun name hgone => ?_, fun h => by cases h⟩
  cases hsub : t.subscriptions.value? name with
  | none =>
    refine .inl ?_
    have hbefore : ¬t.gone name := fun hg => hgone (ha.kept.gone name hg)
    rcases h.rest.agrees name hbefore with hagree | ⟨-, sub, -, -, hsub', -⟩
    · rw [Agrees, ha.kept.record, ha.heard, (h.unlisted_calls hr hsub).1, append_nil]
      exact hagree
    · rw [hsub] at hsub'
      cases hsub'
  | some sub =>
    obtain ⟨v, -, rfl, rfl⟩ := mem_live_of_value? hsub
    have hmem := h.mem_iff.mpr hsub
    by_cases hquiet : heardBy (acceptedIn calls) v.val.name = []
    · rcases h.start hmem with hagree | ⟨hf, hdue⟩
      · refine .inl ?_
        rw [Agrees, record, hrecords, Option.bind_some, ha.heard, hquiet, append_nil]
        exact hagree
      · exact .inr ⟨rfl, h.redelivers ha rfl hw hmem hgone hdue⟩
    · exact .inr ⟨rfl, h.redelivers ha rfl hw hmem hgone ((hr.each _ hmem).was hquiet)⟩

/-- After a pass the tenants know of the state. -/
theorem Listing.current (h : Listing key fails t fa state subs) (hr : Relayed env fa state now subs calls next)
    (ha : After key fails t t' calls) (hsub : sub ∈ subs) (hmatch : filterMatches sub.spec.filter fa = true)
    (hun : Unfailed env calls sub) (hheld : ¬Held fa state now sub) :
    (t'.heard sub.name).getLast? = some state ∨ (t'.heard sub.name = [] ∧ state = .resolved) := by
  have hhandled := hr.each sub hsub
  have hdone := hhandled.done hun hheld hmatch
  rw [ha.heard]
  by_cases hquiet : heardBy (acceptedIn calls) sub.name = []
  · rcases h.start hsub with hagree | ⟨-, hdue⟩
    · rw [hquiet, append_nil]
      have hopen := (hhandled.quiet hquiet).trans hagree
      rw [hdone] at hopen
      cases state with
      | firing => exact .inl (hopen.mp rfl)
      | resolved =>
        cases hlast : (t.heard sub.name).getLast? with
        | none => exact .inr ⟨getLast?_eq_none_iff.mp hlast, rfl⟩
        | some st =>
          cases st with
          | resolved => exact .inl rfl
          | firing => cases hopen.mpr hlast
    · exact absurd hquiet (hhandled.sent hun hheld hdue)
  · rw [getLast?_append_of_ne_nil _ hquiet, ← hhandled.shows hquiet]
    exact .inl hdone

def Over (w : World) : Prop := ∀ name, ¬w.gone name → (w.heard name).getLast? ≠ some .firing

theorem Over.kept (h : Over u) (htold : v.told = u.told) (hkept : Kept key u v) : Over v := by
  intro name hgone
  rw [heard, htold]
  exact h name fun hg => hgone (hkept.gone name hg)

theorem Listing.over (h : Listing key fails t fa .resolved subs) (hr : Relayed env fa .resolved now subs calls next)
    (ha : After key fails t t' calls) (hall : ∀ d ∈ next, d.deliveredState = some .resolved) : Over t' := by
  intro name hgone
  rw [ha.heard]
  cases hsub : t.subscriptions.value? name with
  | none =>
    rw [(h.unlisted_calls hr hsub).1, h.unlisted hsub fun hg => hgone (ha.kept.gone name hg)]
    exact nofun
  | some sub =>
    obtain ⟨v, -, rfl, rfl⟩ := mem_live_of_value? hsub
    have hmem := h.mem_iff.mpr hsub
    have hhandled := hr.each _ hmem
    have hshown : shown (existing next v.val.name) = some .resolved := by
      obtain ⟨d, hd⟩ := Option.isSome_iff_exists.mp (hhandled.recorded rfl)
      rw [hd]
      exact hall d (mem_existing hd).1
    by_cases hquiet : heardBy (acceptedIn calls) v.val.name = []
    · rw [hquiet, append_nil]
      rcases h.start hmem with hagree | ⟨-, hdue⟩
      · have hopen := (hhandled.quiet hquiet).trans hagree
        rw [hshown] at hopen
        exact fun hc => by cases hopen.mpr hc
      · exact absurd hshown (hhandled.due hquiet hdue).2.1
    · rw [getLast?_append_of_ne_nil _ hquiet, ← hhandled.shows hquiet, hshown]
      exact nofun

theorem Over.rest (h : Over w) (hrest : Rest key fails w) : Rest key fails { w with alerts := w.alerts.remove key } := by
  refine ⟨fun name hgone => .inl (iff_of_false (fun hc => ?_) (h name hgone)), hrest.order⟩
  have hnone : ({ w with alerts := w.alerts.remove key } : World).records key = none := by
    rw [records, value?_remove, if_pos rfl]
    rfl
  rw [record, hnone] at hc
  cases hc

theorem Sane.removed (h : Sane key w) : Sane key { w with alerts := w.alerts.remove key } := by
  refine ⟨h.told, fun ds hds => ?_⟩
  rw [records, value?_remove, if_pos rfl] at hds
  cases hds

end World

/-! ## The pass -/

section Pass

open World

variable (env : Env) (key : NamespacedName) (fails : Bool) (now : Time)

/-- A call at which a pass may be dropped: nobody was told anything that is not recorded. -/
def Droppable : Request → Prop
  | .getAlert _ | .listSubscriptions | .deleteAlert _ _ => True
  | .getSecret _ | .post _ _ _ | .patchDeliveries _ _ => False

/-- How a call may be answered: unless it may fail, the write of the records goes through. -/
def Commits (_ : World) (r : Request) (a : Answer) : Prop :=
  match r with
  | .patchDeliveries _ _ => a.fate = .served ∨ fails = true
  | _ => True

/-- The pass began with these reads. -/
def Opened (past : List (Called Request.Resp)) (fa : Stamped FrameAlert) (subs : List FrameAlertSubscription) : Prop :=
  ∃ rest, past = ⟨.getAlert key, .ok fa⟩ :: ⟨.listSubscriptions, .ok subs⟩ :: rest

/-- A tenant is told that the alert fires only where its filter matches, as read. -/
def FiringMatches (past : List (Called Request.Resp)) : Request → Prop
  | .post _ _ payload => payload.state = .firing →
      ∃ fa subs, Opened key past fa subs ∧ ∃ sub ∈ subs, sub.name = payload.receiver ∧ filterMatches sub.spec.filter fa.val = true
  | _ => True

def relayDuties : Duties World Answer Request.Resp where
  inv := Sane key
  rely := Meantime key fails
  allow := Commits fails
  guar past w r := (Droppable r → Rest key fails w) ∧ FiringMatches key past r

/-- A tenant knows of the state, or was never told of an alert that is over. -/
def Informed (heard : List AlertState) (state : AlertState) : Prop := heard.getLast? = some state ∨ (heard = [] ∧ state = .resolved)

/-- After a pass, each subscription concerned is informed, unless held or failed. -/
def Informs (past : List (Called Request.Resp)) (w : World) : Prop :=
  ∀ fa subs state, Opened key past fa subs → fa.val.state = some state → ∀ sub ∈ subs, filterMatches sub.spec.filter fa.val = true →
    Unfailed env past sub → ¬Held fa.val state now sub → Informed (w.heard sub.name) state

def AsRead (past : List (Called Request.Resp)) (w : World) : Prop :=
  ∀ fa subs, Opened key past fa subs → ∀ cur, w.alerts.value? key = some cur → gist cur = gist fa.val

def Ends (past : List (Called Request.Resp)) (w : World) : Prop := Informs env key now past w ∧ (fails = true → AsRead key past w)

variable {env key fails now}

variable {fa : Stamped FrameAlert} {state : AlertState} {t : World} {Q : List (Called Request.Resp) → World → Prop}

variable {next : List AlertDelivery} {requeue : Duration}

theorem purge_honours (hkey : fa.val.key = key)
    (hrest : Rest key fails t) (hover : state = .resolved → allDelivered next state = true → Over t)
    (hQ : ∀ later t', past <+: later → t'.told = t.told → (fails = true → Steady key t t') → Q later t') :
    (purge env fa next state now requeue).Honours exec (relayDuties key fails) (fun later _ t' => Rest key fails t' ∧ Q later t')
      past t := by
  have hstay : Rest key fails t ∧ Q past t := ⟨hrest, hQ past t (prefix_refl _) rfl fun _ => .refl t⟩
  unfold purge
  split
  · exact hstay
  split
  · rename_i hdone
    simp only [Bool.and_eq_true, decide_eq_true_eq] at hdone
    dsimp only
    split
    · exact hstay
    intro u hu hm
    have hrestu := hrest.meantime hm
    have hoveru := (hover hdone.1 hdone.2).kept hm.told hm.kept
    refine ⟨⟨fun _ => hrestu, trivial⟩, fun a _ => ?_⟩
    have hafter : Sane key (u.exec (.deleteAlert fa.val.key fa.rev) a).1 ∧
        Rest key fails (u.exec (.deleteAlert fa.val.key fa.rev) a).1 ∧
        (u.exec (.deleteAlert fa.val.key fa.rev) a).1.told = u.told ∧ Steady key u (u.exec (.deleteAlert fa.val.key fa.rev) a).1 := by
      have hremoved : Steady key u { u with alerts := u.alerts.remove key } := by
        intro cur hcur
        rw [value?_remove, if_pos rfl] at hcur
        cases hcur
      have hcases : (u.deleteAlert fa.val.key fa.rev).1 = u ∨
          (u.deleteAlert fa.val.key fa.rev).1 = { u with alerts := u.alerts.remove key } := by
        rcases deleteAlert_cases u fa.val.key fa.rev with h | ⟨h, -⟩
        · exact .inl h
        · exact .inr (by rw [h, hkey])
      refine Fate.answer_state (P := fun w => Sane key w ∧ Rest key fails w ∧ w.told = u.told ∧ Steady key u w) a.fate
        ⟨hu, hrestu, rfl, .refl u⟩ ?_
      rcases hcases with h | h <;> rw [h]
      · exact ⟨hu, hrestu, rfl, .refl u⟩
      · exact ⟨hu.removed, hoveru.rest hrestu, rfl, hremoved⟩
    obtain ⟨hsane', hrest', htold', hsteady⟩ := hafter
    refine ⟨hsane', ?_⟩
    have hend : ∀ answer, Rest key fails (u.exec (.deleteAlert fa.val.key fa.rev) a).1 ∧
        Q (past ++ [⟨.deleteAlert fa.val.key fa.rev, answer⟩]) (u.exec (.deleteAlert fa.val.key fa.rev) a).1 :=
      fun answer => ⟨hrest', hQ _ _ (prefix_append _ _) (htold'.trans hm.told) fun hf => (hm.still hf).steady.trans hsteady⟩
    cases (u.exec (.deleteAlert fa.val.key fa.rev) a).2 with
    | ok _ => exact hend _
    | error e => cases e <;> exact hend _
  · exact hstay

variable {subs : List FrameAlertSubscription}

section

variable (h : Listing key fails t fa.val state subs)
include h

theorem relayAll_honours :
    (relayAll env fa.val state now subs [] 0).Honours exec (relayDuties key fails)
      (fun later r u => ∃ cs, later = [⟨.getAlert key, .ok fa⟩, ⟨.listSubscriptions, .ok subs⟩] ++ cs ∧
        Relayed env fa.val state now subs cs r.1 ∧ After key fails t u cs)
      [⟨.getAlert key, .ok fa⟩, ⟨.listSubscriptions, .ok subs⟩] t := by
  have hproper := h.sane.proper _ h.records
  have htraced : (relayAll env fa.val state now subs [] 0).Traced (fun _ _ => True) (fun _ r => ∃ sub ∈ subs, MayTell fa.val sub r)
      (fun later r => ∃ cs records, later = [⟨.getAlert key, .ok fa⟩, ⟨.listSubscriptions, .ok subs⟩] ++ cs ∧ r.1 = [] ++ records ∧
        Relayed env fa.val state now subs cs records) [⟨.getAlert key, .ok fa⟩, ⟨.listSubscriptions, .ok subs⟩] :=
    relayAll_traced (fun _ r sub hsub hr => ⟨sub, hsub, hr⟩) hproper h.nodup [] 0 _
  refine (htraced.honours (J := fun later u => After key fails t u later ∧ Opened key later fa subs) (fun _ _ _ => trivial)
    (fun later u v ha _ hm => ?_) (fun later u r _ ha hr => ?_) (fun later u r a hu ha hr _ => ?_)
    ⟨⟨(append_nil _).symm, .refl t, fun _ => .refl t⟩, [], rfl⟩).imp h.sane fun later r u _ hres => ?_
  · obtain ⟨ha, hopen⟩ := ha
    exact ⟨⟨hm.told.trans ha.told, ha.kept.trans hm.kept, fun hf => (ha.still hf).trans ha.kept hm.kept (hm.still hf)⟩, hopen⟩
  · obtain ⟨sub, hsub, hmay⟩ := hr
    cases r with
    | post url token payload =>
      refine ⟨fun hdrop => hdrop.elim, fun hfiring => ⟨fa, subs, ha.2, sub, hsub, ?_⟩⟩
      obtain ⟨st, rfl, hmatch⟩ := hmay
      rw [state_buildPayload] at hfiring
      exact ⟨rfl, hmatch hfiring⟩
    | getSecret _ => exact ⟨fun hdrop => hdrop.elim, trivial⟩
    | getAlert _ | listSubscriptions | patchDeliveries _ _ | deleteAlert _ _ => exact hmay.elim
  · obtain ⟨sub, hsub, hmay⟩ := hr
    obtain ⟨ha, rest, hopen⟩ := ha
    have hkept : Kept key u (u.exec r a).1 := by
      rw [exec_tell hmay]
      exact .of_same rfl rfl
    refine ⟨⟨fun p hp => ?_, ?_⟩, ⟨?_, ha.kept.trans hkept, fun hf => ?_⟩, rest ++ [⟨r, (u.exec r a).2⟩], by rw [hopen]; rfl⟩
    · rw [exec_tell hmay] at hp
      rcases mem_append.mp hp with hp | hp
      · exact hkept.used _ (hu.told p hp)
      · rw [hmay.receiver _ p hp]
        exact hkept.used _ (ha.kept.used _ (used_of_value? (h.mem_iff.mp hsub)))
    · rw [exec_tell hmay]
      exact hu.proper
    · rw [exec_tell hmay, acceptedIn_append, ← append_assoc, ← ha.told]
    · rw [exec_tell hmay]
      exact ha.still hf
  · obtain ⟨⟨cs, records, rfl, hrec, hrel⟩, ha, -⟩ := hres
    rw [nil_append] at hrec
    exact ⟨cs, rfl, hrec ▸ hrel, ha.told, ha.kept, ha.still⟩

theorem World.Listing.informs {cs rest later : List (Called Request.Resp)}
    (hr : Relayed env fa.val state now subs cs next) (ha : After key fails t u cs) (htold : w.told = u.told)
    (hlater : later = ⟨.getAlert key, .ok fa⟩ :: ⟨.listSubscriptions, .ok subs⟩ :: rest) (hcs : cs ⊆ rest) :
    Informs env key now later w := by
  rintro fa' subs' state' ⟨rest', hopen⟩ hstate sub hsub hmatch hun hheld
  rw [hlater] at hopen
  cases hopen
  rw [h.state] at hstate
  cases hstate
  have hcalls : cs ⊆ later := by
    rw [hlater]
    exact fun c hc => mem_cons_of_mem _ (mem_cons_of_mem _ (hcs hc))
  rw [heard, htold]
  exact h.current hr ha hsub hmatch (hun.mono hcalls) hheld

theorem writeDeliveries_honours {cs : List (Called Request.Resp)} {records next : List AlertDelivery} (hkey : fa.val.key = key)
    (hr : Relayed env fa.val state now subs cs records) (ha : After key fails t u cs) (hperm : next.Perm records)
    (hQ : ∀ later w, past <+: later → w.told = u.told → (fails = true → Steady key u w) → Q later w) :
    (writeDeliveries env fa next state now requeue).Honours exec (relayDuties key fails)
      (fun later _ t' => Rest key fails t' ∧ Q later t') past u := by
  have hsorted : ∀ name, existing next name = existing records name := existing_perm hperm (h.nodup.sublist hr.names)
  have hover : ∀ {v}, After key fails t v cs → state = .resolved → allDelivered next state = true → Over v := by
    rintro v hv rfl hall
    refine h.over hr hv fun d hd => ?_
    simpa using all_eq_true.mp hall d (hperm.mem_iff.mpr hd)
  unfold writeDeliveries
  by_cases hsame : next = fa.val.deliveries
  · rw [if_pos hsame]
    have hrecords := ha.kept.records h.records
    refine purge_honours hkey (h.written hr ha ⟨rfl, fun cur hcur => ⟨cur, hcur, ?_, rfl, rfl⟩⟩ rfl hrecords fun name => ?_)
      (hover ha) hQ
    · rw [World.records, hcur, Option.map_some] at hrecords
      exact Option.some.inj hrecords
    · rw [← hsame, hsorted]
      exact .refl _
  · rw [if_neg hsame]
    intro v hv hm
    refine ⟨⟨fun hdrop => hdrop.elim, trivial⟩, fun a hcommit => ?_⟩
    have hav : After key fails t v cs :=
      ⟨hm.told.trans ha.told, ha.kept.trans hm.kept, fun hf => (ha.still hf).trans ha.kept hm.kept (hm.still hf)⟩
    have hbase : v.records fa.val.key = some fa.val.deliveries := by
      rw [hkey]
      exact hav.kept.records h.records
    have hproper := h.sane.proper _ h.records
    obtain ⟨ds, hds, hlike, hdsproper⟩ := patchDeliveries_records hbase hproper fun d hd => hr.proper d (hperm.mem_iff.mp hd)
    obtain ⟨answer, hanswer, hanswerkey⟩ : ∃ answer, (v.patchDeliveries fa.val next).2 = .ok answer ∧ answer.val.key = fa.val.key :=
      patchDeliveries_ok hbase
    -- the state that the write leaves
    have hwrite : Sane key (v.patchDeliveries fa.val next).1 ∧ Rest key fails (v.patchDeliveries fa.val next).1 := by
      rw [hkey] at hds
      refine ⟨⟨hv.told, fun ds' hds' => ?_⟩, h.written hr hav ⟨rfl, fun cur hcur => ?_⟩ rfl hds fun name => hsorted name ▸ hlike name⟩
      · rw [hds] at hds'
        cases hds'
        exact hdsproper
      · rw [World.records, ← hkey, patchDeliveries_value?, hkey, hcur] at hds
        exact ⟨fa.val.withDeliveries next cur, by rw [← hkey, patchDeliveries_value?, hkey, hcur]; rfl, Option.some.inj hds, rfl, rfl⟩
    obtain ⟨hsanew, hrestw⟩ := hwrite
    have hsteady : Steady key v (v.patchDeliveries fa.val next).1 := by
      intro cur hcur
      rw [← hkey, patchDeliveries_value?] at hcur
      obtain ⟨cur', hcur', rfl⟩ := Option.map_eq_some_iff.mp hcur
      rw [← hkey, hcur']
      rfl
    have hstop : ∀ {w}, w.told = v.told → Steady key v w → ∀ c, Q (past ++ [c]) w :=
      fun hw hs c => hQ _ _ (prefix_append _ _) (hw.trans hm.told) fun hf => (hm.still hf).steady.trans hs
    cases hfate : a.fate with
    | served =>
      have hexec : v.exec (.patchDeliveries fa.val next) a = v.patchDeliveries fa.val next := by rw [exec, hfate]; rfl
      rw [hexec, hanswer]
      have hoverv := hover hav
      refine ⟨hsanew, purge_honours (hanswerkey.trans hkey) hrestw hoverv fun later w hl hw hs => ?_⟩
      exact hQ later w ((prefix_append _ _).trans hl) (hw.trans hm.told)
        fun hf => ((hm.still hf).steady.trans hsteady).trans (hs hf)
    | lost e =>
      have hexec : v.exec (.patchDeliveries fa.val next) a = ((v.patchDeliveries fa.val next).1, .error (.fault e)) := by
        rw [exec, hfate]
        rfl
      rw [hexec]
      exact ⟨hsanew, hrestw, hstop (w := (v.patchDeliveries fa.val next).1) rfl hsteady _⟩
    | failed e =>
      have hexec : v.exec (.patchDeliveries fa.val next) a = (v, .error (.fault e)) := by
        rw [exec, hfate]
        rfl
      have hfails : fails = true := hcommit.resolve_left fun hserved => by
        rw [hfate] at hserved
        cases hserved
      subst hfails
      rw [hexec]
      exact ⟨hv, h.lost hr hav, hstop rfl (.refl v) _⟩

theorem settleAlert_honours (hkey : fa.val.key = key) :
    (settleAlert env fa state subs now).Honours exec (relayDuties key fails)
      (fun later _ t' => Rest key fails t' ∧ Ends env key fails now later t')
      [⟨.getAlert key, .ok fa⟩, ⟨.listSubscriptions, .ok subs⟩] t := by
  refine (relayAll_honours h).bind h.sane fun later r u _ hmid => ?_
  obtain ⟨cs, rfl, hr, ha⟩ := hmid
  refine writeDeliveries_honours h hkey hr ha (perm_insertionSort _ _) ?_
  rintro later w ⟨rest, rfl⟩ hw hs
  refine ⟨h.informs hr ha hw rfl (subset_append_left cs rest), fun hf => ?_⟩
  rintro fa' subs' ⟨rest', hopen⟩ cur hcur
  cases hopen
  obtain ⟨cur', hcur', hgist, -⟩ := h.still hf
  have hsteady := ((ha.still hf).steady.trans (hs hf)) cur hcur
  rw [hcur', Option.map_some] at hsteady
  exact (Option.some.inj hsteady).symm.trans hgist

end

theorem Ends.of_unopened (h : ∀ fa subs, ¬Opened key past fa subs) :
    Ends env key fails now past w :=
  ⟨fun fa subs _ hopen => absurd hopen (h fa subs), fun _ fa subs hopen => absurd hopen (h fa subs)⟩

theorem getAlert_ok {a : Answer} (h : (w.exec (.getAlert key) a).2 = .ok fa) :
    w.alerts.get? key = some fa := by
  rw [show w.exec (.getAlert key) a = _ from Fate.answer_ok h] at h
  exact read_ok h

theorem listSubscriptions_ok {a : Answer} (h : (w.exec .listSubscriptions a).2 = .ok subs) :
    subs = w.subscriptions.live.items.map Stamped.val := by
  rw [show w.exec .listSubscriptions a = _ from Fate.answer_ok h] at h
  cases h
  rfl

theorem reconcile_honours {s : World} (hs : Rest key fails s) :
    (reconcile env key now).Honours exec (relayDuties key fails) (fun past _ t => Rest key fails t ∧ Ends env key fails now past t)
      [] s := by
  have hreadAlert : ∀ (w : World) a, (w.exec (.getAlert key) a).1 = w := fun _ a => Fate.answer_read a.fate
  have hreadList : ∀ (w : World) a, (w.exec .listSubscriptions a).1 = w := fun _ a => Fate.answer_read a.fate
  unfold reconcile
  refine honours_ask (fun _ w a hw _ _ => (hreadAlert w a).symm ▸ hw) fun t ht hm => ?_
  have hrest := hs.meantime hm
  refine ⟨⟨fun _ => hrest, trivial⟩, fun a _ _ => ?_⟩
  rw [hreadAlert]
  cases hget : (t.exec (.getAlert key) a).2 with
  | error e =>
    have hstop : ∀ e, Ends env key fails now [⟨.getAlert key, .error e⟩] t :=
      fun e => Ends.of_unopened fun fa subs ⟨rest, hopen⟩ => by cases hopen
    cases e <;> exact ⟨hrest, hstop _⟩
  | ok fa =>
    have hlive := getAlert_ok hget
    dsimp only
    cases hstate : fa.val.state with
    | none =>
      exact ⟨hrest, Ends.of_unopened fun fa subs ⟨rest, hopen⟩ => by cases hopen⟩
    | some state =>
      refine honours_ask (fun _ w a hw _ _ => (hreadList w a).symm ▸ hw) fun u hu hmu => ?_
      have hrestu := hrest.meantime hmu
      refine ⟨⟨fun _ => hrestu, trivial⟩, fun b _ _ => ?_⟩
      rw [hreadList]
      cases hlist : (u.exec .listSubscriptions b).2 with
      | error e =>
        exact ⟨hrestu, Ends.of_unopened fun fa subs ⟨rest, hopen⟩ => by cases hopen⟩
      | ok subs =>
        have hvalue := value?_of_get? hlive
        refine settleAlert_honours ⟨hu, hrestu, hmu.kept.records (by rw [records, hvalue]; rfl), listSubscriptions_ok hlist, hstate,
          fun hf => ?_⟩ (past_of_get? hlive).2
        obtain ⟨cur, hcur, hcarried⟩ := hmu.kept.alert _ hvalue
        exact ⟨cur, hcur, (hmu.still hf).alert hvalue hcur, hcarried.creationTimestamp⟩

end Pass

end FrameOperator.Alerting
