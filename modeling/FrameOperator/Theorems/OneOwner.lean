import FrameOperator.Theorems.CredentialStore

/-!
# Whose credential it is

The account of a sign-in is the one that has the credential's ID. An enrolment looks for the ID among the credentials of its own
account only: two accounts can come to have one ID, and the one that is listed first is checked.
-/

namespace FrameOperator.Authd

open List Accounts
open V1beta1 (WebAuthnCredential)
open Directory

variable {τ σ : Type} {S : Server τ σ}

/-- No two served accounts have a credential of one ID. -/
def OneOwner (S : Server τ σ) (d : Directory) : Prop :=
  ∀ u ∈ d.users, ∀ u' ∈ d.users, u.key.namespaceName = S.cfg.namespaceName → u'.key.namespaceName = S.cfg.namespaceName →
    ∀ c ∈ u.credentials, ∀ c' ∈ u'.credentials, c.id = c'.id → u.key = u'.key
deriving Decidable

/-- The account that a request in progress enrols a credential for, and the credential's ID. -/
def Ticket.adding (t : Ticket) : Option (Key × String) :=
  match t.task with
  | .write (.enrol _ cred) base _ => some (base.val.key, cred.id)
  | _ => none

/-- No other served account has the ID, and no other account is being given it. -/
def OthersLack (S : Server τ σ) (w : World) (k : Key) (id : String) : Prop :=
  (∀ v ∈ w.users.users, v.key.namespaceName = S.cfg.namespaceName → v.key ≠ k → ∀ c ∈ v.credentials, c.id ≠ id) ∧
    ∀ t ∈ w.pending, ∀ p ∈ t.adding, p.1 ≠ k → p.2 ≠ id
deriving Decidable

/-- The account that a registration is for, and the ID that it presents. -/
def Action.registers (S : Server τ σ) : Action τ → Option (Key × String)
  | .request _ (.registerFinish cookie _ _ (some body) _) items now =>
    match sessionUserFor S (list S.cfg.namespaceName items) now cookie [purposeSession, purposeEnrol],
      S.auth.web.parseCreation body with
    | .ok (_, u), .ok rawID => some (u.val.key, encodeID rawID)
    | _, _ => none
  | _ => none

/-- A registration presents an ID that no other account has or is enrolling. -/
def FreshID (S : Server τ σ) (w : World) (a : Action τ) : Prop := ∀ r ∈ a.registers S, OthersLack S w r.1 r.2
deriving Decidable

/-! ## Who claims an ID -/

/-- The account has the ID, or is about to. -/
def Claims (S : Server τ σ) (w : World) (k : Key) (id : String) : Prop :=
  (k.namespaceName = S.cfg.namespaceName ∧ ∃ u, w.users.value? k = some u ∧ ∃ c ∈ u.credentials, c.id = id) ∨
    ∃ t ∈ w.pending, t.adding = some (k, id)

variable {w : World} {a : Action τ}

theorem Begun.adding {t : Ticket} (h : Begun S w a t) {r : Key × String} (ht : t.adding = some r) :
    a.registers S = some r := by
  cases h with
  | enrolling hlive huser hcred hobj =>
    obtain ⟨rawID, hparse, hid⟩ := finishRegistration_ok hcred
    cases ht
    simp only [Action.registers, huser, hparse, hid]
  | asking htask =>
    rcases htask with ⟨email, rfl⟩ | ⟨email, credID, rfl⟩ <;> cases ht
  | bootstrapping | inviting | counting | revoking | reviewing | creating => cases ht

theorem Fate.claims {events : List Event} {k : Key} {u : FrameUser} (h : Fate w events k u)
    (hns : k.namespaceName = S.cfg.namespaceName) (hkey : ∀ base, w.users.get? k = some base → base.val.key = k)
    {c : WebAuthnCredential}
    (hc : c ∈ u.credentials) : Claims S w k c.id := by
  cases h with
  | kept hu hsame => exact .inl ⟨hns, _, hu, c, hsame ▸ hc, rfl⟩
  | fresh hfree hnone =>
    rw [hnone] at hc
    cases hc
  | @written held op base hticket hbase hcomputes hevent =>
    have hval : w.users.value? k = some base.val := Versioned.value?_of_get? hbase
    cases op with
    | enrol via cred =>
      obtain ⟨-, rfl⟩ := addCredential_ok hcomputes
      rcases mem_append.mp hc with hc | hc
      · exact .inl ⟨hns, _, hval, c, hc, rfl⟩
      rw [mem_singleton.mp hc]
      refine .inr ⟨_, hticket, ?_⟩
      show some (base.val.key, cred.id) = some (k, cred.id)
      rw [hkey base hbase]
    | count cred =>
      obtain ⟨-, rfl⟩ := recordLoginCounter_ok hcomputes
      have hmem : c.id ∈ base.val.credentials.map (·.id) := by
        rw [← ids_setSignCount (encodeID cred.id) cred.signCount]
        exact mem_map_of_mem hc
      obtain ⟨c', hc', hid⟩ := mem_map.mp hmem
      exact .inl ⟨hns, _, hval, c', hc', hid⟩
    | remove credID =>
      obtain ⟨-, rfl⟩ := removeCredential_ok hcomputes
      exact .inl ⟨hns, _, hval, c, (mem_filter.mp hc).1, rfl⟩

/-- Who claims an ID claimed it, or began to. -/
theorem Serves.claims {w w' : World} (h : Serves S w a w') (hs : Sound S w) {k : Key} {id : String}
    (hc : Claims S w' k id) : Claims S w k id ∨ ∃ t, Begun S w a t ∧ t.adding = some (k, id) := by
  rcases hc with ⟨hns, u, hu, c, hcmem, rfl⟩ | ⟨t, ht, hadding⟩
  · obtain ⟨events, -, hfate⟩ := h.fate hs
    exact .inl ((hfate k u hu).claims hns (fun base hbase => (Versioned.past_of_get? hbase).2) hcmem)
  rcases h.pending ht with ht | hb
  · exact .inl (.inr ⟨t, ht, hadding⟩)
  · exact .inr ⟨t, hb, hadding⟩

/-! ## A run -/

structure Owned (S : Server τ σ) (w : World) : Prop where
  sound : Sound S w
  claims : ∀ k k' id, Claims S w k id → Claims S w k' id → k = k'

theorem OthersLack.unclaimed {k k' : Key} {id : String} (h : OthersLack S w k id) (hc : Claims S w k' id) : k' = k := by
  by_contra hne
  rcases hc with ⟨hns, v, hv, c, hcmem, hid⟩ | ⟨t, ht, hadding⟩
  · have hkey := key_of_value? hv
    subst hkey
    exact h.1 v (mem_users.mpr hv) hns hne c hcmem hid
  · exact h.2 t ht _ hadding hne rfl

/-- Every step with a fresh ID keeps one owner. -/
theorem Owned.step (h : Owned S w) (a : Action τ) (hok : FreshID S w a) : Owned S (w.serve S a).1 := by
  have hserves := serve_serves S w a
  refine ⟨h.sound.serves hserves, fun k k' id hc hc' => ?_⟩
  rcases hserves.claims h.sound hc with hc | ⟨t, hb, ht⟩ <;> rcases hserves.claims h.sound hc' with hc' | ⟨t', hb', ht'⟩
  · exact h.claims k k' id hc hc'
  · exact (hok _ (hb'.adding ht')).unclaimed hc
  · exact ((hok _ (hb.adding ht)).unclaimed hc').symm
  -- both claims are of the one registration
  have hsame := (hb.adding ht).symm.trans (hb'.adding ht')
  exact congrArg Prod.fst (Option.some.inj hsame)

theorem Owned.oneOwner (h : Owned S w) : OneOwner S w.users := by
  intro u hu u' hu' hns hns' c hc c' hc' hid
  exact h.claims u.key u'.key c.id (.inl ⟨hns, u, mem_users.mp hu, c, hc, rfl⟩)
    (.inl ⟨hns', u', mem_users.mp hu', c', hc', hid.symm⟩)

/-! ## The order of a list -/

theorem find?_perm {α : Type} {l l' : List α} {p : α → Bool} (h : l.Perm l')
    (huniq : ∀ a ∈ l, ∀ b ∈ l, p a = true → p b = true → a = b) : l.find? p = l'.find? p := by
  cases hf : l.find? p with
  | none =>
    have hnone : l'.find? p = none := find?_eq_none.mpr fun a ha => find?_eq_none.mp hf a (h.mem_iff.mpr ha)
    rw [hnone]
  | some a =>
    have ha := mem_of_find?_eq_some hf
    have hpa := find?_some hf
    cases hf' : l'.find? p with
    | none => exact absurd hpa (find?_eq_none.mp hf' a (h.mem_iff.mp ha))
    | some b =>
      have hb := h.mem_iff.mpr (mem_of_find?_eq_some hf')
      rw [huniq a ha b hb hpa (find?_some hf')]

theorem byCredentialID_perm {d : Directory} (h : OneOwner S d) {items items' : List Account} (hi : items.Perm d.live.items)
    (hi' : items'.Perm d.live.items) (credID : String) :
    byCredentialID (list S.cfg.namespaceName (.ok items)) credID = byCredentialID (list S.cfg.namespaceName (.ok items')) credID := by
  have hperm := (hi.trans hi'.symm).filter (·.val.key.namespaceName = S.cfg.namespaceName)
  have hfind := find?_perm (p := fun u : Account => u.val.credentials.any (·.id = credID)) hperm fun u hu v hv hpu hpv => by
    obtain ⟨c, hc, hid⟩ := any_eq_true.mp hpu
    obtain ⟨c', hc', hid'⟩ := any_eq_true.mp hpv
    obtain ⟨hu, hns⟩ := mem_filter.mp hu
    obtain ⟨hv, hns'⟩ := mem_filter.mp hv
    have hu := hi.mem_iff.mp hu
    have hv := hi.mem_iff.mp hv
    refine d.live.eq_of_key hu hv (h _ (mem_map_of_mem hu) _ (mem_map_of_mem hv) (of_decide_eq_true hns)
      (of_decide_eq_true hns') c hc c' hc' ?_)
    rw [of_decide_eq_true hid, of_decide_eq_true hid']
  simp only [byCredentialID, list]
  rw [hfind]

theorem finishLogin_congr (a : Authenticator τ σ) (now : Instant) {items items' : Except StoreError (List Account)}
    (h : ∀ credID, byCredentialID items credID = byCredentialID items' credID) (c : τ) (body : Bytes) :
    finishLogin a now items c body = finishLogin a now items' c body := by
  unfold finishLogin
  simp only [h]

/-- No two served accounts have a credential of one ID, where registrations present an ID that no other one has. -/
theorem one_owner (S : Server τ σ) (w : World) (hidle : w.pending = []) (hstart : OneOwner S w.users) (actions : List (Action τ))
    (hok : Meets (World.serve S) (FreshID S) w actions) :
    let d := (run (World.serve S) w actions).1.users
    OneOwner S d ∧ ∀ items items' : List Account, items.Perm d.live.items → items'.Perm d.live.items →
      (∀ credID, byCredentialID (list S.cfg.namespaceName (.ok items)) credID =
        byCredentialID (list S.cfg.namespaceName (.ok items')) credID) ∧
      ∀ now c body, finishLogin S.auth now (list S.cfg.namespaceName (.ok items)) c body =
        finishLogin S.auth now (list S.cfg.namespaceName (.ok items')) c body := by
  have h0 : Owned S w := by
    refine ⟨sound_of_idle hidle, fun k k' id hc hc' => ?_⟩
    rcases hc with ⟨hns, u, hu, c, hc, rfl⟩ | ⟨t, ht, -⟩
    · rcases hc' with ⟨hns', u', hu', c', hc', hid⟩ | ⟨t, ht, -⟩
      · obtain rfl := key_of_value? hu
        obtain rfl := key_of_value? hu'
        exact hstart u (mem_users.mpr hu) u' (mem_users.mpr hu') hns hns' c hc c' hc' hid.symm
      · rw [hidle] at ht
        cases ht
    · rw [hidle] at ht
      cases ht
  have h : Owned S (run (World.serve S) w actions).1 :=
    run_induct (I := fun w (_ : List Reply) => Owned S w) h0 (fun w _ a h hok => h.step a hok) actions hok
  have howner := h.oneOwner
  refine ⟨howner, fun items items' hi hi' => ?_⟩
  have hby := byCredentialID_perm howner hi hi'
  exact ⟨hby, fun now c body => finishLogin_congr S.auth now hby c body⟩

namespace Fixture

def pair : World := world [account "alice" "alice@example.com" "admin" 1, account "bob" "bob@example.com" "viewer" 2]

def furtherKeys (id id' : UInt8) : List (World → Action Sealing) :=
  [ask [] (.loginBegin 0), login 6 1, goOn, login 6 2, goOn,
    ask [session "alice@example.com"] (.registerBegin (some (session "alice@example.com")) 0),
    enrol (session "alice@example.com") id, goOn, enrol (session "bob@example.com") id', goOn]

def enrolledBoth (id id' : UInt8) : World := (run (World.serve server) pair (play server pair (furtherKeys id id'))).1

def ownerOf (items : List Account) (credID : String) : Option String :=
  (byCredentialID (list "cluster-control" (.ok items)) credID).toOption.map (·.val.key.name)

end Fixture

set_option maxRecDepth 8000

open Fixture in
/-- Two accounts enrol one ID, and the list says whose it is. -/
theorem shared_credential :
    OneOwner server pair.users ∧ ¬ OneOwner server (enrolledBoth 9 9).users ∧
      ownerOf (enrolledBoth 9 9).users.live.items (encodeID [9]) = some "alice" ∧
      ownerOf (enrolledBoth 9 9).users.live.items.reverse (encodeID [9]) = some "bob" := by
  refine ⟨?_, ?_, ?_, ?_⟩ <;> decide +kernel

open Fixture in
/-- Two accounts with keys of their own. -/
theorem one_owner_apart :
    Meets (World.serve server) (FreshID server) pair (play server pair (furtherKeys 8 9)) ∧
      OneOwner server (enrolledBoth 8 9).users ∧
      (((enrolledBoth 8 9).users.users.map fun u => u.credentials.length) = [2, 2]) :=
  ⟨by decide +kernel, (one_owner server pair rfl (by decide +kernel) _ (by decide +kernel)).1, by decide +kernel⟩

end FrameOperator.Authd
