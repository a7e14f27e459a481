import FrameOperator.Theorems.CredentialStore

/-!
# The first admin

authd asks whether there is an admin in its namespace, and the webhook whether there is one in any; neither asks again at the
commit. Two creates that are both reviewed before either is committed are both let through.
-/

namespace FrameOperator.Authd

open Versioned Accounts List

variable {τ σ : Type} {S : Server τ σ}

/-- A create of the first admin that the webhook has let through. -/
def Ticket.admitted (t : Ticket) : Bool :=
  match t.task with
  | .create .bootstrap _ => true
  | _ => false

/-- An account was created with the bootstrap secret. -/
def Event.bootstraps : Event → Bool
  | .created .bootstrap _ _ => true
  | _ => false

/-- A create of the first admin that waits for its review. -/
def Ticket.applies (t : Ticket) : Bool :=
  match t.task with
  | .review .bootstrap _ => true
  | _ => false

/-- The request in progress that is answered. -/
def Action.answers (w : World) : Action τ → Option Ticket
  | .proceed i _ _ _ => w.pending[i]?
  | _ => none

/-- A first admin's create is reviewed while no other one waits to be committed. -/
def OneReview (w : World) (a : Action τ) : Prop := ∀ t ∈ a.answers w, t.applies = true → ∀ t' ∈ w.pending, t'.admitted = false
deriving Decidable

/-! ## The review -/

theorem serviceAccounts_ne (ns : String) {g : String} (hg : g.toList.take 8 ≠ "system:s".toList) :
    "system:serviceaccounts:" ++ ns ≠ g := by
  rintro rfl
  refine hg ?_
  rw [String.toList_append, take_append_of_le_length (by decide)]
  decide

theorem serviceAccount_not_admin (ns : String) : byAdmin (some (serviceAccount ns)) = false := by
  rw [byAdmin, Option.any_some, AdmissionRequest.isAdmin, any_eq_false]
  intro g hg
  have hne : g ≠ adminGroup ∧ g ≠ clusterAdminGroup := by
    rcases mem_cons.mp hg with h | hg
    · rw [h]
      decide
    rcases mem_cons.mp hg with h | hg
    · rw [h]
      exact ⟨serviceAccounts_ne ns (by decide), serviceAccounts_ne ns (by decide)⟩
    · rw [mem_singleton.mp hg]
      decide
  simp [hne]

variable {d : Directory}

theorem no_admin_of_review {items : Except String (List Account)} {user : FrameUser} (hfits : fits d items = true)
    (hok : validateCreate S.unicode (some (serviceAccount S.cfg.namespaceName)) (items.map (·.map Stamped.val)) user = .ok ())
    (hadmin : user.enabledAdmin = true) : ∀ u ∈ d.users, u.enabledAdmin = false := by
  obtain ⟨users, hlist, hnone⟩ := validateCreate_admin hok (FrameUser.role_of_enabledAdmin hadmin) (serviceAccount_not_admin _)
  cases items with
  | error err => cases hlist
  | ok items =>
    cases hlist
    intro u hu
    obtain ⟨a, ha, rfl⟩ := mem_map.mp hu
    have hmem : a.val ∈ items.map Stamped.val := mem_map_of_mem ((isPerm_iff.mp hfits).mem_iff.mpr ha)
    rw [FrameUser.enabledAdmin, decide_eq_false (hnone a.val hmem), Bool.false_and]

/-! ## An admin somewhere -/

/-- Some account is an enabled admin. -/
def AnyAdmin (d : Directory) : Prop := ∃ u ∈ d.users, u.enabledAdmin = true

theorem AnyAdmin.create (h : AnyAdmin d) (user : FrameUser) : AnyAdmin (d.create user) := by
  obtain ⟨u, hu, hadmin⟩ := h
  exact ⟨u, Directory.mem_users.mpr (value?_create_of_some (Directory.mem_users.mp hu)), hadmin⟩

theorem AnyAdmin.modify (h : AnyAdmin d) (k : Key) (obj : FrameUser) :
    AnyAdmin (d.modify k (fun u => { u with passwordHash := obj.passwordHash, credentials := obj.credentials }) fun _ => rfl) := by
  obtain ⟨u, hu, hadmin⟩ := h
  have hval := Directory.mem_users.mp hu
  by_cases hk : u.key = k
  · refine ⟨{ u with passwordHash := obj.passwordHash, credentials := obj.credentials }, Directory.mem_users.mpr ?_, hadmin⟩
    show value? _ u.key = _
    rw [value?_modify, if_pos hk, hval, Option.map_some]
  · refine ⟨u, Directory.mem_users.mpr ?_, hadmin⟩
    rw [value?_modify, if_neg hk, hval]

variable {a : Action τ}

/-- An admin there is stays, whatever is served. -/
theorem Serves.anyAdmin {w w' : World} (h : Serves S w a w') (hadmin : AnyAdmin w.users) : AnyAdmin w'.users := by
  cases h with
  | quiet | begins | mints => exact hadmin
  | creates hpending hfree hevents => exact hadmin.create _
  | writes hpending hcurrent hevents => exact hadmin.modify _ _
  | outside hwrote =>
    obtain ⟨u, hu, hadmin⟩ := hadmin
    obtain ⟨v, hv, -, hadmin'⟩ := hwrote.admin (P := fun _ => True) hu trivial hadmin fun _ v _ hne => absurd trivial hne
    exact ⟨v, hv, hadmin'⟩

/-! ## A run -/

def underWay (w : World) : Nat := w.pending.countP Ticket.admitted
def done (w : World) : Nat := w.log.countP Event.bootstraps

/-- At most one account is bootstrapped. -/
structure OnceOnly (S : Server τ σ) (w : World) : Prop where
  sound : Sound S w
  one : underWay w + done w ≤ 1
  /-- Once an account has been created, there is an admin. -/
  left : 0 < done w → AnyAdmin w.users

theorem countP_bootstraps {events : List Event} (h : ∀ e ∈ events, Grantable S d e) :
    events.countP Event.bootstraps = 0 := by
  rw [countP_eq_zero]
  intro e he
  obtain ⟨s, subject, rfl, -⟩ := h e he
  exact Bool.false_ne_true

/-- What is admitted is alone, and finds no admin. -/
theorem OneReview.admits {w : World} (hok : OneReview w a) (hs : Sound S w) {t : Ticket} (hb : Begun S w a t)
    (ht : t.admitted = true) : underWay w = 0 ∧ ¬ AnyAdmin w.users := by
  cases hb with
  | @creating i items now ok held route user hi hfits hval =>
    cases route with
    | invite => cases ht
    | bootstrap =>
      have hnone := hok _ hi rfl
      obtain ⟨-, -, hadmin⟩ := hs _ (mem_of_getElem? hi)
      refine ⟨countP_eq_zero.mpr fun t ht => by rw [hnone t ht]; exact Bool.false_ne_true, ?_⟩
      rintro ⟨u, hu, hadmin'⟩
      rw [no_admin_of_review hfits hval (hadmin rfl) u hu] at hadmin'
      cases hadmin'
  | asking htask => rcases htask with ⟨email, rfl⟩ | ⟨email, credID, rfl⟩ <;> cases ht
  | bootstrapping | inviting | enrolling | counting | revoking | reviewing => cases ht

/-- What a step counts under way and done. -/
theorem Serves.counts {w w' : World} (h : Serves S w a w') (hs : Sound S w) :
    (underWay w' + done w' ≤ underWay w + done w ∨
      ∃ t, Begun S w a t ∧ t.admitted = true ∧ underWay w' ≤ underWay w + 1 ∧ done w' = done w) ∧
      (done w' ≤ done w ∨ AnyAdmin w'.users) := by
  cases h with
  | @quiet rest events hrest hevents =>
    have hrest' : underWay ⟨w.users, rest, w.log ++ events⟩ ≤ underWay w := hrest.countP_le
    have hdone : done ⟨w.users, rest, w.log ++ events⟩ = done w := by
      rw [done, countP_append, countP_bootstraps hevents, Nat.add_zero, done]
    exact ⟨.inl (by omega), .inl (by omega)⟩
  | @begins rest t hrest hb =>
    have hrest' : underWay ⟨w.users, rest ++ [t], w.log⟩ ≤ underWay w + if t.admitted then 1 else 0 := by
      rw [underWay, countP_append, countP_singleton]
      exact Nat.add_le_add_right hrest.countP_le _
    have hdone : done ⟨w.users, rest ++ [t], w.log⟩ = done w := rfl
    cases ht : t.admitted with
    | true =>
      rw [ht, if_pos rfl] at hrest'
      exact ⟨.inr ⟨t, hb, ht, hrest', hdone⟩, .inl (by omega)⟩
    | false =>
      rw [ht, if_neg Bool.false_ne_true] at hrest'
      exact ⟨.inl (by omega), .inl (by omega)⟩
  | @mints rest held cookie items now u token hrest ha hlive huser hmint =>
    have hrest' : underWay ⟨w.users, rest, w.log ++ [.minted held token]⟩ ≤ underWay w := hrest.countP_le
    have hdone : done ⟨w.users, rest, w.log ++ [.minted held token]⟩ = done w := by
      rw [done, countP_append, done]
      rfl
    exact ⟨.inl (by omega), .inl (by omega)⟩
  | @creates rest held route user events hpending hfree hevents =>
    obtain ⟨-, -, hadmin⟩ := hs _ (hpending.mem_iff.mpr mem_cons_self)
    have hnone := countP_bootstraps (S := S) (d := w.users) fun e he => (hevents e he).grantable
    have hcount : underWay w = underWay ⟨w.users.create user, rest, w.log ++ .created route held user.key :: events⟩ +
        if route = .bootstrap then 1 else 0 := by
      rw [underWay, hpending.countP_eq, countP_cons, underWay]
      cases route <;> rfl
    have hdone : done ⟨w.users.create user, rest, w.log ++ .created route held user.key :: events⟩ =
        done w + if route = .bootstrap then 1 else 0 := by
      rw [done, countP_append, countP_cons, hnone, Nat.zero_add, done]
      cases route <;> rfl
    refine ⟨.inl (by omega), ?_⟩
    cases route with
    | invite =>
      rw [if_neg nofun] at hdone
      exact .inl (by omega)
    | bootstrap =>
      refine .inr ⟨user, Directory.mem_users.mpr ?_, hadmin rfl⟩
      rw [value?_create, if_pos ⟨hfree, rfl⟩]
  | @writes rest held op base obj events hpending hcurrent hevents =>
    have hnone := countP_bootstraps (S := S) (d := w.users) fun e he => (hevents e he).grantable
    have hcount : underWay w = rest.countP Ticket.admitted := by
      rw [underWay, hpending.countP_eq, countP_cons_of_neg (by exact Bool.false_ne_true)]
    have hdone : (w.log ++ op.event base.val.key (((w.users.value? base.val.key).map (·.credentials)).getD []) :: events).countP
        Event.bootstraps = done w := by
      rw [countP_append, countP_cons_of_neg (by cases op <;> exact Bool.false_ne_true), hnone, Nat.add_zero, done]
    exact ⟨.inl (Nat.le_of_eq (congrArg₂ (· + ·) hcount.symm hdone)), .inl (Nat.le_of_eq hdone)⟩
  | @outside req wr users hwrote =>
    have hdone : (w.log ++ [Event.wrote wr.key (users.value? wr.key)]).countP Event.bootstraps = done w := by
      rw [countP_append, done]
      rfl
    exact ⟨.inl (Nat.add_le_add_left (Nat.le_of_eq hdone) _), .inl (Nat.le_of_eq hdone)⟩

/-- Every step that reviews alone keeps it at one. -/
theorem OnceOnly.step {w : World} (h : OnceOnly S w) (a : Action τ) (hok : OneReview w a) : OnceOnly S (w.serve S a).1 := by
  have hserves := serve_serves S w a
  obtain ⟨hcount, hleft⟩ := hserves.counts h.sound
  refine ⟨h.sound.serves hserves, ?_, fun hd => ?_⟩
  · have hone := h.one
    rcases hcount with hcount | ⟨t, hb, ht, hunder, hdone⟩
    · omega
    obtain ⟨hnone, hadmin⟩ := hok.admits h.sound hb ht
    have hzero : ¬ 0 < done w := fun hd => hadmin (h.left hd)
    omega
  · rcases hleft with hle | hadmin
    · exact hserves.anyAdmin (h.left (by omega))
    · exact hadmin

/-- At most one account is created with the bootstrap secret where creates of first admins are reviewed one at a time. -/
theorem bootstrap_once (S : Server τ σ) (w : World) (hidle : w.pending = []) (hlog : w.log = []) (actions : List (Action τ))
    (hok : Meets (World.serve S) OneReview w actions) : (run (World.serve S) w actions).1.log.countP Event.bootstraps ≤ 1 := by
  have h0 : OnceOnly S w := by
    refine ⟨sound_of_idle hidle, ?_, fun hd => ?_⟩
    · rw [underWay, done, hidle, hlog]
      exact Nat.zero_le 1
    · rw [done, hlog] at hd
      cases hd
  have h : OnceOnly S (run (World.serve S) w actions).1 :=
    run_induct (I := fun w (_ : List Reply) => OnceOnly S w) h0 (fun w _ a h hok => h.step a hok) actions hok
  exact (Nat.le_add_left _ _).trans h.one

namespace Fixture

def bootstrap (email : String) : World → Action Sealing := ask [] (.bootstrap (some ("first", email)))

def goOnSecond (w : World) : Action Sealing := .proceed 1 (.ok w.users.live.items) noon true

def nobody : World := world []

def raced : List (World → Action Sealing) :=
  [bootstrap "alice@example.com", bootstrap "mallory@example.com", goOn, goOn, goOn, goOn]

def inTurn : List (World → Action Sealing) :=
  [bootstrap "alice@example.com", bootstrap "mallory@example.com", goOn, goOnSecond, goOn]

end Fixture

set_option maxRecDepth 8000

open Fixture in
/-- Two admins are created with one secret, and both are there. -/
theorem two_first_admins :
    let w := (run (World.serve server) nobody (play server nobody raced)).1
    w.log.countP Event.bootstraps = 2 ∧ (w.users.users.map fun u => (u.spec.email, u.spec.role)) =
      [("alice@example.com", "admin"), ("mallory@example.com", "admin")] := by
  refine ⟨?_, ?_⟩ <;> decide +kernel

open Fixture in
/-- Two creates in turn: the second finds an admin. -/
theorem bootstrap_once_in_turn :
    let actions := play server nobody inTurn
    Meets (World.serve server) OneReview nobody actions ∧
      (run (World.serve server) nobody actions).1.log.countP Event.bootstraps ≤ 1 ∧
      (run (World.serve server) nobody actions).1.users.users.map (·.spec.email) = ["alice@example.com"] :=
  ⟨by decide +kernel, bootstrap_once server nobody rfl rfl _ (by decide +kernel), by decide +kernel⟩

end FrameOperator.Authd
