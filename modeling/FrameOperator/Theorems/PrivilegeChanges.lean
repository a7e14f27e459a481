import FrameOperator.Theorems.CredentialStore

/-!
# Privileges stay with the admins

A session is sealed for an address, and is good for whichever account has that address then. An account that is no admin may be
deleted and created again with another state, and an account of its name in another namespace may take its address.
-/

namespace FrameOperator.Authd

open Accounts
open V1beta1 (FrameUserSpec)
open Directory

variable {U : Unicode}

variable {u v : FrameUser} {req : Option AdmissionRequest} {d start : Directory}

/-- No two accounts claim one mailbox. -/
def DistinctMailboxes (U : Unicode) (d : Directory) : Prop :=
  ∀ u ∈ d.users, ∀ v ∈ d.users, U.equalFold u.spec.email v.spec.email = true → u.key = v.key
deriving Decidable

/-- A delete is of an admin or of an account that came later; a create has an address that no namesake claims. -/
def Guarded (U : Unicode) (start d : Directory) (w : Option AdmissionRequest × Write) : Prop :=
  byAdmin w.1 = false ∧
    match w.2 with
    | .create key spec _ =>
      spec.email ≠ "" ∧ ∀ u ∈ d.users, u.key.name = key.name → u.key ≠ key → U.equalFold u.spec.email spec.email = false
    | .update _ _ _ => True
    | .delete key =>
      ∀ u ∈ d.users, u.key = key → u.spec.role ≠ roleAdmin → ∀ v ∈ start.users, U.equalFold u.spec.email v.spec.email = false

instance (U : Unicode) (start d : Directory) (w : Option AdmissionRequest × Write) : Decidable (Guarded U start d w) := by
  obtain ⟨-, write⟩ := w
  cases write <;> unfold Guarded <;> infer_instance

/-- Tokens open as ideal ones do. -/
def Codec.Faithful {τ : Type} (c : Codec τ) : Prop := ∀ s q now, c.openToken q now (c.sealToken s) = idealCodec.openToken q now s

/-! ## One write -/

/-- Address, role and state are the same. -/
structure SameRights (u v : FrameUser) : Prop where
  email : v.spec.email = u.spec.email
  role : v.spec.role = u.spec.role
  enabled : isEnabled v.spec.state = isEnabled u.spec.state

theorem SameRights.refl (u : FrameUser) : SameRights u u := ⟨rfl, rfl, rfl⟩

theorem SameRights.trans {t : FrameUser} (h : SameRights u v) (h' : SameRights v t) : SameRights u t :=
  ⟨h'.email.trans h.email, h'.role.trans h.role, h'.enabled.trans h.enabled⟩

/-- An update by no admin keeps the rights. -/
theorem sameRights_of_update {users : List FrameUser} {old new : FrameUser}
    (h : validateUpdate U req (.ok users) old new = .ok ()) (hreq : byAdmin req = false) : SameRights old new := by
  have hnot : byAdmin req ≠ true := by
    rw [hreq]
    exact Bool.false_ne_true
  obtain ⟨hrole, hstate, hemail, -⟩ := validateUpdate_ok h
  refine ⟨?_, ?_, ?_⟩
  · by_contra hne
    exact hnot (hemail (Ne.symm hne)).1
  · by_contra hne
    exact hnot (hrole (Ne.symm hne))
  · by_contra hne
    exact hnot (hstate (Ne.symm hne))

/-- Each account from the start has its rights, and nobody else claims its mailbox. -/
structure Undisturbed (U : Unicode) (start d : Directory) : Prop where
  kept : ∀ u ∈ start.users, ∃ v, d.value? u.key = some v ∧ SameRights u v
  only : ∀ u ∈ start.users, ∀ v ∈ d.users, U.equalFold v.spec.email u.spec.email = true → v.key = u.key

theorem Undisturbed.refl (h : DistinctMailboxes U d) : Undisturbed U d d :=
  ⟨fun u hu => ⟨u, mem_users.mp hu, .refl u⟩, fun u hu v hv heq => h v hv u hu heq⟩

section

variable (h : Undisturbed U start d)
include h

theorem Undisturbed.kept_wrote {d' : Directory} {w : Write}
    (hw : Wrote U d req w d') (hok : Guarded U start d (req, w)) (hu : u ∈ start.users) :
    ∃ v, d'.value? u.key = some v ∧ SameRights u v := by
  obtain ⟨v, hv, hrights⟩ := h.kept u hu
  have hkey := key_of_value? hv
  rw [← hkey] at hv ⊢
  cases hw with
  | refused => exact ⟨v, hv, hrights⟩
  | created hfree hval => exact ⟨v, (Wrote.created hfree hval).frame hv (.inr ⟨_, _, _, rfl⟩), hrights⟩
  | @updated key spec hash old hold hval =>
    by_cases hk : v.key = key
    · subst hk
      rw [hold] at hv
      cases hv
      refine ⟨{ v with spec := spec, passwordHash := hash }, ?_, hrights.trans (sameRights_of_update hval hok.1)⟩
      rw [Versioned.value?_modify, if_pos rfl, hold, Option.map_some]
    · exact ⟨v, (Wrote.updated hold hval).frame hv (.inl fun hk' => hk hk'.symm), hrights⟩
  | @deleted key old hold hval =>
    by_cases hk : v.key = key
    · -- the account is no admin, since a delete of one is refused, and claims the mailbox of `u`
      subst hk
      rw [hold] at hv
      cases hv
      have hrole : v.spec.role ≠ roleAdmin := by
        intro hrole
        have hby := (validateDelete_ok hval hrole).1
        rw [hok.1] at hby
        cases hby
      have hfree := hok.2 v (mem_users.mpr hold) rfl hrole u hu
      rw [hrights.email, U.equalFold_self] at hfree
      cases hfree
    · exact ⟨v, (Wrote.deleted (U := U) hold hval).frame hv (.inl fun hk' => hk hk'.symm), hrights⟩

theorem Undisturbed.only_wrote {d' : Directory} {w : Write}
    (hw : Wrote U d req w d') (hok : Guarded U start d (req, w)) (hu : u ∈ start.users) (hv : v ∈ d'.users)
    (heq : U.equalFold v.spec.email u.spec.email = true) : v.key = u.key := by
  rcases hw.cases (mem_users.mp hv) with hv | ⟨spec, hash, rfl, hfree, hnew, hval⟩ | ⟨old, spec, hash, -, hold, hnew, hval⟩
  · exact h.only u hu v (mem_users.mpr hv) heq
  · obtain ⟨owner, howner, hrights⟩ := h.kept u hu
    have hmem : owner ∈ d.users := mem_users.mpr (by rwa [key_of_value? howner])
    have hclaims : U.equalFold owner.spec.email v.spec.email = true := by
      rw [hrights.email]
      exact Unicode.equalFold_symm heq
    have hspec : v.spec = spec := by rw [hnew]
    by_contra hne
    have hkey := key_of_value? howner
    rcases requireEmailUnclaimed_ok (validateCreate_ok hval) with hempty | hunclaimed
    · rw [hspec] at hempty
      exact hok.2.1 hempty
    by_cases hname : owner.key.name = v.key.name
    · have hother := hok.2.2 owner hmem hname (by rw [hkey]; exact Ne.symm hne)
      rw [← hspec, hclaims] at hother
      cases hother
    · have hother := hunclaimed owner hmem hname
      rw [hclaims] at hother
      cases hother
  · have hrights := sameRights_of_update hval hok.1
    have hkey := key_of_value? hold
    rw [hrights.email] at heq
    rw [← h.only u hu old (mem_users.mpr (by rwa [hkey])) heq, hkey]

/-- A guarded write leaves the rights. -/
theorem Undisturbed.step (w : Option AdmissionRequest × Write)
    (hok : Guarded U start d w) : Undisturbed U start (write U d w) :=
  have hw := write_wrote U d w
  ⟨fun _ hu => h.kept_wrote hw hok hu, fun _ hu _ hv heq => h.only_wrote hw hok hu hv heq⟩

theorem Undisturbed.rights (hu : u ∈ start.users) (hv : v ∈ d.users)
    (heq : U.equalFold v.spec.email u.spec.email = true) :
    v.spec.role = u.spec.role ∧ isEnabled v.spec.state = isEnabled u.spec.state := by
  obtain ⟨w, hw, hrights⟩ := h.kept u hu
  have hval := mem_users.mp hv
  rw [h.only u hu v hv heq, hw] at hval
  cases hval
  exact ⟨hrights.role, hrights.enabled⟩

end

/-! ## Sessions -/

section

variable {τ σ : Type} {S : Server τ σ}

theorem handleToken_minted {items : Except StoreError (List Account)} {now : Instant} {cookie : Option τ} {r : Reply} {token : IDToken}
    (h : handleToken S items now cookie = .reply r) (hminted : r.minted = some token) :
    ∃ u, sessionUser S items now cookie = .ok u ∧ token.groups = [groupForRole u.val.spec.role] := by
  unfold handleToken at h
  split at h
  · rename_i err hs
    cases h
    rw [(sessionUser_error hs).2] at hminted
    cases hminted
  · rename_i u hs
    split at h
    · cases h
      cases hminted
    rename_i token' hmint
    cases h
    cases hminted
    exact ⟨u, hs, (mint_some hmint).2⟩

/-- A session has the rights of who held its address. -/
theorem Undisturbed.session (h : Undisturbed U start d) (hfaithful : S.auth.codec.Faithful) (hu : u ∈ start.users) {ttl : Duration}
    {sealedAt now : Instant} {items : List Account} (hitems : items.Perm d.live.items)
    {purposes : List Purpose} {p : Purpose} {v : Account}
    (hv : sessionUserFor S (list S.cfg.namespaceName (.ok items)) now
      (some (S.auth.codec.sealToken ⟨purposeSession, utf8 u.spec.email, ttl, sealedAt⟩)) purposes = .ok (p, v)) :
    v.val.spec.role = u.spec.role ∧ isEnabled u.spec.state = true := by
  obtain ⟨-, hissuable, c, hc, hopen, served, hlist, hmem⟩ := sessionUserFor_ok hv
  cases hc
  have hemail : v.val.spec.email = u.spec.email := by
    rw [hfaithful] at hopen
    simp only [idealCodec] at hopen
    split at hopen
    · exact (utf8_inj (Option.some.inj hopen)).symm
    · cases hopen
  have hlive : v.val ∈ d.users := by
    cases hlist
    exact List.mem_map_of_mem (hitems.mem_iff.mp (List.mem_filter.mp hmem).1)
  obtain ⟨hrole, henabled⟩ := h.rights hu hlive (by rw [hemail]; exact U.equalFold_self _)
  exact ⟨hrole, henabled.symm.trans hissuable⟩

end

/-- Writes of others than admins leave the role and the state of who claims a mailbox, and so sessions and ID tokens. -/
theorem privileges_kept (U : Unicode) (start : Directory) (hdistinct : DistinctMailboxes U start)
    (writes : List (Option AdmissionRequest × Write)) (hok : Meets (silent (write U)) (Guarded U start) start writes) :
    let d := (run (silent (write U)) start writes).1
    (∀ u ∈ start.users, ∀ v ∈ d.users, U.equalFold v.spec.email u.spec.email = true →
      v.spec.role = u.spec.role ∧ isEnabled v.spec.state = isEnabled u.spec.state) ∧
    ∀ {τ σ : Type} (S : Server τ σ), S.auth.codec.Faithful → ∀ u ∈ start.users, ∀ (ttl : Duration) (sealedAt now : Instant)
      (items : List Account), items.Perm d.live.items →
        let cookie := some (S.auth.codec.sealToken ⟨purposeSession, utf8 u.spec.email, ttl, sealedAt⟩)
        (∀ purposes p v, sessionUserFor S (list S.cfg.namespaceName (.ok items)) now cookie purposes = .ok (p, v) →
          v.val.spec.role = u.spec.role ∧ isEnabled u.spec.state = true) ∧
        ∀ r token, handleToken S (list S.cfg.namespaceName (.ok items)) now cookie = .reply r → r.minted = some token →
          token.groups = [groupForRole u.spec.role] ∧ isEnabled u.spec.state = true := by
  have h : Undisturbed U start (run (silent (write U)) start writes).1 :=
    silent_induct (.refl hdistinct) (fun d w h hw => h.step w hw) writes hok
  refine ⟨fun u hu v hv heq => h.rights hu hv heq, fun S hfaithful u hu ttl sealedAt now items hitems => ⟨?_, ?_⟩⟩
  · intro purposes p v hv
    exact h.session hfaithful hu hitems hv
  · intro r token hreply hminted
    obtain ⟨v, hs, hgroups⟩ := handleToken_minted hreply hminted
    obtain ⟨hrole, henabled⟩ := h.session hfaithful hu hitems (sessionUser_ok hs)
    exact ⟨by rw [hgroups, hrole], henabled⟩

namespace Fixture

def withdrawn : Directory :=
  (Versioned.empty.create (account "alice" "alice@example.com" "admin" 1)).create
    { key := ⟨"cluster-control", "bob"⟩, spec := { email := "bob@example.com", role := "viewer", state := "disabled" } }

def editor : Option AdmissionRequest := some { username := "bob", groups := ["frame:operators"] }

def recreated : List (Option AdmissionRequest × Write) :=
  [(editor, .delete ⟨"cluster-control", "bob"⟩),
    (editor, .create ⟨"cluster-control", "bob"⟩ { email := "bob@example.com", role := "operator", state := "enabled" } "")]

def elsewhere : List (Option AdmissionRequest × Write) :=
  [(editor, .create ⟨"staging", "alice"⟩ { email := "Alice@example.com", role := "viewer" } "")]

def attempts : List (Option AdmissionRequest × Write) :=
  [(editor, .update ⟨"cluster-control", "bob"⟩ { email := "bob@example.com", role := "admin", state := "enabled" } ""),
    (editor, .create ⟨"cluster-control", "robert"⟩ { email := "BOB@example.com", role := "operator" } ""),
    (editor, .delete ⟨"cluster-control", "alice"⟩)]

def after (writes : List (Option AdmissionRequest × Write)) : Directory := (run (silent (write .ascii)) withdrawn writes).1

def tokenOf (d : Directory) : Outcome :=
  handleToken server (list "cluster-control" (.ok d.live.items)) noon (some (session "bob@example.com"))

def rightsOf (d : Directory) : List (String × String × Bool) :=
  d.users.map fun u => (u.spec.email, u.spec.role, isEnabled u.spec.state)

end Fixture

set_option maxRecDepth 8000

open Fixture in
/-- Two writes that no admin made give a disabled viewer's session an operator's rights, and one splits a mailbox. -/
theorem rights_by_recreation :
    DistinctMailboxes .ascii withdrawn ∧ byAdmin editor = false ∧
      tokenOf withdrawn = .reply unauthorized ∧
      tokenOf (after recreated) =
        .reply { code := 200, minted := some { email := "bob@example.com", groups := ["operators"] } } ∧
      rightsOf (after elsewhere) =
        [("alice@example.com", "admin", true), ("bob@example.com", "viewer", false), ("Alice@example.com", "viewer", true)] := by
  refine ⟨?_, ?_, ?_, ?_, ?_⟩ <;> decide +kernel

open Fixture in
/-- Attempts that are refused. -/
theorem privileges_kept_attempts :
    Meets (silent (write .ascii)) (Guarded .ascii withdrawn) withdrawn attempts ∧
      (∀ u ∈ withdrawn.users, ∀ v ∈ (after attempts).users,
        Unicode.ascii.equalFold v.spec.email u.spec.email = true →
          v.spec.role = u.spec.role ∧ isEnabled v.spec.state = isEnabled u.spec.state) ∧
      tokenOf (after attempts) = .reply unauthorized :=
  ⟨by decide +kernel, (privileges_kept .ascii withdrawn (by decide +kernel) attempts (by decide +kernel)).1,
    by decide +kernel⟩

end FrameOperator.Authd
