import FrameOperator.Accounts.Admission

/-!
# What an accepted review says

For each of the three reviews, what is known once it refuses nothing, in terms of the accounts listed and of who makes the request; and
what a write leaves of the accounts.
-/

namespace FrameOperator.Accounts

open Directory

open V1beta1 (FrameUserSpec)
open Versioned

variable {U : Unicode} {req : Option AdmissionRequest} {users : List FrameUser}

def byAdmin (req : Option AdmissionRequest) : Bool := req.any AdmissionRequest.isAdmin

def AnotherAdmin (users : List FrameUser) (name : String) : Prop := ∃ u ∈ users, u.key.name ≠ name ∧ u.enabledAdmin = true

def Unclaimed (U : Unicode) (users : List FrameUser) (email name : String) : Prop :=
  email = "" ∨ ∀ u ∈ users, u.key.name ≠ name → U.equalFold u.spec.email email = false

theorem seq_ok {α ε : Type} {x : Except ε Unit} {f : Unit → Except ε α} {r : α} (h : x >>= f = .ok r) :
    x = .ok () ∧ f () = .ok r := by
  cases x with
  | error err => cases h
  | ok u => exact ⟨rfl, h⟩

theorem requireAdminRequester_ok {action : String} (h : requireAdminRequester req action = .ok ()) : byAdmin req = true := by
  unfold requireAdminRequester at h
  split at h
  · cases h
  split at h
  · rename_i r hr
    rw [byAdmin, Option.any_some, hr]
  · cases h

theorem requireAnotherAdmin_ok {name : String} (h : requireAnotherAdmin (.ok users) name = .ok ()) : AnotherAdmin users name := by
  unfold requireAnotherAdmin at h
  simp only at h
  split at h
  · rename_i hany
    obtain ⟨u, hu, hp⟩ := List.any_eq_true.mp hany
    rw [Bool.and_eq_true, decide_eq_true_eq] at hp
    exact ⟨u, hu, hp⟩
  · cases h

/-- What is let through has an address of its own. -/
theorem requireEmailUnclaimed_ok {email name : String} (h : requireEmailUnclaimed U (.ok users) email name = .ok ()) :
    Unclaimed U users email name := by
  unfold requireEmailUnclaimed at h
  split at h
  · exact .inl ‹_›
  simp only at h
  split at h
  · rename_i hfind
    refine .inr fun u hu hname => ?_
    have hp := List.find?_eq_none.mp hfind u hu
    simpa [hname] using hp
  · cases h

/-! ## The three reviews -/

variable {obj : FrameUser} {list : Listing}

theorem validateCreate_ok (h : validateCreate U req list obj = .ok ()) :
    requireEmailUnclaimed U list obj.spec.email obj.key.name = .ok () := by
  unfold validateCreate at h
  obtain ⟨-, h⟩ := seq_ok h
  exact (seq_ok h).1

theorem validateCreate_admin (h : validateCreate U req list obj = .ok ())
    (hrole : obj.spec.role = roleAdmin) (hreq : byAdmin req = false) :
    ∃ users, list = .ok users ∧ ∀ u ∈ users, u.spec.role ≠ roleAdmin := by
  unfold validateCreate at h
  obtain ⟨-, h⟩ := seq_ok h
  obtain ⟨-, h⟩ := seq_ok h
  rw [if_neg (not_not.mpr hrole)] at h
  cases list with
  | error err => cases h
  | ok users =>
    refine ⟨users, rfl, fun u hu hadmin => ?_⟩
    have hany : anyAdminExists (.ok users) = .ok true :=
      congrArg Except.ok (List.any_eq_true.mpr ⟨u, hu, decide_eq_true hadmin⟩)
    rw [hany] at h
    have hby := requireAdminRequester_ok h
    rw [hreq] at hby
    cases hby

theorem validateDelete_ok (h : validateDelete req (.ok users) obj = .ok ()) (hrole : obj.spec.role = roleAdmin) :
    byAdmin req = true ∧ AnotherAdmin users obj.key.name := by
  unfold validateDelete at h
  rw [if_neg (not_not.mpr hrole)] at h
  obtain ⟨hreq, h⟩ := seq_ok h
  exact ⟨requireAdminRequester_ok hreq, requireAnotherAdmin_ok h⟩

theorem when_ok {c : Prop} [Decidable c] {x rest : Except String Unit} (h : (if c then x >>= fun _ => rest else rest) = .ok ()) :
    (c → x = .ok ()) ∧ rest = .ok () := by
  split at h
  · obtain ⟨hx, hr⟩ := seq_ok h
    exact ⟨fun _ => hx, hr⟩
  · exact ⟨fun hc => absurd hc ‹_›, h⟩

/-- Roles and states change at an admin's request only. -/
theorem validateUpdate_ok {old new : FrameUser} (h : validateUpdate U req (.ok users) old new = .ok ()) :
    (old.spec.role ≠ new.spec.role → byAdmin req = true) ∧
      (isEnabled old.spec.state ≠ isEnabled new.spec.state → byAdmin req = true) ∧
      (old.spec.email ≠ new.spec.email → byAdmin req = true ∧ Unclaimed U users new.spec.email new.key.name) ∧
      (old.enabledAdmin = true → new.enabledAdmin = false → AnotherAdmin users old.key.name) := by
  unfold validateUpdate at h
  obtain ⟨-, h⟩ := seq_ok h
  obtain ⟨hrole, h⟩ := when_ok h
  obtain ⟨hstate, h⟩ := when_ok h
  have hemail : (old.spec.email ≠ new.spec.email → byAdmin req = true ∧ Unclaimed U users new.spec.email new.key.name) ∧
      (if (old.spec.role = roleAdmin && isEnabled old.spec.state && !isEnabled new.spec.state) = true then
        requireAnotherAdmin (.ok users) old.key.name
      else if (old.spec.role ≠ roleAdmin || new.spec.role = roleAdmin) = true then .ok ()
      else requireAnotherAdmin (.ok users) old.key.name) = .ok () := by
    by_cases hne : old.spec.email ≠ new.spec.email
    · simp only [if_pos hne] at h
      obtain ⟨hreq, h⟩ := seq_ok h
      obtain ⟨hunclaimed, h⟩ := seq_ok h
      exact ⟨fun _ => ⟨requireAdminRequester_ok hreq, requireEmailUnclaimed_ok hunclaimed⟩, h⟩
    · simp only [if_neg hne] at h
      exact ⟨fun hne' => absurd hne' hne, h⟩
  refine ⟨fun hne => requireAdminRequester_ok (hrole hne), fun hne => requireAdminRequester_ok (hstate hne), hemail.1, ?_⟩
  intro hold hnew
  rw [FrameUser.enabledAdmin, Bool.and_eq_true, decide_eq_true_eq] at hold
  have hlast := hemail.2
  split at hlast
  · exact requireAnotherAdmin_ok hlast
  rename_i hkeeps
  split at hlast
  · -- the account stays an admin, so it was not disabled either
    rename_i hrole'
    simp [FrameUser.enabledAdmin, hold] at hkeeps hrole' hnew
    rw [hnew hrole'] at hkeeps
    cases hkeeps
  · exact requireAnotherAdmin_ok hlast

/-! ## What a write leaves -/

inductive Wrote (U : Unicode) (d : Directory) (req : Option AdmissionRequest) : Write → Directory → Prop where
  | refused {w : Write} : Wrote U d req w d
  | created {key : Key} {spec : FrameUserSpec} {hash : String} (hfree : d.value? key = none)
      (hok : validateCreate U req (.ok d.users) { key := key, spec := spec, passwordHash := hash } = .ok ()) :
      Wrote U d req (.create key spec hash) (d.create { key := key, spec := spec, passwordHash := hash })
  | updated {key : Key} {spec : FrameUserSpec} {hash : String} {old : FrameUser} (hold : d.value? key = some old)
      (hok : validateUpdate U req (.ok d.users) old { old with spec := spec, passwordHash := hash } = .ok ()) :
      Wrote U d req (.update key spec hash) (d.modify key (fun u => { u with spec := spec, passwordHash := hash }) fun _ => rfl)
  | deleted {key : Key} {old : FrameUser} (hold : d.value? key = some old)
      (hok : validateDelete req (.ok d.users) old = .ok ()) : Wrote U d req (.delete key) (d.remove key)

/-- Every write is of one of the kinds of `Wrote`. -/
theorem write_wrote (U : Unicode) (d : Directory) (w : Option AdmissionRequest × Write) : Wrote U d w.1 w.2 (write U d w) := by
  obtain ⟨req, w⟩ := w
  unfold write
  cases hr : review U req (.ok d.users) d w with
  | error err => exact .refused
  | ok u =>
    cases w with
    | create key spec hash =>
      simp only [commit]
      cases hfree : d.value? key with
      | none => exact .created hfree hr
      | some old =>
        obtain ⟨r, hg⟩ := value?_eq_some hfree
        rw [create, dif_pos (by rw [hg]; rfl)]
        exact .refused
    | update key spec hash =>
      simp only [review] at hr
      split at hr
      · cases hr
      · exact .updated ‹_› hr
    | delete key =>
      simp only [review] at hr
      split at hr
      · cases hr
      · exact .deleted ‹_› hr

variable {u : FrameUser} {d d' : Directory}

/-- A write leaves the other accounts. -/
theorem Wrote.frame {w : Write} (h : Wrote U d req w d') (hu : d.value? u.key = some u)
    (hw : w.key ≠ u.key ∨ ∃ key spec hash, w = .create key spec hash) : d'.value? u.key = some u := by
  cases h with
  | refused => exact hu
  | created hfree hok => exact value?_create_of_some hu
  | updated hold hok =>
    rcases hw with hw | ⟨_, _, _, hw⟩
    · rw [value?_modify, if_neg fun hk => hw hk.symm, hu]
    · cases hw
  | deleted hold hok =>
    rcases hw with hw | ⟨_, _, _, hw⟩
    · rw [value?_remove, if_neg fun hk => hw hk.symm, hu]
    · cases hw

/-- Where an account after a write comes from. -/
theorem Wrote.cases {w : Write} (h : Wrote U d req w d') {k : Key} (hu : d'.value? k = some u) :
    d.value? k = some u ∨
      (∃ spec hash, w = .create k spec hash ∧ d.value? k = none ∧ u = { key := k, spec := spec, passwordHash := hash } ∧
        validateCreate U req (.ok d.users) u = .ok ()) ∨
      (∃ old spec hash, w = .update k spec hash ∧ d.value? k = some old ∧ u = { old with spec := spec, passwordHash := hash } ∧
        validateUpdate U req (.ok d.users) old u = .ok ()) := by
  cases h with
  | refused => exact .inl hu
  | @created key spec hash hfree hok =>
    rw [value?_create] at hu
    split at hu
    · rename_i hk
      cases hu
      obtain rfl := hk.2
      exact .inr (.inl ⟨spec, hash, rfl, hfree, rfl, hok⟩)
    · exact .inl hu
  | @updated key spec hash old hold hok =>
    rw [value?_modify] at hu
    split at hu
    · rename_i hk
      subst hk
      rw [hold] at hu
      cases hu
      exact .inr (.inr ⟨old, spec, hash, rfl, hold, rfl, hok⟩)
    · exact .inl hu
  | @deleted key old hold hok =>
    exact .inl (value?_of_remove hu)

/-! ## The admin that is left -/

/-- The account is deleted, or written as none that is an enabled admin. -/
def Write.takesOut (u : FrameUser) : Write → Bool
  | create _ _ _ => false
  | update key spec _ => key = u.key && !(spec.role = roleAdmin && isEnabled spec.state)
  | delete key => key = u.key

theorem FrameUser.role_of_enabledAdmin (h : u.enabledAdmin = true) : u.spec.role = roleAdmin := by
  rw [FrameUser.enabledAdmin, Bool.and_eq_true] at h
  exact of_decide_eq_true h.1

section

variable {P : Key → Prop} {d d' : Directory} {w : Write} {u : FrameUser}

theorem Wrote.another (h : Wrote U d req w d') (hkey : w.key = u.key) (hanother : AnotherAdmin d.users u.key.name)
    (hnone : ∀ v ∈ d.users, ¬ P v.key → v.key.name ≠ u.key.name → v.enabledAdmin = false) :
    ∃ v ∈ d'.users, P v.key ∧ v.enabledAdmin = true := by
  obtain ⟨v, hv, hname, hadmin⟩ := hanother
  have hP : P v.key := by
    by_contra hne
    rw [hnone v hv hne hname] at hadmin
    cases hadmin
  have hkept := h.frame (mem_users.mp hv) (.inl fun hk => hname (by rw [← hk, hkey]))
  exact ⟨v, mem_users.mpr hkept, hP, hadmin⟩

/-- A write leaves an enabled admin of the kind. -/
theorem Wrote.admin (hw : Wrote U d req w d') (hu : u ∈ d.users) (hP : P u.key) (hadmin : u.enabledAdmin = true)
    (hnone : w.takesOut u = true → ∀ v ∈ d.users, ¬ P v.key → v.key.name ≠ u.key.name → v.enabledAdmin = false) :
    ∃ v ∈ d'.users, P v.key ∧ v.enabledAdmin = true := by
  have hval := mem_users.mp hu
  by_cases hout : w.takesOut u = true
  · have helse := hnone hout
    cases hw with
    | refused => exact ⟨u, hu, hP, hadmin⟩
    | created => cases hout
    | @updated key spec hash old hold hval' =>
      simp only [Write.takesOut, Bool.and_eq_true, decide_eq_true_eq] at hout
      obtain rfl := hout.1
      rw [hold] at hval
      cases hval
      have hnew : ({ u with spec := spec, passwordHash := hash } : FrameUser).enabledAdmin = false := by
        rw [FrameUser.enabledAdmin, ← Bool.not_eq_true']
        exact hout.2
      exact (Wrote.updated hold hval').another (u := u) rfl ((validateUpdate_ok hval').2.2.2 hadmin hnew) helse
    | @deleted key old hold hdel =>
      obtain rfl : key = u.key := of_decide_eq_true hout
      rw [hold] at hval
      cases hval
      have hanother := (validateDelete_ok hdel (FrameUser.role_of_enabledAdmin hadmin)).2
      exact (Wrote.deleted (U := U) hold hdel).another (u := u) rfl hanother helse
  · -- the account is not touched, or is written as an enabled admin again
    by_cases hkey : w.key = u.key
    · cases hw with
      | refused => exact ⟨u, hu, hP, hadmin⟩
      | created hfree hval' =>
        exact ⟨u, mem_users.mpr ((Wrote.created hfree hval').frame hval (.inr ⟨_, _, _, rfl⟩)), hP, hadmin⟩
      | @updated key spec hash old hold hval' =>
        obtain rfl : key = u.key := hkey
        rw [hold] at hval
        cases hval
        have hmod : ((d.modify u.key (fun u => { u with spec := spec, passwordHash := hash }) fun _ => rfl) : Directory).value? u.key =
            some { u with spec := spec, passwordHash := hash } := by
          rw [value?_modify, if_pos rfl, hold, Option.map_some]
        refine ⟨{ u with spec := spec, passwordHash := hash }, mem_users.mpr hmod, hP, ?_⟩
        simpa [Write.takesOut, FrameUser.enabledAdmin] using hout
      | deleted => exact absurd (decide_eq_true hkey) hout
    · exact ⟨u, mem_users.mpr (hw.frame hval (.inl hkey)), hP, hadmin⟩

end

end FrameOperator.Accounts
