import FrameOperator.Theorems.LastAdmin
import FrameOperator.Theorems.PrivilegeChanges

/-!
# One mailbox, one account

The webhook leaves the account being written out of its search by its name alone, so an account of that name in another namespace is
left out too. An update that keeps the address is not searched for, and an empty address never is.
-/

namespace FrameOperator.Authd

open Accounts

/-- An address that no account of this name in another namespace claims. -/
def FreeElsewhere (U : Unicode) (d : Directory) (key : Key) (email : String) : Prop :=
  email ≠ "" ∧ ∀ u ∈ d.users, u.key.name = key.name → u.key ≠ key → U.equalFold u.spec.email email = false
deriving Decidable

def AddressFree (U : Unicode) (d : Directory) (w : Option AdmissionRequest × Write) : Prop :=
  match w.2 with
  | .create key spec _ => FreeElsewhere U d key spec.email
  | .update key spec _ => ∀ u ∈ d.users, u.key = key → u.spec.email ≠ spec.email → FreeElsewhere U d key spec.email
  | .delete _ => True

instance (U : Unicode) (d : Directory) (w : Option AdmissionRequest × Write) : Decidable (AddressFree U d w) := by
  unfold AddressFree
  split <;> infer_instance

variable {U : Unicode} {d d' : Directory} {u : FrameUser}

theorem FreeElsewhere.only {key : Key} {email : String} (h : FreeElsewhere U d key email) (hun : Unclaimed U d.users email key.name)
    (hu : u ∈ d.users) (heq : U.equalFold u.spec.email email = true) : u.key = key := by
  by_contra hne
  have hclaimed : U.equalFold u.spec.email email = false := by
    by_cases hname : u.key.name = key.name
    · exact h.2 u hu hname hne
    rcases hun with hempty | hun
    · exact absurd hempty h.1
    · exact hun u hu hname
  rw [heq] at hclaimed
  cases hclaimed

variable {req : Option AdmissionRequest}

/-- An address after a write was there, or is free. -/
theorem address_wrote {w : Write} (hw : Wrote U d req w d') (hok : AddressFree U d (req, w)) (hu : u ∈ d'.users) :
    (∃ old ∈ d.users, old.key = u.key ∧ old.spec.email = u.spec.email) ∨
      (w.key = u.key ∧ ∀ v ∈ d.users, U.equalFold v.spec.email u.spec.email = true → v.key = u.key) := by
  rcases hw.cases (Directory.mem_users.mp hu) with hv | ⟨spec, hash, rfl, -, hnew, hval⟩ | ⟨old, spec, hash, rfl, hold, hnew, hval⟩
  · exact .inl ⟨u, Directory.mem_users.mpr hv, rfl, rfl⟩
  · have hspec : u.spec = spec := by rw [hnew]
    have hfree : FreeElsewhere U d u.key u.spec.email := by
      rw [hspec]
      exact hok
    exact .inr ⟨rfl, fun v hv heq => hfree.only (requireEmailUnclaimed_ok (validateCreate_ok hval)) hv heq⟩
  · have hkey := Directory.key_of_value? hold
    have hmem : old ∈ d.users := Directory.mem_users.mpr (by rwa [hkey])
    by_cases hne : old.spec.email = u.spec.email
    · exact .inl ⟨old, hmem, hkey, hne⟩
    have hspec : u.spec = spec := by rw [hnew]
    have hfree : FreeElsewhere U d u.key u.spec.email := by
      rw [hspec] at hne ⊢
      exact hok old hmem hkey hne
    exact .inr ⟨rfl, fun v hv heq => hfree.only ((validateUpdate_ok hval).2.2.1 hne).2 hv heq⟩

/-- A write keeps mailboxes apart. -/
theorem DistinctMailboxes.wrote {w : Write} (h : DistinctMailboxes U d) (hw : Wrote U d req w d')
    (hok : AddressFree U d (req, w)) : DistinctMailboxes U d' := by
  intro u hu v hv heq
  rcases address_wrote hw hok hu with ⟨a, ha, hak, hae⟩ | ⟨hwu, hu'⟩
  · rw [← hae] at heq
    rcases address_wrote hw hok hv with ⟨b, hb, hbk, hbe⟩ | ⟨-, hv'⟩
    · rw [← hbe] at heq
      rw [← hak, ← hbk]
      exact h a ha b hb heq
    · rw [← hak]
      exact hv' a ha heq
  · rcases address_wrote hw hok hv with ⟨b, hb, hbk, hbe⟩ | ⟨hwv, -⟩
    · rw [← hbe] at heq
      rw [← hbk]
      exact (hu' b hb (Unicode.equalFold_symm heq)).symm
    · exact hwu.symm.trans hwv

/-- No two accounts claim one mailbox, where no address is empty or that of a namesake in another namespace. -/
theorem one_mailbox (U : Unicode) (d : Directory) (hdistinct : DistinctMailboxes U d)
    (writes : List (Option AdmissionRequest × Write)) (hok : Meets (silent (write U)) (AddressFree U) d writes) :
    DistinctMailboxes U (run (silent (write U)) d writes).1 :=
  silent_induct (I := DistinctMailboxes U) hdistinct (fun d w h hw => h.wrote (write_wrote U d w) hw) writes hok

set_option maxRecDepth 8000 in
/-- The address of an account is taken by an account of the same name in another namespace. -/
theorem mailbox_shared :
    DistinctMailboxes .ascii Fixture.withdrawn ∧ ¬ DistinctMailboxes .ascii (Fixture.after Fixture.elsewhere) := by
  constructor <;> decide +kernel

namespace Fixture

/-- A second account with a claimed address is refused, and one moves to its own. -/
def renamed : List (Option AdmissionRequest × Write) :=
  [(editor, .create ⟨"staging", "robert"⟩ { email := "BOB@example.com", role := "viewer" } ""),
    (editor, .create ⟨"staging", "bob"⟩ { email := "robert@example.com", role := "viewer" } ""),
    (Accounts.AccountFixture.admin, .update ⟨"staging", "bob"⟩ { email := "Robert@example.com", role := "viewer" } "")]

end Fixture

set_option maxRecDepth 8000 in
/-- A refused address, and one written in another case. -/
theorem one_mailbox_renamed :
    Meets (silent (write .ascii)) (AddressFree .ascii) Fixture.withdrawn Fixture.renamed ∧
      DistinctMailboxes .ascii (Fixture.after Fixture.renamed) :=
  ⟨by decide +kernel, one_mailbox .ascii Fixture.withdrawn (by decide +kernel) Fixture.renamed (by decide +kernel)⟩

end FrameOperator.Authd
