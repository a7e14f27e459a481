import FrameOperator.Lemmas.Admission

/-!
# The console keeps an admin

The webhook lets an enabled admin go while another one is left in any namespace. `authd` serves the accounts of one: an admin of
another is nobody who could sign in.
-/

namespace FrameOperator.Accounts

open V1beta1 (FrameUserSpec)

/-- The namespace has an enabled admin. -/
def HasAdmin (ns : String) (d : Directory) : Prop := ∃ u ∈ d.users, u.key.namespaceName = ns ∧ u.enabledAdmin = true
deriving Decidable

/-- A write that takes out an enabled admin finds none of another name elsewhere. -/
def NoneElsewhere (ns : String) (d : Directory) (w : Option AdmissionRequest × Write) : Prop :=
  ∀ u ∈ d.users, u.key.namespaceName = ns → u.enabledAdmin = true → w.2.takesOut u = true →
    ∀ v ∈ d.users, v.key.namespaceName ≠ ns → v.key.name ≠ u.key.name → v.enabledAdmin = false
deriving Decidable

/-- A write leaves the namespace an enabled admin. -/
theorem HasAdmin.wrote {U : Unicode} {ns : String} {d d' : Directory} {req : Option AdmissionRequest} {w : Write}
    (h : HasAdmin ns d) (hw : Wrote U d req w d') (hok : NoneElsewhere ns d (req, w)) : HasAdmin ns d' := by
  obtain ⟨u, hu, hns, hadmin⟩ := h
  exact hw.admin (P := fun k => k.namespaceName = ns) hu hns hadmin (hok u hu hns hadmin)

/-- The served namespace keeps an enabled admin where no other namespace has one when one of its own is taken out. -/
theorem admin_kept (U : Unicode) (ns : String) (d : Directory) (writes : List (Option AdmissionRequest × Write)) (h0 : HasAdmin ns d)
    (hok : Meets (silent (write U)) (NoneElsewhere ns) d writes) : HasAdmin ns (run (silent (write U)) d writes).1 :=
  silent_induct (I := HasAdmin ns) h0 (fun d w h hw => h.wrote (write_wrote U d w) hw) writes hok

namespace AccountFixture

def account (ns name email role : String) : FrameUser where
  key := ⟨ns, name⟩
  spec := { email := email, role := role }

def twoNamespaces : Directory :=
  ((Versioned.empty.create (account "cluster-control" "alice" "alice@example.com" "admin")).create
    (account "cluster-control" "bob" "bob@example.com" "viewer")).create (account "staging" "carol" "carol@example.com" "admin")

def admin : Option AdmissionRequest := some { username := "alice@example.com", groups := ["frame:admins"] }

def handOver : List (Option AdmissionRequest × Write) :=
  [(admin, .update ⟨"staging", "carol"⟩ { email := "carol@example.com", role := "viewer" } ""),
    (admin, .update ⟨"cluster-control", "bob"⟩ { email := "bob@example.com", role := "admin" } ""),
    (admin, .delete ⟨"cluster-control", "alice"⟩)]

end AccountFixture

set_option maxRecDepth 4000

open AccountFixture in
/-- The only admin of the served namespace is deleted, since another namespace has one. -/
theorem console_without_admin :
    HasAdmin "cluster-control" twoNamespaces ∧
      ¬ HasAdmin "cluster-control" (run (silent (write .ascii)) twoNamespaces
        [(admin, .delete ⟨"cluster-control", "alice"⟩)]).1 := by
  constructor <;> decide

open AccountFixture in
/-- An admin hands over to another one. -/
theorem admin_kept_over :
    Meets (silent (write .ascii)) (NoneElsewhere "cluster-control") twoNamespaces handOver ∧
      HasAdmin "cluster-control" (run (silent (write .ascii)) twoNamespaces handOver).1 :=
  ⟨by decide, admin_kept .ascii "cluster-control" twoNamespaces handOver (by decide) (by decide)⟩

end FrameOperator.Accounts
