import FrameOperator.Lib.Program
import FrameOperator.Lib.Versioned

/-!
# Requests to an API server

What an API server answers about objects in a versioned table. Besides that the server, or the way to it, may fail: a write may then
have been carried out or not.
-/

namespace FrameOperator

universe u v

namespace Api

/-- A failure that says nothing of the object asked for. -/
inductive Fault where
  | forbidden (text : String)
  | failed (text : String)
  deriving DecidableEq

/-- Why a request is not answered with an object. -/
inductive Error where
  | notFound
  | alreadyExists
  | conflict
  | noMatch
  | invalid
  | fault (f : Fault)
  deriving DecidableEq

def Error.text : Error → String
  | notFound => "not found"
  | alreadyExists => "already exists"
  | conflict => "the object has been modified"
  | noMatch => "no matches for kind"
  | invalid => "invalid"
  | fault (.forbidden text) => text
  | fault (.failed text) => text

/-- What names an object of a namespaced kind. -/
structure NamespacedName where
  namespaceName : String
  name : String
  deriving DecidableEq

end Api

/-- A request and its answer, under what becomes of the request. -/
def Fate.answer {σ α : Type} (f : Fate Api.Fault) (s : σ) (call : σ × Except Api.Error α) : σ × Except Api.Error α :=
  f.apply Api.Error.fault s call

section Answer

variable {σ α : Type} {s : σ} {call : σ × Except Api.Error α} {f : Fate Api.Fault}

/-- What holds before and after a request holds of what its answer leaves. -/
theorem Fate.answer_state {P : σ → Prop} (f : Fate Api.Fault) (hs : P s) (hcall : P call.1) : P (f.answer s call).1 := by
  cases f with
  | served | lost _ => exact hcall
  | failed _ => exact hs

theorem Fate.answer_ok {v : α} (h : (f.answer s call).2 = .ok v) : f.answer s call = call := by
  cases f with
  | served => rfl
  | lost _ | failed _ => cases h

theorem Fate.answer_error {e : Api.Error} (h : (f.answer s call).2 = .error e) (he : ∀ fault, e ≠ .fault fault) :
    f.answer s call = call := by
  cases f with
  | served => rfl
  | lost fault | failed fault =>
    cases h
    exact absurd rfl (he fault)

theorem Fate.answer_notFound (h : (f.answer s call).2 = .error .notFound) : f.answer s call = call :=
  answer_error h fun _ h => by cases h

/-- A read leaves the service as it is. -/
theorem Fate.answer_read {a : Except Api.Error α} (f : Fate Api.Fault) : (f.answer s (s, a)).1 = s := by
  cases f <;> rfl

end Answer

namespace Versioned

variable {α : Type u} {κ : Type v} {key : α → κ} [DecidableEq κ]

def read (t : Versioned α key) (k : κ) : Except Api.Error (Stamped α) :=
  match t.get? k with
  | none => .error .notFound
  | some a => .ok a

/-- A create, under a key that has to be free. -/
def add (t : Versioned α key) (a : α) : Versioned α key × Except Api.Error (Stamped α) :=
  match t.get? (key a) with
  | some _ => (t, .error .alreadyExists)
  | none => (t.create a, .ok ⟨t.rev + 1, a⟩)

variable [DecidableEq α]

def patch (t : Versioned α key) (k : κ) (f : α → α) (hf : ∀ a, key (f a) = key a) : Versioned α key × Except Api.Error (Stamped α) :=
  (t.modify k f hf, (t.modify k f hf).read k)

/-- An update of a version that was read. -/
def put (t : Versioned α key) (base : Stamped α) (f : α → α) (hf : ∀ a, key (f a) = key a) :
    Versioned α key × Except Api.Error (Stamped α) :=
  match t.get? (key base.val) with
  | none => (t, .error .notFound)
  | some cur => if cur.rev = base.rev then t.patch (key base.val) f hf else (t, .error .conflict)

/-! ## What a request leaves -/

omit [DecidableEq α] in
theorem read_ok {t : Versioned α key} {k : κ} {a : Stamped α} (h : t.read k = .ok a) : t.get? k = some a := by
  unfold read at h
  split at h
  · cases h
  · cases h
    assumption

omit [DecidableEq α] in
theorem read_error {t : Versioned α key} {k : κ} {e : Api.Error} (h : t.read k = .error e) : e = .notFound ∧ t.value? k = none := by
  unfold read at h
  split at h
  · cases h
    rename_i hn
    exact ⟨rfl, by rw [value?, hn, Option.map_none]⟩
  · cases h

omit [DecidableEq α] in
/-- A create answers with the value under a key that was free, or refuses a key that is taken. -/
theorem add_cases (t : Versioned α key) (a : α) :
    (t.value? (key a) = none ∧ (t.add a).1 = t.create a ∧ (t.add a).2 = .ok ⟨t.rev + 1, a⟩) ∨
      ((∃ b, t.value? (key a) = some b) ∧ (t.add a).1 = t ∧ (t.add a).2 = .error .alreadyExists) := by
  unfold add
  cases h : t.get? (key a) with
  | none => exact .inl ⟨by rw [value?, h, Option.map_none], rfl, rfl⟩
  | some b => exact .inr ⟨⟨b.val, value?_of_get? h⟩, rfl, rfl⟩

theorem patch_ok {t : Versioned α key} {k : κ} {f : α → α} {hf : ∀ a, key (f a) = key a} {a : Stamped α}
    (h : (t.patch k f hf).2 = .ok a) : (t.patch k f hf).1.get? k = some a ∧ ∃ b, t.value? k = some b ∧ a.val = f b := by
  have hg := read_ok h
  refine ⟨hg, ?_⟩
  have hv := value?_of_get? hg
  rw [value?_modify, if_pos rfl, Option.map_eq_some_iff] at hv
  obtain ⟨b, hb, hab⟩ := hv
  exact ⟨b, hb, hab.symm⟩

end Versioned

end FrameOperator
