import Mathlib.Data.String.Basic

/-!
# Objects without a schema

The values that a JSON document is decoded into when nothing is known of its type, how a field is read by its path, and the JSON
merge patch. The members of an object stand in the order of their names.
-/

namespace FrameOperator

open List

inductive Unstructured where
  | null
  | bool (b : Bool)
  | int (n : Int)
  -- a number that is no integer of 64 bits, as it is printed
  | float (text : String)
  | str (s : String)
  | list (items : List Unstructured)
  | obj (members : List (String × Unstructured))

namespace Unstructured

mutual

/-- `reflect.DeepEqual`. -/
def deepEqual : Unstructured → Unstructured → Bool
  | null, null => true
  | bool a, bool b => a == b
  | int a, int b => a == b
  | float a, float b => a == b
  | str a, str b => a == b
  | list as, list bs => deepEqualItems as bs
  | obj as, obj bs => deepEqualMembers as bs
  | _, _ => false

def deepEqualItems : List Unstructured → List Unstructured → Bool
  | [], [] => true
  | a :: as, b :: bs => deepEqual a b && deepEqualItems as bs
  | _, _ => false

def deepEqualMembers : List (String × Unstructured) → List (String × Unstructured) → Bool
  | [], [] => true
  | (k, a) :: as, (l, b) :: bs => k == l && deepEqual a b && deepEqualMembers as bs
  | _, _ => false

end

mutual

theorem deepEqual_iff (a b : Unstructured) : a.deepEqual b = true ↔ a = b := by
  cases a with
  | list as =>
    cases b with
    | list bs => simp [deepEqual, deepEqualItems_iff as bs]
    | _ => simp [deepEqual]
  | obj as =>
    cases b with
    | obj bs => simp [deepEqual, deepEqualMembers_iff as bs]
    | _ => simp [deepEqual]
  | _ => cases b <;> simp [deepEqual]

theorem deepEqualItems_iff (as bs : List Unstructured) : deepEqualItems as bs = true ↔ as = bs := by
  match as, bs with
  | [], [] => simp [deepEqualItems]
  | [], _ :: _ => simp [deepEqualItems]
  | _ :: _, [] => simp [deepEqualItems]
  | a :: as, b :: bs => simp [deepEqualItems, deepEqual_iff a b, deepEqualItems_iff as bs]

theorem deepEqualMembers_iff (as bs : List (String × Unstructured)) : deepEqualMembers as bs = true ↔ as = bs := by
  match as, bs with
  | [], [] => simp [deepEqualMembers]
  | [], _ :: _ => simp [deepEqualMembers]
  | _ :: _, [] => simp [deepEqualMembers]
  | (k, a) :: as, (l, b) :: bs => simp [deepEqualMembers, deepEqual_iff a b, deepEqualMembers_iff as bs]

end

instance : DecidableEq Unstructured := fun a b => decidable_of_iff _ (deepEqual_iff a b)

/-! ## Members -/

def member? (members : List (String × Unstructured)) (name : String) : Option Unstructured :=
  (members.find? (·.1 = name)).map Prod.snd

def setMember (name : String) (v : Unstructured) : List (String × Unstructured) → List (String × Unstructured)
  | [] => [(name, v)]
  | (k, old) :: rest =>
    if name = k then (name, v) :: rest
    else if name < k then (name, v) :: (k, old) :: rest
    else (k, old) :: setMember name v rest

theorem member?_setMember (name j : String) (v : Unstructured) (members : List (String × Unstructured)) :
    member? (setMember name v members) j = if j = name then some v else member? members j := by
  induction members with
  | nil =>
    by_cases h : j = name
    · simp [setMember, member?, h]
    · simp [setMember, member?, h, Ne.symm h]
  | cons m rest ih =>
    obtain ⟨k, old⟩ := m
    unfold setMember
    split
    · rename_i hk
      subst hk
      by_cases h : j = name
      · simp [member?, h]
      · simp [member?, h, Ne.symm h]
    · rename_i hk
      split
      · by_cases h : j = name
        · simp [member?, h]
        · simp [member?, h, Ne.symm h]
      · by_cases h : k = j
        · subst h
          simp [member?, Ne.symm hk]
        · simp only [member?, find?_cons, decide_eq_false h] at ih ⊢
          exact ih

def members : Unstructured → List (String × Unstructured)
  | obj ms => ms
  | _ => []

/-- The object of members in any order, of which the last of a name counts. -/
def ofMembers (ms : List (String × Unstructured)) : Unstructured := obj (ms.foldl (fun acc m => setMember m.1 m.2 acc) [])

/-- `unstructured.NestedFieldNoCopy`: nothing where a field on the way is missing or not an object. -/
def nestedField (v : Unstructured) : List String → Option Unstructured
  | [] => some v
  | name :: path => (member? v.members name).bind fun w => w.nestedField path

/-- `unstructured.NestedString`, and the empty string where there is none. -/
def nestedString (v : Unstructured) (path : List String) : String :=
  match v.nestedField path with
  | some (str s) => s
  | _ => ""

/-- `unstructured.NestedInt64`, and zero where there is none. -/
def nestedInt64 (v : Unstructured) (path : List String) : Int :=
  match v.nestedField path with
  | some (int n) => n
  | _ => 0

/-- `unstructured.NestedSlice`, and no items where there is none. -/
def nestedSlice (v : Unstructured) (path : List String) : List Unstructured :=
  match v.nestedField path with
  | some (list items) => items
  | _ => []

/-! ## The merge patch -/

mutual

/-- Objects are merged member by member, null removes one, and anything else replaces. -/
def merge (target : Unstructured) : Unstructured → Unstructured
  | obj patch => obj (mergeMembers target.members patch)
  | null => null
  | bool b => bool b
  | int n => int n
  | float text => float text
  | str s => str s
  | list items => list items

def mergeMembers (target : List (String × Unstructured)) : List (String × Unstructured) → List (String × Unstructured)
  | [] => target
  | (name, null) :: rest => mergeMembers (target.filter (·.1 ≠ name)) rest
  | (name, v) :: rest => mergeMembers (setMember name (merge ((member? target name).getD null) v) target) rest

end

theorem member?_filter_ne (members : List (String × Unstructured)) {name j : String} (h : j ≠ name) :
    member? (members.filter (·.1 ≠ name)) j = member? members j := by
  induction members with
  | nil => rfl
  | cons m rest ih =>
    obtain ⟨k, v⟩ := m
    by_cases hk : k = name
    · subst hk
      rw [filter_cons_of_neg (by simp), ih]
      simp [member?, Ne.symm h]
    · rw [filter_cons_of_pos (by simpa using hk)]
      by_cases hj : k = j
      · simp [member?, hj]
      · simp only [member?, find?_cons, decide_eq_false hj] at ih ⊢
        exact ih

variable {v : Unstructured}

theorem mergeMembers_cons (hv : v ≠ null) (target rest : List (String × Unstructured)) (name : String) :
    mergeMembers target ((name, v) :: rest) =
      mergeMembers (setMember name (merge ((member? target name).getD null) v) target) rest := by
  rw [mergeMembers]
  exact hv

variable {name : String} {patch : List (String × Unstructured)}

theorem member?_mergeMembers_of_notMem (h : name ∉ patch.map Prod.fst)
    (target : List (String × Unstructured)) : member? (mergeMembers target patch) name = member? target name := by
  induction patch generalizing target with
  | nil => rw [mergeMembers]
  | cons m rest ih =>
    obtain ⟨k, v⟩ := m
    simp only [map_cons, mem_cons, not_or] at h
    by_cases hv : v = null
    · rw [hv, mergeMembers, ih h.2, member?_filter_ne _ h.1]
    · rw [mergeMembers_cons hv, ih h.2, member?_setMember, if_neg h.1]

theorem member?_mergeMembers (hnd : (patch.map Prod.fst).Nodup)
    (hmem : (name, v) ∈ patch) (hv : v ≠ null) (target : List (String × Unstructured)) :
    member? (mergeMembers target patch) name = some (merge ((member? target name).getD null) v) := by
  induction patch generalizing target with
  | nil => cases hmem
  | cons m rest ih =>
    obtain ⟨k, w⟩ := m
    simp only [map_cons, nodup_cons] at hnd
    rcases mem_cons.mp hmem with heq | hrest
    · cases heq
      rw [mergeMembers_cons hv, member?_mergeMembers_of_notMem hnd.1, member?_setMember, if_pos rfl]
    have hne : name ≠ k := fun h => hnd.1 (h ▸ mem_map.mpr ⟨_, hrest, rfl⟩)
    by_cases hw : w = null
    · rw [hw, mergeMembers, ih hnd.2 hrest, member?_filter_ne _ hne]
    · rw [mergeMembers_cons hw, ih hnd.2 hrest, member?_setMember, if_neg hne]

@[simp] theorem members_merge_obj (target : Unstructured) (patch : List (String × Unstructured)) :
    (target.merge (obj patch)).members = mergeMembers target.members patch := by
  rw [merge, members]

@[simp] theorem ofMembers_singleton : ofMembers [(name, v)] = obj [(name, v)] := rfl

/-- An object with no member but one, if any. -/
def HasOnly (v : Unstructured) (name : String) : Prop := v.members = [] ∨ ∃ w, v.members = [(name, w)]

theorem setMember_eq_singleton_iff {v w : Unstructured} {members : List (String × Unstructured)} :
    setMember name v members = [(name, w)] ↔ v = w ∧ (members = [] ∨ ∃ x, members = [(name, x)]) := by
  cases members with
  | nil => simp [setMember]
  | cons m rest =>
    obtain ⟨k, old⟩ := m
    unfold setMember
    split
    · rename_i hk
      subst hk
      simp
    · rename_i hk
      split
      · simp [Ne.symm hk]
      · simp [Ne.symm hk]

/-- A patch of one member leaves an object of that member where there was no other. -/
theorem merge_singleton_eq_iff (hv : v ≠ null) {target w : Unstructured} :
    target.merge (obj [(name, v)]) = obj [(name, w)] ↔
      merge ((member? target.members name).getD null) v = w ∧ target.HasOnly name := by
  rw [merge, mergeMembers_cons hv, mergeMembers, obj.injEq]
  exact setMember_eq_singleton_iff

theorem nestedField_cons (path : List String) :
    v.nestedField (name :: path) = (member? v.members name).bind fun w => w.nestedField path := rfl

theorem nestedField_singleton : v.nestedField [name] = member? v.members name := by
  rw [nestedField_cons]
  cases member? v.members name <;> rfl

end Unstructured

end FrameOperator
