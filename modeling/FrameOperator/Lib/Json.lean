import FrameOperator.Lib.GoMap
import Mathlib.Data.Finset.Sort
import Mathlib.Data.String.Basic

/-!
# How `encoding/json` writes and reads Go values

`Codec` is what the package does with one Go type: the zero value, what `omitempty` leaves out, the JSON value it writes and how it
reads one. A struct is the object of its fields; of two members with one name the last is read.

`Codec.Keeps c a b` says that what is written for `a` is read as `b`, and `Codec.Survives c a b` the same under `omitempty`.
-/

namespace FrameOperator

open List

/-- A JSON value. -/
inductive JValue where
  | null
  | bool (b : Bool)
  | string (s : String)
  | array (items : List JValue)
  | object (members : List (String × JValue))

/-- How the values of a Go type are written and read. -/
structure Codec (α : Type) where
  zero : α
  isEmpty : α → Bool
  encode : α → JValue
  decode : JValue → Option α

/-- A field of a struct as it is written: its name, and its value unless it is left out. -/
abbrev Member : Type := String × Option JValue

def JValue.struct (fields : List Member) : JValue := .object (fields.filterMap fun f => f.2.map (Prod.mk f.1))

namespace Codec

variable {α β : Type}

/-- Reading a value: null is the zero value. -/
def read (c : Codec α) : JValue → Option α
  | .null => some c.zero
  | v => c.decode v

/-- A field with `omitempty`. -/
def omitempty (c : Codec α) (name : String) (a : α) : Member := (name, if c.isEmpty a then none else some (c.encode a))

/-- A field without it. -/
def always (c : Codec α) (name : String) (a : α) : Member := (name, some (c.encode a))

/-- Reading the field of a name: the last member with it, or the zero value. -/
def get (c : Codec α) (members : List (String × JValue)) (name : String) : Option α :=
  match (members.filterMap fun m => if m.1 = name then some m.2 else none).getLast? with
  | none => some c.zero
  | some v => c.read v

def string : Codec String where
  zero := ""
  isEmpty s := s = ""
  encode := .string
  decode
    | .string s => some s
    | _ => none

def bool : Codec Bool where
  zero := false
  isEmpty b := !b
  encode := .bool
  decode
    | .bool b => some b
    | _ => none

/-- A pointer: nil is null. -/
def pointer (c : Codec α) : Codec (Option α) where
  zero := none
  isEmpty p := p.isNone
  encode
    | none => .null
    | some a => c.encode a
  decode v := (c.read v).map some

/-- A slice: nil is null. -/
def slice (c : Codec α) : Codec (Slice α) where
  zero := none
  isEmpty s := (s.getD []).isEmpty
  encode
    | none => .null
    | some l => .array (l.map c.encode)
  decode
    | .array items => (items.mapM c.read).map some
    | _ => none

/-- A map from strings: nil is null, and the members are written in the order of their names. -/
def map (c : Codec α) : Codec (GoMap String α) where
  zero := none
  isEmpty m := m.len = 0
  encode
    | none => .null
    | some s => .object (s.keys.sort.filterMap fun k => (s.lookup k).map fun a => (k, c.encode a))
  decode
    | .object members => (members.mapM fun m => (c.read m.2).map fun a => (⟨m.1, a⟩ : Sigma fun _ : String => α)).map
        fun l => some l.toFinmap
    | _ => none

/-- What is written for `a` is no null, and is read as `b`. -/
def Keeps (c : Codec α) (a b : α) : Prop := c.encode a ≠ .null ∧ c.decode (c.encode a) = some b

/-- What a field with `omitempty` that holds `a` is read as. -/
def Survives (c : Codec α) (a b : α) : Prop :=
  (c.isEmpty a = true → b = c.zero) ∧ (c.isEmpty a = false → c.read (c.encode a) = some b)

variable {c : Codec α} {a b : α}

theorem Keeps.read (h : c.Keeps a b) : c.read (c.encode a) = some b := by
  obtain ⟨hnull, hdec⟩ := h
  unfold Codec.read
  split
  · rename_i heq
    exact absurd heq hnull
  · exact hdec

/-- A value that is kept survives, if only the zero value is left out. -/
theorem Keeps.survives (h : c.Keeps a b) (hz : c.isEmpty a = true → b = c.zero) : c.Survives a b :=
  ⟨hz, fun _ => h.read⟩

theorem keeps_object {ms : List (String × JValue)} (he : c.encode a = .object ms) (hd : c.decode (.object ms) = some b) :
    c.Keeps a b := ⟨by simp [he], by rw [he, hd]⟩

theorem string_keeps (s : String) : string.Keeps s s := ⟨by simp [string], rfl⟩

theorem string_survives (s : String) : string.Survives s s :=
  (string_keeps s).survives (by simp [string])

theorem bool_keeps (b : Bool) : bool.Keeps b b := ⟨by simp [bool], rfl⟩

theorem pointer_none_survives (c : Codec α) : c.pointer.Survives none none :=
  ⟨fun _ => rfl, fun h => by simp [pointer] at h⟩

theorem pointer_some_survives (h : c.Keeps a b) : c.pointer.Survives (some a) (some b) := by
  have hk : c.pointer.Keeps (some a) (some b) :=
    ⟨h.1, by change (c.read (c.encode a)).map some = _; rw [h.read]; rfl⟩
  exact hk.survives (fun he => by simp [pointer] at he)

section

variable (h : ∀ a, c.Keeps a a)
include h

theorem pointer_survives (p : Option α) : c.pointer.Survives p p := by
  cases p with
  | none => exact pointer_none_survives c
  | some a => exact pointer_some_survives (h a)

theorem mapM_read (l : List α) : (l.map c.encode).mapM c.read = some l := by
  induction l with
  | nil => rfl
  | cons a l ih =>
    rw [map_cons, mapM_cons, (h a).read, ih]
    rfl

/-- A slice that is not nil is kept. -/
theorem slice_keeps (l : List α) : c.slice.Keeps (some l) (some l) :=
  ⟨by simp [slice], by change ((l.map c.encode).mapM c.read).map some = _; rw [mapM_read h]; rfl⟩

/-- Under `omitempty` a slice survives up to nil and empty. -/
theorem slice_survives (s : Slice α) : c.slice.Survives s s.orNil := by
  match s with
  | none => exact ⟨fun _ => rfl, fun h => by simp [slice] at h⟩
  | some [] => exact ⟨fun _ => rfl, fun h => by simp [slice] at h⟩
  | some (a :: l) => exact (slice_keeps h (a :: l)).survives (by simp [slice])

/-- A pointer to a slice that is not nil keeps the slice, empty or not: it is the pointer that `omitempty` asks. -/
theorem pointer_slice_survives (s : Slice α) :
    c.slice.pointer.Survives (s.map some) (s.map some) := by
  cases s with
  | none => exact pointer_none_survives c.slice
  | some l => exact pointer_some_survives (slice_keeps h l)

theorem mapM_members (l : List (Sigma fun _ : String => α)) :
    (l.map fun e => (e.1, c.encode e.2)).mapM (fun m => (c.read m.2).map fun a => (⟨m.1, a⟩ : Sigma fun _ : String => α)) =
      some l := by
  induction l with
  | nil => rfl
  | cons e l ih =>
    rw [map_cons, mapM_cons, ih]
    simp only [(h e.2).read]
    rfl

end

def entriesAt (s : Finmap (fun _ : String => α)) (ks : List String) : List (Sigma fun _ : String => α) :=
  ks.filterMap fun k => (s.lookup k).map (Sigma.mk k)

theorem dlookup_entriesAt (s : Finmap (fun _ : String => α)) (x : String) (ks : List String) :
    (entriesAt s ks).dlookup x = if x ∈ ks then s.lookup x else none := by
  induction ks with
  | nil => rfl
  | cons k ks ih =>
    have hcons : entriesAt s (k :: ks) = (((s.lookup k).map (Sigma.mk k)).toList) ++ entriesAt s ks := by
      unfold entriesAt
      cases hk : s.lookup k with
      | none | some => simp [hk]
    rw [hcons]
    cases hk : s.lookup k with
    | none =>
      rw [Option.map_none, Option.toList_none, nil_append, ih]
      by_cases hx : x = k
      · subst hx
        simp [hk]
      · simp [hx]
    | some a =>
      rw [Option.map_some, Option.toList_some, singleton_append]
      by_cases hx : x = k
      · subst hx
        rw [dlookup_cons_eq]
        simp [hk]
      · rw [dlookup_cons_ne _ _ hx, ih]
        simp [hx]

/-- A map that is not nil is kept. -/
theorem map_keeps (h : ∀ a, c.Keeps a a) (s : Finmap (fun _ : String => α)) :
    c.map.Keeps (some s) (some s) := by
  have henc : (s.keys.sort.filterMap fun k => (s.lookup k).map fun a => (k, c.encode a)) =
      (entriesAt s s.keys.sort).map fun e => (e.1, c.encode e.2) := by
    rw [entriesAt, map_filterMap]
    refine filterMap_congr fun k _ => ?_
    rw [Option.map_map]
    rfl
  have hall : (entriesAt s s.keys.sort).toFinmap = s := by
    refine Finmap.ext_lookup fun x => ?_
    rw [Finmap.dlookup_list_toFinmap, dlookup_entriesAt]
    by_cases hx : x ∈ s
    · rw [if_pos ((Finset.mem_sort _).mpr (Finmap.mem_keys.mpr hx))]
    · rw [if_neg (fun hm => hx (Finmap.mem_keys.mp ((Finset.mem_sort _).mp hm))), Finmap.lookup_eq_none.mpr hx]
  refine ⟨by simp [map], ?_⟩
  simp only [map, henc, mapM_members h, Option.map_some, hall]

/-- Under `omitempty` a map survives up to nil and empty. -/
theorem map_survives (h : ∀ a, c.Keeps a a) (m : GoMap String α) : c.map.Survives m m.orNil := by
  unfold GoMap.orNil
  by_cases hm : m.len = 0
  · rw [if_pos hm]
    exact ⟨fun _ => rfl, fun h => by simp [map, hm] at h⟩
  rw [if_neg hm]
  cases m with
  | none => exact absurd rfl hm
  | some s => exact (map_keeps h s).survives (fun h => absurd (of_decide_eq_true h) hm)

variable {fields : List Member} {name : String}

theorem members_struct (hnodup : (fields.map Prod.fst).Nodup) {o : Option JValue} (hmem : (name, o) ∈ fields) :
    ((fields.filterMap fun f => f.2.map (Prod.mk f.1)).filterMap fun m => if m.1 = name then some m.2 else none) = o.toList := by
  induction fields with
  | nil => cases hmem
  | cons f fields ih =>
    obtain ⟨hf, hnodup⟩ := nodup_cons.mp hnodup
    rw [filterMap_filterMap] at ih ⊢
    have hhead : ∀ g : Member, ((g.2.map (Prod.mk g.1)).bind fun m => if m.1 = name then some m.2 else none) =
        if g.1 = name then g.2 else none := by
      intro g
      cases hg : g.2 with
      | none | some => simp
    simp only [hhead] at ih ⊢
    rcases mem_cons.mp hmem with heq | hmem
    · subst heq
      -- no later field has the name
      have hrest : fields.filterMap (fun g => if g.1 = name then g.2 else none) = [] := by
        rw [filterMap_eq_nil_iff]
        intro g hg
        rw [if_neg]
        intro hname
        exact hf (mem_map.mpr ⟨g, hg, hname⟩)
      cases o with
      | none | some => simp [hrest]
    · have hne : f.1 ≠ name := fun hname => hf (mem_map.mpr ⟨_, hmem, hname.symm⟩)
      rw [filterMap_cons_none (by rw [if_neg hne])]
      exact ih hnodup hmem

@[simp] theorem omitempty_fst (a : α) : (c.omitempty name a).1 = name := rfl

@[simp] theorem always_fst (a : α) : (c.always name a).1 = name := rfl

/-- Reading a field with `omitempty` of a struct. -/
theorem get_omitempty (h : c.Survives a b) (hnodup : (fields.map Prod.fst).Nodup) (hmem : c.omitempty name a ∈ fields) :
    c.get (fields.filterMap fun f => f.2.map (Prod.mk f.1)) name = some b := by
  unfold get
  rw [members_struct hnodup hmem]
  cases he : c.isEmpty a with
  | true => simp [h.1 he]
  | false => simpa using h.2 he

/-- Reading a field without it. -/
theorem get_always (h : c.Keeps a b) (hnodup : (fields.map Prod.fst).Nodup) (hmem : c.always name a ∈ fields) :
    c.get (fields.filterMap fun f => f.2.map (Prod.mk f.1)) name = some b := by
  unfold get
  rw [members_struct hnodup hmem]
  simpa using h.read

end Codec

end FrameOperator
