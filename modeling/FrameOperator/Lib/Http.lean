import Mathlib.Data.List.DropRight

/-!
# Header fields

The fields of an HTTP message as Go's `net/http` keeps them: names in canonical form (`canonicalMIMEHeaderKey`), of which one may
have several values.
-/

namespace FrameOperator

namespace Http

open List

/-! ## Text -/

/-- Go's `strings.HasPrefix`. -/
def hasPrefix (s p : String) : Bool := p.toList.isPrefixOf s.toList

/-- The simple case folding of a character, as far as it leads to ASCII. -/
def foldChar (c : Char) : Char :=
  if c = '\u017f' then 's' else if c = '\u212a' then 'k' else if 'A' ≤ c ∧ c ≤ 'Z' then Char.ofNat (c.toNat + 32) else c

/-- Go's `strings.EqualFold`, where one of the texts is in ASCII. -/
def equalFold (s t : String) : Bool := s.toList.map foldChar = t.toList.map foldChar

/-- Go's `unicode.IsSpace`. -/
def isSpace (c : Char) : Bool :=
  c ∈ ['\t', '\n', '\x0b', '\x0c', '\r', ' ', '\u0085', '\u00a0', '\u1680', '\u2028', '\u2029', '\u202f', '\u205f', '\u3000'] ||
    (0x2000 ≤ c.toNat && c.toNat ≤ 0x200a)

/-- The white space that `textproto.TrimString` removes. -/
def isBlank (c : Char) : Bool := c ∈ [' ', '\t', '\n', '\r']

/-- A text without what is blank at its ends. -/
def trim (blank : Char → Bool) (cs : List Char) : List Char := (cs.dropWhile blank).rdropWhile blank

theorem dropWhile_trim (blank : Char → Bool) (cs : List Char) : (trim blank cs).dropWhile blank = trim blank cs := by
  unfold trim
  obtain ⟨t, ht⟩ := rdropWhile_prefix blank (cs.dropWhile blank)
  cases hr : (cs.dropWhile blank).rdropWhile blank with
  | nil => rfl
  | cons c rest =>
    -- what is left begins with the first character that is not blank
    rw [hr] at ht
    have hhead : ∀ h : cs.dropWhile blank ≠ [], blank ((cs.dropWhile blank).head h) = false := by
      intro h
      simpa using head_dropWhile_not blank h
    have hc : blank c = false := by
      have hne : cs.dropWhile blank ≠ [] := by rw [← ht]; simp
      have hcs := hhead hne
      have hfirst : (cs.dropWhile blank).head hne = c := by
        simp [← ht]
      rwa [hfirst] at hcs
    rw [dropWhile_cons, if_neg (by simp [hc])]

theorem trim_trim (blank : Char → Bool) (cs : List Char) : trim blank (trim blank cs) = trim blank cs := by
  conv_lhs => rw [trim]
  rw [dropWhile_trim]
  exact rdropWhile_idempotent blank _

variable {blank : Char → Bool}

theorem trim_cons_of_blank {c : Char} (h : blank c = true) (cs : List Char) :
    trim blank (c :: cs) = trim blank cs := by
  rw [trim, dropWhile_cons, if_pos h, trim]

theorem trim_of_ends {c d : Char} (hc : blank c = false) (hd : blank d = false) (cs : List Char) :
    trim blank (c :: (cs ++ [d])) = c :: (cs ++ [d]) := by
  rw [trim, dropWhile_cons, if_neg (by simp [hc]), ← cons_append, rdropWhile_concat, if_neg (by simp [hd])]

theorem mem_of_mem_trim {c : Char} {cs : List Char} (h : c ∈ trim blank cs) : c ∈ cs :=
  (dropWhile_suffix blank).subset ((IsPrefix.subset <| rdropWhile_prefix blank _) h)

/-! ## Lists in values -/

/-- The entries of the lists in some values, trimmed, without those that are empty. -/
def entries (blank : Char → Bool) (values : List String) : List (List Char) :=
  (values.flatMap fun v => (v.toList.splitOn ',').map (trim blank)).filter (· ≠ [])

/-- Entries joined as Go's `strings.Join(entries, ", ")` does. -/
def joinEntries (es : List (List Char)) : String := String.ofList ([',', ' '].intercalate es)

theorem not_comma_of_mem_splitOn {cs part : List Char} (h : part ∈ cs.splitOn ',') : ',' ∉ part := by
  induction cs generalizing part with
  | nil =>
    simp only [splitOn_nil, mem_singleton] at h
    simp [h]
  | cons c rest ih =>
    rw [splitOn_cons_eq_if_modifyHead] at h
    by_cases hc : c = ','
    · rw [if_pos (by simp [hc])] at h
      rcases mem_cons.mp h with rfl | h
      · simp
      · exact ih h
    · rw [if_neg (by simpa using hc)] at h
      cases hs : rest.splitOn ',' with
      | nil => exact absurd hs (splitOn_ne_nil _ _)
      | cons head tail =>
        rw [hs, modifyHead_cons] at h
        rcases mem_cons.mp h with rfl | h
        · intro hmem
          rcases mem_cons.mp hmem with hcc | hmem
          · exact hc hcc.symm
          · exact ih (by rw [hs]; exact mem_cons_self) hmem
        · exact ih (by rw [hs]; exact mem_cons_of_mem _ h)

/-- What every entry of a list is: trimmed, not empty and without a comma. -/
theorem mem_entries {values : List String} {e : List Char} (h : e ∈ entries blank values) :
    e ≠ [] ∧ trim blank e = e ∧ ',' ∉ e := by
  obtain ⟨h, hne⟩ := mem_filter.mp h
  obtain ⟨v, -, hv⟩ := mem_flatMap.mp h
  obtain ⟨part, hpart, rfl⟩ := mem_map.mp hv
  exact ⟨by simpa using hne, trim_trim blank part, fun hc => not_comma_of_mem_splitOn hpart (mem_of_mem_trim hc)⟩

theorem intercalate_comma_blank (e : List Char) (es : List (List Char)) :
    [',', ' '].intercalate (e :: es) = [','].intercalate (e :: es.map (' ' :: ·)) := by
  induction es generalizing e with
  | nil => rfl
  | cons e' es ih =>
    have h := ih e'
    simp only [List.intercalate, map_cons] at h ⊢
    rw [intersperse_cons_cons, intersperse_cons_cons, flatten_cons, flatten_cons, flatten_cons, flatten_cons]
    cases es with
    | nil => simp
    | cons e'' es =>
      simp only [map_cons, intersperse_cons_cons, flatten_cons] at h ⊢
      simpa using h

theorem entries_joinEntries (hblank : blank ' ' = true) {es : List (List Char)}
    (h : ∀ e ∈ es, e ≠ [] ∧ trim blank e = e ∧ ',' ∉ e) (hne : es ≠ []) : entries blank [joinEntries es] = es := by
  cases es with
  | nil => exact absurd rfl hne
  | cons e es =>
    have hcomma : ∀ l ∈ e :: es.map (' ' :: ·), ',' ∉ l := by
      intro l hl
      rcases mem_cons.mp hl with rfl | hl
      · exact (h l mem_cons_self).2.2
      · obtain ⟨l', hl', rfl⟩ := mem_map.mp hl
        simpa using (h l' (mem_cons_of_mem _ hl')).2.2
    have hsplit : (joinEntries (e :: es)).toList.splitOn ',' = e :: es.map (' ' :: ·) := by
      rw [joinEntries, String.toList_ofList, intercalate_comma_blank]
      exact splitOn_intercalate _ hcomma (by simp)
    have htrim : (e :: es.map (' ' :: ·)).map (trim blank) = e :: es := by
      rw [map_cons, (h e mem_cons_self).2.1, map_map]
      congr 1
      conv_rhs => rw [← map_id es]
      refine map_congr_left fun l hl => ?_
      rw [Function.comp_apply, trim_cons_of_blank hblank]
      exact (h l (mem_cons_of_mem _ hl)).2.1
    rw [entries, flatMap_cons, flatMap_nil, append_nil, hsplit, htrim]
    refine filter_eq_self.mpr fun l hl => ?_
    simpa using (h l hl).1

/-! ## Names -/

/-- The characters of a token: those a field's name may have. -/
def isTokenChar (c : Char) : Bool :=
  ('0' ≤ c && c ≤ '9') || ('a' ≤ c && c ≤ 'z') || ('A' ≤ c && c ≤ 'Z') ||
    c ∈ ['!', '#', '$', '%', '&', '\x27', '*', '+', '-', '.', '^', '_', '\x60', '|', '~']

/-- The letters of a name, capitals at its beginning and after each hyphen. -/
def canonicalFrom (upper : Bool) : List Char → List Char
  | [] => []
  | c :: cs =>
    (if upper then (if 'a' ≤ c ∧ c ≤ 'z' then Char.ofNat (c.toNat - 32) else c)
      else (if 'A' ≤ c ∧ c ≤ 'Z' then Char.ofNat (c.toNat + 32) else c)) :: canonicalFrom (c = '-') cs

/-- Go's `textproto.CanonicalMIMEHeaderKey`. -/
def canonicalMIMEHeaderKey (s : String) : String :=
  if s.toList.all isTokenChar then String.ofList (canonicalFrom true s.toList) else s

end Http

open Http

/-- The fields of a message, each a name and a value. -/
abbrev Header : Type := List (String × String)

namespace Header

variable (h : Header)

/-- All names are in canonical form, as the server leaves them. -/
def Canonical : Prop := ∀ f ∈ h, canonicalMIMEHeaderKey f.1 = f.1
deriving Decidable

variable (k : String)

/-- The values under a name that is in canonical form. -/
def under : List String := (h.filter fun f => f.1 = k).map Prod.snd

/-- Go's `Header.Values`. -/
def values : List String := h.under (canonicalMIMEHeaderKey k)

/-- Go's `Header.Get`: the first value, or an empty text. -/
def get : String := (h.values k).headD ""

/-- Go's `Header.Del`. -/
def del : Header := h.filter fun f => f.1 ≠ canonicalMIMEHeaderKey k

/-- Go's `Header.Set`. -/
def set (k v : String) : Header := h.del k ++ [(canonicalMIMEHeaderKey k, v)]

/-- Go's `Header.Add`. -/
def add (k v : String) : Header := h ++ [(canonicalMIMEHeaderKey k, v)]

/-! ## The values after an operation -/

theorem under_append (h h' : Header) (k : String) : Header.under (h ++ h') k = h.under k ++ h'.under k := by
  simp [under]

theorem under_filter (p : String → Bool) (h : Header) (k : String) :
    Header.under (h.filter fun f => p f.1) k = if p k then h.under k else [] := by
  unfold under
  rw [List.filter_filter]
  by_cases hp : p k = true
  · rw [if_pos hp]
    congr 1
    refine List.filter_congr fun f _ => ?_
    by_cases hf : f.1 = k
    · simp [hf, hp]
    · simp [hf]
  · rw [if_neg hp, List.map_eq_nil_iff, List.filter_eq_nil_iff]
    intro f _ hf
    simp only [Bool.and_eq_true, decide_eq_true_eq] at hf
    exact hp (hf.1 ▸ hf.2)

theorem under_singleton (k k' v : String) : Header.under [(k', v)] k = if k' = k then [v] else [] := by
  unfold under
  by_cases h : k' = k
  · simp [h]
  · simp [h]

theorem under_eq_nil {h : Header} {k : String} (hk : ∀ f ∈ h, f.1 ≠ k) : h.under k = [] := by
  rw [under, List.map_eq_nil_iff, List.filter_eq_nil_iff]
  intro f hf
  simpa using hk f hf

theorem under_del (k' k : String) : (h.del k').under k = if k ≠ canonicalMIMEHeaderKey k' then h.under k else [] := by
  have hf := under_filter (fun n => decide (n ≠ canonicalMIMEHeaderKey k')) h k
  simpa [del] using hf

theorem under_set (k' v k : String) :
    (h.set k' v).under k = if k = canonicalMIMEHeaderKey k' then [v] else h.under k := by
  rw [set, under_append, under_del, under_singleton]
  by_cases hk : k = canonicalMIMEHeaderKey k'
  · simp [hk]
  · simp [hk, Ne.symm hk]

theorem under_add (k' v k : String) :
    (h.add k' v).under k = h.under k ++ if canonicalMIMEHeaderKey k' = k then [v] else [] := by
  rw [add, under_append, under_singleton]

theorem mem_del {h : Header} {k : String} {f : String × String} : f ∈ h.del k ↔ f ∈ h ∧ f.1 ≠ canonicalMIMEHeaderKey k := by
  simp [del]

end Header

end FrameOperator
