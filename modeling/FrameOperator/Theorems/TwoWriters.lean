import FrameOperator.Theorems.OneAtATime
import FrameOperator.Tuning.Writers

/-!
# Two writers of one list

An agent writes the observation of its own entry and the controller everything else, and both send the whole list. Since each takes
the other's fields from the object it was let through on, neither loses what the other wrote.
-/

namespace FrameOperator

open NodeTuningNodeStatus StatusCall List

variable {nodes : List NodeTuningNodeStatus} {nt nt₀ : NodeTuning} {calls : List StatusCall}

/-! ## Entries by name -/

def entryOf (nodes : List NodeTuningNodeStatus) (x : String) : Option NodeTuningNodeStatus := nodes.find? (fun ns => ns.name == x)

def restartRecord (entry : Option NodeTuningNodeStatus) : Option Time × Nat :=
  (entry.bind NodeTuningNodeStatus.restartedAt, entry.elim 0 NodeTuningNodeStatus.restartedGeneration)

variable {e : NodeTuningNodeStatus}

theorem entryOf_of_mem (h : (nodes.map name).Nodup) (he : e ∈ nodes) : entryOf nodes e.name = some e := by
  unfold entryOf
  induction nodes with
  | nil => cases he
  | cons a nodes ih =>
    rw [map_cons, nodup_cons] at h
    rcases mem_cons.mp he with rfl | he
    · simp
    have hne : a.name ≠ e.name := fun heq => h.1 (heq ▸ mem_map_of_mem he)
    rw [find?_cons_of_neg (by simpa using hne)]
    exact ih h.2 he

theorem mem_of_entryOf {x : String} (h : entryOf nodes x = some e) : e ∈ nodes ∧ e.name = x :=
  ⟨mem_of_find?_eq_some h, by simpa using find?_some h⟩

theorem entryOf_isSome {x : String} :
    (entryOf nodes x).isSome = true ↔ x ∈ nodes.map name := by
  simp [entryOf, find?_isSome]

theorem observedOf_eq (h : (nodes.map name).Nodup) (x : String) :
    observedOf nodes x = (entryOf nodes x).map observed := by
  unfold observedOf
  congr 1
  cases hx : entryOf nodes x with
  | none =>
    rw [entryOf, find?_eq_none] at hx
    rw [find?_eq_none]
    intro e he
    exact hx e (mem_reverse.mp he)
  | some e =>
    obtain ⟨he, rfl⟩ := mem_of_entryOf hx
    have hrev : (nodes.reverse.map name).Nodup := by
      rw [map_reverse]
      exact nodup_reverse.mpr h
    exact entryOf_of_mem hrev (mem_reverse.mpr he)

/-! ## What the two merges do -/

variable (x : String) (o : ObservedTuning)

theorem entryOf_upsertObserved (nodes : List NodeTuningNodeStatus) (y : String) :
    entryOf (upsertObserved x o nodes) y =
      if y = x then some { (entryOf nodes x).getD (.zero x) with observed := o } else entryOf nodes y := by
  unfold entryOf
  induction nodes with
  | nil =>
    by_cases hy : y = x
    · simp [upsertObserved, zero, hy]
    · simp [upsertObserved, zero, hy, Ne.symm hy]
  | cons a nodes ih =>
    by_cases ha : a.name = x
    · rw [upsertObserved, if_pos ha]
      by_cases hy : y = x
      · simp [ha, hy]
      · have hne : a.name ≠ y := fun h => hy (h.symm.trans ha)
        simp [hy, hne]
    · rw [upsertObserved, if_neg ha]
      by_cases hay : a.name = y
      · have hy : y ≠ x := fun h => ha (hay.trans h)
        simp [hay, hy]
      · rw [find?_cons_of_neg (by simpa using hay), ih, find?_cons_of_neg (by simpa using ha),
          find?_cons_of_neg (by simpa using hay)]

theorem entryOf_preserveObserved (computed current : List NodeTuningNodeStatus) (y : String) :
    entryOf (preserveObserved computed current) y =
      (entryOf computed y).map fun ns => { ns with observed := (observedOf current y).getD ns.observed } := by
  unfold entryOf preserveObserved
  rw [find?_map]
  cases hx : computed.find? (fun ns => ns.name == y) with
  | none =>
    have : computed.find? ((fun ns : NodeTuningNodeStatus => ns.name == y) ∘
        fun ns => { ns with observed := (observedOf current ns.name).getD ns.observed }) = none := hx
    rw [this]
    rfl
  | some e =>
    have : computed.find? ((fun ns : NodeTuningNodeStatus => ns.name == y) ∘
        fun ns => { ns with observed := (observedOf current ns.name).getD ns.observed }) = some e := hx
    have hname : e.name = y := by simpa using find?_some hx
    rw [this, Option.map_some, Option.map_some, hname]

theorem upsertObserved_cases (nodes : List NodeTuningNodeStatus) :
    (∃ l₁ e l₂, nodes = l₁ ++ e :: l₂ ∧ e.name = x ∧ upsertObserved x o nodes = l₁ ++ { e with observed := o } :: l₂) ∨
      ((∀ e ∈ nodes, e.name ≠ x) ∧ upsertObserved x o nodes = nodes ++ [{ zero x with observed := o }]) := by
  induction nodes with
  | nil => exact .inr ⟨by simp, rfl⟩
  | cons a nodes ih =>
    by_cases ha : a.name = x
    · exact .inl ⟨[], a, nodes, rfl, ha, by rw [upsertObserved, if_pos ha]; rfl⟩
    rw [upsertObserved, if_neg ha]
    rcases ih with ⟨l₁, e, l₂, rfl, he, heq⟩ | ⟨hnone, heq⟩
    · exact .inl ⟨a :: l₁, e, l₂, rfl, he, by rw [heq]; rfl⟩
    refine .inr ⟨?_, by rw [heq]; rfl⟩
    intro e he
    rcases mem_cons.mp he with rfl | he
    · exact ha
    · exact hnone e he

/-! ## What a committed call may change -/

/-- Nothing changed but one node's observation: in its entry, or in a new one. -/
def ObservedOnly (before after : NodeTuning) : Prop :=
  after = { before with status := { before.status with nodes := after.status.nodes } } ∧
    ((∃ l₁ e l₂, before.status.nodes = l₁ ++ e :: l₂ ∧ e.name = x ∧
        after.status.nodes = l₁ ++ { e with observed := o } :: l₂) ∨
      ((∀ e ∈ before.status.nodes, e.name ≠ x) ∧
        after.status.nodes = before.status.nodes ++ [{ NodeTuningNodeStatus.zero x with observed := o }]))

/-- The list is the computed one, and a node that has an entry both before and after keeps its observation. -/
def ObservedKept (nodes : List NodeTuningNodeStatus) (before after : NodeTuning) : Prop :=
  after.status.nodes.map NodeTuningNodeStatus.name = nodes.map NodeTuningNodeStatus.name ∧
    ∀ e ∈ before.status.nodes, ∀ ns ∈ after.status.nodes, ns.name = e.name → ns.observed = e.observed

theorem observedOnly_apply (nt : NodeTuning) :
    ObservedOnly x o nt (apply (.patchObserved x o) nt) :=
  ⟨rfl, upsertObserved_cases x o nt.status.nodes⟩

theorem map_name_wire (nodes : List NodeTuningNodeStatus) :
    (nodes.map wire).map name = nodes.map name := by
  rw [map_map]
  rfl

theorem observedKept_apply (generation : Nat) (nodes : List NodeTuningNodeStatus) (h : nt.admitted = true) :
    ObservedKept nodes nt (apply (.patchStatus generation nodes) nt) := by
  refine ⟨?_, ?_⟩
  · rw [← map_name_wire nodes]
    simp only [apply, NodeTuning.withComputed, preserveObserved, map_map]
    rfl
  · intro e he ns hns hname
    simp only [apply, NodeTuning.withComputed, preserveObserved] at hns
    obtain ⟨ns', -, rfl⟩ := mem_map.mp hns
    have hname' : ns'.name = e.name := hname
    rw [hname', observedOf_eq (of_decide_eq_true h), entryOf_of_mem (of_decide_eq_true h) he]
    rfl

/-! ## What the status says at every moment -/

def StatusCall.observedFor : StatusCall → Option ObservedTuning
  | .patchObserved y o => if y = x then some o else none
  | .patchStatus _ _ => none

def StatusCall.computed : StatusCall → Option (List NodeTuningNodeStatus)
  | .patchObserved _ _ => none
  | .patchStatus _ nodes => some (nodes.map NodeTuningNodeStatus.wire)

/-- The observation a node's agent committed last. -/
def latestObserved (calls : List StatusCall) : Option ObservedTuning :=
  (calls.filterMap (StatusCall.observedFor x)).getLast?

def latestComputed (calls : List StatusCall) : Option (List NodeTuningNodeStatus) := (calls.filterMap StatusCall.computed).getLast?

/-- The node is in every list the controller committed. -/
def StaysListed (calls : List StatusCall) : Prop :=
  ∀ c ∈ calls, ∀ nodes ∈ c.computed, x ∈ nodes.map NodeTuningNodeStatus.name

theorem latestObserved_snoc (c : StatusCall) :
    latestObserved x (calls ++ [c]) = (c.observedFor x).or (latestObserved x calls) := by
  unfold latestObserved
  rw [filterMap_append]
  cases hc : c.observedFor x <;> simp [hc]

theorem latestComputed_snoc (c : StatusCall) :
    latestComputed (calls ++ [c]) = c.computed.or (latestComputed calls) := by
  unfold latestComputed
  rw [filterMap_append]
  cases hc : c.computed <;> simp [hc]

structure Kept (nt₀ nt : NodeTuning) (calls : List StatusCall) : Prop where
  admitted : nt.admitted = true
  observed : ∀ x o, StaysListed x calls → latestObserved x calls = some o →
    (entryOf nt.status.nodes x).map NodeTuningNodeStatus.observed = some o
  restarted : ∀ x, restartRecord (entryOf nt.status.nodes x) =
    restartRecord (entryOf ((latestComputed calls).getD nt₀.status.nodes) x)

/-- An agent's patch keeps the controller's part. -/
theorem Kept.patchObserved (h : Kept nt₀ nt calls) (x : String)
    (o : ObservedTuning) (hvalid : (apply (.patchObserved x o) nt).admitted = true) :
    Kept nt₀ (apply (.patchObserved x o) nt) (calls ++ [.patchObserved x o]) := by
  have hentry := entryOf_upsertObserved x o nt.status.nodes
  refine ⟨hvalid, ?_, ?_⟩
  · intro y o' hstays hlatest
    have hstays' : StaysListed y calls := fun c hc => hstays c (mem_append_left _ hc)
    simp only [apply, NodeTuning.withObserved, hentry]
    rw [latestObserved_snoc] at hlatest
    by_cases hy : y = x
    · rw [if_pos hy]
      simpa [observedFor, hy] using hlatest
    rw [if_neg hy]
    refine h.observed y o' hstays' ?_
    simpa [observedFor, Ne.symm hy] using hlatest
  · intro y
    rw [latestComputed_snoc]
    simp only [apply, NodeTuning.withObserved, hentry, computed, Option.none_or]
    rw [← h.restarted y]
    by_cases hy : y = x
    · rw [if_pos hy, hy]
      cases entryOf nt.status.nodes x <;> rfl
    · rw [if_neg hy]

/-- The controller's patch keeps the agents' part. -/
theorem Kept.patchStatus (h : Kept nt₀ nt calls) (generation : Nat)
    (nodes : List NodeTuningNodeStatus) (hvalid : (apply (.patchStatus generation nodes) nt).admitted = true) :
    Kept nt₀ (apply (.patchStatus generation nodes) nt) (calls ++ [.patchStatus generation nodes]) := by
  have hentry := entryOf_preserveObserved (nodes.map wire) nt.status.nodes
  refine ⟨hvalid, ?_, ?_⟩
  · intro x o hstays hlatest
    have hstays' : StaysListed x calls := fun c hc => hstays c (mem_append_left _ hc)
    have hx := hstays _ (mem_append_right _ (mem_singleton_self _)) _ rfl
    rw [latestObserved_snoc] at hlatest
    have hbefore := h.observed x o hstays' (by simpa [observedFor] using hlatest)
    obtain ⟨ns, hns⟩ := Option.isSome_iff_exists.mp (entryOf_isSome.mpr hx)
    simp only [apply, NodeTuning.withComputed, hentry, hns]
    rw [observedOf_eq (of_decide_eq_true h.admitted), hbefore]
    rfl
  · intro x
    rw [latestComputed_snoc]
    simp only [apply, NodeTuning.withComputed, hentry, computed, Option.some_or, Option.getD_some]
    cases entryOf (nodes.map wire) x <;> rfl

theorem Kept.edit (h : Kept nt₀ nt calls) (e : NodeTuningEdit) :
    Kept nt₀ (e.apply nt) calls := by
  cases e <;> exact ⟨h.admitted, h.observed, h.restarted⟩

/-- Each of two writers keeps what the other committed last: the observations of the agents, and the restart records. -/
theorem two_writers_lose_nothing (s : Contended NodeTuning NodeTuning.name StatusCall Nat) (hidle : ∀ i, s.calls i = none)
    (hadmitted : ∀ a ∈ s.table.live.items, a.val.admitted = true)
    (actions : List (Contend String StatusCall NodeTuningEdit Nat)) :
    (∀ c ∈ (run writersStep s actions).2, ∀ x o, c.call = .patchObserved x o → ObservedOnly x o c.before c.after) ∧
      (∀ c ∈ (run writersStep s actions).2, ∀ generation nodes, c.call = .patchStatus generation nodes →
        ObservedKept nodes c.before c.after) ∧
      ∀ k nt₀, s.table.value? k = some nt₀ → ∃ nt, (run writersStep s actions).1.table.value? k = some nt ∧
        (nt.status.nodes.map NodeTuningNodeStatus.name).Nodup ∧
        (∀ x o, StaysListed x (callsOn k (run writersStep s actions).2) →
          latestObserved x (callsOn k (run writersStep s actions).2) = some o →
          ∃ e ∈ nt.status.nodes, e.name = x ∧ e.observed = o) ∧
        ∀ e ∈ nt.status.nodes, (e.restartedAt, e.restartedGeneration) =
          restartRecord (entryOf ((latestComputed (callsOn k (run writersStep s actions).2)).getD nt₀.status.nodes) e.name) := by
  have hadmits : Admits statusResource s.table := by
    intro k nt hnt
    obtain ⟨rev, hget⟩ := Versioned.value?_eq_some hnt
    exact hadmitted _ (Keyed.mem_of_get? hget)
  have hatomic := contend_atomic statusResource defaultBackoffSteps hidle hadmits actions
  refine ⟨?_, ?_, ?_⟩
  · intro c hc x o hcall
    rw [(hatomic c hc).1, hcall]
    exact observedOnly_apply x o c.before
  · intro c hc generation nodes hcall
    rw [(hatomic c hc).1, hcall]
    exact observedKept_apply generation nodes (hatomic c hc).2
  · intro k nt₀ hnt₀
    have hbegin : Kept nt₀ nt₀ [] := ⟨hadmits k nt₀ hnt₀, (fun x o _ hnone => nomatch hnone), fun _ => rfl⟩
    obtain ⟨nt, hnt, hkept⟩ := contend_induct statusResource defaultBackoffSteps (I := Kept nt₀)
      (fun nt calls c h hvalid => by
        cases c with
        | patchObserved x o => exact h.patchObserved x o hvalid
        | patchStatus generation nodes => exact h.patchStatus generation nodes hvalid)
      (fun nt calls e h _ => h.edit e) hidle k hnt₀ hbegin actions
    refine ⟨nt, hnt, of_decide_eq_true hkept.admitted, ?_, ?_⟩
    · intro x o hstays hlatest
      obtain ⟨e, he, ho⟩ := Option.map_eq_some_iff.mp (hkept.observed x o hstays hlatest)
      exact ⟨e, (mem_of_entryOf he).1, (mem_of_entryOf he).2, ho⟩
    · intro e he
      rw [← hkept.restarted e.name, entryOf_of_mem (of_decide_eq_true hkept.admitted) he]
      rfl

/-! ## A race of two agents and the controller -/

namespace TuningFixture

def contended : Contended NodeTuning NodeTuning.name StatusCall Nat where
  table := Versioned.empty.create tuning
  calls := fun _ => none

def measured (profile : String) : ObservedTuning := ⟨none, profile⟩

def computedEntries : List NodeTuningNodeStatus :=
  [{ NodeTuningNodeStatus.zero "a" with restartedAt := some 4000000000, restartedGeneration := 1 }, .zero "b"]

/-- The agent of `a` is first; the controller's write sends that of `b` back. -/
def race : List (Contend String StatusCall NodeTuningEdit Nat) :=
  [.begin 1 (.patchObserved "a" (measured "balanced")) "t", .begin 0 (.patchStatus 1 computedEntries) "t", .read 1 true,
    .read 0 true, .send 1 true, .send 0 true, .read 0 true, .begin 2 (.patchObserved "b" (measured "powersave")) "t",
    .read 2 true, .send 0 true, .send 2 true, .read 2 true, .send 2 true]

end TuningFixture

open TuningFixture in
set_option maxRecDepth 4000 in
/-- In the race every write gets through, and none is lost. -/
theorem two_writers_lose_nothing_race :
    callsOn "t" (run writersStep contended race).2 =
        [.patchObserved "a" (measured "balanced"), .patchStatus 1 computedEntries,
          .patchObserved "b" (measured "powersave")] ∧
      ∃ nt, (run writersStep contended race).1.table.value? "t" = some nt ∧
        ∃ e ∈ nt.status.nodes, e.name = "a" ∧ e.observed = measured "balanced" := by
  have hcalls : callsOn "t" (run writersStep contended race).2 =
      [.patchObserved "a" (measured "balanced"), .patchStatus 1 computedEntries,
        .patchObserved "b" (measured "powersave")] := by decide
  obtain ⟨-, -, hkept⟩ := two_writers_lose_nothing contended (fun _ => rfl) (by decide) race
  obtain ⟨nt, hnt, -, hobserved, -⟩ := hkept "t" tuning (by decide)
  refine ⟨hcalls, nt, hnt, hobserved "a" (measured "balanced") ?_ ?_⟩
  · rw [hcalls]
    unfold StaysListed
    decide
  · rw [hcalls]
    decide

end FrameOperator
