import FrameOperator.Lemmas.PostgresPass
import FrameOperator.Lib.Serve
import FrameOperator.Theorems.AdoptionSpec

/-!
# Where a pass settles

What differs is compared as a whole and written as a merge patch: a pass leaves nothing to write, unless the cluster's node affinity
has a member that the patch does not name.
-/

namespace FrameOperator.Services

open Api

namespace Postgres

open Unstructured

variable {parseQuantity : String → Except String Int} {s : Settings} {cr : Object} {grows : Bool}

open Unstructured in
/-- No member but the required one, and in that none but its terms. -/
def Replaceable (v : Unstructured) : Prop :=
  v.HasOnly "requiredDuringSchedulingIgnoredDuringExecution" ∧
    ((member? v.members "requiredDuringSchedulingIgnoredDuringExecution").getD null).HasOnly "nodeSelectorTerms"

theorem merge_nodeAffinity_iff (v : Unstructured) (nodes : List String) :
    v.merge (nodeAffinity nodes) = nodeAffinity nodes ↔ Replaceable v := by
  have hlist : ∀ w items, merge w (.list items) = .list items := fun w items => by rw [merge]
  unfold nodeAffinity Replaceable
  rw [ofMembers_singleton, ofMembers_singleton, merge_singleton_eq_iff (by simp),
    merge_singleton_eq_iff (by simp), hlist]
  simp only [true_and]
  exact and_comm

theorem replaceable_nodeAffinity (nodes : List String) : Replaceable (nodeAffinity nodes) := ⟨.inr ⟨_, rfl⟩, .inr ⟨_, rfl⟩⟩

/-- Nothing moves exactly where all is as asked for. -/
theorem moves_eq_nil_iff : moves cr s grows = [] ↔
    (s.nodes ≠ [] → (cr.spec.nestedField ["nodeAffinity"]).getD .null = nodeAffinity s.nodes) ∧
      cr.spec.nestedInt64 ["numberOfInstances"] = s.instances ∧
      (s.instances > 1 → (cr.spec.nestedField ["topologySpreadConstraints"]).getD .null = topologySpreadConstraints cr.key.name) ∧
      grows = false := by
  rw [moves_eq]
  simp

/-- The cluster after what differs is written. -/
def converged (cr : Object) (s : Settings) (grows : Bool) : Object :=
  if moves cr s grows = [] then cr else ({ spec := some (moves cr s grows) } : Patch).apply cr

theorem key_converged : (converged cr s grows).key = cr.key := by
  unfold converged
  split <;> rfl

/-- A member that is written is merged into what is there. -/
theorem converged_placed {name : String} {v : Unstructured} (hv : v ≠ .null) (hmem : (name, v) ∈ moves cr s grows) :
    (converged cr s grows).spec.nestedField [name] = some (((cr.spec.nestedField [name]).getD .null).merge v) := by
  rw [converged, if_neg (List.ne_nil_of_mem hmem), nestedField_singleton, nestedField_singleton]
  exact (congrArg (member? · name) (members_merge_obj _ _)).trans
    (member?_mergeMembers ((names_moves cr s grows).nodup (by decide)) hmem hv _)

theorem converged_unplaced {name : String} (h : name ∉ (moves cr s grows).map Prod.fst) :
    (converged cr s grows).spec.nestedField [name] = cr.spec.nestedField [name] := by
  unfold converged
  split
  · rfl
  rw [nestedField_singleton, nestedField_singleton]
  exact (congrArg (member? · name) (members_merge_obj _ _)).trans
    (member?_mergeMembers_of_notMem h _)

theorem converged_size :
    (converged cr s grows).spec.nestedString ["volume", "size"] = if grows then
    s.volumeSize else cr.spec.nestedString ["volume", "size"] := by
  unfold converged
  split
  · rename_i hnil
    rw [if_neg (by simp [(moves_eq_nil_iff.mp hnil).2.2.2])]
  · exact merged_size cr.spec grows

theorem converged_instances : (converged cr s grows).spec.nestedInt64 ["numberOfInstances"] = s.instances := by
  unfold nestedInt64
  by_cases h : cr.spec.nestedInt64 ["numberOfInstances"] = s.instances
  · rw [converged_unplaced (by simp [moves_eq, h])]
    exact h
  · rw [converged_placed (v := .int s.instances) (by simp) (by simp [moves_eq, h]), merge]

theorem converged_spread (h : s.instances > 1) :
    ((converged cr s grows).spec.nestedField ["topologySpreadConstraints"]).getD .null = topologySpreadConstraints cr.key.name := by
  by_cases hs : (cr.spec.nestedField ["topologySpreadConstraints"]).getD .null = topologySpreadConstraints cr.key.name
  · rw [converged_unplaced (by simp [moves_eq, hs]), hs]
  rw [converged_placed (v := topologySpreadConstraints cr.key.name) nofun (by simp [moves_eq, h, hs])]
  unfold topologySpreadConstraints
  rw [merge]
  rfl

theorem converged_nodeAffinity (h : s.nodes ≠ []) :
    (converged cr s grows).spec.nestedField ["nodeAffinity"] = some (nodeAffinity s.nodes) ↔
    Replaceable ((cr.spec.nestedField ["nodeAffinity"]).getD .null) := by
  by_cases ha : (cr.spec.nestedField ["nodeAffinity"]).getD .null = nodeAffinity s.nodes
  · rw [converged_unplaced (by simp [moves_eq, ha]), ha]
    refine ⟨fun _ => replaceable_nodeAffinity _, fun _ => ?_⟩
    cases hf : cr.spec.nestedField ["nodeAffinity"] with
    | none =>
      rw [hf] at ha
      cases ha
    | some v =>
      rw [hf] at ha
      exact congrArg some ha
  · rw [converged_placed (v := nodeAffinity s.nodes) nofun (by simp [moves_eq, h, ha]), Option.some.injEq, merge_nodeAffinity_iff]

section Size

variable {live want : Int} (hwant : mustParse parseQuantity s.volumeSize = .ok want)

include hwant

theorem converge_eq_pure_iff (hsize : parseQuantity (cr.spec.nestedString ["volume", "size"]) = .ok want) :
    converge parseQuantity cr s = pure (.ok none) ↔ moves cr s false = [] := by
  simp only [converge, hsize, hwant, Int.lt_irrefl, if_false, decide_false]
  split
  · rename_i hnil
    simp [hnil]
  · rename_i hne
    exact ⟨fun h => (by cases h), fun h => absurd h hne⟩

variable (hlive : parseQuantity (cr.spec.nestedString ["volume", "size"]) = .ok live) (hle : live ≤ want)

include hlive hle

theorem serve_converge {t : Objects} (hcr : t.get? .cluster cr.key = some cr) (hinstalled : .cluster ∈ t.installed) :
    ((converge parseQuantity cr s).serveAll Objects.exec {} t).get? .cluster cr.key = some (converged cr s (live < want)) := by
  simp only [converge, hlive, hwant, if_neg (Int.not_lt.mpr hle), converged]
  split
  · exact hcr
  · simp only [Program.serveAll_ask, Objects.exec, Objects.patch, Objects.read, hinstalled, if_true, hcr, Fate.answer, Fate.apply]
    exact (Objects.get?_patched t .cluster cr.key _ .cluster cr.key).trans (by simp [hcr])

theorem parse_converged : parseQuantity ((converged cr s (live < want)).spec.nestedString ["volume", "size"]) = .ok want := by
  rw [converged_size]
  by_cases h : live < want
  · rw [if_pos (by simpa using h)]
    exact mustParse_ok hwant
  · rw [if_neg (by simpa using h), hlive, Int.le_antisymm hle (Int.not_lt.mp h)]

end Size

/-- A pass leaves nothing left to write, and the node affinity asked for. -/
def Settles (parseQuantity : String → Except String Int) (t : Objects) (cr : Object) (s : Settings) : Prop :=
  ∃ next, ((converge parseQuantity cr s).serveAll Objects.exec {} t).get? .cluster cr.key = some next ∧
    converge parseQuantity next s = pure (.ok none) ∧
    (s.nodes ≠ [] → next.spec.nestedField ["nodeAffinity"] = some (nodeAffinity s.nodes))

/-- A pass settles a cluster exactly if the node affinity asked for has no member that the patch does not name. -/
theorem converge_settles_iff (parseQuantity : String → Except String Int) (t : Objects) (cr : Object) (s : Settings) {live want : Int}
    (hcr : t.get? .cluster cr.key = some cr) (hinstalled : .cluster ∈ t.installed)
    (hlive : parseQuantity (cr.spec.nestedString ["volume", "size"]) = .ok live)
    (hwant : mustParse parseQuantity s.volumeSize = .ok want) (hle : live ≤ want) :
    Settles parseQuantity t cr s ↔ (s.nodes ≠ [] → Replaceable ((cr.spec.nestedField ["nodeAffinity"]).getD .null)) := by
  rw [Settles, serve_converge hwant hlive hle hcr hinstalled]
  constructor
  · rintro ⟨next, hnext, -, haffinity⟩ hnodes
    cases hnext
    exact (converged_nodeAffinity hnodes).mp (haffinity hnodes)
  · intro h
    have haffinity : s.nodes ≠ [] → (converged cr s (live < want)).spec.nestedField ["nodeAffinity"] = some (nodeAffinity s.nodes) :=
      fun hnodes => (converged_nodeAffinity hnodes).mpr (h hnodes)
    refine ⟨_, rfl, (converge_eq_pure_iff hwant (parse_converged hwant hlive hle)).mpr (moves_eq_nil_iff.mpr ⟨?_, ?_, ?_, rfl⟩),
      haffinity⟩
    · intro hnodes
      rw [haffinity hnodes, Option.getD_some]
    · exact converged_instances
    · intro hinst
      rw [key_converged]
      exact converged_spread hinst

namespace PostgresFixture

def pinned : Settings := { adopted with nodes := ["worker-1"] }

def pinning : FrameService := service [("instances", "1"), ("volumeSize", "10Gi"), ("adoptUID", "0a1b"), ("nodes", "worker-1")]

open Unstructured in
/-- A claimed cluster that its chart would rather have on nodes with a disk. -/
def charted : Object :=
  (claimBody (rendered 1) pinning).apply { rendered 1 with spec := (rendered 1).spec.merge (obj [("nodeAffinity",
    ofMembers [("preferredDuringSchedulingIgnoredDuringExecution", list [ofMembers [("weight", int 1), ("preference",
      ofMembers [("matchExpressions", list [ofMembers [("key", str "disk"), ("operator", str "Exists")]])])]])])]) }

def writes : Prog (Except String (Option Result)) → Option Patch
  | .call (.patch .cluster _ body) _ => some body
  | _ => none

end PostgresFixture

set_option maxRecDepth 8000

open PostgresFixture in
/-- What the chart prefers stays beside the terms that are written, so the next pass writes the node affinity again. -/
theorem affinity_is_patched_again :
    settingsOf pinning = some pinned ∧ isOwned charted pinning pinned = true ∧
      isClaimed charted pinning = true ∧ driftOf charted pinned = [] ∧
      (((converge quantity charted pinned).serveAll Objects.exec {} (holding charted)).get?
        .cluster acidMain).map (fun next => (writes (converge quantity next pinned),
          decide (next.spec.nestedField ["nodeAffinity"] = some (nodeAffinity ["worker-1"])))) =
        some (some { spec := some [("nodeAffinity", nodeAffinity ["worker-1"])] }, false) := by
  decide +kernel

open PostgresFixture in
/-- A pass over a cluster with nodes to be pinned to. -/
theorem converge_settles_rendered :
    (holding (rendered 1)).get? .cluster acidMain = some (rendered 1) ∧
      (Settles quantity (holding (rendered 1)) (rendered 1) pinned ↔
        (pinned.nodes ≠ [] → Replaceable (((rendered 1).spec.nestedField ["nodeAffinity"]).getD .null))) :=
  ⟨by decide +kernel, @converge_settles_iff quantity _ (rendered 1) pinned 10737418240 10737418240
    (by decide +kernel) (by decide) (by decide +kernel) (by decide +kernel) (Int.le_refl _)⟩

end Postgres

end FrameOperator.Services
