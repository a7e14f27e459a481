import FrameOperator.Services.Postgres

/-!
# The pass that adopts a cluster

The pass that adopts a cluster by its UID is to write no spec. The constraint that spreads several instances over the nodes is not
compared, and is written wherever the cluster does not have it to the letter.
-/

namespace FrameOperator.Services

open Api

namespace Postgres

variable {parseQuantity : String → Except String Int} {svc : FrameService} {s : Settings} {cr : Object}

/-! ## What is compared -/

theorem sameSize_eq_true (h : sameSize parseQuantity cr s = .ok true) :
    ∃ q, parseQuantity (cr.spec.nestedString ["volume", "size"]) = .ok q ∧ mustParse parseQuantity s.volumeSize = .ok q := by
  unfold sameSize at h
  split at h
  · cases h
  rename_i live hlive
  cases hwant : mustParse parseQuantity s.volumeSize with
  | error e =>
    rw [hwant] at h
    cases h
  | ok want =>
    rw [hwant] at h
    simp only [Except.map, Except.ok.injEq, decide_eq_true_eq] at h
    exact ⟨live, hlive, by rw [h]⟩

theorem movedOf_eq_nil (h : movedOf parseQuantity cr s = .ok []) :
    cr.spec.nestedInt64 ["numberOfInstances"] = s.instances ∧ s.nodes = [] ∧
      ∃ q, parseQuantity (cr.spec.nestedString ["volume", "size"]) = .ok q ∧ mustParse parseQuantity s.volumeSize = .ok q := by
  cases hsame : sameSize parseQuantity cr s with
  | error e => simp [movedOf, hsame, Except.map] at h
  | ok same =>
    simp only [movedOf, hsame, Except.map, Except.ok.injEq, List.append_eq_nil_iff, ite_eq_right_iff, reduceCtorEq, imp_false,
      not_not, Bool.not_eq_true', Bool.not_eq_false] at h
    obtain ⟨⟨hinst, rfl⟩, hnodes⟩ := h
    exact ⟨hinst, hnodes, sameSize_eq_true hsame⟩

/-- The constraint that a pass puts on a cluster is there, or no constraint is put. -/
def Spread (cr : Object) (s : Settings) : Prop :=
  s.instances ≤ 1 ∨ cr.spec.nestedField ["topologySpreadConstraints"] = some (topologySpreadConstraints cr.key.name)

/-- Where instances and nodes are as asked, only the spread may move. -/
theorem moves_of_unmoved (hinst : cr.spec.nestedInt64 ["numberOfInstances"] = s.instances) (hnodes : s.nodes = []) :
    (Spread cr s → moves cr s false = []) ∧
      (¬Spread cr s → moves cr s false = [("topologySpreadConstraints", topologySpreadConstraints cr.key.name)]) := by
  unfold Spread
  by_cases h1 : s.instances ≤ 1
  · have hp : placement cr.key.name s = [] := by simp [placement, hnodes, h1]
    exact ⟨fun _ => by simp [moves, hp, hinst], fun h => absurd (.inl h1) h⟩
  have hp : placement cr.key.name s = [("topologySpreadConstraints", topologySpreadConstraints cr.key.name)] := by
    simp [placement, hnodes, Int.lt_of_not_ge h1]
  simp only [moves, hp, hinst, h1, false_or]
  cases hf : cr.spec.nestedField ["topologySpreadConstraints"] with
  | none => simp [hf, topologySpreadConstraints]
  | some v =>
    by_cases hv : v = topologySpreadConstraints cr.key.name
    · simp [hf, hv]
    · simp [hf, hv]

/-! ## What the pass writes -/

def ChangesSpec (cr : Object) : Request → Prop
  | .patch .cluster _ body => (body.apply cr).spec ≠ cr.spec
  | _ => False

/-- Reads find the cluster, and a patch without a spec is answered with its spec. -/
def Finds (cr : Object) : (r : Request) → r.Resp → Prop
  | .get .cluster _, a => a = .ok cr
  | .patch .cluster _ body, a => ∀ o, a = .ok o → body.spec = none → o.key = cr.key ∧ o.spec = cr.spec
  | _, _ => True

/-- A pass that finds a cluster makes no patch that changes its spec. -/
abbrev LeavesSpec (cr : Object) {α : Type} (p : Prog α) (past : List (Called Request.Resp)) : Prop :=
  p.Traced (Finds cr) (fun _ r => ¬ChangesSpec cr r) (fun _ _ => True) past

/-- The parameters are refused for the cluster, or its spread is the one they ask for. -/
def AdoptsInPlace (parseQuantity : String → Except String Int) (cr : Object) (s : Settings) : Prop :=
  driftOf cr s ≠ [] ∨ movedOf parseQuantity cr s ≠ .ok [] ∨ Spread cr s

theorem claim_leavesSpec (svc : FrameService) (past : List (Called Request.Resp)) {α : Type} {f : Except String Object → Prog α}
    (hf : ∀ e later, LeavesSpec cr (f (.error e)) later)
    (ho : ∀ o later, o.key = cr.key → o.spec = cr.spec → LeavesSpec cr (f (.ok o)) later) :
    LeavesSpec cr (claim cr svc >>= f) past := by
  refine ⟨fun h => h rfl, fun a ha => ?_⟩
  cases a with
  | error e => exact hf _ _
  | ok o =>
    obtain ⟨hkey, hspec⟩ := ha o rfl rfl
    exact ho o _ hkey hspec

theorem keepBucket_leavesSpec (svc : FrameService) (name : String) (past : List (Called Request.Resp)) :
    LeavesSpec cr (keepBucket svc name) past := by
  unfold keepBucket
  refine traced_ask (fun h => h) fun a _ => ?_
  cases a with
  | error e => trivial
  | ok obc =>
    simp only
    split
    · trivial
    split
    · trivial
    · exact ⟨fun h => h, fun a _ => trivial⟩

theorem keepArchive_leavesSpec (svc : FrameService) (s : Settings) (past : List (Called Request.Resp)) :
    LeavesSpec cr (keepArchive svc s) past := by
  unfold keepArchive
  split
  · exact keepBucket_leavesSpec svc _ past
  · trivial

variable {o : Object}

theorem converge_leavesSpec (hkey : o.key = cr.key) (hspec : o.spec = cr.spec) (hmoved : movedOf parseQuantity cr s = .ok [])
    (hspread : Spread cr s) (past : List (Called Request.Resp)) : LeavesSpec cr (converge parseQuantity o s) past := by
  obtain ⟨hinst, hnodes, q, hlive, hwant⟩ := movedOf_eq_nil hmoved
  rw [← hspec] at hinst hlive
  have hnone : moves o s false = [] := by
    refine (moves_of_unmoved hinst hnodes).1 ?_
    rw [Spread, hspec, hkey]
    exact hspread
  simp [converge, hlive, hwant, hnone]

theorem reconcileClaimed_leavesSpec (hkey : o.key = cr.key) (hspec : o.spec = cr.spec)
    (hmoved : movedOf parseQuantity cr s = .ok []) (hspread : Spread cr s) (past : List (Called Request.Resp)) :
    LeavesSpec cr (reconcileClaimed parseQuantity svc s o) past := by
  unfold reconcileClaimed
  refine (keepArchive_leavesSpec svc s past).bind fun a later _ _ => ?_
  match a with
  | .error e => trivial
  | .ok (some result) => trivial
  | .ok none =>
    refine (converge_leavesSpec hkey hspec hmoved hspread later).bind fun a later _ _ => ?_
    match a with
    | .error e => trivial
    | .ok (some result) => trivial
    | .ok none =>
      simp only
      split <;> trivial

theorem changesSpec_spread (hne : ¬Spread cr s) (key : NamespacedName) :
    ChangesSpec cr (.patch .cluster key { spec := some [("topologySpreadConstraints", topologySpreadConstraints cr.key.name)] }) := by
  intro heq
  refine hne (.inr ?_)
  have hmember : Unstructured.member? (cr.spec.merge
      (.obj [("topologySpreadConstraints", topologySpreadConstraints cr.key.name)])).members "topologySpreadConstraints" =
        some (topologySpreadConstraints cr.key.name) := by
    rw [Unstructured.members_merge_obj, Unstructured.member?_mergeMembers (by simp) (List.mem_singleton.mpr rfl)
      (by simp [topologySpreadConstraints])]
    rfl
  rw [Unstructured.nestedField_singleton, ← heq]
  exact hmember

def ownBucket (svc : FrameService) (name : String) : Object :=
  { kind := .bucket, key := ⟨svc.key.namespaceName, name⟩, labels := setAll none [(ownerLabel, svc.key.name)]
    annotations := setAll none [.mk keepAnnotation keepValue] }

theorem leavesSpec_converge {past : List (Called Request.Resp)}
    (h : LeavesSpec cr (reconcileClaimed parseQuantity svc s o) past) :
    ∃ later, ∃ f : Except String (Option Result) → Prog (Except String Result),
      LeavesSpec cr (converge parseQuantity o s >>= f) later := by
  unfold reconcileClaimed keepArchive at h
  by_cases hw : s.walClaim ≠ ""
  · rw [if_pos hw] at h
    have hb := h.2 (.ok (ownBucket svc s.walClaim)) trivial
    have hown : valueOf (ownBucket svc s.walClaim).labels ownerLabel = svc.key.name := by
      simp [ownBucket, setAll, valueOf, GoMap.get?_copySet]
    have hkeep : valueOf (ownBucket svc s.walClaim).annotations keepAnnotation = keepValue := by
      simp [ownBucket, setAll, valueOf, GoMap.get?_copySet]
    simp only [Program.bind, hown, hkeep, ne_eq, not_true_eq_false, decide_false, Bool.and_false, Bool.false_eq_true, if_false,
      decide_true, Bool.and_self, if_true] at hb
    exact ⟨_, _, hb⟩
  · rw [if_neg hw] at h
    exact ⟨_, _, h⟩

/-- Adoption changes no spec exactly if the parameters are refused, one instance is asked for, or the spread is in place. -/
theorem adoption_leaves_spec (parseQuantity : String → Except String Int) (svc : FrameService) (s : Settings) (cr : Object)
    (hs : settingsOf svc = some s) (hunclaimed : isClaimed cr svc = false) (hadopt : s.adoptUID = cr.uid) :
    LeavesSpec cr (reconcile parseQuantity svc) [] ↔ AdoptsInPlace parseQuantity cr s := by
  have howned : isOwned cr svc s = true := by simp [isOwned, hadopt]
  simp only [reconcile, hs]
  constructor
  · intro h
    by_contra hcond
    simp only [AdoptsInPlace, not_or, not_not, ne_eq] at hcond
    obtain ⟨hdrift, hmoved, hspread⟩ := hcond
    have hfound : LeavesSpec cr (reconcilePresent parseQuantity svc s cr) _ := h.2 (.ok cr) rfl
    simp only [reconcilePresent, howned, differences, hunclaimed, hmoved, hdrift, Except.map, Bool.not_true, Bool.not_false,
      Bool.false_eq_true, if_false, List.append_nil, ne_eq, not_true_eq_false, Bool.true_or, if_true] at hfound
    have hclaimed := hfound.2 (.ok ((claimBody cr svc).apply cr)) fun o ho _ => by cases ho; exact ⟨rfl, rfl⟩
    obtain ⟨later, f, hconv⟩ := leavesSpec_converge hclaimed
    obtain ⟨hinst, hnodes, q, hlive, hwant⟩ := movedOf_eq_nil hmoved
    have hone : moves ((claimBody cr svc).apply cr) s false =
        [("topologySpreadConstraints", topologySpreadConstraints cr.key.name)] := (moves_of_unmoved hinst hnodes).2 hspread
    have hlive' : parseQuantity (((claimBody cr svc).apply cr).spec.nestedString ["volume", "size"]) = .ok q := hlive
    simp only [converge, hlive', hwant, lt_irrefl, if_false, decide_false, hone, reduceCtorEq] at hconv
    exact hconv.1 (changesSpec_spread hspread _)
  · intro hcond
    refine traced_ask (fun h => h) fun a ha => ?_
    cases ha
    simp only [reconcilePresent, howned, differences, hunclaimed, Bool.not_true, Bool.false_eq_true, if_false]
    cases hmoved : movedOf parseQuantity cr s with
    | error e => trivial
    | ok moved =>
      simp only [Except.map]
      split
      · trivial
      rename_i hnil
      rw [ne_eq, not_not, List.append_eq_nil_iff] at hnil
      obtain ⟨hdrift, rfl⟩ := hnil
      have hspread : Spread cr s := by
        rcases hcond with h | h | h
        · exact absurd hdrift h
        · exact absurd hmoved h
        · exact h
      simp only [Bool.not_false, Bool.true_or, if_true]
      refine claim_leavesSpec svc _ (fun e later => trivial) fun o later hkey hspec => ?_
      exact reconcileClaimed_leavesSpec hkey hspec hmoved hspread later

namespace PostgresFixture

def quantity (text : String) : Except String Int :=
  let unit := text.toList.dropWhile Char.isDigit
  match parseDigits (text.toList.takeWhile Char.isDigit) with
  | none => .error "quantities must match the regular expression"
  | some n =>
    if unit = ['M', 'i'] then .ok (n * 1048576)
    else if unit = ['G', 'i'] then .ok (n * 1073741824)
    else if unit = ['T', 'i'] then .ok (n * 1099511627776)
    else .error "quantities must match the regular expression"

def acidMain : NamespacedName := ⟨"db", "acid-main"⟩

def service (params : List (String × String)) : FrameService :=
  { key := acidMain
    spec := { type := "postgres", parameters := params.foldl (fun m e => m.copySet e.1 ⟨e.2⟩) none } }

def adopting (instances : String) : FrameService :=
  service [("instances", instances), ("volumeSize", "10Gi"), ("adoptUID", "0a1b")]

open Unstructured in
def rendered (instances : Int) : Object where
  kind := .cluster
  key := acidMain
  uid := "0a1b"
  spec := ofMembers [("teamId", str "acid"), ("numberOfInstances", int instances), ("postgresql", ofMembers [("version", str "18")]),
    ("volume", ofMembers [("size", str "10240Mi")]), ("users", ofMembers [("acid", list [])]),
    ("databases", ofMembers [("acid", str "acid")])]

def holding (cr : Object) : Objects where
  objects := Keyed.empty.insertNew cr
  volumes := []
  credentials _ := none
  installed := [.cluster, .bucket]

def adopted : Settings where
  team := "acid"
  version := "18"
  database := "acid"
  owner := "acid"
  storageClass := ""
  instances := 1
  volumeSize := "10Gi"
  nodes := []
  walClaim := ""
  walEndpoint := ""
  walRetention := "14"
  adoptUID := "0a1b"
  create := false
  noBinding := false

def spreadOf (s : Objects) : Option Unstructured :=
  (s.get? .cluster acidMain).bind fun o => o.spec.nestedField ["topologySpreadConstraints"]

end PostgresFixture

set_option maxRecDepth 8000

open PostgresFixture in
/-- A cluster of three instances gets a spread that it did not have on the pass that adopts it. -/
theorem adoption_writes_spread :
    isClaimed (rendered 3) (adopting "3") = false ∧
      (settingsOf (adopting "3")).map (fun s =>
        (s.adoptUID, driftOf (rendered 3) s, (movedOf quantity (rendered 3) s).toOption)) =
        some ("0a1b", [], some []) ∧
      spreadOf (run (reconciler quantity).step ⟨holding (rendered 3), none⟩
        [.start (adopting "3"), .answer {}, .answer {}]).1.server = none ∧
      spreadOf (run (reconciler quantity).step ⟨holding (rendered 3), none⟩
        [.start (adopting "3"), .answer {}, .answer {}, .answer {}]).1.server =
        some (topologySpreadConstraints "acid-main") := by
  decide +kernel

open PostgresFixture in
/-- A cluster of one instance, to be adopted. -/
theorem adoption_leaves_spec_single :
    settingsOf (adopting "1") = some adopted ∧
      (LeavesSpec (rendered 1) (reconcile quantity (adopting "1")) [] ↔
        AdoptsInPlace quantity (rendered 1) adopted) :=
  ⟨by decide +kernel, adoption_leaves_spec quantity (adopting "1") adopted (rendered 1)
    (by decide +kernel) (by decide +kernel) rfl⟩

end Postgres

end FrameOperator.Services
