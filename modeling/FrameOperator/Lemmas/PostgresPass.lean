import FrameOperator.Lemmas.PostgresSteps

/-!
# What a pass of the Postgres provider writes

A patch of a spec moves what may move and never shrinks a volume (`OnlyMoves`); it is made of a cluster that the pass has read and
owns, and a cluster is created where there is none (`Proper`, `Grounded`).
-/

namespace FrameOperator.Services

open List Api

namespace Postgres

open Unstructured

variable {parseQuantity : String → Except String Int} {svc : FrameService} {st : Settings} {cr : Object} {s t : Objects}

variable {key : NamespacedName} {r : Request} {past : List (Called Request.Resp)}

/-! ## What moves -/

/-- The settings that may move. -/
def movable : List String := ["nodeAffinity", "numberOfInstances", "topologySpreadConstraints", "volume"]

/-- A cluster in which only what may move has moved, and whose volumes have not shrunk. -/
structure OnlyMoves (parseQuantity : String → Except String Int) (cr cr' : Object) : Prop where
  uid : cr'.uid = cr.uid
  labels : cr'.labels = cr.labels
  annotations : cr'.annotations = cr.annotations
  fields : ∀ name ∉ movable, cr'.spec.nestedField [name] = cr.spec.nestedField [name]
  volume : ∀ name ≠ "size", cr'.spec.nestedField ["volume", name] = cr.spec.nestedField ["volume", name]
  size : ∃ live new, parseQuantity (cr.spec.nestedString ["volume", "size"]) = .ok live ∧
    parseQuantity (cr'.spec.nestedString ["volume", "size"]) = .ok new ∧ live ≤ new

/-- What a pass moves of a spec, setting by setting. -/
theorem moves_eq (grows : Bool) : moves cr st grows =
    (if st.nodes ≠ [] ∧ (cr.spec.nestedField ["nodeAffinity"]).getD .null ≠ nodeAffinity st.nodes then
      [("nodeAffinity", nodeAffinity st.nodes)] else []) ++
    (if cr.spec.nestedInt64 ["numberOfInstances"] ≠ st.instances then [("numberOfInstances", .int st.instances)] else []) ++
    (if st.instances > 1 ∧ (cr.spec.nestedField ["topologySpreadConstraints"]).getD .null ≠ topologySpreadConstraints cr.key.name then
      [("topologySpreadConstraints", topologySpreadConstraints cr.key.name)] else []) ++
    if grows then [("volume", .obj [("size", .str st.volumeSize)])] else [] := by
  by_cases hn : st.nodes = [] <;> by_cases hi : st.instances > 1 <;>
    by_cases ha : (cr.spec.nestedField ["nodeAffinity"]).getD .null = nodeAffinity st.nodes <;>
    by_cases hc : (cr.spec.nestedField ["topologySpreadConstraints"]).getD .null = topologySpreadConstraints cr.key.name <;>
    simp [moves, placement, hn, hi, ha, hc]

theorem names_moves (cr : Object) (st : Settings) (grows : Bool) : ((moves cr st grows).map Prod.fst).Sublist movable := by
  rw [moves_eq]
  split_ifs <;> simp [movable]

theorem volume_mem_moves {grows : Bool} (h : "volume" ∈ (moves cr st grows).map Prod.fst) :
    grows = true ∧ ("volume", .obj [("size", .str st.volumeSize)]) ∈ moves cr st grows := by
  rw [moves_eq] at h ⊢
  cases grows
  · revert h
    split_ifs <;> simp_all
  · simp

theorem mustParse_ok {text : String} {q : Int} (h : mustParse parseQuantity text = .ok q) : parseQuantity text = .ok q := by
  unfold mustParse at h
  cases hq : parseQuantity text with
  | error e =>
    rw [hq] at h
    cases h
  | ok q' =>
    rw [hq] at h
    exact h

section Merged

variable (spec : Unstructured) (grows : Bool)

abbrev merged (cr : Object) (st : Settings) (spec : Unstructured) (grows : Bool) : Unstructured :=
  spec.merge (.obj (moves cr st grows))

theorem merged_field {name : String} (h : name ∉ movable) :
    (merged cr st spec grows).nestedField [name] = spec.nestedField [name] := by
  have hnot : name ∉ (moves cr st grows).map Prod.fst := fun hmem => h ((names_moves cr st grows).subset hmem)
  rw [nestedField_singleton, nestedField_singleton, members_merge_obj,
    member?_mergeMembers_of_notMem hnot]

theorem merged_volume : (merged cr st spec grows).nestedField ["volume"] =
    if grows then some (((spec.nestedField ["volume"]).getD .null).merge (.obj [("size", .str st.volumeSize)]))
    else spec.nestedField ["volume"] := by
  have hnodup := (names_moves cr st grows).nodup (by decide)
  rw [nestedField_singleton, nestedField_singleton, members_merge_obj]
  by_cases hmem : "volume" ∈ (moves cr st grows).map Prod.fst
  · obtain ⟨hgrows, hvol⟩ := volume_mem_moves hmem
    rw [if_pos hgrows, member?_mergeMembers hnodup hvol (by simp)]
  have hnot : ¬grows = true := by
    intro hg
    rw [moves_eq, if_pos hg] at hmem
    simp at hmem
  rw [if_neg hnot, member?_mergeMembers_of_notMem hmem]

theorem nestedField_volume (v : Unstructured) (name : String) :
    v.nestedField ["volume", name] = (v.nestedField ["volume"]).bind fun w => w.nestedField [name] := by
  rw [nestedField_singleton, nestedField_cons]

theorem merged_volume_field {name : String} (h : name ≠ "size") :
    (merged cr st spec grows).nestedField ["volume", name] = spec.nestedField ["volume", name] := by
  rw [nestedField_volume, nestedField_volume, merged_volume]
  cases grows with
  | false => rfl
  | true =>
    rw [if_pos rfl, Option.bind_some, nestedField_singleton, members_merge_obj,
      member?_mergeMembers_of_notMem (by simpa using h), ← nestedField_singleton]
    cases spec.nestedField ["volume"] <;> rfl

theorem merged_size :
    (merged cr st spec grows).nestedString ["volume", "size"] =
      if grows then st.volumeSize else spec.nestedString ["volume", "size"] := by
  unfold nestedString
  rw [nestedField_volume, merged_volume]
  cases grows with
  | false => rw [if_neg (by simp), if_neg (by simp), ← nestedField_volume]
  | true =>
    rw [if_pos rfl, if_pos rfl, Option.bind_some, nestedField_singleton, members_merge_obj,
      member?_mergeMembers (by simp) (mem_singleton.mpr rfl) (by simp)]
    rfl

end Merged

theorem onlyMoves_converge {live want : Int} (hlive : parseQuantity (cr.spec.nestedString ["volume", "size"]) = .ok live)
    (hwant : mustParse parseQuantity st.volumeSize = .ok want) (hle : live ≤ want) {o : Object} (ho : o.spec = cr.spec) :
    OnlyMoves parseQuantity o (({ spec := some (moves cr st (decide (live < want))) } : Patch).apply o) where
  uid := rfl
  labels := rfl
  annotations := rfl
  fields _ h := merged_field o.spec _ h
  volume _ h := merged_volume_field o.spec _ h
  size := by
    refine ⟨live, if live < want then want else live, by rwa [ho], ?_, ?_⟩
    · show parseQuantity ((merged cr st o.spec _).nestedString ["volume", "size"]) = _
      rw [merged_size, ho]
      by_cases hlt : live < want
      · rw [if_pos (by simpa using hlt), if_pos hlt]
        exact mustParse_ok hwant
      · rw [if_neg (by simpa using hlt), if_neg hlt]
        exact hlive
    · split <;> omega

/-! ## What the provider's requests are like -/

def Fades (key : NamespacedName) (s t : Objects) : Prop :=
  ∀ cr', t.get? .cluster key = some cr' → ∃ cr, s.get? .cluster key = some cr ∧ Alike cr cr'

theorem Fades.of_eq (h : t.get? .cluster key = s.get? .cluster key) : Fades key s t :=
  fun cr' hcr' => ⟨cr', by rwa [← h], .refl cr'⟩

theorem Fades.refl (key : NamespacedName) (s : Objects) : Fades key s s := .of_eq rfl

theorem Fades.trans {u : Objects} (h : Fades key s t) (h' : Fades key t u) : Fades key s u := by
  intro cr'' hcr''
  obtain ⟨cr', hcr', ha'⟩ := h' cr'' hcr''
  obtain ⟨cr, hcr, ha⟩ := h cr' hcr'
  exact ⟨cr, hcr, ha.trans ha'⟩

theorem fades_outside (key : NamespacedName) (s : Objects) (o : Outside) : Fades key s (s.outside o) := by
  intro cr' hcr'
  rcases outside_cluster s o key with ⟨-, h⟩ | ⟨f, hf, h⟩
  · cases hcr'.symm.trans h
  · obtain ⟨cr, hcr, rfl⟩ := Option.map_eq_some_iff.mp (h.symm.trans hcr')
    exact ⟨cr, hcr, hf cr⟩

def Aside : Request → Prop
  | .create o => o.kind = .bucket
  | .patch kind _ _ => kind = .bucket
  | _ => True

theorem exec_aside (hr : Aside r) (s : Objects) (a : Answer) (key : NamespacedName) :
    (s.exec r a).1.get? .cluster key = s.get? .cluster key := by
  have hc := exec_changed s r a
  generalize (s.exec r a).1 = t at hc
  cases hc with
  | nothing => rfl
  | created => rw [Objects.get?_added, if_neg (by rw [Object.id, show _ = Kind.bucket from hr]; simp)]
  | patched => rw [Objects.get?_patched, if_neg (by rw [show _ = Kind.bucket from hr]; simp)]

def Seen (key : NamespacedName) (cr : Object) (s : Objects) : Prop := ∀ cr', s.get? .cluster key = some cr' → Alike cr cr'

theorem Seen.fades (h : Seen key cr s) (hst : Fades key s t) : Seen key cr t := by
  intro cr'' hcr''
  obtain ⟨cr', hcr', ha⟩ := hst cr'' hcr''
  exact (h cr' hcr').trans ha

theorem absent_fades (h : s.get? .cluster key = none) (hst : Fades key s t) : t.get? .cluster key = none := by
  cases ht : t.get? .cluster key with
  | none => rfl
  | some cr' =>
    obtain ⟨cr, hcr, -⟩ := hst cr' ht
    rw [h] at hcr
    cases hcr

/-- A cluster is created where none is or has served, and only what may move is patched. -/
def Proper (parseQuantity : String → Except String Int) (svc : FrameService) (s : Objects) : Request → Prop
  | .create o => o.kind = .cluster → o.key = svc.key ∧ s.get? .cluster svc.key = none ∧ svc.status.binding.endpoint = ""
  | .patch .cluster key body =>
    key = svc.key ∧ (body.spec ≠ none → ∀ cr, s.get? .cluster svc.key = some cr → OnlyMoves parseQuantity cr (body.apply cr))
  | _ => True

theorem proper_aside (hr : Aside r) : Proper parseQuantity svc s r := by
  cases r with
  | create o =>
    intro h
    rw [show o.kind = .bucket from hr] at h
    cases h
  | patch kind key body =>
    rw [show kind = .bucket from hr]
    trivial
  | get | getVolume | getCredentials => trivial

abbrev properTerms (parseQuantity : String → Except String Int) (svc : FrameService) : Terms Objects Answer Request :=
  ⟨fun _ => True, Fades svc.key, fun _ _ _ => True, Proper parseQuantity svc⟩

abbrev Properly (parseQuantity : String → Except String Int) (svc : FrameService) {α : Type} (p : Prog α) (post : α → Objects → Prop)
    (s : Objects) : Prop :=
  p.Safe Objects.exec (properTerms parseQuantity svc) post s

section Properly

variable {α : Type} {post : α → Objects → Prop} {J : Objects → Prop}

/-- A call aside from the cluster keeps what fades. -/
theorem aside_ask {f : r.Resp → Prog α} (hJ : ∀ s t, J s → Fades svc.key s t → J t) (hs : J s) (hr : Aside r)
    (hf : ∀ (t : Objects) (a : Answer), J (t.exec r a).1 → Properly parseQuantity svc (f (t.exec r a).2) post (t.exec r a).1) :
    Properly parseQuantity svc (Program.ask r >>= f) post s := by
  intro t _ hst
  refine ⟨proper_aside hr, fun a _ => ⟨trivial, hf t a ?_⟩⟩
  exact hJ t _ (hJ s t hs hst) (.of_eq (exec_aside hr t a svc.key))

def ListsNothing (result : Result) : Prop := result.provisioned = none

theorem keepArchive_proper (hJ : ∀ s t, J s → Fades svc.key s t → J t) (hs : J s) (st : Settings) :
    Properly parseQuantity svc (keepArchive svc st) (fun a t => J t ∧ ∀ result, a = .ok (some result) → ListsNothing result) s := by
  unfold keepArchive
  split
  · unfold keepBucket
    refine aside_ask hJ hs trivial fun t a ht => ?_
    generalize (t.exec _ a).2 = answer
    cases answer with
    | error e => exact ⟨ht, nofun⟩
    | ok obc =>
      simp only
      split
      · exact ⟨ht, fun result h => by cases h; rfl⟩
      split
      · exact ⟨ht, nofun⟩
      refine aside_ask hJ ht rfl fun u b hu => ⟨hu, fun result h => ?_⟩
      generalize (u.exec _ b).2 = answer at h
      cases answer <;> cases h
  · exact ⟨hs, nofun⟩

theorem ensureArchive_proper (hJ : ∀ s t, J s → Fades svc.key s t → J t) (hs : J s) (st : Settings) :
    Properly parseQuantity svc (ensureArchive svc st) (fun _ t => J t) s := by
  unfold ensureArchive
  split
  · unfold ensureBucket
    refine aside_ask hJ hs trivial fun t a ht => ?_
    generalize (t.exec _ a).2 = answer
    cases answer with
    | ok _ => exact ht
    | error e =>
      simp only
      split
      · exact aside_ask hJ ht rfl fun u b hu => hu
      · exact ht
  · exact hs

theorem converge_proper (hkey : cr.key = svc.key) (hs : Seen svc.key cr s) :
    Properly parseQuantity svc (converge parseQuantity cr st)
      (fun a _ => ∀ result, a = .ok (some result) → ListsNothing result) s := by
  unfold converge
  simp only
  split
  · exact nofun
  rename_i live hlive
  split
  · exact nofun
  rename_i want hwant
  split
  · exact fun result h => by cases h; rfl
  rename_i hle
  split
  · exact nofun
  intro t _ hst
  refine ⟨⟨hkey, fun _ o ho => ?_⟩, fun a _ => ⟨trivial, ?_⟩⟩
  · have hspec : o.spec = cr.spec := by rw [hs.fades hst o ho]
    exact onlyMoves_converge hlive hwant (by omega) hspec
  · generalize (t.exec _ a).2 = answer
    cases answer with
    | error e => exact nofun
    | ok o => exact fun result h => by cases h; rfl

theorem claim_proper (hkey : cr.key = svc.key) :
    Properly parseQuantity svc (claim cr svc) (fun a t => ∀ cr', a = .ok cr' → cr'.key = svc.key ∧ Seen svc.key cr' t) s := by
  intro t _ _
  refine ⟨⟨hkey, fun h => absurd rfl h⟩, fun a _ => ⟨trivial, fun cr' h => ?_⟩⟩
  cases hres : (t.exec (.patch .cluster cr.key (claimBody cr svc)) a).2 with
  | error e =>
    rw [hres] at h
    cases h
  | ok o' =>
    rw [hres] at h
    cases h
    obtain ⟨o, ho, rfl, hstate⟩ := exec_patch_ok hres
    rw [hkey] at ho hstate
    refine ⟨(Objects.id_of_get? ho).2, fun o'' ho'' => ?_⟩
    rw [← hkey] at hstate
    rw [hstate, Objects.get?_patched, if_pos (by rw [hkey]), ho, Option.map_some] at ho''
    cases ho''
    exact .refl _

theorem reconcileClaimed_proper (hkey : cr.key = svc.key) (hs : Seen svc.key cr s) :
    Properly parseQuantity svc (reconcileClaimed parseQuantity svc st cr)
      (fun a _ => ∀ result, a = .ok result → ListsNothing result) s := by
  unfold reconcileClaimed
  refine (keepArchive_proper (fun _ _ => Seen.fades) hs st).bind trivial fun a t _ ha => ?_
  match a with
  | .error e => exact nofun
  | .ok (some result) => exact fun result h => by cases h; exact ha.2 _ rfl
  | .ok none =>
    refine (converge_proper hkey ha.1).bind trivial fun a t _ ha => ?_
    match a with
    | .error e => exact nofun
    | .ok (some result) => exact fun result h => by cases h; exact ha _ rfl
    | .ok none =>
      simp only
      split <;> exact fun result h => by cases h; rfl

theorem createCluster_proper (hs : s.get? .cluster svc.key = none) (hend : svc.status.binding.endpoint = "") :
    Properly parseQuantity svc (createCluster svc st) (fun a _ => ∀ result, a = .ok result → ListsNothing result) s := by
  unfold createCluster
  refine (ensureArchive_proper (fun _ _ => absent_fades) hs st).bind trivial fun a t _ ht => ?_
  cases a with
  | error e => exact nofun
  | ok _ =>
    intro u _ htu
    refine ⟨fun _ => ⟨rfl, absent_fades ht htu, hend⟩, fun b _ => ⟨trivial, ?_⟩⟩
    cases hres : (u.exec (.create (newCluster svc st)) b).2 with
    | error e => exact nofun
    | ok cr =>
      obtain ⟨-, -, rfl, -⟩ := exec_create_ok hres
      have hclaim : Properly parseQuantity svc (claim { newCluster svc st with uid := b.uid } svc) _
          (u.exec (.create (newCluster svc st)) b).1 := claim_proper rfl
      refine hclaim.bind trivial fun a v _ _ => ?_
      cases a with
      | error e => exact nofun
      | ok cr => exact fun result h => by cases h; rfl

theorem reconcileAbsent_proper (hs : s.get? .cluster svc.key = none) :
    Properly parseQuantity svc (reconcileAbsent svc st) (fun a _ => ∀ result, a = .ok result → ListsNothing result) s := by
  unfold reconcileAbsent
  split
  · exact fun result h => by cases h; rfl
  split
  · exact fun result h => by cases h; rfl
  split
  · exact fun result h => by cases h; rfl
  rename_i hend
  refine aside_ask (fun _ _ => absent_fades) hs trivial fun t a ht => ?_
  generalize (t.exec _ a).2 = answer
  cases answer with
  | ok _ => exact fun result h => by cases h; rfl
  | error e =>
    simp only
    split
    · exact createCluster_proper ht (not_not.mp hend)
    · exact nofun

theorem reconcilePresent_proper (hs : s.get? .cluster svc.key = some cr) :
    Properly parseQuantity svc (reconcilePresent parseQuantity svc st cr)
      (fun a _ => ∀ result, a = .ok result → ListsNothing result) s := by
  have hkey : cr.key = svc.key := (Objects.id_of_get? hs).2
  have hseen : Seen svc.key cr s := fun cr' hcr' => by rw [hs] at hcr'; cases hcr'; exact .refl cr
  unfold reconcilePresent
  split
  · exact fun result h => by cases h; rfl
  split
  · exact nofun
  split
  · exact fun result h => by cases h; rfl
  split
  · refine (claim_proper hkey).bind trivial fun a t _ ha => ?_
    cases a with
    | error e => exact nofun
    | ok cr' => exact reconcileClaimed_proper (ha cr' rfl).1 (ha cr' rfl).2
  · exact reconcileClaimed_proper hkey hseen

theorem reconcile_proper (parseQuantity : String → Except String Int) (svc : FrameService) (s : Objects) :
    Properly parseQuantity svc (reconcile parseQuantity svc) (fun a _ => ∀ result, a = .ok result → ListsNothing result) s := by
  unfold reconcile
  split
  · exact fun result h => by cases h; rfl
  intro t _ _
  refine ⟨trivial, fun a _ => ⟨trivial, ?_⟩⟩
  have hstate : (t.exec (.get .cluster svc.key) a).1 = t := Fate.answer_read a.fate
  rw [hstate]
  cases hget : (t.exec (.get .cluster svc.key) a).2 with
  | ok cr => exact reconcilePresent_proper (exec_get_ok hget).2
  | error e =>
    show Properly parseQuantity svc (if e = .noMatch then _ else if e = .notFound then _ else _) _ t
    split
    · exact fun result h => by cases h; rfl
    split
    · rename_i hgone
      rw [hgone] at hget
      exact reconcileAbsent_proper (exec_get_gone hget)
    · exact nofun

end Properly

/-! ## What a pass has read before it writes -/

def dataVolume (key : NamespacedName) : NamespacedName := ⟨key.namespaceName, "pgdata-" ++ key.name ++ "-0"⟩

/-- What a pass has asked before is the ground for each of its writes. -/
def Grounded (svc : FrameService) (past : List (Called Request.Resp)) : Request → Prop
  | .create o => o.kind = .cluster →
    valueOf svc.params "create" = "true" ∧ valueOf svc.params "adoptUID" = "" ∧ svc.status.binding.endpoint = "" ∧
      (⟨.get .cluster svc.key, .error .notFound⟩ : Called Request.Resp) ∈ past ∧
      (⟨.getVolume (dataVolume svc.key), .error .notFound⟩ : Called Request.Resp) ∈ past
  | .patch .cluster _ body => body.spec ≠ none → ∃ st cr, settingsOf svc = some st ∧
      (⟨.get .cluster svc.key, .ok cr⟩ : Called Request.Resp) ∈ past ∧ isOwned cr svc st = true ∧ driftOf cr st = []
  | _ => True

abbrev WellGrounded (svc : FrameService) {α : Type} (p : Prog α) (past : List (Called Request.Resp)) : Prop :=
  p.Traced (fun _ _ => True) (Grounded svc) (fun _ _ => True) past

theorem keepArchive_grounded (svc : FrameService) (st : Settings) (past : List (Called Request.Resp)) :
    WellGrounded svc (keepArchive svc st) past := by
  simp [WellGrounded, keepArchive, keepBucket, Grounded]

theorem ensureArchive_grounded (svc : FrameService) (st : Settings) (past : List (Called Request.Resp)) :
    WellGrounded svc (ensureArchive svc st) past := by
  simp [WellGrounded, ensureArchive, ensureBucket, newObject, Grounded]

theorem claim_grounded (cr : Object) (svc : FrameService) (past : List (Called Request.Resp)) : WellGrounded svc (claim cr svc) past :=
  traced_ask (fun h => absurd rfl h) fun _ _ => trivial

theorem reconcileClaimed_grounded {cr₀ : Object} (hst : settingsOf svc = some st) (howned : isOwned cr₀ svc st = true)
    (hdrift : driftOf cr₀ st = []) (hread : (⟨.get .cluster svc.key, .ok cr₀⟩ : Called Request.Resp) ∈ past) :
    WellGrounded svc (reconcileClaimed parseQuantity svc st cr) past := by
  unfold reconcileClaimed
  refine (keepArchive_grounded svc st past).bind fun a later hl _ => ?_
  match a with
  | .error e => trivial
  | .ok (some result) => trivial
  | .ok none =>
    have hconverge : WellGrounded svc (converge parseQuantity cr st) later := by
      unfold converge
      simp only
      split
      · trivial
      split
      · trivial
      split
      · trivial
      split
      · trivial
      · refine traced_ask (fun _ => ⟨st, cr₀, hst, hl.subset hread, howned, hdrift⟩) fun a _ => ?_
        cases a <;> trivial
    refine hconverge.bind fun a later _ _ => ?_
    match a with
    | .error e => trivial
    | .ok (some result) => trivial
    | .ok none =>
      simp only
      split <;> trivial

theorem reconcilePresent_grounded (hst : settingsOf svc = some st)
    (hread : (⟨.get .cluster svc.key, .ok cr⟩ : Called Request.Resp) ∈ past) :
    WellGrounded svc (reconcilePresent parseQuantity svc st cr) past := by
  unfold reconcilePresent
  split
  · trivial
  rename_i howned
  split
  · trivial
  rename_i drift hdiff
  split
  · trivial
  rename_i hnil
  have hdrift : driftOf cr st = [] := by
    unfold differences at hdiff
    split at hdiff
    · cases hdiff
      exact not_not.mp hnil
    cases hmoved : movedOf parseQuantity cr st with
    | error e =>
      rw [hmoved] at hdiff
      cases hdiff
    | ok moved =>
      rw [hmoved] at hdiff
      cases hdiff
      exact (append_eq_nil_iff.mp (not_not.mp hnil)).1
  have hown : isOwned cr svc st = true := by simpa using howned
  split
  · refine (claim_grounded cr svc past).bind fun a later hl _ => ?_
    cases a with
    | error e => trivial
    | ok cr' => exact reconcileClaimed_grounded hst hown hdrift (hl.subset hread)
  · exact reconcileClaimed_grounded hst hown hdrift hread

theorem settingsOf_create {st : Settings} (h : settingsOf svc = some st) :
    st.create = decide (valueOf svc.params "create" = "true") ∧ st.adoptUID = valueOf svc.params "adoptUID" := by
  simp only [settingsOf, Option.bind_eq_some_iff] at h
  obtain ⟨team, -, n, -, h⟩ := h
  split at h
  · cases h
  · cases h
    exact ⟨rfl, rfl⟩

theorem reconcileAbsent_grounded (hst : settingsOf svc = some st)
    (hread : (⟨.get .cluster svc.key, .error .notFound⟩ : Called Request.Resp) ∈ past) :
    WellGrounded svc (reconcileAbsent svc st) past := by
  obtain ⟨hc, ha⟩ := settingsOf_create hst
  unfold reconcileAbsent
  split
  · trivial
  rename_i hadopt
  split
  · trivial
  rename_i hcreate
  split
  · trivial
  rename_i hend
  refine traced_ask trivial fun a _ => ?_
  cases a with
  | ok _ => trivial
  | error e =>
    simp only
    split
    · rename_i hgone
      subst hgone
      unfold createCluster
      refine (ensureArchive_grounded svc st _).bind fun a later hl _ => ?_
      cases a with
      | error e => trivial
      | ok _ =>
        refine traced_ask (fun _ => ⟨?_, ?_, not_not.mp hend, ?_, ?_⟩) fun a _ => ?_
        · simpa [hc] using hcreate
        · rw [← ha]
          exact not_not.mp hadopt
        · exact hl.subset (mem_append_left _ hread)
        · exact hl.subset (mem_append_right _ (mem_singleton.mpr rfl))
        · cases a with
          | error e => trivial
          | ok cr =>
            refine (claim_grounded cr svc _).bind fun a later _ _ => ?_
            cases a <;> trivial
    · trivial

theorem reconcile_grounded (parseQuantity : String → Except String Int) (svc : FrameService) :
    WellGrounded svc (reconcile parseQuantity svc) [] := by
  unfold reconcile
  cases hst : settingsOf svc with
  | none => trivial
  | some st =>
    refine traced_ask trivial fun a _ => ?_
    cases a with
    | ok cr => exact reconcilePresent_grounded hst (mem_singleton.mpr rfl)
    | error e =>
      simp only
      split
      · trivial
      split
      · rename_i hgone
        subst hgone
        exact reconcileAbsent_grounded hst (mem_singleton.mpr rfl)
      · trivial

end Postgres

end FrameOperator.Services
