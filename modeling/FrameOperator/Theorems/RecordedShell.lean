import FrameOperator.Theorems.VerifiedIdentity

/-!
# No unrecorded shell

A shell is an upgraded request on the subresource exec of a pod. `isExecUpgrade` knows the upgrade to WebSocket alone, and a request
that says `dryRun` in its query is not recorded, though exec takes no notice of that.
-/

namespace FrameOperator.UiProxy

open List Http

variable {p : Proxy} {id : Identity} {r : HttpRequest} {ns pod : String}

def execPath (ns pod : String) : String := "/api/v1/namespaces/" ++ ns ++ "/pods/" ++ pod ++ "/exec"

/-- A name as a path holds it in one segment. -/
def Segment (s : String) : Prop := s ≠ "" ∧ '/' ∉ s.toList
deriving Decidable

/-- The request opens a shell in the pod. -/
structure OpensExec (r : HttpRequest) (ns pod : String) : Prop where
  method : r.method = "GET" ∨ r.method = "POST"
  path : r.path = execPath ns pod
  segments : Segment ns ∧ Segment pod
  upgrade : equalFold (r.header.get "Upgrade") "websocket" = true ∨ equalFold (r.header.get "Upgrade") "SPDY/3.1" = true

structure FrameTaskSpec.WithinBounds (spec : FrameTaskSpec) : Prop where
  user : 1 ≤ spec.user.toList.length ∧ spec.user.toList.length ≤ 254
  verb : spec.verb ∈ ["create", "update", "patch", "delete"]
  subresource : spec.target.subresource.toList.length ≤ 63
  action : spec.action.toList.length ≤ 200

/-- A shell is sent only after a FrameTask within bounds that names who opens it. -/
def RecordedFirst (id : Identity) (ns pod : String) (past : List (Called Call.Resp)) : Call → Prop
  | .send _ _ _ _ => ∃ spec a, (⟨.createTask spec, a⟩ : Called Call.Resp) ∈ past ∧ spec.user = id.user ∧ spec.verb = "create" ∧
      spec.target = ⟨"", "pods", ns, pod, "exec"⟩
  | .createTask spec => spec.WithinBounds
  | _ => True

/-! ## What is recorded of a shell -/

def execSegments (ns pod : String) : List (List Char) :=
  ["api".toList, "v1".toList, "namespaces".toList, ns.toList, "pods".toList, pod.toList, "exec".toList]

theorem trim_execPath : trim (· = '/') (execPath ns pod).toList = ['/'].intercalate (execSegments ns pod) := by
  have hchars : (execPath ns pod).toList = '/' :: ['/'].intercalate (execSegments ns pod) := by
    unfold execPath execSegments
    simp [intercalate]
  have hends : ∃ cs, ['/'].intercalate (execSegments ns pod) = 'a' :: (cs ++ ['c']) := by
    unfold execSegments
    exact ⟨"pi/v1/namespaces/".toList ++ ns.toList ++ "/pods/".toList ++ pod.toList ++ "/exe".toList, by simp [intercalate]⟩
  obtain ⟨cs, hcs⟩ := hends
  rw [hchars, hcs, trim_cons_of_blank (by decide)]
  exact trim_of_ends (by decide) (by decide) cs

/-- The path of a shell is read as such. -/
theorem parsePath_execPath (hns : Segment ns) (hpod : Segment pod) :
    parsePath (execPath ns pod) = some ⟨"", "pods", ns, pod, "exec"⟩ := by
  have hslash : ∀ l ∈ execSegments ns pod, '/' ∉ l := by
    intro l hl
    simp only [execSegments, mem_cons, not_mem_nil, or_false] at hl
    rcases hl with rfl | rfl | rfl | rfl | rfl | rfl | rfl
    · decide
    · decide
    · decide
    · exact hns.2
    · decide
    · exact hpod.2
    · decide
  have hsplit : segments (execPath ns pod) = ["api", "v1", "namespaces", ns, "pods", pod, "exec"] := by
    rw [segments, trim_execPath, splitOn_intercalate _ hslash (by simp [execSegments])]
    simp [execSegments]
  simp [parsePath, hsplit, parseRest]

theorem upgrade_handed : (handed p id r).header.get "Upgrade" = r.header.get "Upgrade" := by
  have hname : canonicalMIMEHeaderKey "Upgrade" = "Upgrade" := by decide +kernel
  rw [Header.get, Header.get, Header.values, Header.values, hname, handed]
  dsimp only
  rw [under_impersonate _ (by decide) (by decide), under_stripBearer_of_ne _ (by decide)]

theorem length_boundAction (s : String) : (boundAction s).toList.length ≤ 200 := by
  unfold boundAction maxAction
  split
  · assumption
  · rw [String.toList_ofList, length_take]
    omega

/-- A text has no more characters than bytes. -/
theorem length_le_utf8ByteSize (s : String) : s.toList.length ≤ s.utf8ByteSize := by
  have hlen : ∀ cs : List Char, cs.length ≤ (String.ofList cs).utf8ByteSize := by
    intro cs
    induction cs with
    | nil => simp
    | cons c cs ih =>
      have hsize : (String.ofList (c :: cs)).utf8ByteSize = c.utf8Size + (String.ofList cs).utf8ByteSize := by
        have hcons : String.ofList (c :: cs) = String.singleton c ++ String.ofList cs := by
          rw [← String.toList_inj]
          simp
        rw [hcons, String.utf8ByteSize_append, String.utf8ByteSize_singleton]
      have hpos := Char.utf8Size_pos c
      rw [hsize, length_cons]
      omega
  have h := hlen s.toList
  rwa [String.ofList_toList] at h

theorem bounds_verify {claims : String → Except String Identity} {raw : String} (h : verify claims raw = .ok id) :
    1 ≤ id.user.toList.length ∧ id.user.toList.length ≤ 254 := by
  unfold verify at h
  split at h
  · cases h
  split at h
  · cases h
  rename_i hcheck
  cases h
  unfold checkSubject maxSubjectLen at hcheck
  split at hcheck
  · cases hcheck
  rename_i hne
  split at hcheck
  · cases hcheck
  rename_i hlen
  have hpos : 0 < id.user.toList.length := by
    rw [length_pos_iff]
    simpa using hne
  have hbytes := length_le_utf8ByteSize id.user
  omega

theorem bounds_taskOf (huser : 1 ≤ id.user.toList.length ∧ id.user.toList.length ≤ 254) (hpath : r.path = execPath ns pod)
    (hseg : Segment ns ∧ Segment pod) {spec : FrameTaskSpec} (h : taskOf id r = some spec) : spec.WithinBounds := by
  rw [taskOf, hpath, parsePath_execPath hseg.1 hseg.2] at h
  dsimp only at h
  split at h
  · cases h
  split at h
  · cases h
  rename_i hverb
  cases h
  refine ⟨huser, ?_, (by decide : "exec".toList.length ≤ 63), ?_⟩
  · dsimp only
    unfold verbForRequest verbForMethod at hverb ⊢
    split
    · simp
    rename_i hexec
    simp only [hexec, Bool.false_eq_true, if_false] at hverb
    split
    · simp
    split
    · simp
    split
    · simp
    split
    · simp
    · simp_all
  · dsimp only
    split
    · exact length_boundAction _
    · exact length_boundAction _

/-- The proxy records a shell when it takes it for one and its query says no `dryRun`. -/
def Recordable (r : HttpRequest) : Prop :=
  isDryRun r.query = false ∧ (r.method = "POST" ∨ equalFold (r.header.get "Upgrade") "websocket" = true)
deriving Decidable

theorem isExecUpgrade_handed (ho : OpensExec r ns pod) : isExecUpgrade (handed p id r) =
    (r.method = "GET" && equalFold (r.header.get "Upgrade") "websocket") := by
  have hpath : (handed p id r).path = execPath ns pod := ho.path
  have hmethod : (handed p id r).method = r.method := rfl
  rw [isExecUpgrade, upgrade_handed, hpath, hmethod, parsePath_execPath ho.segments.1 ho.segments.2]
  simp [subresourceExec]

theorem taskOf_shell (ho : OpensExec r ns pod) (hr : Recordable r) :
    ∃ spec, taskOf id (handed p id r) = some spec ∧ spec.user = id.user ∧
    spec.verb = "create" ∧ spec.target = ⟨"", "pods", ns, pod, "exec"⟩ := by
  have hpath : (handed p id r).path = execPath ns pod := ho.path
  have hquery : (handed p id r).query = r.query := rfl
  have hmethod : (handed p id r).method = r.method := rfl
  have hverb : verbForRequest (handed p id r) ⟨"", "pods", ns, pod, "exec"⟩ = "create" := by
    rw [verbForRequest, isExecUpgrade_handed ho, hmethod]
    rcases ho.method with hget | hpost
    · rcases hr.2 with hpost | hws
      · rw [hget] at hpost
        exact absurd hpost (by decide)
      · simp [hget, hws, subresourceExec]
    · simp [hpost, verbForMethod]
  rw [taskOf, hpath, parsePath_execPath ho.segments.1 ho.segments.2]
  dsimp only
  rw [hquery, hr.1, hverb, if_neg (by simp), if_neg (by decide)]
  exact ⟨_, rfl, rfl, rfl, rfl⟩

/-- A shell that is not recordable is not recorded. -/
theorem record_of_not_recordable (ho : OpensExec r ns pod) (hr : ¬Recordable r) : record p id (handed p id r) = .done "" := by
  have hpath : (handed p id r).path = execPath ns pod := ho.path
  have hquery : (handed p id r).query = r.query := rfl
  unfold record
  split
  · rename_i hgate
    -- what is let to the recorder and is not recordable is a dry run
    have hdry : isDryRun r.query = true := by
      by_contra hdry
      refine hr ⟨by simpa using hdry, ?_⟩
      rw [isExecUpgrade_handed ho] at hgate
      have hmethod : (handed p id r).method = r.method := rfl
      rcases ho.method with hget | hpost
      · rw [hmethod, hget] at hgate
        right
        simpa [isMutating] using (Bool.and_eq_true_iff.mp hgate).2
      · exact .inl hpost
    rw [start, taskOf, hpath, parsePath_execPath ho.segments.1 ho.segments.2]
    dsimp only
    rw [hquery, hdry, if_pos rfl]
    rfl
  · rfl

/-- Every shell is recorded before it is sent exactly when it says no `dryRun` and is opened by a POST or by WebSocket. -/
theorem shell_recorded_iff (p : Proxy) (claims : String → Except String Identity) (r : HttpRequest) (ns pod : String) (id : Identity)
    (hp : p.recorder = true) (ho : OpensExec r ns pod) (htok : tokenOf p r.header ≠ "")
    (hid : verify claims (tokenOf p r.header) = .ok id) :
    (serveHTTP p r).Traced (given (verify claims)) (RecordedFirst id ns pod) (fun _ _ => True) [] ↔ Recordable r := by
  rw [serveHTTP, if_neg htok]
  constructor
  · intro h
    by_contra hr
    have hforward : (forward p id (handed p id r)).Traced (given (verify claims)) (RecordedFirst id ns pod) (fun _ _ => True)
        ([] ++ [⟨.verify (tokenOf p r.header), .ok id⟩]) := h.2 (.ok id) hid.symm
    rw [forward, record_of_not_recordable ho hr] at hforward
    obtain ⟨spec, a, hmem, -⟩ := hforward.1
    simp at hmem
  · intro hr
    refine traced_ask trivial fun a ha => ?_
    have hok : a = .ok id := by rw [← hid]; exact ha
    subst hok
    obtain ⟨spec, hspec, hnames⟩ := taskOf_shell ho hr
    have hgate : (p.recorder && (isMutating (handed p id r).method || isExecUpgrade (handed p id r))) = true := by
      rw [hp, isExecUpgrade_handed ho]
      have hmethod : (handed p id r).method = r.method := rfl
      rcases ho.method with hget | hpost
      · rcases hr.2 with hpost | hws
        · rw [hget] at hpost
          exact absurd hpost (by decide)
        · simp [hget, hws]
      · simp [hmethod, hpost, isMutating]
    have hbounds : spec.WithinBounds := bounds_taskOf (bounds_verify hid) (r := handed p id r) ho.path ho.segments hspec
    have hsend : ∀ (task : String) (past : List (Called Call.Resp)), (∃ a, (⟨.createTask spec, a⟩ : Called Call.Resp) ∈ past) →
        ((do
          let code ← Program.ask (Call.send (handed p id r).method (handed p id r).path (handed p id r).query
            (outgoing p.credential (handed p id r).header))
          finish task (if code = 0 then 500 else code)
          return Response.proxied code) : Prog Response).Traced (given (verify claims))
            (RecordedFirst id ns pod) (fun _ _ => True) past := by
      rintro task past ⟨a, hmem⟩
      refine traced_ask ⟨spec, a, hmem, hnames⟩ fun code _ => ?_
      exact finish_traced (fun _ => trivial) (fun _ => trivial) fun _ _ => trivial
    show (forward p id (handed p id r)).Traced _ _ _ _
    rw [forward, record, if_pos hgate, start, hspec]
    refine traced_ask hbounds fun a _ => ?_
    cases a with
    | error err => exact hsend "" _ ⟨.error err, by simp⟩
    | ok name => exact traced_ask trivial fun _ _ => hsend name _ ⟨.ok name, by simp⟩

namespace ProxyFixture

def shell (method upgrade : String) (query : List (String × String)) : HttpRequest :=
  ⟨method, execPath "default" "web-0", query, [("Authorization", "Bearer token"), ("Connection", "Upgrade"), ("Upgrade", upgrade)]⟩

variable {query : List (String × String)} {method upgrade : String}

theorem opens_shell (hm : method = "GET" ∨ method = "POST")
    (hu : upgrade = "websocket" ∨ upgrade = "SPDY/3.1") : OpensExec (shell method upgrade query) "default" "web-0" := by
  have hget : (shell method upgrade query).header.get "Upgrade" = upgrade := by
    have hname : canonicalMIMEHeaderKey "Upgrade" = "Upgrade" := by decide +kernel
    simp [Header.get, Header.values, Header.under, hname, shell]
  refine ⟨hm, rfl, by decide, ?_⟩
  rw [hget]
  rcases hu with rfl | rfl
  · exact .inl (by decide)
  · exact .inr (by decide)

theorem sent_unrecorded (htok : tokenOf proxy (shell method upgrade query).header = "token")
    (ho : OpensExec (shell method upgrade query) "default" "web-0") (hr : ¬Recordable (shell method upgrade query)) :
    ¬(serveHTTP proxy (shell method upgrade query)).Traced (given (verify accepts)) (RecordedFirst viewer "default" "web-0")
      (fun _ _ => True) [] := by
  intro h
  rw [serveHTTP, if_neg (by rw [htok]; decide)] at h
  have hforward : (forward proxy viewer (handed proxy viewer (shell method upgrade query))).Traced (given (verify accepts))
      (RecordedFirst viewer "default" "web-0") (fun _ _ => True) ([] ++ [⟨.verify _, .ok viewer⟩]) :=
    h.2 (.ok viewer) (by rw [given, htok]; decide +kernel)
  rw [forward, record_of_not_recordable ho hr] at hforward
  obtain ⟨spec, a, hmem, -⟩ := hforward.1
  simp at hmem

end ProxyFixture

open ProxyFixture in
/-- A shell opened with `dryRun` in its query, and one that is upgraded to SPDY by a GET, are sent without a record. -/
theorem shell_unrecorded :
    (OpensExec (shell "GET" "websocket" [("dryRun", "All")]) "default" "web-0" ∧
      ¬(serveHTTP proxy (shell "GET" "websocket" [("dryRun", "All")])).Traced (given (verify accepts))
        (RecordedFirst viewer "default" "web-0") (fun _ _ => True) []) ∧
    OpensExec (shell "GET" "SPDY/3.1" []) "default" "web-0" ∧
      ¬(serveHTTP proxy (shell "GET" "SPDY/3.1" [])).Traced (given (verify accepts)) (RecordedFirst viewer "default" "web-0")
        (fun _ _ => True) [] := by
  have hws : OpensExec (shell "GET" "websocket" [("dryRun", "All")]) "default" "web-0" := opens_shell (.inl rfl) (.inl rfl)
  have hspdy : OpensExec (shell "GET" "SPDY/3.1" []) "default" "web-0" := opens_shell (.inl rfl) (.inr rfl)
  exact ⟨⟨hws, sent_unrecorded (by decide +kernel) hws (by decide +kernel)⟩, hspdy,
    sent_unrecorded (by decide +kernel) hspdy (by decide +kernel)⟩

open ProxyFixture in
/-- A shell by WebSocket. -/
theorem shell_recorded_websocket : (serveHTTP proxy (shell "GET" "websocket" [("container", "main")])).Traced (given (verify accepts))
    (RecordedFirst viewer "default" "web-0") (fun _ _ => True) [] :=
  (shell_recorded_iff proxy accepts (shell "GET" "websocket" [("container", "main")]) "default" "web-0" viewer rfl
    (opens_shell (.inl rfl) (.inl rfl)) (by decide +kernel) (by rfl)).mpr (by decide +kernel)

end FrameOperator.UiProxy
