import FrameOperator.UiProxy.Proxy

/-!
# Nothing but the verified identity

The proxy puts in the identity that the verifier returned. It still passes through `httputil.ReverseProxy`, which deletes every
header that the caller's `Connection` names: a caller who names `Impersonate-User` there has the request sent on behalf of nobody.
-/

namespace FrameOperator.UiProxy

open Http Header List

variable {p : Proxy} {id : Identity} {r : HttpRequest} {h : Header} {n : String}

/-- What a request that is sent says of who made it: the identity, and nothing else. -/
structure Bears (p : Proxy) (id : Identity) (out : Header) : Prop where
  user : out.values "Impersonate-User" = [id.user]
  groups : out.values "Impersonate-Group" = id.groups.map (p.groupPrefix ++ ·)
  others : ∀ f ∈ out, impersonates f.1 = true → f.1 = "Impersonate-User" ∨ f.1 = "Impersonate-Group"
  authorization : out.values "Authorization" = [p.credential]
  protocols : ∀ e ∈ entries isSpace (out.values "Sec-WebSocket-Protocol"), carriesBearer e = false

/-- The `Connection` header names none of the headers that carry the identity. -/
def LetsThrough (id : Identity) (h : Header) : Prop :=
  "Impersonate-User" ∉ connectionNames h ∧ (id.groups = [] ∨ "Impersonate-Group" ∉ connectionNames h)
deriving Decidable

/-! ## The names the proxy uses -/

@[simp] theorem canonical_user : canonicalMIMEHeaderKey "Impersonate-User" = "Impersonate-User" := by decide +kernel

@[simp] theorem canonical_group : canonicalMIMEHeaderKey "Impersonate-Group" = "Impersonate-Group" := by decide +kernel

@[simp] theorem canonical_authorization : canonicalMIMEHeaderKey "Authorization" = "Authorization" := by decide +kernel

@[simp] theorem canonical_protocol : canonicalMIMEHeaderKey "Sec-WebSocket-Protocol" = "Sec-Websocket-Protocol" := by decide +kernel

@[simp] theorem canonical_connection : canonicalMIMEHeaderKey "Connection" = "Connection" := by decide +kernel

/-! ## The entries that carry a token -/

theorem tokenFromProtocols_eq (decode : List Char → Option String) (values : List String) :
    (tokenFromProtocols decode values).remaining = (entries isSpace values).filter (fun e => !carriesBearer e) ∧
      (tokenFromProtocols decode values).sawBearer = (entries isSpace values).any carriesBearer := by
  -- over the loop: what was there before, and what the entries add to it
  have hloop : ∀ (es : List (List Char)) (acc : Protocols),
      (es.foldl (Protocols.take decode) acc).remaining = acc.remaining ++ es.filter (fun e => !carriesBearer e) ∧
        (es.foldl (Protocols.take decode) acc).sawBearer = (acc.sawBearer || es.any carriesBearer) := by
    intro es
    induction es with
    | nil => intro acc; simp
    | cons e es ih =>
      intro acc
      obtain ⟨hrem, hsaw⟩ := ih (acc.take decode e)
      rw [foldl_cons, hrem, hsaw, Protocols.take]
      by_cases he : carriesBearer e = true <;> simp [he]
  have h := hloop (entries isSpace values) {}
  exact ⟨by simpa [tokenFromProtocols] using h.1, by simpa [tokenFromProtocols] using h.2⟩

theorem under_stripBearer_of_ne (found : Protocols) (hn : n ≠ "Sec-Websocket-Protocol") :
    (stripBearer found h).under n = h.under n := by
  unfold stripBearer
  split
  · split
    · rw [under_del, canonical_protocol, if_pos hn]
    · rw [under_set, canonical_protocol, if_neg hn, under_del, canonical_protocol, if_pos hn]
  · rfl

variable {f : String × String}

theorem mem_stripBearer {found : Protocols} (hf : f ∈ stripBearer found h) :
    f ∈ h ∨ f.1 = "Sec-Websocket-Protocol" := by
  unfold stripBearer at hf
  split at hf
  · split at hf
    · exact .inl (mem_del.mp hf).1
    · rcases mem_append.mp hf with hf | hf
      · exact .inl (mem_del.mp (mem_del.mp hf).1).1
      · obtain rfl := mem_singleton.mp hf
        exact .inr canonical_protocol
  · exact .inl hf

theorem canonical_stripBearer (found : Protocols) (hc : h.Canonical) : (stripBearer found h).Canonical := by
  intro f hf
  rcases mem_stripBearer hf with hf | hf
  · exact hc f hf
  · rw [hf]
    decide +kernel

/-- No entry that is left carries a token. -/
theorem protocols_stripBearer (decode : List Char → Option String) (h : Header) :
    ∀ e ∈ entries isSpace ((stripBearer (tokenFromProtocols decode (h.values "Sec-WebSocket-Protocol")) h).under
      "Sec-Websocket-Protocol"), carriesBearer e = false := by
  obtain ⟨hrem, hsaw⟩ := tokenFromProtocols_eq decode (h.values "Sec-WebSocket-Protocol")
  intro e he
  unfold stripBearer at he
  by_cases hany : (entries isSpace (h.values "Sec-WebSocket-Protocol")).any carriesBearer = true
  · rw [hsaw, if_pos hany] at he
    split at he
    · rw [under_del, canonical_protocol, if_neg (by simp)] at he
      simp [entries] at he
    rename_i hne
    have hentry : ∀ e ∈ (tokenFromProtocols decode (h.values "Sec-WebSocket-Protocol")).remaining,
        e ≠ [] ∧ trim isSpace e = e ∧ ',' ∉ e := by
      intro e he
      rw [hrem] at he
      exact mem_entries (mem_filter.mp he).1
    rw [under_set, canonical_protocol, if_pos rfl, entries_joinEntries (by decide) hentry hne, hrem] at he
    simpa using (mem_filter.mp he).2
  · rw [hsaw, if_neg hany] at he
    rw [any_eq_true] at hany
    have hvalues : h.values "Sec-WebSocket-Protocol" = h.under "Sec-Websocket-Protocol" := by rw [values, canonical_protocol]
    rw [hvalues] at hany
    by_contra hcarries
    exact hany ⟨e, he, by simpa using hcarries⟩

/-! ## The headers of impersonation -/

theorem mem_strip {ks : List String} (hf : f ∈ ks.foldl (fun acc k => if impersonates k then acc.del k else acc) h) :
    f ∈ h ∧ ∀ k ∈ ks, impersonates k = true → f.1 ≠ canonicalMIMEHeaderKey k := by
  induction ks generalizing h with
  | nil => exact ⟨hf, by simp⟩
  | cons k ks ih =>
    rw [foldl_cons] at hf
    obtain ⟨hmem, hrest⟩ := ih hf
    have hstep : f ∈ h ∧ (impersonates k = true → f.1 ≠ canonicalMIMEHeaderKey k) := by
      split at hmem
      · exact ⟨(mem_del.mp hmem).1, fun _ => (mem_del.mp hmem).2⟩
      · rename_i hk
        exact ⟨hmem, fun himp => absurd himp hk⟩
    refine ⟨hstep.1, fun k' hk' himp => ?_⟩
    rcases mem_cons.mp hk' with rfl | hk'
    · exact hstep.2 himp
    · exact hrest k' hk' himp

/-- No header that impersonates is left. -/
theorem mem_stripImpersonation (hc : h.Canonical) (hf : f ∈ stripImpersonation h) :
    f ∈ h ∧ impersonates f.1 = false := by
  obtain ⟨hmem, hnot⟩ := mem_strip hf
  refine ⟨hmem, ?_⟩
  by_contra himp
  exact hnot f.1 (mem_map_of_mem hmem) (by simpa using himp) (hc f hmem).symm

theorem under_stripImpersonation (hn : hasPrefix n impersonationPrefix = false) : (stripImpersonation h).under n = h.under n := by
  unfold stripImpersonation
  have hloop : ∀ (ks : List String) (acc : Header),
      (ks.foldl (fun acc k => if impersonates k then acc.del k else acc) acc).under n = acc.under n := by
    intro ks
    induction ks with
    | nil => intro acc; rfl
    | cons k ks ih =>
      intro acc
      rw [foldl_cons, ih]
      split
      · rename_i hk
        rw [under_del, if_pos]
        rintro rfl
        rw [impersonates, hn] at hk
        cases hk
      · rfl
  exact hloop _ h

theorem under_addGroups (groupPrefix : String) (gs : List String) (h : Header) (n : String) :
    (gs.foldl (fun acc g => acc.add "Impersonate-Group" (groupPrefix ++ g)) h).under n =
      h.under n ++ if "Impersonate-Group" = n then gs.map (groupPrefix ++ ·) else [] := by
  induction gs generalizing h with
  | nil => simp
  | cons g gs ih =>
    rw [foldl_cons, ih, under_add, canonical_group]
    by_cases hn : "Impersonate-Group" = n <;> simp [hn]

theorem mem_addGroups {groupPrefix : String} {gs : List String}
    (hf : f ∈ gs.foldl (fun acc g => acc.add "Impersonate-Group" (groupPrefix ++ g)) h) : f ∈ h ∨ f.1 = "Impersonate-Group" := by
  induction gs generalizing h with
  | nil => exact .inl hf
  | cons g gs ih =>
    rcases ih hf with hf | hf
    · rcases mem_append.mp hf with hf | hf
      · exact .inl hf
      · obtain rfl := mem_singleton.mp hf
        exact .inr canonical_group
    · exact .inr hf

/-- A header that says nothing of an identity, and is not the credential, is handed on as it came. -/
theorem under_impersonate (groupPrefix : String) (hn : hasPrefix n impersonationPrefix = false) (ha : n ≠ "Authorization") :
    (impersonate groupPrefix id h).under n = h.under n := by
  have hgroup : "Impersonate-Group" ≠ n := by rintro rfl; exact absurd hn (by decide)
  have huser : n ≠ "Impersonate-User" := by rintro rfl; exact absurd hn (by decide)
  rw [impersonate, under_addGroups, if_neg hgroup, append_nil, under_set, canonical_user, if_neg huser, under_del,
    canonical_authorization, if_pos ha, under_stripImpersonation hn]

theorem connectionNames_handed : connectionNames (handed p id r).header = connectionNames r.header := by
  have h : (handed p id r).header.values "Connection" = r.header.values "Connection" := by
    rw [values, values, canonical_connection, handed]
    dsimp only
    rw [under_impersonate _ (by decide) (by decide), under_stripBearer_of_ne _ (by decide)]
  rw [connectionNames, connectionNames, h]

/-! ## What is sent -/

theorem under_outgoing (credential : String) (h : Header) (n : String) : (outgoing credential h).under n =
    (if !hopHeaders.contains n && !(connectionNames h).contains n then h.under n else []) ++
      if "Authorization" = n then [credential] else [] := by
  rw [outgoing, under_append, under_singleton]
  congr 1
  exact under_filter (fun n => !hopHeaders.contains n && !(connectionNames h).contains n) h n

/-- The identity is borne by what is sent exactly when the headers that carry it are let through. -/
theorem bears_iff (hr : r.header.Canonical) : Bears p id (outgoing p.credential (handed p id r).header) ↔ LetsThrough id r.header := by
  have hout : ∀ n, (outgoing p.credential (handed p id r).header).under n =
      (if !hopHeaders.contains n && !(connectionNames r.header).contains n then (handed p id r).header.under n else []) ++
        if "Authorization" = n then [p.credential] else [] := by
    intro n
    rw [under_outgoing, connectionNames_handed]
  have hstripped : (((stripImpersonation (stripBearer (tokenFromProtocols p.decode (r.header.values "Sec-WebSocket-Protocol"))
      r.header)).del "Authorization").under "Impersonate-Group") = [] := by
    refine under_eq_nil fun f hf hname => ?_
    rw [mem_del] at hf
    have himp := (mem_stripImpersonation (canonical_stripBearer _ hr) hf.1).2
    rw [hname] at himp
    exact absurd himp (by decide +kernel)
  have huser : (handed p id r).header.under "Impersonate-User" = [id.user] := by
    rw [handed, impersonate, under_addGroups, if_neg (by decide), append_nil, under_set, canonical_user, if_pos rfl]
  have hgroups : (handed p id r).header.under "Impersonate-Group" = id.groups.map (p.groupPrefix ++ ·) := by
    rw [handed, impersonate, under_addGroups, if_pos rfl, under_set, canonical_user, if_neg (by decide), hstripped, nil_append]
  constructor
  · intro hb
    have hkeptUser := hb.user
    have hkeptGroups := hb.groups
    rw [values, canonical_user, hout, huser] at hkeptUser
    rw [values, canonical_group, hout, hgroups] at hkeptGroups
    constructor
    · intro hmem
      simp [hmem] at hkeptUser
    · by_contra hnot
      rw [not_or, not_not] at hnot
      simp only [contains_iff_mem.mpr hnot.2, Bool.not_true, Bool.and_false, Bool.false_eq_true, if_false, nil_append] at hkeptGroups
      rw [if_neg (by decide)] at hkeptGroups
      exact hnot.1 (map_eq_nil_iff.mp hkeptGroups.symm)
  · rintro ⟨hconn, hgroup⟩
    refine ⟨?_, ?_, ?_, ?_, ?_⟩
    · rw [values, canonical_user, hout, huser]
      simp [hconn, hopHeaders]
    · rw [values, canonical_group, hout, hgroups]
      rcases hgroup with hgroup | hgroup
      · simp [hgroup]
      · simp [hgroup, hopHeaders]
    · intro f hf himp
      rcases mem_append.mp hf with hf | hf
      · rcases mem_addGroups (mem_filter.mp hf).1 with hf | hf
        · rcases mem_append.mp hf with hf | hf
          · have hmem := (mem_del.mp (mem_del.mp hf).1).1
            rw [(mem_stripImpersonation (canonical_stripBearer _ hr) hmem).2] at himp
            cases himp
          · obtain rfl := mem_singleton.mp hf
            exact .inl canonical_user
        · exact .inr hf
      · rw [mem_singleton.mp hf] at himp
        exact absurd (show impersonates "Authorization" = true from himp) (by decide +kernel)
    · rw [values, canonical_authorization, hout, if_pos rfl]
      have hnone : (handed p id r).header.under "Authorization" = [] := by
        rw [handed, impersonate, under_addGroups, if_neg (by decide), append_nil, under_set, canonical_user,
          if_neg (by decide), under_del, canonical_authorization, if_neg (by simp)]
      rw [hnone]
      simp
    · rw [values, canonical_protocol, hout, if_neg (c := "Authorization" = _) (by decide), append_nil]
      split
      · rw [handed]
        dsimp only
        rw [under_impersonate _ (by decide) (by decide)]
        exact protocols_stripBearer p.decode r.header
      · intro e he
        simp [entries] at he

/-! ## Whole requests -/

/-- The verifier answers as it does; every other call is answered in any way. -/
def given (v : String → Except String Identity) : (c : Call) → c.Resp → Prop
  | .verify raw, a => a = v raw
  | .createTask _, _ | .startTask _, _ | .send _ _ _ _, _ | .getTask _, _ | .closeTask _ _ _, _ => True

theorem exists_given (v : String → Except String Identity) (c : Call) : ∃ a, given v c a := by
  cases c with
  | verify raw => exact ⟨v raw, rfl⟩
  | createTask spec => exact ⟨.ok "", trivial⟩
  | send method path query header => exact ⟨(0 : Nat), trivial⟩
  | startTask | getTask | closeTask => exact ⟨.ok (), trivial⟩

/-- A request is sent only with a verified token, and bears the identity returned. -/
def Verified (p : Proxy) (r : HttpRequest) (past : List (Called Call.Resp)) : Call → Prop
  | .send _ _ _ out => ∃ id, tokenOf p r.header ≠ "" ∧ past.head? = some ⟨.verify (tokenOf p r.header), .ok id⟩ ∧ Bears p id out
  | _ => True

variable {may : List (Called Call.Resp) → Call → Prop} {v : String → Except String Identity} {past : List (Called Call.Resp)}

theorem start_traced
    (hcreate : ∀ spec, taskOf id r = some spec → ∀ past, may past (.createTask spec))
    (hstart : ∀ name past, may past (.startTask name)) :
    (start id r).Traced (given v) may (fun _ _ => True) past := by
  unfold start
  cases htask : taskOf id r with
  | none => trivial
  | some spec =>
    refine traced_ask (hcreate spec htask past) fun a _ => ?_
    cases a with
    | error err => trivial
    | ok name => exact traced_ask (hstart name _) fun _ _ => trivial

theorem finish_traced
    {name : String} {code : Nat} {f : Unit → Prog Response} (hf : ∀ past, (f ()).Traced (given v) may (fun _ _ => True) past)
    (hget : ∀ past, may past (.getTask name)) (hclose : ∀ phase past, may past (.closeTask name phase code)) :
    (finish name code >>= f).Traced (given v) may (fun _ _ => True) past := by
  unfold finish
  split
  · exact hf past
  refine traced_ask (hget past) fun a _ => ?_
  cases a with
  | error err => exact hf _
  | ok _ => exact traced_ask (hclose _ _) fun _ _ => hf _

/-- Every request sent bears the identity its token was verified for, exactly when `Connection` lets the identity through. -/
theorem forwards_verified_iff (p : Proxy) (v : String → Except String Identity) (r : HttpRequest) (hr : r.header.Canonical) :
    (serveHTTP p r).Traced (given v) (Verified p r) (fun _ _ => True) [] ↔
      ∀ id, tokenOf p r.header ≠ "" → v (tokenOf p r.header) = .ok id → LetsThrough id r.header := by
  unfold serveHTTP
  by_cases htok : tokenOf p r.header = ""
  · rw [if_pos htok]
    exact iff_of_true trivial fun id hne => absurd htok hne
  rw [if_neg htok]
  have hfirst : ∀ {id} {later : List (Called Call.Resp)}, [] ++ [⟨.verify (tokenOf p r.header), .ok id⟩] <+: later →
      later.head? = some ⟨.verify (tokenOf p r.header), .ok id⟩ := by
    rintro id later ⟨rest, rfl⟩
    rfl
  constructor
  · intro h id _ hid
    have hforward : (forward p id (handed p id r)).Traced (given v) (Verified p r) (fun _ _ => True) _ := h.2 (.ok id) hid.symm
    unfold forward at hforward
    obtain ⟨task, later, hl, hsend⟩ := hforward.reaches (exists_given v)
    obtain ⟨id', -, hhead, hbears⟩ := hsend.1
    rw [hfirst hl] at hhead
    cases hhead
    exact (bears_iff hr).mp hbears
  · intro h
    refine traced_ask trivial fun a ha => ?_
    cases a with
    | error err => trivial
    | ok id =>
      have hrecord : (record p id (handed p id r)).Traced (given v) (Verified p r) (fun _ _ => True)
          ([] ++ [⟨.verify (tokenOf p r.header), .ok id⟩]) := by
        unfold record
        split
        · exact start_traced (fun _ _ _ => trivial) fun _ _ => trivial
        · trivial
      refine hrecord.bind fun task later hl _ => ?_
      refine traced_ask ⟨id, htok, hfirst hl, (bears_iff hr).mpr (h id htok ha.symm)⟩ fun code _ => ?_
      exact finish_traced (fun _ => trivial) (fun _ => trivial) fun _ _ => trivial

namespace ProxyFixture

def proxy : Proxy := ⟨"frame:", true, "Bearer service-account", fun _ => none⟩

def viewer : Identity := ⟨"viewer@example.com", ["viewers"]⟩

def accepts (raw : String) : Except String Identity := if raw = "token" then .ok viewer else .error "unknown token"

def readNodes (connection : String) : HttpRequest :=
  ⟨"GET", "/api/v1/nodes", [], [("Authorization", "Bearer token"), ("Connection", connection)]⟩

end ProxyFixture

open ProxyFixture in
/-- A viewer who names `Impersonate-User` in the `Connection` header has a read sent with the credential of the proxy alone. -/
theorem sent_on_behalf_of_nobody :
    (readNodes "Impersonate-User").header.Canonical ∧
      (outgoing proxy.credential (handed proxy viewer (readNodes "Impersonate-User")).header).values "Impersonate-User" = [] ∧
        ¬(serveHTTP proxy (readNodes "Impersonate-User")).Traced (given accepts) (Verified proxy (readNodes "Impersonate-User"))
          (fun _ _ => True) [] := by
  have hnone : (outgoing proxy.credential (handed proxy viewer (readNodes "Impersonate-User")).header).values
      "Impersonate-User" = [] := by
    decide +kernel
  refine ⟨by decide +kernel, hnone, fun h => ?_⟩
  have htok : tokenOf proxy (readNodes "Impersonate-User").header = "token" := by decide +kernel
  rw [serveHTTP, if_neg (by rw [htok]; decide)] at h
  have hforward : (forward proxy viewer (handed proxy viewer (readNodes "Impersonate-User"))).Traced (given accepts) (Verified proxy _)
      (fun _ _ => True) _ := h.2 (.ok viewer) (by rw [given, htok]; simp [accepts])
  unfold forward at hforward
  obtain ⟨task, later, hl, hsend⟩ := hforward.reaches (exists_given accepts)
  obtain ⟨id, -, -, hbears⟩ := hsend.1
  have huser := hbears.user
  rw [hnone] at huser
  cases huser

open ProxyFixture in
/-- A `Connection` that names neither header. -/
theorem forwards_verified_upgrade : (readNodes "Upgrade").header.Canonical ∧
    (serveHTTP proxy (readNodes "Upgrade")).Traced (given accepts) (Verified proxy (readNodes "Upgrade")) (fun _ _ => True) [] := by
  refine ⟨by decide +kernel, (forwards_verified_iff proxy accepts (readNodes "Upgrade") (by decide +kernel)).mpr fun id _ hid => ?_⟩
  have htok : tokenOf proxy (readNodes "Upgrade").header = "token" := by decide +kernel
  have hviewer : accepts "token" = .ok viewer := by simp [accepts]
  rw [htok, hviewer] at hid
  cases hid
  decide +kernel

end FrameOperator.UiProxy
