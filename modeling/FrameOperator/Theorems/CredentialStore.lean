import FrameOperator.Lemmas.AuthdSound

/-!
# The credentials of an account

Registrations, logins and revocations each read an account, compute its credentials anew and write all of them. The counter rests on
the library, which finds the stored one by the decoded ID; authd writes it by the encoded one, and writes no IDs but encodings of
its own.
-/

namespace FrameOperator.Authd

open Accounts
open V1beta1 (WebAuthnCredential)
open List

variable {τ σ : Type} {S : Server τ σ}

/-- An assertion accepted without a warning raises the counter, unless both are zero. -/
def WarnsOfClones (web : WebAuthn σ) : Prop :=
  ∀ user session response cred, web.validateLogin user session response = .ok cred → cred.cloneWarning = false →
    ∃ stored ∈ user.credentials, stored.id = cred.id ∧
      (stored.signCount < cred.signCount ∨ (stored.signCount = 0 ∧ cred.signCount = 0))

/-- The credentials as authd writes them: pairwise distinct IDs, each the encoding of some bytes. -/
structure WellKept (u : FrameUser) : Prop where
  distinct : (u.credentials.map (·.id)).Nodup
  encoded : ∀ c ∈ u.credentials, ∃ rawID, c.id = encodeID rawID

/-- What a step in which these events happened leaves of the credentials of an account. -/
structure CredentialsKept (k : Key) (before after : FrameUser) (events : List Event) : Prop where
  leaves : ∀ c ∈ before.credentials, (∀ c' ∈ after.credentials, c'.id ≠ c.id) → .removed k c.id ∈ events
  distinct : (after.credentials.map (·.id)).Nodup
  counts : ∀ c ∈ before.credentials, ∀ c' ∈ after.credentials, c'.id = c.id → c.signCount ≤ c'.signCount
  nonempty : before.credentials ≠ [] → after.credentials ≠ []

/-! ## Lists of credentials -/

theorem ids_setSignCount (credID : String) (count : UInt32) (cs : List WebAuthnCredential) :
    (setSignCount credID count cs).map (·.id) = cs.map (·.id) := by
  induction cs with
  | nil => rfl
  | cons c cs ih =>
    unfold setSignCount
    split
    · rfl
    · rw [map_cons, map_cons, ih]

variable {c : WebAuthnCredential}

theorem mem_setSignCount {credID : String} {count : UInt32} {cs : List WebAuthnCredential} (hnodup : (cs.map (·.id)).Nodup)
    (hc : c ∈ setSignCount credID count cs) :
    (c.id ≠ credID ∧ c ∈ cs) ∨ (c.id = credID ∧ c.signCount = count) := by
  induction cs with
  | nil => cases hc
  | cons d cs ih =>
    rw [map_cons, nodup_cons] at hnodup
    unfold setSignCount at hc
    split at hc
    · rename_i hd
      rcases mem_cons.mp hc with rfl | hc
      · exact .inr ⟨hd, rfl⟩
      -- the ID is the first one's, so no later credential has it
      refine .inl ⟨fun hid => hnodup.1 ?_, mem_cons_of_mem _ hc⟩
      rw [hd, ← hid]
      exact mem_map_of_mem hc
    · rename_i hd
      rcases mem_cons.mp hc with rfl | hc
      · exact .inl ⟨hd, mem_cons_self⟩
      rcases ih hnodup.2 hc with ⟨hid, hmem⟩ | h
      · exact .inl ⟨hid, mem_cons_of_mem _ hmem⟩
      · exact .inr h

theorem WellKept.inj {u : FrameUser} (h : WellKept u) {c c' : WebAuthnCredential} (hc : c ∈ u.credentials) (hc' : c' ∈ u.credentials)
    (hid : c.id = c'.id) : c = c' := inj_on_of_nodup_map h.distinct hc hc' hid

theorem decode_encodeID (id : Bytes) : rawURLEncoding.decode (encodeID id).toList = some id := by
  rw [encodeID, String.toList_ofList, Alphabet.decode_encode]

theorem toCredential_some {cred : Credential} (h : toCredential c = some cred)
    (hencoded : ∃ rawID, c.id = encodeID rawID) : c.id = encodeID cred.id ∧ c.signCount = cred.signCount := by
  unfold toCredential at h
  obtain ⟨id, hid, h⟩ := Option.bind_eq_some_iff.mp h
  obtain ⟨pk, -, h⟩ := Option.bind_eq_some_iff.mp h
  obtain ⟨rawID, hraw⟩ := hencoded
  rw [hraw, decode_encodeID] at hid
  cases hid
  cases h
  exact ⟨hraw, rfl⟩

theorem signCount_le (hclone : WarnsOfClones S.auth.web) {u : FrameUser} (hu : WellKept u) {cred : Credential}
    (hchecked : (StatusWrite.count cred).Checked S u) (hwarning : cred.cloneWarning = false)
    (hc : c ∈ u.credentials) (hid : c.id = encodeID cred.id) : c.signCount ≤ cred.signCount := by
  obtain ⟨session, body, hlogin⟩ := hchecked
  obtain ⟨stored, hstored, hsid, hcount⟩ := hclone _ _ _ _ hlogin hwarning
  obtain ⟨c₀, hc₀, hto⟩ := mem_filterMap.mp hstored
  obtain ⟨hid₀, hcount₀⟩ := toCredential_some hto (hu.encoded c₀ hc₀)
  obtain rfl : c₀ = c := hu.inj hc₀ hc (by rw [hid₀, hsid, hid])
  rw [hcount₀]
  rcases hcount with hlt | ⟨hzero, hzero'⟩
  · exact UInt32.le_of_lt hlt
  · rw [hzero, hzero']
    exact UInt32.le_refl 0

/-! ## One step -/

theorem CredentialsKept.refl {k : Key} {u u' : FrameUser} {events : List Event} (hu : WellKept u)
    (hsame : u'.credentials = u.credentials) : CredentialsKept k u u' events where
  leaves c hc hne := absurd rfl (hne c (by rw [hsame]; exact hc))
  distinct := by rw [hsame]; exact hu.distinct
  counts c hc c' hc' hid := by
    rw [hsame] at hc'
    rw [hu.inj hc' hc hid]
    exact UInt32.le_refl _
  nonempty hne := by rw [hsame]; exact hne

/-- A status write keeps the credentials. -/
theorem CredentialsKept.computes (hclone : WarnsOfClones S.auth.web) {k : Key}
    {u u' : FrameUser} {op : StatusWrite} {events : List Event}
    (hu : WellKept u) (hc : op.Computes u u') (hchecked : op.Checked S u) (hevent : op.event k u.credentials ∈ events) :
    CredentialsKept k u u' events ∧ WellKept u' := by
  cases op with
  | enrol via cred =>
    obtain ⟨hnew, rfl⟩ := addCredential_ok hc
    have hdistinct : ((u.credentials ++ [cred]).map (·.id)).Nodup := by
      rw [map_append, nodup_append]
      refine ⟨hu.distinct, by simp, fun id hid id' hid' => ?_⟩
      obtain ⟨c, hc, rfl⟩ := mem_map.mp hid
      rw [mem_singleton.mp hid']
      exact hnew c hc
    refine ⟨⟨fun c hc hne => absurd rfl (hne c (mem_append_left _ hc)), hdistinct, fun c hc c' hc' hid => ?_,
      fun _ => by simp⟩, hdistinct, forall_mem_snoc hu.encoded hchecked⟩
    have hmem := inj_on_of_nodup_map hdistinct hc' (mem_append_left _ hc) hid
    rw [hmem]
    exact UInt32.le_refl _
  | count cred =>
    obtain ⟨hwarning, rfl⟩ := recordLoginCounter_ok hc
    have hids := ids_setSignCount (encodeID cred.id) cred.signCount u.credentials
    have hdistinct : ((setSignCount (encodeID cred.id) cred.signCount u.credentials).map (·.id)).Nodup := by
      rw [hids]
      exact hu.distinct
    refine ⟨⟨fun c hc hne => ?_, hdistinct, fun c hc c' hc' hid => ?_, fun hne hnil => hne ?_⟩, hdistinct, fun c hc => ?_⟩
    · have hmem : c.id ∈ (setSignCount (encodeID cred.id) cred.signCount u.credentials).map (·.id) := by
        rw [hids]
        exact mem_map_of_mem hc
      obtain ⟨c', hc', hid⟩ := mem_map.mp hmem
      exact absurd hid (hne c' hc')
    · rcases mem_setSignCount hu.distinct hc' with ⟨-, hmem⟩ | ⟨hid', hcount⟩
      · rw [hu.inj hmem hc hid]
        exact UInt32.le_refl _
      · rw [hcount]
        exact signCount_le hclone hu hchecked hwarning hc (by rw [← hid, hid'])
    · have hlen := congrArg List.length hids
      simp only at hnil
      rw [hnil, map_nil, length_nil, length_map] at hlen
      exact eq_nil_of_length_eq_zero hlen.symm
    · have hmem : c.id ∈ u.credentials.map (·.id) := by
        rw [← hids]
        exact mem_map_of_mem hc
      obtain ⟨c', hc', hid⟩ := mem_map.mp hmem
      rw [← hid]
      exact hu.encoded c' hc'
  | remove credID =>
    obtain ⟨hkept, rfl⟩ := removeCredential_ok hc
    have hsub := filter_sublist (l := u.credentials) (p := (·.id ≠ credID))
    have hdistinct : ((u.credentials.filter (·.id ≠ credID)).map (·.id)).Nodup := hu.distinct.sublist (hsub.map _)
    refine ⟨⟨fun c hc hne => ?_, hdistinct, fun c hc c' hc' hid => ?_, fun _ => hkept⟩, hdistinct,
      fun c hc => hu.encoded c (hsub.subset hc)⟩
    · have hid : c.id = credID := by
        by_contra hid
        exact hne c (mem_filter.mpr ⟨hc, decide_eq_true hid⟩) rfl
      rw [hid]
      exact hevent
    · rw [hu.inj (hsub.subset hc') hc hid]
      exact UInt32.le_refl _

/-! ## A run -/

/-- Every account of the namespace is well kept. -/
structure Keeping (S : Server τ σ) (w : World) : Prop where
  sound : Sound S w
  kept : ∀ k u, k.namespaceName = S.cfg.namespaceName → w.users.value? k = some u → WellKept u

/-- Every step keeps the credentials of every account. -/
theorem Keeping.step (hclone : WarnsOfClones S.auth.web) {w : World} (h : Keeping S w) (a : Action τ) :
    Keeping S (w.serve S a).1 ∧ ∃ events, (w.serve S a).1.log = w.log ++ events ∧
      ∀ k u u', k.namespaceName = S.cfg.namespaceName → w.users.value? k = some u → (w.serve S a).1.users.value? k = some u' →
        CredentialsKept k u u' events := by
  have hserves := serve_serves S w a
  obtain ⟨events, hlog, hfate⟩ := hserves.fate h.sound
  refine ⟨⟨h.sound.serves hserves, fun k u' hns hu' => ?_⟩, events, hlog, fun k u u' hns hu hu' => ?_⟩
  · cases hfate k u' hu' with
    | kept hu hsame =>
      have hold := h.kept k _ hns hu
      exact ⟨by rw [hsame]; exact hold.distinct, fun c hc => hold.encoded c (hsame ▸ hc)⟩
    | fresh hfree hnone => exact ⟨by simp [hnone], fun c hc => by simp [hnone] at hc⟩
    | @written held op base hticket hbase hcomputes hevent =>
      obtain ⟨-, -, -, hchecked⟩ := h.sound _ hticket
      have hold := h.kept k base.val hns (Versioned.value?_of_get? hbase)
      exact (CredentialsKept.computes hclone hold hcomputes hchecked hevent).2
  · cases hfate k u' hu' with
    | kept hu₀ hsame =>
      rw [hu] at hu₀
      cases hu₀
      exact .refl (h.kept k u hns hu) hsame
    | fresh hfree hnone =>
      rw [hu] at hfree
      cases hfree
    | @written held op base hticket hbase hcomputes hevent =>
      obtain ⟨-, -, -, hchecked⟩ := h.sound _ hticket
      rw [Versioned.value?_of_get? hbase] at hu
      cases hu
      have hold := h.kept k base.val hns (Versioned.value?_of_get? hbase)
      exact (CredentialsKept.computes hclone hold hcomputes hchecked hevent).1

/-- A credential leaves an account only by a revocation of its ID, IDs stay distinct, and no counter is lower. -/
theorem credentials_kept (S : Server τ σ) (hclone : WarnsOfClones S.auth.web) (w : World) (hidle : w.pending = [])
    (hstart : ∀ k u, k.namespaceName = S.cfg.namespaceName → w.users.value? k = some u → WellKept u) (actions : List (Action τ))
    (a : Action τ) :
    let before := (run (World.serve S) w actions).1
    ∃ events, (before.serve S a).1.log = before.log ++ events ∧
      ∀ k u u', k.namespaceName = S.cfg.namespaceName → before.users.value? k = some u →
        (before.serve S a).1.users.value? k = some u' →
        CredentialsKept k u u' events := by
  have h0 : Keeping S w := ⟨sound_of_idle hidle, hstart⟩
  have h : Keeping S (run (World.serve S) w actions).1 :=
    run_induct (I := fun w (_ : List Reply) => Keeping S w) h0 (fun w _ a h _ => (h.step hclone a).1) actions (meets_true w actions)
  exact (h.step hclone a).2

namespace Fixture

def library : WebAuthn Unit where
  marshal _ := []
  unmarshal _ := .ok ⟨"", ()⟩
  beginRegistration _ uv _ := .ok ⟨uv, ()⟩
  beginDiscoverableLogin uv _ := .ok ⟨uv, ()⟩
  parseCreation response := .ok response.tail
  createCredential _ _ response := .ok { id := response.tail, publicKey := [], signCount := (response.headD 0).toUInt32 }
  parseAssertion response := .ok response.tail
  discoverable _ _ := .ok ()
  validateLogin user _ response :=
    match user.credentials.find? (·.id = response.tail) with
    | none => .error "Unable to find the credential for the returned credential ID"
    | some c =>
      let counter := (response.headD 0).toUInt32
      if counter ≤ c.signCount && (counter ≠ 0 || c.signCount ≠ 0) then .ok { c with cloneWarning := true }
      else .ok { c with signCount := counter }
  createCredential_id := by
    intro user session response cred id hcred hid
    cases hcred
    cases hid
    rfl

theorem library_warnsOfClones : WarnsOfClones library := by
  intro user session response cred h hwarning
  simp only [library] at h
  split at h
  · cases h
  rename_i c hfind
  refine ⟨c, mem_of_find?_eq_some hfind, ?_⟩
  split at h
  · cases h
    cases hwarning
  rename_i hcount
  cases h
  refine ⟨rfl, ?_⟩
  simp only [Bool.and_eq_true, Bool.or_eq_true, decide_eq_true_eq, not_and_or, not_or, not_not, UInt32.not_le] at hcount
  rcases hcount with hlt | ⟨hzero, hzero'⟩
  · exact .inl hlt
  · exact .inr ⟨hzero', hzero⟩

def server : Server Sealing Unit where
  cfg :=
    { namespaceName := "cluster-control", bootstrapSecret := "first", sessionTTL := 43200000000000, inviteTTL := 86400000000000 }
  auth := { web := library, codec := idealCodec, requiresUV := false, sha256 := fun bs => bs }
  unicode := .ascii

def noon : Instant := ⟨63900000000, 0⟩

def challenge : Sealing := ⟨purposeChallenge, [], challengeTTL, noon⟩
def session (email : String) : Sealing := ⟨purposeSession, utf8 email, 43200000000000, noon⟩
def invitation (email : String) : Sealing := ⟨purposeInvite, utf8 email, 86400000000000, noon⟩
def enrolment (email : String) : Sealing := ⟨purposeEnrol, utf8 email, enrolSessionTTL, noon⟩

def account (name email role : String) (id : UInt8) : FrameUser where
  key := ⟨"cluster-control", name⟩
  spec := { email := email, role := role }
  credentials := [{ id := encodeID [id], signCount := 5 }]

def world (users : List FrameUser) : World where
  users := users.foldl Versioned.create Versioned.empty

def ask (held : List Sealing) (r : Request Sealing) (w : World) : Action Sealing := .request held r (.ok w.users.live.items) noon

def login (counter id : UInt8) : World → Action Sealing := ask [challenge] (.loginFinish (some challenge) (some [counter, id]))

def enrol (cookie : Sealing) (id : UInt8) : World → Action Sealing :=
  ask [cookie, challenge] (.registerFinish (some cookie) (some challenge) "key" (some [0, id]) 0)

def goOn (w : World) : Action Sealing := .proceed 0 (.ok w.users.live.items) noon true

def play (S : Server Sealing Unit) : World → List (World → Action Sealing) → List (Action Sealing)
  | _, [] => []
  | w, f :: fs => f w :: play S (w.serve S (f w)).1 fs

def rotation : List (World → Action Sealing) :=
  [ask [] (.loginBegin 0), login 7 1, goOn, enrol (session "alice@example.com") 2, goOn,
    ask [session "alice@example.com"] (.revokeCredential (some (session "alice@example.com")) "" (encodeID [1]))]

def alone : World := world [account "alice" "alice@example.com" "admin" 1]

def rotated : World := (run (World.serve server) alone (play server alone rotation)).1

end Fixture

set_option maxRecDepth 8000 in
/-- The first key goes, in the step in which its revocation succeeds, and the second stays. -/
theorem credentials_kept_rotated :
    (((Fixture.rotated.serve Fixture.server (Fixture.goOn Fixture.rotated)).1.users.value? ⟨"cluster-control", "alice"⟩).map
        fun u => u.credentials.map (·.id)) = some [encodeID [2]] ∧
      ∃ events, (Fixture.rotated.serve Fixture.server (Fixture.goOn Fixture.rotated)).1.log = Fixture.rotated.log ++ events ∧
        ∀ k u u', k.namespaceName = "cluster-control" → Fixture.rotated.users.value? k = some u →
          (Fixture.rotated.serve Fixture.server (Fixture.goOn Fixture.rotated)).1.users.value? k = some u' →
          CredentialsKept k u u' events := by
  refine ⟨by decide +kernel, credentials_kept Fixture.server Fixture.library_warnsOfClones Fixture.alone rfl ?_ _ _⟩
  intro k u hns hu
  have hmem : u ∈ Directory.users Fixture.alone.users := Directory.mem_users.mpr (by rwa [Directory.key_of_value? hu])
  obtain rfl : u = Fixture.account "alice" "alice@example.com" "admin" 1 := mem_singleton.mp hmem
  exact ⟨by decide, fun c hc => ⟨[1], by rw [mem_singleton.mp hc]⟩⟩

end FrameOperator.Authd
