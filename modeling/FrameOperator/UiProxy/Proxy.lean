import FrameOperator.Lib.GoFormat
import FrameOperator.Lib.Http
import FrameOperator.Lib.Program

/-!
# The console's proxy

`internal/uiproxy`: `Proxy.ServeHTTP` verifies the token of a request, impersonates the identity it verified, has mutations and
shells recorded as a FrameTask, and hands the request to `httputil.ReverseProxy`.

Handling a request is a program of calls. The key set of the verifier, log lines, the body of an answer and what a response writer
has to implement are left out.
-/

namespace FrameOperator.UiProxy

open Http

/-- Who presented a token. -/
structure Identity where
  user : String
  groups : List String
  deriving DecidableEq

/-- The path and the query string parsed, the names of the header canonical. -/
structure HttpRequest where
  method : String
  path : String
  query : List (String × String)
  header : Header

/-! ## The token -/

def maxSubjectLen : Nat := 254

/-- `checkSubject`: the error, or none. -/
def checkSubject (sub : String) : Option String :=
  if sub = "" then some "token has no subject"
  else if maxSubjectLen < sub.utf8ByteSize then some "token subject is longer than 254 characters"
  else if hasPrefix sub "system:" then some ("refusing to impersonate a system: identity (" ++ goQuote sub ++ ")")
  else if ('@' ∈ sub.toList) = false then some ("token subject " ++ goQuote sub ++ " is not an email address")
  else none

/-- `JWKSVerifier.Verify`, over what the signature, the issuer, the audience and the dates of a token come to. -/
def verify (claims : String → Except String Identity) (raw : String) : Except String Identity :=
  match claims raw with
  | .error err => .error err
  | .ok id =>
    match checkSubject id.user with
    | some err => .error err
    | none => .ok id

def bearer (h : Header) : String :=
  let cs := (h.get "Authorization").toList
  if 7 < cs.length && equalFold (String.ofList (cs.take 7)) "bearer " then String.ofList (cs.drop 7) else ""

def bearerProtocolPrefix : String := "base64url.bearer.authorization.k8s.io."

def carriesBearer (entry : List Char) : Bool := bearerProtocolPrefix.toList.isPrefixOf entry

/-- What `tokenFromProtocols` keeps between two entries. -/
structure Protocols where
  token : String := ""
  remaining : List (List Char) := []
  sawBearer : Bool := false

/-- What one entry adds, where `decode` is that of unpadded base64url. -/
def Protocols.take (decode : List Char → Option String) (acc : Protocols) (p : List Char) : Protocols :=
  if carriesBearer p then
    { acc with sawBearer := true, token := (decode (p.drop bearerProtocolPrefix.toList.length)).getD acc.token }
  else { acc with remaining := acc.remaining ++ [p] }

def tokenFromProtocols (decode : List Char → Option String) (values : List String) : Protocols :=
  (entries isSpace values).foldl (Protocols.take decode) {}

/-! ## The headers -/

def impersonationPrefix : String := "Impersonate-"

def impersonates (name : String) : Bool := hasPrefix (canonicalMIMEHeaderKey name) impersonationPrefix

def stripImpersonation (h : Header) : Header :=
  (h.map Prod.fst).foldl (fun acc k => if impersonates k then acc.del k else acc) h

/-- The header without the entries that carry a token. -/
def stripBearer (found : Protocols) (h : Header) : Header :=
  if found.sawBearer then
    if found.remaining = [] then h.del "Sec-WebSocket-Protocol"
    else (h.del "Sec-WebSocket-Protocol").set "Sec-WebSocket-Protocol" (joinEntries found.remaining)
  else h

/-- The header with the verified identity in place of what the caller said of it. -/
def impersonate (groupPrefix : String) (id : Identity) (h : Header) : Header :=
  id.groups.foldl (fun acc g => acc.add "Impersonate-Group" (groupPrefix ++ g))
    (((stripImpersonation h).del "Authorization").set "Impersonate-User" id.user)

/-! ## The record -/

structure ObjectRef where
  group : String := ""
  resource : String := ""
  namespaceName : String := ""
  name : String := ""
  subresource : String := ""

structure FrameTaskSpec where
  user : String
  verb : String
  target : ObjectRef
  action : String

def isMutating (method : String) : Bool := method ∈ ["POST", "PUT", "PATCH", "DELETE"]

def subresourceExec : String := "exec"

def segments (p : String) : List String := ((trim (· = '/') p.toList).splitOn '/').map String.ofList

/-- The end of `parsePath`: what follows the group and the version. -/
def parseRest (group : String) (rest : List String) : Option ObjectRef :=
  let (ns, rest) :=
    match rest with
    | s :: ns :: r :: rest => if s = "namespaces" then (ns, r :: rest) else ("", s :: ns :: r :: rest)
    | rest => ("", rest)
  match rest with
  | [] => none
  | resource :: rest => some ⟨group, resource, ns, (rest[0]?).getD "-", (rest[1]?).getD ""⟩

def parsePath (p : String) : Option ObjectRef :=
  match segments p with
  | "api" :: _ :: s :: rest => parseRest "" (s :: rest)
  | "apis" :: group :: _ :: s :: rest => parseRest group (s :: rest)
  | _ => none

def isExecUpgrade (r : HttpRequest) : Bool :=
  r.method = "GET" && equalFold (r.header.get "Upgrade") "websocket" &&
    ((parsePath r.path).map ObjectRef.subresource = some subresourceExec)

def verbForMethod (method : String) : String :=
  if method = "POST" then "create"
  else if method = "PUT" then "update"
  else if method = "PATCH" then "patch"
  else if method = "DELETE" then "delete"
  else ""

def verbForRequest (r : HttpRequest) (ref : ObjectRef) : String :=
  if ref.subresource = subresourceExec && isExecUpgrade r then "create" else verbForMethod r.method

def maxAction : Nat := 200

/-- `boundAction`, which counts characters. -/
def boundAction (s : String) : String :=
  if s.toList.length ≤ maxAction then s else String.ofList (s.toList.take maxAction)

/-- Go's `Values.Get`. -/
def queryGet (q : List (String × String)) (k : String) : String := ((q.filter fun f => f.1 = k).map Prod.snd).headD ""

def execAction (ref : ObjectRef) (q : List (String × String)) : String :=
  let s := "open a shell in " ++ ref.namespaceName ++ "/" ++ ref.name
  let c := queryGet q "container"
  boundAction (if c ≠ "" then s ++ " (" ++ c ++ ")" else s)

def isDryRun (q : List (String × String)) : Bool := q.any fun f => f.1 = "dryRun" && f.2 ≠ ""

/-- The record that `TaskRecorder.Start` builds of a request, if it builds one. -/
def taskOf (id : Identity) (r : HttpRequest) : Option FrameTaskSpec :=
  match parsePath r.path with
  | none => none
  | some ref =>
    if isDryRun r.query then none
    else if verbForRequest r ref = "" then none
    else
      let action := boundAction (r.header.get "X-Frame-Action")
      some ⟨id.user, verbForRequest r ref, ref,
        if action = "" && ref.subresource = subresourceExec && isExecUpgrade r then execAction ref r.query else action⟩

/-! ## Handling a request -/

/-- What the proxy calls: the verifier, the API server for its record, and the API server with the request. -/
inductive Call where
  | verify (raw : String)
  | createTask (spec : FrameTaskSpec)
  | startTask (name : String)
  | send (method path : String) (query : List (String × String)) (header : Header)
  | getTask (name : String)
  | closeTask (name phase : String) (httpCode : Nat)

/-- Of a request that was sent, the status, or 0 if the handler panicked before. -/
abbrev Call.Resp : Call → Type
  | verify _ => Except String Identity
  | createTask _ => Except String String
  | send _ _ _ _ => Nat
  | startTask _ | getTask _ | closeTask _ _ _ => Except String Unit

abbrev Prog : Type → Type := Program Call.Resp

/-- `Options`, of which `credential` is that of the transport. -/
structure Proxy where
  groupPrefix : String
  recorder : Bool
  credential : String
  decode : List Char → Option String

/-- What the caller is answered with. -/
inductive Response where
  | unauthorized (detail : String)
  | proxied (code : Nat)

/-- `TaskRecorder.Start`: the name of the record, or an empty text. -/
def start (id : Identity) (r : HttpRequest) : Prog String :=
  match taskOf id r with
  | none => return ""
  | some spec => do
    match ← Program.ask (Call.createTask spec) with
    | .error _ => return ""
    | .ok name =>
      let _ ← Program.ask (Call.startTask name)
      return name

/-- `TaskRecorder.Finish`. -/
def finish (name : String) (httpCode : Nat) : Prog Unit :=
  if name = "" then return ()
  else do
    match ← Program.ask (Call.getTask name) with
    | .error _ => return ()
    | .ok () =>
      let phase := if httpCode ≠ 101 ∧ (httpCode < 200 ∨ 300 ≤ httpCode) then "Failed" else "Succeeded"
      let _ ← Program.ask (Call.closeTask name phase httpCode)
      return ()

def hopHeaders : List String :=
  ["Connection", "Proxy-Connection", "Keep-Alive", "Proxy-Authenticate", "Proxy-Authorization", "Te", "Trailer", "Transfer-Encoding",
    "Upgrade"]

/-- The headers that the `Connection` header names. -/
def connectionNames (h : Header) : List String :=
  (entries isBlank (h.values "Connection")).map fun e => canonicalMIMEHeaderKey (String.ofList e)

/-- What `httputil.ReverseProxy` sends of a header, with the credential of its transport. -/
def outgoing (credential : String) (h : Header) : Header :=
  (h.filter fun f => !hopHeaders.contains f.1 && !(connectionNames h).contains f.1) ++ [("Authorization", credential)]

/-- The token of a request, from the one place or the other. -/
def tokenOf (p : Proxy) (h : Header) : String :=
  if bearer h = "" then (tokenFromProtocols p.decode (h.values "Sec-WebSocket-Protocol")).token else bearer h

/-- The request that is handed to `httputil.ReverseProxy`. -/
def handed (p : Proxy) (id : Identity) (r : HttpRequest) : HttpRequest :=
  { r with
    header := impersonate p.groupPrefix id
      (stripBearer (tokenFromProtocols p.decode (r.header.values "Sec-WebSocket-Protocol")) r.header) }

def record (p : Proxy) (id : Identity) (r : HttpRequest) : Prog String :=
  if p.recorder && (isMutating r.method || isExecUpgrade r) then start id r else return ""

/-- A verified request is recorded and sent, and the record is closed. -/
def forward (p : Proxy) (id : Identity) (r : HttpRequest) : Prog Response := do
  let task ← record p id r
  let code ← Program.ask (Call.send r.method r.path r.query (outgoing p.credential r.header))
  finish task (if code = 0 then 500 else code)
  return .proxied code

/-- `ServeHTTP`. -/
def serveHTTP (p : Proxy) (r : HttpRequest) : Prog Response :=
  if tokenOf p r.header = "" then return .unauthorized "the request carried no bearer token"
  else do
    match ← Program.ask (Call.verify (tokenOf p r.header)) with
    | .error _ => return .unauthorized "the bearer token was not accepted"
    | .ok id => forward p id (handed p id r)

end FrameOperator.UiProxy
