import FrameOperator.Accounts.Types
import FrameOperator.Lib.Runs

/-!
# The review of a write

`FrameUserCustomValidator` (`internal/webhook/frame/v1beta1/frameuser_webhook.go`): what it refuses of a write of a FrameUser,
against the accounts of every namespace. `write` is a write that is reviewed and then committed.
-/

namespace FrameOperator.Accounts

open V1beta1 (FrameUserSpec)

def adminGroup : String := "frame:admins"
def clusterAdminGroup : String := "system:masters"

structure AdmissionRequest where
  username : String
  groups : List String
  subResource : String := ""

def AdmissionRequest.isAdmin (req : AdmissionRequest) : Bool := req.groups.any fun g => g = adminGroup || g = clusterAdminGroup

/-- `stateOrEnabled`. -/
def stateOrEnabled (state : String) : String := if state = "" then stateEnabled else state

/-- `requireAdminRequester`; without a request in the context nobody is an admin. -/
def requireAdminRequester (req : Option AdmissionRequest) (action : String) : Except String Unit :=
  match req with
  | none =>
    .error ("refusing to " ++ action ++ ": cannot identify who is making the request (admission.Request not found in context)")
  | some req =>
    if req.isAdmin then .ok ()
    else
      .error ("refusing to " ++ action ++ ": " ++ goQuote req.username ++ " is not an admin. Only a member of " ++ adminGroup ++
        " (a FrameUser with spec.role: admin) or " ++ clusterAdminGroup ++ " may do this — " ++
        "otherwise anyone who can create or patch a FrameUser can make themselves an admin, " ++
        "and anyone who can delete one can remove an admin who is not the last one")

/-- `guardPasswordHash`: only a write of the status may change the hash. -/
def guardPasswordHash (req : Option AdmissionRequest) (oldHash newHash : String) : Except String Unit :=
  if newHash = oldHash then .ok ()
  else if req.any (·.subResource = "status") then .ok ()
  else if newHash = "" then
    .error ("refusing to clear status.passwordHash: this write does not carry the stored hash, " ++
      "which destroys the account's password with a success response " ++
      "(a full replace at v1alpha1 that omits spec.passwordHash does exactly this). " ++
      "Patch the field instead of replacing the object, or write it through the v1beta1 frameusers/status subresource")
  else
    .error ("refusing to change status.passwordHash on the main resource: it is credential material " ++
      "and only the v1beta1 frameusers/status subresource may write it (F11). " ++
      "Writing spec.passwordHash at the deprecated v1alpha1 version is the same write and is refused for the same reason")

/-- The accounts of all namespaces, or why they could not be listed. -/
abbrev Listing : Type := Except String (List FrameUser)

/-- `anyAdminExists`: a disabled admin counts. -/
def anyAdminExists (list : Listing) : Except String Bool :=
  match list with
  | .error err => .error ("cannot verify existing admins: " ++ err)
  | .ok users => .ok (users.any (·.spec.role = roleAdmin))

/-- `requireAnotherAdmin`: a disabled admin does not count. -/
def requireAnotherAdmin (list : Listing) (excluding : String) : Except String Unit :=
  match list with
  | .error err => .error ("cannot verify remaining admins: " ++ err)
  | .ok users =>
    if users.any fun u => u.key.name ≠ excluding && u.enabledAdmin then .ok ()
    else .error ("refusing to remove the last admin (" ++ excluding ++ "): no other enabled account holds the admin role")

/-- `requireEmailUnclaimed`: the first account of another name with the address refuses it. -/
def requireEmailUnclaimed (U : Unicode) (list : Listing) (email excluding : String) : Except String Unit :=
  if email = "" then .ok ()
  else
    match list with
    | .error err => .error ("cannot verify that " ++ goQuote email ++ " is unclaimed: " ++ err)
    | .ok users =>
      match users.find? fun u => u.key.name ≠ excluding && U.equalFold u.spec.email email with
      | none => .ok ()
      | some u =>
        .error ("refusing to set spec.email to " ++ goQuote email ++ ": that address is already claimed by FrameUser " ++
          goQuote u.key.name ++ ". Two accounts sharing an address, in any casing, resolve to each other by list " ++
          "order at sign-in, so whoever holds either credential can be issued the other's identity and role")

def validateCreate (U : Unicode) (req : Option AdmissionRequest) (list : Listing) (obj : FrameUser) : Except String Unit := do
  guardPasswordHash req "" obj.passwordHash
  requireEmailUnclaimed U list obj.spec.email obj.key.name
  if obj.spec.role ≠ roleAdmin then return
  -- the first admin is created by nobody who is one
  let anyAdmin ← anyAdminExists list
  if !anyAdmin then return
  requireAdminRequester req ("create a FrameUser with spec.role: " ++ goQuote obj.spec.role)

def validateUpdate (U : Unicode) (req : Option AdmissionRequest) (list : Listing) (oldObj newObj : FrameUser) :
    Except String Unit := do
  guardPasswordHash req oldObj.passwordHash newObj.passwordHash
  if oldObj.spec.role ≠ newObj.spec.role then
    requireAdminRequester req ("change spec.role from " ++ goQuote oldObj.spec.role ++ " to " ++ goQuote newObj.spec.role)
  if isEnabled oldObj.spec.state ≠ isEnabled newObj.spec.state then
    requireAdminRequester req ("change spec.state from " ++ goQuote (stateOrEnabled oldObj.spec.state) ++ " to " ++
      goQuote (stateOrEnabled newObj.spec.state))
  if oldObj.spec.email ≠ newObj.spec.email then
    requireAdminRequester req ("change spec.email from " ++ goQuote oldObj.spec.email ++ " to " ++ goQuote newObj.spec.email)
    requireEmailUnclaimed U list newObj.spec.email newObj.key.name
  if oldObj.spec.role = roleAdmin && isEnabled oldObj.spec.state && !isEnabled newObj.spec.state then
    requireAnotherAdmin list oldObj.key.name
  else if oldObj.spec.role ≠ roleAdmin || newObj.spec.role = roleAdmin then
    return
  else
    requireAnotherAdmin list oldObj.key.name

def validateDelete (req : Option AdmissionRequest) (list : Listing) (obj : FrameUser) : Except String Unit := do
  if obj.spec.role ≠ roleAdmin then return
  requireAdminRequester req ("delete admin FrameUser " ++ goQuote obj.key.name)
  requireAnotherAdmin list obj.key.name

/-! ## Writes of the main resource -/

/-- A write of the main resource. It says nothing of credentials: those are part of the status. -/
inductive Write where
  | create (key : Key) (spec : FrameUserSpec) (passwordHash : String)
  | update (key : Key) (spec : FrameUserSpec) (passwordHash : String)
  | delete (key : Key)

/-- The account a write is about. -/
def Write.key : Write → Key
  | create key _ _ | update key _ _ | delete key => key

def review (U : Unicode) (req : Option AdmissionRequest) (list : Listing) (d : Directory) : Write → Except String Unit
  | .create key spec hash => validateCreate U req list { key := key, spec := spec, passwordHash := hash }
  | .update key spec hash =>
    match d.value? key with
    | none => .error (goQuote key.name ++ " not found")
    | some old => validateUpdate U req list old { old with spec := spec, passwordHash := hash }
  | .delete key =>
    match d.value? key with
    | none => .error (goQuote key.name ++ " not found")
    | some old => validateDelete req list old

/-- A write that has been reviewed, committed. A create leaves an account of the same key alone. -/
def commit (d : Directory) : Write → Directory
  | .create key spec hash => d.create { key := key, spec := spec, passwordHash := hash }
  | .update key spec hash => d.modify key (fun u => { u with spec := spec, passwordHash := hash }) fun _ => rfl
  | .delete key => d.remove key

/-- A write, reviewed against the accounts as they are, and committed if not refused. -/
def write (U : Unicode) (d : Directory) (w : Option AdmissionRequest × Write) : Directory :=
  match review U w.1 (.ok d.users) d w.2 with
  | .error _ => d
  | .ok () => commit d w.2

end FrameOperator.Accounts
