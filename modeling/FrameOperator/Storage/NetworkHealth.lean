import FrameOperator.Storage.Health

/-!
# The health checks of a node's links, and the verdict

`internal/storage/network_health.go`, and `Assess`, `Keeps` and `Verdict` of `health.go`.
-/

namespace FrameOperator.Storage

def modeLACP : String := "802.3ad"

def saturationHysteresis : Int := 5

def fullHistorySeconds : Int := 285

def memberDevice (bond member : String) : String := bond ++ "/" ++ member

def NetExpectations.named (e : NetExpectations) (name : String) : Bool := (e.links.get? name).isSome

/-- `unsure`: a device listed with a field that says nothing. -/
def unsure (k : Key) (opened : Open) (why : String) : Assessment := hold opened k ++ { cut := [(.netState, why)] }

/-! ## Traffic -/

def assessErrors (name : String) (t : LinkTraffic) (e : NetExpectations) (opened : Open) : Assessment :=
  if t.errorsPerMinute ≥ e.errorsPerMinute then
    .add .linkErrors name .net .warning ("link " ++ name ++ " is counting errors")
  else if t.historySeconds < fullHistorySeconds then
    hold opened ⟨.linkErrors, name⟩ ++ { cut := [(.netTraffic, "link " ++ name ++ " has under five minutes of readings")] }
  else {}

/-- The utilisation that a link is held against. -/
def saturationLimit (e : NetExpectations) (opened : Open) (name : String) : Int :=
  if opened.has ⟨.saturated, name⟩ then max 1 (e.saturatedPercent - saturationHysteresis) else e.saturatedPercent

def assessSaturation (name : String) (t : LinkTraffic) (up : Bool) (e : NetExpectations) (opened : Open) : Assessment :=
  match t.capacityMbps, t.sustainedUtilizationPercent with
  | none, _ => hold opened ⟨.saturated, name⟩ ++ if up then { capacityUnreported := 1 } else {}
  | some _, none =>
    hold opened ⟨.saturated, name⟩ ++ { cut := [(.netSustained, "link " ++ name ++ " has under five minutes of readings")] }
  | some _, some used =>
    if used ≥ saturationLimit e opened name then
      .add .saturated name .net .warning
        ("link " ++ name ++ " is near its speed over five minutes, threshold " ++ toString e.saturatedPercent ++ " %")
    else {}

/-- `assessTraffic`: no figure closes anything. -/
def assessTraffic (name : String) (t : Option LinkTraffic) (carrying up : Bool) (e : NetExpectations) (opened : Open) : Assessment :=
  let holdBoth := hold opened ⟨.saturated, name⟩ ++ hold opened ⟨.linkErrors, name⟩
  if !carrying then holdBoth
  else
    match t with
    | none =>
      let why := "link " ++ name ++ " has no rates"
      holdBoth ++ { cut := [(.netTraffic, why), (.netSustained, why)] }
    | some t => assessErrors name t e opened ++ assessSaturation name t up e opened

/-! ## Ports -/

/-- `"unknown"` is the kernel's own word for a driver that does not track the state. -/
def NetworkInterface.carrying (i : NetworkInterface) : Bool := i.operState = "up" || i.operState = "unknown"

/-- The speed that a port has to reach. -/
def wantedSpeed (e : NetExpectations) (name : String) : Int :=
  match e.links.get? name with
  | none => e.minSpeedMbps
  | some l => if l.speedMbps > 0 then l.speedMbps else e.minSpeedMbps

def assessState (i : NetworkInterface) (e : NetExpectations) (opened : Open) : Assessment :=
  if e.named i.name && i.operState = "unknown" then
    unsure ⟨.netDegraded, i.name⟩ opened ("link " ++ i.name ++ " gives no state")
  else if e.named i.name && i.operState ≠ "up" then
    .add .netDegraded i.name .net .critical ("expected link " ++ i.name ++ " is " ++ i.operState)
  else {}

def assessSpeed (i : NetworkInterface) (e : NetExpectations) (opened : Open) : Assessment :=
  match (if i.carrying then i.speedMbps else none) with
  | none => hold opened ⟨.linkSlow, i.name⟩ ++ if i.operState = "up" then { speedUnreported := 1 } else {}
  | some speed =>
    if speed < wantedSpeed e i.name then
      .add .linkSlow i.name .net .warning
        ("link " ++ i.name ++ " runs at " ++ toString speed ++ " Mb/s, " ++ toString (wantedSpeed e i.name) ++ " expected")
    else {}

def assessInterface (i : NetworkInterface) (e : NetExpectations) (opened : Open) : Assessment :=
  assessTraffic i.name i.traffic i.carrying (i.operState = "up") e opened ++
    if i.operState = "" then
      let why := "link " ++ i.name ++ " gives no state"
      unsure ⟨.netDegraded, i.name⟩ opened why ++ unsure ⟨.linkSlow, i.name⟩ opened why ++ { cut := [(.net, why)] }
    else assessState i e opened ++ assessSpeed i e opened

/-! ## Bonds -/

/-- The bond that loading the module makes: it counts only if the policy names it. -/
def NetworkBond.unused (b : NetworkBond) (e : NetExpectations) : Bool :=
  !e.named b.name && b.adminDown && !b.membersUnread && b.members.isEmpty

/-- How many members the policy wants of a bond. -/
def wantedMembers (e : NetExpectations) (name : String) : Int32 := ((e.links.get? name).map ExpectedLink.members).getD 0

/-- What `assessBond` finds wrong with the bond itself. -/
def bondProblems (b : NetworkBond) (e : NetExpectations) : List String :=
  (if b.miiStatus = "up" || b.unused e || b.miiStatus = "" then [] else ["is " ++ b.miiStatus]) ++
    if !b.membersUnread && wantedMembers e b.name > 0 && Int32.ofNat b.members.length + b.membersOmitted < wantedMembers e b.name then
      ["holds " ++ toString b.members.length ++ " member(s), " ++ toString (wantedMembers e b.name) ++ " expected"]
    else []

/-- What `assessBond` finds wrong with a member. -/
def memberProblems (b : NetworkBond) (m : BondMember) : List String :=
  (if m.miiStatus ≠ "" && m.miiStatus ≠ "up" then ["link " ++ m.miiStatus] else []) ++
    if b.mode = modeLACP && b.aggregatorID > 0 && m.aggregatorID > 0 && m.aggregatorID ≠ b.aggregatorID then
      ["in aggregator " ++ toString m.aggregatorID ++ ", the bond uses " ++ toString b.aggregatorID]
    else []

/-- A member of which the status is not known. -/
def memberSilent (b : NetworkBond) (m : BondMember) : Bool :=
  m.miiStatus = "" || b.mode = "" || (b.mode = modeLACP && (b.aggregatorID = 0 || m.aggregatorID = 0))

def assessMember (b : NetworkBond) (opened : Open) (m : BondMember) : Assessment :=
  if !(memberProblems b m).isEmpty then
    .add .netDegraded (memberDevice b.name m.name) .net .warning
      ("bond " ++ b.name ++ " member " ++ m.name ++ ": " ++ ", ".intercalate (memberProblems b m))
  else if memberSilent b m then
    unsure ⟨.netDegraded, memberDevice b.name m.name⟩ opened ("bond " ++ b.name ++ " member " ++ m.name ++ " gives no status")
  else {}

def assessBond (b : NetworkBond) (e : NetExpectations) (opened : Open) : Assessment :=
  let key : Key := ⟨.netDegraded, b.name⟩
  -- an empty status is a read that said nothing, not a bond that is down
  assessTraffic b.name b.traffic (b.miiStatus ≠ "down") (b.miiStatus = "up") e opened ++
    (if b.miiStatus = "" && !b.unused e then unsure key opened ("bond " ++ b.name ++ " gives no status") else {}) ++
    (if b.mode = "" then unsure key opened ("bond " ++ b.name ++ " gives no mode") else {}) ++
    (if b.membersUnread then unsure key opened ("bond " ++ b.name ++ ": its members could not be read") else {}) ++
    (if (bondProblems b e).isEmpty then {}
      else .add .netDegraded b.name .net .critical ("bond " ++ b.name ++ " " ++ ", ".intercalate (bondProblems b e))) ++
    (if b.membersOmitted > 0 then
        { cut := [(.net, "bond " ++ b.name ++ ": " ++ toString b.membersOmitted ++ " member(s) past the agent's list limit")] }
      else {}) ++
    .gather (assessMember b opened) b.members

/-! ## The node -/

def NetworkBond.listed (b : NetworkBond) : List String := b.name :: b.members.map fun m => memberDevice b.name m.name

def MachineNetwork.listed (n : MachineNetwork) : List String :=
  n.interfaces.map NetworkInterface.name ++ n.bonds.flatMap NetworkBond.listed

/-- Why a report may lack links, or nothing. -/
def MachineNetwork.cutBy (n : MachineNetwork) : Option String :=
  if n.interfacesOmitted > 0 || n.bondsOmitted > 0 then
    some (toString n.interfacesOmitted ++ " port(s) and " ++ toString n.bondsOmitted ++ " bond(s) past the agent's list limit")
  else if n.listed.isEmpty then some "the agent lists no port and no bond"
  else none

/-- A link that the policy names and that the report does not list. -/
def assessExpected (n : MachineNetwork) (opened : Open) (l : ExpectedLink) : Assessment :=
  if n.listed.contains l.interface then {}
  else if n.cutBy.isSome then hold opened ⟨.netDegraded, l.interface⟩
  else .add .netDegraded l.interface .netExpected .critical ("expected link " ++ l.interface ++ " is not on the node")

/-- Why the links are not assessed, or nothing. -/
def netUnread (n : Option MachineNetwork) (e : NetExpectations) (now : Time) : Option String :=
  if e.unread ≠ "" then some e.unread
  else
    match n with
    | none => some "the agent has not reported the node's links"
    | some n =>
      if n.error ≠ "" then some ("read failed: " ++ n.error)
      else if silent n.observedAt now then some "the agent has stopped reporting"
      else none

def assessLinks (n : MachineNetwork) (e : NetExpectations) (opened : Open) : Assessment :=
  .gather (assessInterface · e opened) n.interfaces ++ .gather (assessBond · e opened) n.bonds ++
    { cut := n.cutBy.toList.map fun why => (.net, why) } ++ .gather (assessExpected n opened) e.links.items ++
    holdUnlisted opened .net n.listed

def assessNetwork (n : Option MachineNetwork) (e : NetExpectations) (opened : Open) (now : Time) : Assessment :=
  match netUnread n e now with
  | some why => { unread := [(.net, why), (.netExpected, why)] }
  | none => (n.map fun n => assessLinks n e opened).getD {}

/-! ## The machine -/

/-- `Assess`: `fresh` is whether the BMC answered this pass. -/
def assess (st : MachineStatus) (t : Thresholds) (e : NetExpectations) (fresh : Bool) (opened : Open) (now : Time) : Assessment :=
  let node := assessLocal st.storage t opened now
  let smartUnread := node.isUnread .smart
  node ++ assessDrives smartUnread st.inventory st.storage t fresh opened ++
    assessSMART smartUnread st.storage st.inventory t opened ++ assessNetwork st.network e opened now

/-- `Keeps`: an open alert stays open although no finding backs it. -/
def Assessment.keeps (a : Assessment) (k : Key) (scope : Scope) : Bool := a.isUnread scope || a.held.contains k

inductive ConditionStatus where
  | true
  | false
  | unknown
  deriving DecidableEq

/-- One condition's value. -/
structure Verdict where
  status : ConditionStatus
  reason : String
  message : String

def clipRunes (s : String) (n : Nat) : String := if s.length ≤ n then s else String.ofList (s.toList.take n)

def maxConditionMessage : Nat := 1024

/-- What is said of a scope that was not read, or not in full. -/
def Assessment.unavailable (a : Assessment) (scope : Scope) : Option String :=
  ((why? a.unread scope).or (why? a.cut scope)).map fun why => scope.name ++ ": " ++ why

/-- What `Verdict` says where no alert of a check fires or stays. -/
def Assessment.quietVerdict (a : Assessment) (check : Check) : Verdict :=
  let unread := (checkScopes check).filterMap a.unavailable ++
    if check = .degraded && !a.smartSilent.isEmpty then
      [Scope.smart.name ++ ": nothing read from " ++ ", ".intercalate a.smartSilent]
    else []
  if !unread.isEmpty then ⟨.unknown, "ReadUnavailable", clipRunes ("; ".intercalate unread) maxConditionMessage⟩
  else
    -- not through `checkScopes`: a silent agent must leave the BMC's figures standing
    match (if check = .wearHigh then why? a.cut .smart else none) with
    | some why => ⟨.unknown, "ReadUnavailable", Scope.smart.name ++ ": " ++ why⟩
    | none =>
      if check = .wearHigh && a.wearUnreported > 0 then
        ⟨.unknown, "WearNotReported", "no current endurance figure for " ++ toString a.wearUnreported ++ " SSD(s)"⟩
      else if check = .linkSlow && a.speedUnreported > 0 then
        ⟨.unknown, "SpeedNotReported", toString a.speedUnreported ++ " link(s) up give no speed"⟩
      else if check = .saturated && a.capacityUnreported > 0 then
        ⟨.unknown, "SpeedNotReported", toString a.capacityUnreported ++ " link(s) up give no speed"⟩
      else ⟨.false, "Healthy", ""⟩

/-- `Verdict`: the condition of a check. -/
def Assessment.verdict (a : Assessment) (check : Check) (opened : Open) : Verdict :=
  let msgs := (a.findings.filter fun f => f.check = check).map Finding.message
  if !msgs.isEmpty then ⟨.true, "Detected", clipRunes ("; ".intercalate msgs) maxConditionMessage⟩
  else if opened.items.any fun o => o.key.check = check && a.keeps o.key o.scope then
    ⟨.true, "LastReadHeld", "an open alert could not be re-read, it stays open"⟩
  else a.quietVerdict check

end FrameOperator.Storage
