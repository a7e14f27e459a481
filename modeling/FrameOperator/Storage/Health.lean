import FrameOperator.Storage.Types

/-!
# The health checks of a machine's storage

`internal/storage/health.go`, without the links. The methods of `*Assessment` are modelled by what they add to the assessment, in
order; a map that a method writes to is the list of what was written. What already fires comes in as a table.
-/

namespace FrameOperator.Storage

/-- The conditions, which are also the alert names. -/
inductive Check where
  | degraded
  | scrubErrors
  | capacityHigh
  | wearHigh
  | netDegraded
  | linkSlow
  | saturated
  | linkErrors
  | other (name : String)
  deriving DecidableEq

/-- The reading a check rests on. -/
inductive Scope where
  | md
  | zfs
  | drives
  | smart
  | net
  | netExpected
  | netState
  | netTraffic
  | netSustained
  | other (name : String)
  deriving DecidableEq

def Scope.name : Scope → String
  | md => "md"
  | zfs => "zfs"
  | drives => "drives"
  | smart => "smart"
  | net => "network"
  | netExpected => "network-expected"
  | netState => "network-state"
  | netTraffic => "network-traffic"
  | netSustained => "network-sustained"
  | other name => name

/-- `checkScopes`: which readings each check needs. -/
def checkScopes : Check → List Scope
  | .degraded => [.md, .zfs, .smart]
  | .scrubErrors => [.zfs]
  | .capacityHigh => [.zfs]
  | .wearHigh => [.drives]
  | .netDegraded => [.net, .netState]
  | .linkSlow => [.net]
  | .saturated => [.net, .netSustained]
  | .linkErrors => [.net, .netTraffic]
  | .other _ => []

inductive Severity where
  | critical
  | warning

def capacityHysteresis : Int := 2

def maxInventoryDrives : Nat := 32

def maxObservedDisks : Nat := 64

def mediaSSD : String := "SSD"

/-- Ten minutes. -/
def agentSilentAfter : Duration := 600 * Time.nanosPerSecond

/-- One alert on one machine. -/
structure Key where
  check : Check
  device : String
  deriving DecidableEq

/-- An alert that fires, and the scope it rests on. -/
structure OpenAlert where
  key : Key
  scope : Scope

abbrev Open : Type := Keyed OpenAlert OpenAlert.key

def Open.has (opened : Open) (k : Key) : Bool := (opened.get? k).isSome

/-- One thing wrong now. -/
structure Finding extends Key where
  scope : Scope
  severity : Severity
  message : String

/-- The outcome of one pass. -/
structure Assessment where
  findings : List Finding := []
  -- the scopes that could not be read, and why
  unread : List (Scope × String) := []
  -- the scopes that were read in part, and why
  cut : List (Scope × String) := []
  -- the open alerts that the reading says nothing about, although their scope was read
  held : List Key := []
  wearUnreported : Nat := 0
  smartSilent : List String := []
  speedUnreported : Nat := 0
  capacityUnreported : Nat := 0

/-- What is added by one, and then by another. -/
def Assessment.append (a b : Assessment) : Assessment where
  findings := a.findings ++ b.findings
  unread := a.unread ++ b.unread
  cut := a.cut ++ b.cut
  held := a.held ++ b.held
  wearUnreported := a.wearUnreported + b.wearUnreported
  smartSilent := a.smartSilent ++ b.smartSilent
  speedUnreported := a.speedUnreported + b.speedUnreported
  capacityUnreported := a.capacityUnreported + b.capacityUnreported

instance : Append Assessment := ⟨Assessment.append⟩

/-- What is added over a list. -/
def Assessment.gather {α : Type} (f : α → Assessment) (l : List α) : Assessment := l.foldr (fun x a => f x ++ a) {}

/-- `add`. -/
def Assessment.add (check : Check) (device : String) (scope : Scope) (severity : Severity) (message : String) : Assessment :=
  { findings := [{ check, device, scope, severity, message }] }

def why? (written : List (Scope × String)) (scope : Scope) : Option String :=
  (written.reverse.find? fun w => w.1 = scope).map Prod.snd

def Assessment.isUnread (a : Assessment) (scope : Scope) : Bool := (why? a.unread scope).isSome

def hold (opened : Open) (k : Key) : Assessment := if opened.has k then { held := [k] } else {}

/-- `holdUnlisted`: the open alerts of a scope whose device the read did not list stay. -/
def holdUnlisted (opened : Open) (scope : Scope) (listed : List String) : Assessment :=
  { held := (opened.items.filter fun o => o.scope = scope && !listed.contains o.key.device).map OpenAlert.key }

/-! ## md and ZFS -/

/-- `stackUnread`: why the lists of a stack are not to be looked at, or nothing. -/
def stackUnread (state : StackState) (errText : String) : String :=
  match state with
  | .present | .absent => ""
  | .error => "read failed: " ++ errText
  | .busy => "previous read still running on the node"
  | .other text => "unknown stack state " ++ goQuote text

def serialNote (serial : String) : String := if serial = "" then "" else " (serial " ++ serial ++ ")"

def mdMessage (arr : MDArray) : String :=
  let failed := (arr.members.filter MDMember.failed).map fun m => m.device ++ serialNote m.serial
  let msg := "md array " ++ arr.name ++ " (" ++ arr.level ++ ") is degraded: state " ++
    arr.state ++ ", " ++ toString arr.activeDisks ++
    " of " ++ toString arr.raidDisks ++ " disks active, slots [" ++ arr.slots ++ "]"
  if failed.isEmpty then msg else msg ++ "; failed: " ++ ", ".intercalate failed

/-- The body of the loop of `assessMD`. -/
def assessArray (arr : MDArray) : Assessment :=
  if arr.degraded then .add .degraded arr.name .md .critical (mdMessage arr) else {}

def assessMD (md : MDStatus) (opened : Open) : Assessment :=
  let why := stackUnread md.state md.error
  if why ≠ "" then { unread := [(.md, why)] }
  else
    .gather assessArray md.arrays ++ holdUnlisted opened .md (md.arrays.map MDArray.name) ++
      if md.arraysOmitted > 0 then { cut := [(.md, toString md.arraysOmitted ++ " array(s) past the agent's list limit")] } else {}

/-- What `poolProblems` says of one vdev. -/
def vdevProblem (v : ZVdev) : Option String :=
  if ["DEGRADED", "FAULTED", "OFFLINE", "UNAVAIL", "REMOVED"].contains v.state then some (v.name ++ " (" ++ v.state ++ ")")
  else if v.readErrors + v.writeErrors + v.checksumErrors > 0 then some (v.name ++ " (errors)")
  else none

def poolProblems (p : ZPool) : String :=
  let bad := p.vdevs.filterMap vdevProblem
  if (p.health = "" || p.health = "ONLINE") && bad.isEmpty then ""
  else
    let msg := "pool " ++ p.name ++ " is " ++ p.health
    if bad.isEmpty then msg else msg ++ ": " ++ ", ".intercalate bad

/-- The percentage that a pool is held against: an open alert clears below the threshold. -/
def capacityLimit (t : Thresholds) (opened : Open) (pool : String) : Int :=
  if opened.has ⟨.capacityHigh, pool⟩ then t.zfsCapacityPercent - capacityHysteresis else t.zfsCapacityPercent

def assessPoolHealth (p : ZPool) (opened : Open) : Assessment :=
  let msg := poolProblems p
  if msg ≠ "" then .add .degraded p.name .zfs .critical msg
  else if p.vdevsOmitted > 0 || p.health = "" then
    { cut := [(.zfs, "pool " ++ p.name ++ " was not read in full")] } ++ hold opened ⟨.degraded, p.name⟩
  else {}

def assessPoolScrub (p : ZPool) (opened : Open) : Assessment :=
  match p.scrubErrors with
  | some errors =>
    if errors > 0 then
      .add .scrubErrors p.name .zfs .critical
        ("pool " ++ p.name ++ ": last scrub found " ++ toString errors ++ " errors (" ++ p.lastScrub ++ ")")
    else {}
  | none => if p.scan ≠ "none requested" then hold opened ⟨.scrubErrors, p.name⟩ else {}

def assessPoolCapacity (p : ZPool) (t : Thresholds) (opened : Open) : Assessment :=
  match p.capacityPercent with
  | none => hold opened ⟨.capacityHigh, p.name⟩
  | some capacity =>
    if capacity ≥ capacityLimit t opened p.name then
      .add .capacityHigh p.name .zfs .warning
        ("pool " ++ p.name ++ " is over the capacity threshold of " ++ toString t.zfsCapacityPercent ++ " %")
    else {}

def assessPool (p : ZPool) (t : Thresholds) (opened : Open) : Assessment :=
  assessPoolHealth p opened ++ assessPoolScrub p opened ++ assessPoolCapacity p t opened

def assessZFS (z : ZFSStatus) (t : Thresholds) (opened : Open) : Assessment :=
  let why := stackUnread z.state z.error
  if why ≠ "" then { unread := [(.zfs, why)] }
  else
    .gather (assessPool · t opened) z.pools ++ holdUnlisted opened .zfs (z.pools.map ZPool.name) ++
      if z.poolsOmitted > 0 then { cut := [(.zfs, toString z.poolsOmitted ++ " pool(s) past the agent's list limit")] } else {}

/-- The stacks of a node whose agent does not report. -/
def localUnread (why : String) : Assessment := { unread := [(.md, why), (.zfs, why), (.smart, why)] }

/-- A report that has aged for too long, or that was never made. -/
def silent (observedAt : Option Time) (now : Time) : Bool :=
  match observedAt with
  | none => true
  | some t => now - t > agentSilentAfter

def assessLocal (s : Option MachineStorage) (t : Thresholds) (opened : Open) (now : Time) : Assessment :=
  match s.bind fun s => s.localStorage.map fun l => (s, l) with
  | none => localUnread "the agent has not reported the node's stacks"
  | some (s, l) =>
    if silent s.observedAt now then localUnread "the agent has stopped reporting"
    else assessMD l.md opened ++ assessZFS l.zfs t opened

/-! ## Drives and disks -/

/-- `smartReportsWear`: the disk itself gives the figure its BMC does not, in a report still current. -/
def smartReportsWear (smartUnread : Bool) (s : Option MachineStorage) (serial : String) : Bool :=
  if smartUnread then false
  else
    match s with
    | none => false
    | some s => s.observed.any fun d => d.serialNumber = serial && (d.smart.bind DiskSMART.wearUsedPercent).isSome

def DriveInfo.device (d : DriveInfo) : String := if d.serialNumber = "" then d.location else d.serialNumber

/-- The body of the loop of `assessDrives`. -/
def assessDrive (smartUnread : Bool) (s : Option MachineStorage) (t : Thresholds) (opened : Open) (d : DriveInfo) : Assessment :=
  match d.ssdEnduranceUsedPercent with
  | some used =>
    if used ≥ t.ssdWearPercent then
      .add .wearHigh d.device .drives .warning
        ("drive " ++ d.device ++ " (bay " ++ d.location ++ ", " ++ d.model ++ ") has used " ++ toString used ++ " % of its endurance")
    else {}
  | none =>
    if smartReportsWear smartUnread s d.serialNumber then {}
    else hold opened ⟨.wearHigh, d.device⟩ ++ if d.mediaType = mediaSSD then { wearUnreported := 1 } else {}

def assessDrives (smartUnread : Bool) (inv : Option MachineInventory) (s : Option MachineStorage) (t : Thresholds) (fresh : Bool)
    (opened : Open) : Assessment :=
  if !fresh then { unread := [(.drives, "the BMC did not answer the last probe")] }
  else
    let drives := (inv.map MachineInventory.drives).getD []
    if drives.isEmpty then { unread := [(.drives, "the BMC lists no drives")] }
    else
      .gather (assessDrive smartUnread s t opened) drives ++ holdUnlisted opened .drives (drives.map DriveInfo.device) ++
        if drives.length ≥ maxInventoryDrives then
          { cut := [(.drives, "the inventory holds " ++ toString maxInventoryDrives ++ " drives at most")] }
        else {}

/-- `maybeSolidState`: every disk not known to spin. -/
def maybeSolidState (d : ObservedDisk) : Bool := d.rotational ≠ some true

/-- `wearOwed`: a solid-state disk needs its own figure and `assessDrives` has not counted it. -/
def wearOwed (bmc : Option DriveInfo) : Bool :=
  match bmc with
  | none => true
  | some bmc => bmc.ssdEnduranceUsedPercent.isNone && bmc.mediaType ≠ mediaSSD

def bmcDrive (inv : Option MachineInventory) (serial : String) : Option DriveInfo :=
  inv.bind fun inv => inv.drives.find? fun d => d.serialNumber = serial

def readOwed (d : ObservedDisk) (bmc : Option DriveInfo) : Bool :=
  d.smart.isSome || maybeSolidState d || (bmc.map DriveInfo.mediaType = some mediaSSD)

def assessDiskHealth (d : ObservedDisk) (bmc : Option DriveInfo) (opened : Open) : Assessment :=
  match d.smart.bind DiskSMART.passed with
  | none => (if readOwed d bmc then { smartSilent := [d.serialNumber] } else {}) ++ hold opened ⟨.degraded, d.serialNumber⟩
  | some true => {}
  | some false =>
    .add .degraded d.serialNumber .smart .critical
      ("disk " ++ d.serialNumber ++ " (" ++ d.path ++ ", " ++ d.model ++ ") reports a failing SMART self-assessment")

/-- Wear only where the BMC gives none: one figure per disk, and the BMC's comes first. -/
def assessDiskWear (d : ObservedDisk) (bmc : Option DriveInfo) (t : Thresholds) (opened : Open) : Assessment :=
  if (bmc.bind DriveInfo.ssdEnduranceUsedPercent).isSome then {}
  else
    match d.smart.bind DiskSMART.wearUsedPercent with
    | none => hold opened ⟨.wearHigh, d.serialNumber⟩ ++ if readOwed d bmc && wearOwed bmc then { wearUnreported := 1 } else {}
    | some used =>
      if used ≥ t.ssdWearPercent then
        .add .wearHigh d.serialNumber .smart .warning
          ("disk " ++ d.serialNumber ++ " (" ++ d.path ++ ", " ++ d.model ++ ") has used " ++ toString used ++ " % of its endurance")
      else {}

/-- The body of the loop of `assessSMART`. -/
def assessDisk (inv : Option MachineInventory) (t : Thresholds) (opened : Open) (d : ObservedDisk) : Assessment :=
  assessDiskHealth d (bmcDrive inv d.serialNumber) opened ++ assessDiskWear d (bmcDrive inv d.serialNumber) t opened

def assessSMART (smartUnread : Bool) (s : Option MachineStorage) (inv : Option MachineInventory) (t : Thresholds) (opened : Open) :
    Assessment :=
  match s with
  | none => {}
  | some s =>
    if smartUnread then
      -- nothing current from the agent: only the BMC can speak for a disk now
      { wearUnreported := (s.observed.filter fun d => maybeSolidState d && wearOwed (bmcDrive inv d.serialNumber)).length }
    else
      .gather (assessDisk inv t opened) s.observed ++ holdUnlisted opened .smart (s.observed.map ObservedDisk.serialNumber) ++
        if s.observed.length ≥ maxObservedDisks then
          { cut := [(.smart, "the agent lists " ++ toString maxObservedDisks ++ " disks at most")] }
        else {}

end FrameOperator.Storage
