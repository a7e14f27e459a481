import FrameOperator.Lib.GoFormat
import FrameOperator.Lib.Keyed

/-!
# What a machine's status says of its storage and its links

The parts of `status.inventory`, `status.storage` and `status.network` of a FrameMachine (`api/frame/v1beta1`) that the health
checks read, and the two policies. Counts have the width of the source; a percentage, a speed or a rate is the number reported.
-/

namespace FrameOperator.Storage

/-! ## The node's stacks -/

inductive StackState where
  | present
  | absent
  | error
  | busy
  | other (text : String)

structure MDMember where
  device : String
  serial : String := ""
  failed : Bool := false

structure MDArray where
  name : String
  level : String := ""
  state : String := ""
  raidDisks : Int := 0
  activeDisks : Int := 0
  slots : String := ""
  degraded : Bool := false
  members : List MDMember := []

structure MDStatus where
  state : StackState
  error : String := ""
  arrays : List MDArray := []
  arraysOmitted : Int32 := 0

structure ZVdev where
  name : String
  state : String := ""
  readErrors : Int64 := 0
  writeErrors : Int64 := 0
  checksumErrors : Int64 := 0

structure ZPool where
  name : String
  health : String := ""
  capacityPercent : Option Int := none
  scan : String := ""
  scrubErrors : Option Int32 := none
  lastScrub : String := ""
  vdevs : List ZVdev := []
  vdevsOmitted : Int32 := 0

structure ZFSStatus where
  state : StackState
  error : String := ""
  pools : List ZPool := []
  poolsOmitted : Int32 := 0

structure LocalStorage where
  zfs : ZFSStatus
  md : MDStatus

/-! ## Disks, as the node and the BMC see them -/

structure DiskSMART where
  passed : Option Bool := none
  wearUsedPercent : Option Int := none

structure ObservedDisk where
  path : String := ""
  serialNumber : String
  model : String := ""
  rotational : Option Bool := none
  smart : Option DiskSMART := none

structure MachineStorage where
  observed : List ObservedDisk := []
  observedAt : Option Time := none
  localStorage : Option LocalStorage := none

structure DriveInfo where
  model : String := ""
  serialNumber : String := ""
  location : String := ""
  mediaType : String := ""
  ssdEnduranceUsedPercent : Option Int := none

structure MachineInventory where
  drives : List DriveInfo := []

/-! ## The node's links -/

structure LinkTraffic where
  historySeconds : Int
  capacityMbps : Option Int := none
  sustainedUtilizationPercent : Option Int := none
  errorsPerMinute : Int

structure NetworkInterface where
  name : String
  operState : String := ""
  speedMbps : Option Int := none
  traffic : Option LinkTraffic := none

structure BondMember where
  name : String
  miiStatus : String := ""
  aggregatorID : Int32 := 0

structure NetworkBond where
  name : String
  mode : String := ""
  miiStatus : String := ""
  aggregatorID : Int32 := 0
  traffic : Option LinkTraffic := none
  members : List BondMember := []
  membersOmitted : Int32 := 0
  membersUnread : Bool := false
  adminDown : Bool := false

structure MachineNetwork where
  observedAt : Option Time := none
  error : String := ""
  interfaces : List NetworkInterface := []
  interfacesOmitted : Int32 := 0
  bonds : List NetworkBond := []
  bondsOmitted : Int32 := 0

structure MachineStatus where
  inventory : Option MachineInventory := none
  storage : Option MachineStorage := none
  network : Option MachineNetwork := none

/-! ## The policies -/

structure StorageHealthPolicySpec where
  zfsCapacityPercent : Int := 0
  ssdWearPercent : Int := 0

structure ExpectedLink where
  node : String
  interface : String
  speedMbps : Int := 0
  members : Int32 := 0

structure NetworkHealthPolicySpec where
  minLinkSpeedMbps : Int := 0
  linkSaturatedPercent : Int := 0
  linkErrorsPerMinute : Int := 0
  links : List ExpectedLink := []

def defaultZFSCapacityPercent : Int := 80

def defaultSSDWearPercent : Int := 80

def defaultMinLinkSpeedMbps : Int := 1000

def defaultLinkSaturatedPercent : Int := 80

def defaultLinkErrorsPerMinute : Int := 1

/-- `StorageHealthPolicySpec` with its zero values resolved. -/
structure Thresholds where
  zfsCapacityPercent : Int
  ssdWearPercent : Int

def orDefault (setting default : Int) : Int := if setting > 0 then setting else default

/-- `ThresholdsFrom`. -/
def thresholdsFrom (p : Option StorageHealthPolicySpec) : Thresholds where
  zfsCapacityPercent := (p.map fun p => orDefault p.zfsCapacityPercent defaultZFSCapacityPercent).getD defaultZFSCapacityPercent
  ssdWearPercent := (p.map fun p => orDefault p.ssdWearPercent defaultSSDWearPercent).getD defaultSSDWearPercent

/-- The NetworkHealthPolicy as it applies to one node; `unread` is why it could not be read. -/
structure NetExpectations where
  minSpeedMbps : Int
  saturatedPercent : Int
  errorsPerMinute : Int
  links : Keyed ExpectedLink ExpectedLink.interface
  unread : String := ""

def expect (links : Keyed ExpectedLink ExpectedLink.interface) (l : ExpectedLink) : Keyed ExpectedLink ExpectedLink.interface :=
  (links.erase l.interface).insertNew l

/-- `NetExpectationsFrom`. -/
def netExpectationsFrom (p : Option NetworkHealthPolicySpec) (node : String) : NetExpectations :=
  match p with
  | none =>
    { minSpeedMbps := defaultMinLinkSpeedMbps
      saturatedPercent := defaultLinkSaturatedPercent
      errorsPerMinute := defaultLinkErrorsPerMinute
      links := .empty }
  | some p =>
    { minSpeedMbps := orDefault p.minLinkSpeedMbps defaultMinLinkSpeedMbps
      saturatedPercent := orDefault p.linkSaturatedPercent defaultLinkSaturatedPercent
      errorsPerMinute := orDefault p.linkErrorsPerMinute defaultLinkErrorsPerMinute
      links := (p.links.filter fun l => l.node = node).foldl expect .empty }

end FrameOperator.Storage
