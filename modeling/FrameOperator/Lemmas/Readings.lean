import FrameOperator.Lemmas.Assessments

/-!
# What is read of each device

What an assessment makes of one array, pool, drive, disk, port or bond. Over these, what was read of a machine in a pass: all that
it is found with comes from there (`finds_assess`), and so does which alerts stay (`keeps_assess`).
-/

namespace FrameOperator.Storage

open Assessment MachineStatus NetworkInterface DiskSMART

variable {opened : Open} {k : Key} {scope : Scope} {t : Thresholds} {e : NetExpectations}

/-! ## Arrays and pools -/

variable {arr : MDArray}

@[simp] theorem finds_assessArray : (assessArray arr).finds k ↔ arr.degraded = true ∧ ⟨.degraded, arr.name⟩ = k := by
  simp [assessArray]

@[simp] theorem holds_assessArray : ¬(assessArray arr).holds k := by simp [assessArray]

@[simp] theorem cuts_assessArray : ¬(assessArray arr).cuts scope := by simp [assessArray]

@[simp] theorem misses_assessArray : ¬(assessArray arr).misses scope := by simp [assessArray]

def ZPool.readInPart (p : ZPool) : Prop := poolProblems p = "" ∧ (0 < p.vdevsOmitted ∨ p.health = "")

variable {p : ZPool}

/-- What is found in a pool. -/
@[simp] theorem finds_assessPool : (assessPool p t opened).finds k ↔
    (poolProblems p ≠ "" ∧ ⟨.degraded, p.name⟩ = k) ∨ ((∃ n, p.scrubErrors = some n ∧ 0 < n) ∧ ⟨.scrubErrors, p.name⟩ = k) ∨
      ((∃ c, p.capacityPercent = some c ∧ capacityLimit t opened p.name ≤ c) ∧ ⟨.capacityHigh, p.name⟩ = k) := by
  unfold assessPool assessPoolHealth assessPoolScrub assessPoolCapacity
  cases p.scrubErrors <;> cases p.capacityPercent <;> simp [or_assoc]

/-- Which open alerts a pool holds. -/
@[simp] theorem holds_assessPool : (assessPool p t opened).holds k ↔ opened.has k = true ∧
    ((p.readInPart ∧ k = ⟨.degraded, p.name⟩) ∨ (p.scrubErrors = none ∧ p.scan ≠ "none requested" ∧ k = ⟨.scrubErrors, p.name⟩) ∨
      (p.capacityPercent = none ∧ k = ⟨.capacityHigh, p.name⟩)) := by
  unfold assessPool assessPoolHealth assessPoolScrub assessPoolCapacity ZPool.readInPart
  by_cases h : opened.has k = true <;> by_cases hp : poolProblems p = "" <;> cases p.scrubErrors <;> cases p.capacityPercent <;>
    simp [h, hp, or_assoc]

@[simp] theorem cuts_assessPool : (assessPool p t opened).cuts scope ↔ scope = .zfs ∧ p.readInPart := by
  unfold assessPool assessPoolHealth assessPoolScrub assessPoolCapacity ZPool.readInPart
  by_cases hp : poolProblems p = "" <;> cases p.scrubErrors <;> cases p.capacityPercent <;> simp [hp, and_comm]

@[simp] theorem misses_assessPool : ¬(assessPool p t opened).misses scope := by
  unfold assessPool assessPoolHealth assessPoolScrub assessPoolCapacity
  cases p.scrubErrors <;> cases p.capacityPercent <;> simp

theorem poolProblems_eq_empty : poolProblems p = "" ↔
    (p.health = "" ∨ p.health = "ONLINE") ∧ ∀ v ∈ p.vdevs, vdevProblem v = none := by
  unfold poolProblems
  have hbad : (p.vdevs.filterMap vdevProblem).isEmpty = true ↔ ∀ v ∈ p.vdevs, vdevProblem v = none := by
    rw [List.isEmpty_iff, List.filterMap_eq_nil_iff]
  dsimp only
  split
  · rename_i h
    simp only [Bool.and_eq_true, Bool.or_eq_true, decide_eq_true_eq] at h
    exact iff_of_true rfl ⟨h.1, hbad.mp h.2⟩
  · rename_i h
    simp only [Bool.and_eq_true, Bool.or_eq_true, decide_eq_true_eq, hbad] at h
    refine iff_of_false (fun hempty => ?_) h
    have hlength := congrArg String.length hempty
    split at hlength <;> simp [String.length_append] at hlength

/-! ## Drives and disks -/

section Disks

variable {s : Option MachineStorage} {inv : Option MachineInventory} {smartUnread : Bool} {d : DriveInfo} {o : ObservedDisk}

@[simp] theorem finds_assessDrive : (assessDrive smartUnread s t opened d).finds k ↔
    (∃ used, d.ssdEnduranceUsedPercent = some used ∧ t.ssdWearPercent ≤ used) ∧ ⟨.wearHigh, d.device⟩ = k := by
  unfold assessDrive
  cases d.ssdEnduranceUsedPercent <;> simp

@[simp] theorem holds_assessDrive : (assessDrive smartUnread s t opened d).holds k ↔ opened.has k = true ∧
    d.ssdEnduranceUsedPercent = none ∧ smartReportsWear smartUnread s d.serialNumber = false ∧ k = ⟨.wearHigh, d.device⟩ := by
  unfold assessDrive
  cases d.ssdEnduranceUsedPercent with
  | some used => simp
  | none => cases smartReportsWear smartUnread s d.serialNumber <;> simp [and_comm]

@[simp] theorem cuts_assessDrive : ¬(assessDrive smartUnread s t opened d).cuts scope := by
  unfold assessDrive
  cases d.ssdEnduranceUsedPercent <;> simp

@[simp] theorem misses_assessDrive : ¬(assessDrive smartUnread s t opened d).misses scope := by
  unfold assessDrive
  cases d.ssdEnduranceUsedPercent <;> simp

/-- The BMC gives an endurance figure for a serial number. -/
def figured (inv : Option MachineInventory) (serial : String) : Bool :=
  ((bmcDrive inv serial).bind DriveInfo.ssdEnduranceUsedPercent).isSome

/-- What a disk says of its health, and of its wear. -/
def ObservedDisk.passed (o : ObservedDisk) : Option Bool := o.smart.bind DiskSMART.passed

def ObservedDisk.wear (o : ObservedDisk) : Option Int := o.smart.bind DiskSMART.wearUsedPercent

theorem findings_assessDisk : (assessDisk inv t opened o).findings = (assessDiskHealth o none opened).findings ++
    if figured inv o.serialNumber then [] else (assessDiskWear o none t opened).findings := by
  unfold assessDisk assessDiskHealth assessDiskWear figured hold
  rcases o.smart.bind passed with _ | _ | _ <;> cases o.smart.bind wearUsedPercent <;>
    cases ((bmcDrive inv o.serialNumber).bind DriveInfo.ssdEnduranceUsedPercent).isSome <;> simp [apply_ite findings]

/-- What is found in a disk. -/
@[simp] theorem finds_assessDisk : (assessDisk inv t opened o).finds k ↔
    (o.passed = some false ∧ ⟨.degraded, o.serialNumber⟩ = k) ∨
      ((figured inv o.serialNumber = false ∧ ∃ used, o.wear = some used ∧ t.ssdWearPercent ≤ used) ∧
        ⟨.wearHigh, o.serialNumber⟩ = k) := by
  unfold assessDisk assessDiskHealth assessDiskWear figured ObservedDisk.passed ObservedDisk.wear
  rcases o.smart.bind passed with _ | _ | _ <;> cases o.smart.bind wearUsedPercent <;>
    cases ((bmcDrive inv o.serialNumber).bind DriveInfo.ssdEnduranceUsedPercent).isSome <;> simp

@[simp] theorem holds_assessDisk : (assessDisk inv t opened o).holds k ↔ opened.has k = true ∧
    ((o.passed = none ∧ k = ⟨.degraded, o.serialNumber⟩) ∨
      (figured inv o.serialNumber = false ∧ o.wear = none ∧ k = ⟨.wearHigh, o.serialNumber⟩)) := by
  unfold assessDisk assessDiskHealth assessDiskWear figured ObservedDisk.passed ObservedDisk.wear
  by_cases h : opened.has k = true <;> rcases o.smart.bind passed with _ | _ | _ <;> cases o.smart.bind wearUsedPercent <;>
    cases ((bmcDrive inv o.serialNumber).bind DriveInfo.ssdEnduranceUsedPercent).isSome <;> simp [h]

@[simp] theorem cuts_assessDisk : ¬(assessDisk inv t opened o).cuts scope := by
  unfold assessDisk assessDiskHealth assessDiskWear
  rcases o.smart.bind passed with _ | _ | _ <;> cases o.smart.bind wearUsedPercent <;> simp

@[simp] theorem misses_assessDisk : ¬(assessDisk inv t opened o).misses scope := by
  unfold assessDisk assessDiskHealth assessDiskWear
  rcases o.smart.bind passed with _ | _ | _ <;> cases o.smart.bind wearUsedPercent <;> simp

end Disks

/-! ## Ports and bonds -/

section Links

def load (carrying : Bool) (traffic : Option LinkTraffic) : Option Int :=
  if carrying then traffic.bind fun t => if t.capacityMbps.isSome then t.sustainedUtilizationPercent else none else none

def errorsHigh (carrying : Bool) (traffic : Option LinkTraffic) (e : NetExpectations) : Prop :=
  carrying = true ∧ ∃ t, traffic = some t ∧ e.errorsPerMinute ≤ t.errorsPerMinute

def errorsSilent (carrying : Bool) (traffic : Option LinkTraffic) (e : NetExpectations) : Prop :=
  carrying = true → ∀ t, traffic = some t → t.errorsPerMinute < e.errorsPerMinute ∧ t.historySeconds < fullHistorySeconds

variable {name : String} {traffic : Option LinkTraffic} {carrying up : Bool}

/-- What is found in the traffic of a link. -/
@[simp] theorem finds_assessTraffic : (assessTraffic name traffic carrying up e opened).finds k ↔
    (errorsHigh carrying traffic e ∧ ⟨.linkErrors, name⟩ = k) ∨
      ((∃ used, load carrying traffic = some used ∧ saturationLimit e opened name ≤ used) ∧ ⟨.saturated, name⟩ = k) := by
  unfold assessTraffic errorsHigh load
  cases carrying with
  | false => simp
  | true =>
    cases traffic with
    | none => simp
    | some t =>
      unfold assessErrors assessSaturation
      cases hc : t.capacityMbps <;> cases hs : t.sustainedUtilizationPercent <;> simp [hc, hs]

@[simp] theorem holds_assessTraffic : (assessTraffic name traffic carrying up e opened).holds k ↔ opened.has k = true ∧
    ((load carrying traffic = none ∧ k = ⟨.saturated, name⟩) ∨ (errorsSilent carrying traffic e ∧ k = ⟨.linkErrors, name⟩)) := by
  unfold assessTraffic errorsSilent load
  cases carrying with
  | false => by_cases h : opened.has k = true <;> simp [h]
  | true =>
    cases traffic with
    | none => by_cases h : opened.has k = true <;> simp [h]
    | some t =>
      unfold assessErrors assessSaturation
      have hlow : t.errorsPerMinute < e.errorsPerMinute ↔ ¬e.errorsPerMinute ≤ t.errorsPerMinute := Int.not_le.symm
      by_cases h : opened.has k = true <;> by_cases hhigh : e.errorsPerMinute ≤ t.errorsPerMinute <;> cases hc : t.capacityMbps <;>
        cases hs : t.sustainedUtilizationPercent <;> simp [h, hhigh, hc, hs, hlow, or_comm]

@[simp] theorem misses_assessTraffic : ¬(assessTraffic name traffic carrying up e opened).misses scope := by
  unfold assessTraffic
  cases carrying with
  | false => simp
  | true =>
    cases traffic with
    | none => simp
    | some t =>
      unfold assessErrors assessSaturation
      cases hc : t.capacityMbps <;> cases hs : t.sustainedUtilizationPercent <;> simp [hc, hs]

@[simp] theorem cuts_assessTraffic : (assessTraffic name traffic carrying up e opened).cuts scope ↔ carrying = true ∧
    ((traffic = none ∧ (scope = .netTraffic ∨ scope = .netSustained)) ∨
      ∃ t, traffic = some t ∧
        ((t.errorsPerMinute < e.errorsPerMinute ∧ t.historySeconds < fullHistorySeconds ∧ scope = .netTraffic) ∨
          (t.capacityMbps.isSome = true ∧ t.sustainedUtilizationPercent = none ∧ scope = .netSustained))) := by
  unfold assessTraffic
  cases carrying with
  | false => simp
  | true =>
    cases traffic with
    | none => simp [exists_or]
    | some t =>
      unfold assessErrors assessSaturation
      have hlow : t.errorsPerMinute < e.errorsPerMinute ↔ ¬e.errorsPerMinute ≤ t.errorsPerMinute := Int.not_le.symm
      by_cases hhigh : e.errorsPerMinute ≤ t.errorsPerMinute <;> cases hc : t.capacityMbps <;>
        cases hs : t.sustainedUtilizationPercent <;> simp [hhigh, hc, hs, hlow]

variable {i : NetworkInterface}

def NetworkInterface.speed (i : NetworkInterface) : Option Int := if i.carrying then i.speedMbps else none

variable {why : String} {k' : Key}

@[simp] theorem finds_unsure : ¬(unsure k' opened why).finds k := by simp [unsure]

@[simp] theorem holds_unsure : (unsure k' opened why).holds k ↔ k = k' ∧ opened.has k = true := by simp [unsure]

@[simp] theorem cuts_unsure : (unsure k' opened why).cuts scope ↔ scope = .netState := by simp [unsure]

@[simp] theorem misses_unsure : ¬(unsure k' opened why).misses scope := by simp [unsure]

/-- A port that the policy names is not up. -/
def NetworkInterface.down (i : NetworkInterface) (e : NetExpectations) : Prop :=
  e.named i.name = true ∧ i.operState ≠ "" ∧ i.operState ≠ "unknown" ∧ i.operState ≠ "up"

def NetworkInterface.stateless (i : NetworkInterface) (e : NetExpectations) : Prop :=
  i.operState = "" ∨ (e.named i.name = true ∧ i.operState = "unknown")

theorem assessSpeed_of_stateless (h : i.operState = "") : i.speed = none := by
  simp [speed, carrying, h]

/-- What is found in a port. -/
@[simp] theorem finds_assessInterface : (assessInterface i e opened).finds k ↔
    (assessTraffic i.name i.traffic i.carrying (i.operState = "up") e opened).finds k ∨
      (i.down e ∧ ⟨.netDegraded, i.name⟩ = k) ∨
        ((∃ speed, i.speed = some speed ∧ speed < wantedSpeed e i.name) ∧ ⟨.linkSlow, i.name⟩ = k) := by
  unfold assessInterface
  rw [finds_append]
  refine or_congr Iff.rfl ?_
  by_cases hstate : i.operState = ""
  · simp [hstate, down, assessSpeed_of_stateless hstate]
  unfold assessState assessSpeed down speed
  by_cases hnamed : e.named i.name = true <;> by_cases hunknown : i.operState = "unknown" <;> by_cases hup : i.operState = "up" <;>
    cases hs : (if i.carrying then i.speedMbps else none) <;> simp_all

@[simp] theorem holds_assessInterface : (assessInterface i e opened).holds k ↔
    (assessTraffic i.name i.traffic i.carrying (i.operState = "up") e opened).holds k ∨ opened.has k = true ∧
      ((i.stateless e ∧ k = ⟨.netDegraded, i.name⟩) ∨ (i.speed = none ∧ k = ⟨.linkSlow, i.name⟩)) := by
  unfold assessInterface
  rw [holds_append]
  refine or_congr Iff.rfl ?_
  by_cases hstate : i.operState = ""
  · by_cases h : opened.has k = true <;> simp [hstate, h, stateless, assessSpeed_of_stateless hstate]
  unfold assessState assessSpeed stateless speed
  by_cases h : opened.has k = true <;> by_cases hnamed : e.named i.name = true <;> by_cases hunknown : i.operState = "unknown" <;>
    by_cases hup : i.operState = "up" <;> cases hs : (if i.carrying then i.speedMbps else none) <;> simp_all

@[simp] theorem cuts_assessInterface : (assessInterface i e opened).cuts scope ↔
    (assessTraffic i.name i.traffic i.carrying (i.operState = "up") e opened).cuts scope ∨
      (i.stateless e ∧ scope = .netState) ∨ (i.operState = "" ∧ scope = .net) := by
  unfold assessInterface
  rw [cuts_append]
  refine or_congr Iff.rfl ?_
  by_cases hstate : i.operState = ""
  · simp [hstate, stateless]
  unfold assessState assessSpeed stateless
  by_cases hnamed : e.named i.name = true <;> by_cases hunknown : i.operState = "unknown" <;> by_cases hup : i.operState = "up" <;>
    cases hs : (if i.carrying then i.speedMbps else none) <;> simp_all

@[simp] theorem misses_assessInterface : ¬(assessInterface i e opened).misses scope := by
  unfold assessInterface assessState assessSpeed
  cases (if i.carrying then i.speedMbps else none) <;> simp

variable {b : NetworkBond} {m : BondMember}

/-- A bond of which the status, the mode or the members are not known. -/
def NetworkBond.silent (b : NetworkBond) (e : NetExpectations) : Prop :=
  (b.miiStatus = "" ∧ b.unused e = false) ∨ b.mode = "" ∨ b.membersUnread = true

@[simp] theorem finds_assessMember : (assessMember b opened m).finds k ↔
    memberProblems b m ≠ [] ∧ ⟨.netDegraded, memberDevice b.name m.name⟩ = k := by
  by_cases h : memberProblems b m = [] <;> simp [assessMember, h]

@[simp] theorem holds_assessMember : (assessMember b opened m).holds k ↔ opened.has k = true ∧
    memberProblems b m = [] ∧ memberSilent b m = true ∧ k = ⟨.netDegraded, memberDevice b.name m.name⟩ := by
  by_cases h : memberProblems b m = [] <;> cases hs : memberSilent b m <;> simp [assessMember, h, hs, and_comm]

@[simp] theorem cuts_assessMember : (assessMember b opened m).cuts scope ↔
    memberProblems b m = [] ∧ memberSilent b m = true ∧ scope = .netState := by
  by_cases h : memberProblems b m = [] <;> cases hs : memberSilent b m <;> simp [assessMember, h, hs]

@[simp] theorem misses_assessMember : ¬(assessMember b opened m).misses scope := by simp [assessMember]

/-- What is found in a bond. -/
@[simp] theorem finds_assessBond : (assessBond b e opened).finds k ↔
    (assessTraffic b.name b.traffic (b.miiStatus ≠ "down") (b.miiStatus = "up") e opened).finds k ∨
      (bondProblems b e ≠ [] ∧ ⟨.netDegraded, b.name⟩ = k) ∨
        ∃ m ∈ b.members, memberProblems b m ≠ [] ∧ ⟨.netDegraded, memberDevice b.name m.name⟩ = k := by
  by_cases h : bondProblems b e = [] <;> simp [assessBond, h, or_assoc]

@[simp] theorem holds_assessBond : (assessBond b e opened).holds k ↔
    (assessTraffic b.name b.traffic (b.miiStatus ≠ "down") (b.miiStatus = "up") e opened).holds k ∨ opened.has k = true ∧
      ((b.silent e ∧ k = ⟨.netDegraded, b.name⟩) ∨
        ∃ m ∈ b.members, memberProblems b m = [] ∧ memberSilent b m = true ∧ k = ⟨.netDegraded, memberDevice b.name m.name⟩) := by
  unfold NetworkBond.silent
  by_cases h : opened.has k = true <;> simp [assessBond, h, or_and_right, or_assoc, and_assoc]

@[simp] theorem misses_assessBond : ¬(assessBond b e opened).misses scope := by simp [assessBond]

theorem cuts_assessBond (h : (assessBond b e opened).cuts scope) :
    (assessTraffic b.name b.traffic (b.miiStatus ≠ "down") (b.miiStatus = "up") e opened).cuts scope ∨ scope = .netState ∨
      scope = .net := by
  simp only [assessBond, cuts_append, cuts_gather, cuts_assessMember, cuts_ite, cuts_unsure, cuts_mk, cuts_add] at h
  grind

end Links

/-! ## The readings of a pass -/

namespace MachineStatus

variable (st : MachineStatus) (e : NetExpectations) (fresh : Bool) (now : Time)

/-- A report of the agent that is current. -/
def report : Option (MachineStorage × LocalStorage) :=
  (st.storage.bind fun s => s.localStorage.map fun l => (s, l)).filter fun r => !Storage.silent r.1.observedAt now

/-- The stacks that were read. -/
def md : Option MDStatus := (st.report now).bind fun r => if stackUnread r.2.md.state r.2.md.error = "" then some r.2.md else none

def zfs : Option ZFSStatus := (st.report now).bind fun r => if stackUnread r.2.zfs.state r.2.zfs.error = "" then some r.2.zfs else none

def disks : Option (List ObservedDisk) := (st.report now).map fun r => r.1.observed

def drives : Option (List DriveInfo) :=
  if fresh then (st.inventory.map MachineInventory.drives).filter fun l => !l.isEmpty else none

def links : Option MachineNetwork := if netUnread st.network e now = none then st.network else none

end MachineStatus

section Parts

variable {st : MachineStatus} {fresh : Bool} {now : Time} {o : OpenAlert}

/-! The stacks. -/

theorem assessLocal_eq (st : MachineStatus) (t : Thresholds) (opened : Open) (now : Time) :
    ∃ why, assessLocal st.storage t opened now =
      (st.report now).elim (localUnread why) fun r => assessMD r.2.md opened ++ assessZFS r.2.zfs t opened := by
  unfold assessLocal report
  cases st.storage.bind fun s => s.localStorage.map fun l => (s, l) with
  | none => exact ⟨_, rfl⟩
  | some r =>
    obtain ⟨s, l⟩ := r
    by_cases hsilent : silent s.observedAt now = true
    · exact ⟨_, by simp [Option.filter, hsilent]; rfl⟩
    · exact ⟨"", by simp [Option.filter, hsilent]⟩

variable {md : MDStatus}

@[simp] theorem finds_assessMD : (assessMD md opened).finds k ↔
    stackUnread md.state md.error = "" ∧ ∃ arr ∈ md.arrays, (assessArray arr).finds k := by
  by_cases hread : stackUnread md.state md.error = "" <;> simp [assessMD, hread]

variable {z : ZFSStatus}

@[simp] theorem finds_assessZFS : (assessZFS z t opened).finds k ↔
    stackUnread z.state z.error = "" ∧ ∃ p ∈ z.pools, (assessPool p t opened).finds k := by
  by_cases hread : stackUnread z.state z.error = "" <;> simp [assessZFS, hread]

theorem holds_assessMD (ho : o ∈ opened.items) : (assessMD md opened).holds o.key ↔
    stackUnread md.state md.error = "" ∧ o.scope = .md ∧ o.key.device ∉ md.arrays.map MDArray.name := by
  by_cases hread : stackUnread md.state md.error = "" <;> simp [assessMD, hread, holds_holdUnlisted ho]

theorem holds_assessZFS (ho : o ∈ opened.items) : (assessZFS z t opened).holds o.key ↔
    stackUnread z.state z.error = "" ∧
      ((∃ p ∈ z.pools, (assessPool p t opened).holds o.key) ∨ (o.scope = .zfs ∧ o.key.device ∉ z.pools.map ZPool.name)) := by
  by_cases hread : stackUnread z.state z.error = "" <;> simp [assessZFS, hread, holds_holdUnlisted ho]

@[simp] theorem misses_assessMD : (assessMD md opened).misses scope ↔
    scope = .md ∧ stackUnread md.state md.error ≠ "" := by
  by_cases hread : stackUnread md.state md.error = "" <;> simp [assessMD, hread]

@[simp] theorem misses_assessZFS : (assessZFS z t opened).misses scope ↔
    scope = .zfs ∧ stackUnread z.state z.error ≠ "" := by
  by_cases hread : stackUnread z.state z.error = "" <;> simp [assessZFS, hread]

@[simp] theorem cuts_assessMD : (assessMD md opened).cuts scope ↔
    stackUnread md.state md.error = "" ∧ scope = .md ∧ 0 < md.arraysOmitted := by
  by_cases hread : stackUnread md.state md.error = "" <;> simp [assessMD, hread, and_comm]

@[simp] theorem cuts_assessZFS : (assessZFS z t opened).cuts scope ↔
    stackUnread z.state z.error = "" ∧ scope = .zfs ∧ (0 < z.poolsOmitted ∨ ∃ p ∈ z.pools, p.readInPart) := by
  by_cases hread : stackUnread z.state z.error = "" <;> by_cases hscope : scope = .zfs <;> simp [assessZFS, hread, hscope, or_comm]

theorem finds_assessLocal : (assessLocal st.storage t opened now).finds k ↔
    (∃ md ∈ st.md now, ∃ arr ∈ md.arrays, (assessArray arr).finds k) ∨
      ∃ z ∈ st.zfs now, ∃ p ∈ z.pools, (assessPool p t opened).finds k := by
  unfold md zfs
  obtain ⟨why, h⟩ := assessLocal_eq st t opened now
  rw [h]
  cases st.report now <;> simp [localUnread]

theorem holds_assessLocal (ho : o ∈ opened.items) : (assessLocal st.storage t opened now).holds o.key ↔
    (∃ md ∈ st.md now, o.scope = .md ∧ o.key.device ∉ md.arrays.map MDArray.name) ∨
      ∃ z ∈ st.zfs now, (∃ p ∈ z.pools, (assessPool p t opened).holds o.key) ∨
        (o.scope = .zfs ∧ o.key.device ∉ z.pools.map ZPool.name) := by
  unfold md zfs
  obtain ⟨why, h⟩ := assessLocal_eq st t opened now
  rw [h]
  cases st.report now <;> simp [localUnread, holds_assessMD ho, holds_assessZFS ho]

theorem misses_assessLocal : (assessLocal st.storage t opened now).misses scope ↔
    (scope = .md ∧ st.md now = none) ∨ (scope = .zfs ∧ st.zfs now = none) ∨ (scope = .smart ∧ st.disks now = none) := by
  unfold md zfs disks
  obtain ⟨why, h⟩ := assessLocal_eq st t opened now
  rw [h]
  cases st.report now <;> simp [localUnread, exists_or]

theorem cuts_assessLocal : (assessLocal st.storage t opened now).cuts scope ↔
    (scope = .md ∧ ∃ md ∈ st.md now, 0 < md.arraysOmitted) ∨
      (scope = .zfs ∧ ∃ z ∈ st.zfs now, 0 < z.poolsOmitted ∨ ∃ p ∈ z.pools, p.readInPart) := by
  unfold md zfs
  obtain ⟨why, h⟩ := assessLocal_eq st t opened now
  rw [h]
  cases st.report now <;> simp [localUnread, and_left_comm]

theorem smartUnread_iff : (assessLocal st.storage t opened now).isUnread .smart = true ↔ st.disks now = none := by
  rw [isUnread_iff, misses_assessLocal]
  simp

/-! The drives of the BMC. -/

section Drives

variable {s : Option MachineStorage} {smartUnread : Bool}

theorem assessDrives_eq (smartUnread : Bool) (st : MachineStatus) (s : Option MachineStorage) (t : Thresholds) (fresh : Bool)
    (opened : Open) : ∃ why, assessDrives smartUnread st.inventory s t fresh opened =
      (st.drives fresh).elim { unread := [(.drives, why)] } fun l =>
        .gather (assessDrive smartUnread s t opened) l ++ holdUnlisted opened .drives (l.map DriveInfo.device) ++
          if l.length ≥ maxInventoryDrives then
            { cut := [(.drives, "the inventory holds " ++ toString maxInventoryDrives ++ " drives at most")] }
          else {} := by
  unfold assessDrives drives
  cases fresh with
  | false => exact ⟨_, rfl⟩
  | true =>
    cases st.inventory with
    | none => exact ⟨_, rfl⟩
    | some inv =>
      cases hd : inv.drives with
      | nil => exact ⟨_, by simp [Option.filter, hd]; rfl⟩
      | cons d l => exact ⟨"", by simp [Option.filter, hd]⟩

theorem finds_assessDrives : (assessDrives smartUnread st.inventory s t fresh opened).finds k ↔
    ∃ l ∈ st.drives fresh, ∃ d ∈ l, (assessDrive smartUnread s t opened d).finds k := by
  obtain ⟨why, h⟩ := assessDrives_eq smartUnread st s t fresh opened
  rw [h]
  cases st.drives fresh <;> simp

theorem holds_assessDrives (ho : o ∈ opened.items) :
    (assessDrives smartUnread st.inventory s t fresh opened).holds o.key ↔
      ∃ l ∈ st.drives fresh, (∃ d ∈ l, (assessDrive smartUnread s t opened d).holds o.key) ∨
        (o.scope = .drives ∧ o.key.device ∉ l.map DriveInfo.device) := by
  obtain ⟨why, h⟩ := assessDrives_eq smartUnread st s t fresh opened
  rw [h]
  cases st.drives fresh <;> simp [holds_holdUnlisted ho]

theorem misses_assessDrives : (assessDrives smartUnread st.inventory s t fresh opened).misses scope ↔
    scope = .drives ∧ st.drives fresh = none := by
  obtain ⟨why, h⟩ := assessDrives_eq smartUnread st s t fresh opened
  rw [h]
  cases st.drives fresh <;> simp

theorem cuts_assessDrives : (assessDrives smartUnread st.inventory s t fresh opened).cuts scope ↔
    scope = .drives ∧ ∃ l ∈ st.drives fresh, maxInventoryDrives ≤ l.length := by
  obtain ⟨why, h⟩ := assessDrives_eq smartUnread st s t fresh opened
  rw [h]
  cases st.drives fresh <;> simp [and_comm]

theorem wearUnreported_assessDrive {d : DriveInfo} : 0 < (assessDrive smartUnread s t opened d).wearUnreported ↔
    d.ssdEnduranceUsedPercent = none ∧ d.mediaType = mediaSSD ∧ smartReportsWear smartUnread s d.serialNumber = false := by
  unfold assessDrive hold
  cases d.ssdEnduranceUsedPercent <;> cases smartReportsWear smartUnread s d.serialNumber <;>
    by_cases hssd : d.mediaType = mediaSSD <;> simp [hssd, apply_ite Assessment.wearUnreported, Assessment.add]

theorem wearUnreported_assessDrives {l : List DriveInfo} (hl : st.drives fresh = some l) {d : DriveInfo} (hd : d ∈ l)
    (hnone : d.ssdEnduranceUsedPercent = none) (hssd : d.mediaType = mediaSSD)
    (hreported : smartReportsWear smartUnread s d.serialNumber = false) :
    0 < (assessDrives smartUnread st.inventory s t fresh opened).wearUnreported := by
  obtain ⟨why, h⟩ := assessDrives_eq smartUnread st s t fresh opened
  have hcounted : 0 < (gather (assessDrive smartUnread s t opened) l).wearUnreported :=
    wearUnreported_gather.mpr ⟨d, hd, wearUnreported_assessDrive.mpr ⟨hnone, hssd, hreported⟩⟩
  rw [h, hl, Option.elim, wearUnreported_append, wearUnreported_append]
  omega

end Drives

/-! The disks of the node. -/

section Smart

variable {inv : Option MachineInventory}

theorem observed_of_disks {l : List ObservedDisk} (h : st.disks now = some l) : ∃ s, st.storage = some s ∧ s.observed = l := by
  unfold disks report at h
  obtain ⟨r, hr, rfl⟩ := Option.map_eq_some_iff.mp h
  obtain ⟨s, hs, hl⟩ := Option.bind_eq_some_iff.mp (Option.filter_eq_some_iff.mp hr).1
  obtain ⟨_, -, rfl⟩ := Option.map_eq_some_iff.mp hl
  exact ⟨s, hs, rfl⟩

def smartUnread (st : MachineStatus) (now : Time) : Bool := (st.disks now).isNone

theorem assessSMART_eq (st : MachineStatus) (inv : Option MachineInventory) (t : Thresholds) (opened : Open) (now : Time) :
    ∃ n, assessSMART (smartUnread st now) st.storage inv t opened = (st.disks now).elim { wearUnreported := n } fun l =>
      .gather (assessDisk inv t opened) l ++ holdUnlisted opened .smart (l.map ObservedDisk.serialNumber) ++
        if l.length ≥ maxObservedDisks then
          { cut := [(.smart, "the agent lists " ++ toString maxObservedDisks ++ " disks at most")] }
        else {} := by
  unfold smartUnread
  cases h : st.disks now with
  | some l =>
    obtain ⟨s, hs, rfl⟩ := observed_of_disks h
    exact ⟨0, by rw [hs]; rfl⟩
  | none =>
    cases st.storage with
    | none => exact ⟨0, rfl⟩
    | some s => exact ⟨_, rfl⟩

theorem isUnread_assessLocal : (assessLocal st.storage t opened now).isUnread .smart = smartUnread st now := by
  rw [Bool.eq_iff_iff, smartUnread_iff, smartUnread, Option.isNone_iff_eq_none]

theorem finds_assessSMART : (assessSMART (smartUnread st now) st.storage inv t opened).finds k ↔
    ∃ l ∈ st.disks now, ∃ d ∈ l, (assessDisk inv t opened d).finds k := by
  obtain ⟨n, h⟩ := assessSMART_eq st inv t opened now
  rw [h]
  cases st.disks now <;> simp

theorem holds_assessSMART (ho : o ∈ opened.items) : (assessSMART (smartUnread st now) st.storage inv t opened).holds o.key ↔
    ∃ l ∈ st.disks now, (∃ d ∈ l, (assessDisk inv t opened d).holds o.key) ∨
      (o.scope = .smart ∧ o.key.device ∉ l.map ObservedDisk.serialNumber) := by
  obtain ⟨n, h⟩ := assessSMART_eq st inv t opened now
  rw [h]
  cases st.disks now <;> simp [holds_holdUnlisted ho]

theorem misses_assessSMART : ¬(assessSMART (smartUnread st now) st.storage inv t opened).misses scope := by
  obtain ⟨n, h⟩ := assessSMART_eq st inv t opened now
  rw [h]
  cases st.disks now <;> simp

theorem cuts_assessSMART : (assessSMART (smartUnread st now) st.storage inv t opened).cuts scope ↔
    scope = .smart ∧ ∃ l ∈ st.disks now, maxObservedDisks ≤ l.length := by
  obtain ⟨n, h⟩ := assessSMART_eq st inv t opened now
  rw [h]
  cases st.disks now <;> simp [and_comm]

theorem smartReportsWear_iff {serial : String} : smartReportsWear (smartUnread st now) st.storage serial = true ↔
    ∃ l ∈ st.disks now, ∃ d ∈ l, d.serialNumber = serial ∧ d.wear ≠ none := by
  unfold smartReportsWear smartUnread
  cases h : st.disks now with
  | none => simp
  | some l =>
    obtain ⟨s, hs, rfl⟩ := observed_of_disks h
    simp [hs, ObservedDisk.wear, Option.isSome_iff_ne_none]

end Smart

/-! The links of the node. -/

section Network

theorem assessNetwork_eq (st : MachineStatus) (e : NetExpectations) (opened : Open) (now : Time) :
    ∃ why, assessNetwork st.network e opened now =
      (st.links e now).elim { unread := [(.net, why), (.netExpected, why)] } fun n => assessLinks n e opened := by
  unfold assessNetwork links
  cases h : netUnread st.network e now with
  | some why => exact ⟨why, by simp⟩
  | none =>
    cases hn : st.network with
    | some n => exact ⟨"", by simp⟩
    | none =>
      rw [hn, netUnread] at h
      split at h <;> cases h

theorem finds_assessNetwork : (assessNetwork st.network e opened now).finds k ↔
    ∃ n ∈ st.links e now, (assessLinks n e opened).finds k := by
  obtain ⟨why, h⟩ := assessNetwork_eq st e opened now
  rw [h]
  cases st.links e now <;> simp

theorem holds_assessNetwork : (assessNetwork st.network e opened now).holds k ↔
    ∃ n ∈ st.links e now, (assessLinks n e opened).holds k := by
  obtain ⟨why, h⟩ := assessNetwork_eq st e opened now
  rw [h]
  cases st.links e now <;> simp

theorem cuts_assessNetwork : (assessNetwork st.network e opened now).cuts scope ↔
    ∃ n ∈ st.links e now, (assessLinks n e opened).cuts scope := by
  obtain ⟨why, h⟩ := assessNetwork_eq st e opened now
  rw [h]
  cases st.links e now <;> simp

variable {n : MachineNetwork} {l : ExpectedLink}

@[simp] theorem finds_assessExpected : (assessExpected n opened l).finds k ↔
    l.interface ∉ n.listed ∧ n.cutBy = none ∧ ⟨.netDegraded, l.interface⟩ = k := by
  by_cases hlisted : l.interface ∈ n.listed <;> cases hcut : n.cutBy <;> simp [assessExpected, hlisted, hcut]

@[simp] theorem holds_assessExpected : (assessExpected n opened l).holds k ↔
    opened.has k = true ∧ l.interface ∉ n.listed ∧ n.cutBy ≠ none ∧ k = ⟨.netDegraded, l.interface⟩ := by
  by_cases hlisted : l.interface ∈ n.listed <;> cases hcut : n.cutBy <;> simp [assessExpected, hlisted, hcut, and_comm]

@[simp] theorem cuts_assessExpected : ¬(assessExpected n opened l).cuts scope := by
  simp [assessExpected]

@[simp] theorem misses_assessExpected : ¬(assessExpected n opened l).misses scope := by
  simp [assessExpected]

theorem misses_assessNetwork : (assessNetwork st.network e opened now).misses scope ↔
    (scope = .net ∨ scope = .netExpected) ∧ st.links e now = none := by
  obtain ⟨why, h⟩ := assessNetwork_eq st e opened now
  rw [h]
  cases st.links e now <;> simp [assessLinks, exists_or]

end Network

end Parts

/-! ## The machine -/

section Machine

variable {st : MachineStatus} {fresh : Bool} {now : Time} {o : OpenAlert} {a : Assessment}

theorem keeps_iff : a.keeps k scope = true ↔ a.misses scope ∨ a.holds k := by
  simp only [keeps, Bool.or_eq_true, isUnread_iff, List.contains_eq_mem, decide_eq_true_eq]
  rfl

theorem finds_assessLinks {n : MachineNetwork} : (assessLinks n e opened).finds k ↔
    (∃ i ∈ n.interfaces, (assessInterface i e opened).finds k) ∨ (∃ b ∈ n.bonds, (assessBond b e opened).finds k) ∨
      ∃ l ∈ e.links.items, (assessExpected n opened l).finds k := by
  simp only [assessLinks, finds_append, finds_gather, finds_mk_nil, finds_holdUnlisted, or_false, or_assoc]

def linkSilent (n : MachineNetwork) (e : NetExpectations) (opened : Open) (k : Key) : Prop :=
  (∃ i ∈ n.interfaces, (assessInterface i e opened).holds k) ∨ (∃ b ∈ n.bonds, (assessBond b e opened).holds k) ∨
    ∃ l ∈ e.links.items, (assessExpected n opened l).holds k

theorem holds_assessLinks (ho : o ∈ opened.items) {n : MachineNetwork} : (assessLinks n e opened).holds o.key ↔
    linkSilent n e opened o.key ∨ (o.scope = .net ∧ o.key.device ∉ n.listed) := by
  simp only [assessLinks, linkSilent, holds_append, holds_gather, holds_mk, List.not_mem_nil,
    or_false, or_assoc, holds_holdUnlisted ho]

/-- All that is found, by the stack it is found in. -/
theorem finds_assess : (assess st t e fresh opened now).finds k ↔
    (∃ md ∈ st.md now, ∃ arr ∈ md.arrays, (assessArray arr).finds k) ∨
      (∃ z ∈ st.zfs now, ∃ p ∈ z.pools, (assessPool p t opened).finds k) ∨
        (∃ l ∈ st.drives fresh, ∃ d ∈ l, (assessDrive (smartUnread st now) st.storage t opened d).finds k) ∨
          (∃ l ∈ st.disks now, ∃ d ∈ l, (assessDisk st.inventory t opened d).finds k) ∨
            ∃ n ∈ st.links e now, (assessLinks n e opened).finds k := by
  simp only [assess, isUnread_assessLocal, finds_append, finds_assessLocal, finds_assessDrives, finds_assessSMART, finds_assessNetwork,
    or_assoc]

def deviceSilent (st : MachineStatus) (t : Thresholds) (e : NetExpectations) (fresh : Bool) (opened : Open) (now : Time) (k : Key) :
    Prop :=
  (∃ z ∈ st.zfs now, ∃ p ∈ z.pools, (assessPool p t opened).holds k) ∨
    (∃ l ∈ st.drives fresh, ∃ d ∈ l, (assessDrive (smartUnread st now) st.storage t opened d).holds k) ∨
      (∃ l ∈ st.disks now, ∃ d ∈ l, (assessDisk st.inventory t opened d).holds k) ∨ ∃ n ∈ st.links e now, linkSilent n e opened k

/-- The reading that an alert rests on was not made, or does not list the device. -/
def MachineStatus.silentOn (st : MachineStatus) (e : NetExpectations) (fresh : Bool) (now : Time) (scope : Scope) (device : String) :
    Prop :=
  match scope with
  | .md => ∀ md ∈ st.md now, device ∉ md.arrays.map MDArray.name
  | .zfs => ∀ z ∈ st.zfs now, device ∉ z.pools.map ZPool.name
  | .drives => ∀ l ∈ st.drives fresh, device ∉ l.map DriveInfo.device
  | .smart => ∀ l ∈ st.disks now, device ∉ l.map ObservedDisk.serialNumber
  | .net => ∀ n ∈ st.links e now, device ∉ n.listed
  | .netExpected => st.links e now = none
  | .netState | .netTraffic | .netSustained | .other _ => False

/-- Which scopes were not read. -/
theorem misses_assess : (assess st t e fresh opened now).misses scope ↔
    (scope = .md ∧ st.md now = none) ∨ (scope = .zfs ∧ st.zfs now = none) ∨ (scope = .smart ∧ st.disks now = none) ∨
      (scope = .drives ∧ st.drives fresh = none) ∨ ((scope = .net ∨ scope = .netExpected) ∧ st.links e now = none) := by
  simp only [assess, isUnread_assessLocal, misses_append, misses_assessLocal, misses_assessDrives, misses_assessSMART,
    misses_assessNetwork, or_false, or_assoc]

theorem forall_mem_option {α : Type} {x : Option α} {P : α → Prop} : (∀ a ∈ x, P a) ↔ x = none ∨ ∃ a ∈ x, P a := by
  cases x <;> simp

/-- An open alert is kept where its device is silent or held. -/
theorem keeps_assess (ho : o ∈ opened.items) : (assess st t e fresh opened now).keeps o.key o.scope = true ↔
    st.silentOn e fresh now o.scope o.key.device ∨ deviceSilent st t e fresh opened now o.key := by
  rw [keeps_iff, misses_assess]
  simp only [assess, isUnread_assessLocal, holds_append, holds_assessLocal ho, holds_assessDrives ho, holds_assessSMART ho,
    holds_assessNetwork, holds_assessLinks ho, deviceSilent, and_or_left, exists_or]
  cases o.scope <;> simp only [silentOn, forall_mem_option] <;> simp <;> grind

/-- An alert is closed: nothing backs it any more, and it is not kept. -/
def Assessment.closes (a : Assessment) (o : OpenAlert) : Prop := ¬a.finds o.key ∧ ¬a.keeps o.key o.scope = true

theorem closes_of_quiet (h : a.findings = []) (hkeeps : a.keeps o.key o.scope = false) : a.closes o := by
  refine ⟨?_, by rw [hkeeps]; exact Bool.false_ne_true⟩
  rintro ⟨f, hf, -⟩
  rw [h] at hf
  cases hf

end Machine

/-! ## The findings, in their order -/

section Findings

variable {st : MachineStatus} {fresh : Bool} {now : Time}

theorem findings_assessLocal : (assessLocal st.storage t opened now).findings =
    ((st.md now).map fun md => md.arrays.flatMap fun arr => (assessArray arr).findings).getD [] ++
      ((st.zfs now).map fun z => z.pools.flatMap fun p => (assessPool p t opened).findings).getD [] := by
  unfold md zfs
  obtain ⟨why, h⟩ := assessLocal_eq st t opened now
  rw [h]
  cases st.report now
  · simp [localUnread]
  · rename_i r
    by_cases hmd : stackUnread r.2.md.state r.2.md.error = "" <;> by_cases hzfs : stackUnread r.2.zfs.state r.2.zfs.error = "" <;>
      simp [assessMD, assessZFS, hmd, hzfs, findings_gather, holdUnlisted, apply_ite findings]

theorem findings_assessDrives {smartUnread : Bool} {s : Option MachineStorage} :
    (assessDrives smartUnread st.inventory s t fresh opened).findings =
      ((st.drives fresh).map fun l => l.flatMap fun d => (assessDrive smartUnread s t opened d).findings).getD [] := by
  obtain ⟨why, h⟩ := assessDrives_eq smartUnread st s t fresh opened
  rw [h]
  cases st.drives fresh <;> simp [findings_gather, holdUnlisted, apply_ite findings]

theorem findings_assessSMART {inv : Option MachineInventory} :
    (assessSMART (smartUnread st now) st.storage inv t opened).findings =
      ((st.disks now).map fun l => l.flatMap fun d => (assessDisk inv t opened d).findings).getD [] := by
  obtain ⟨n, h⟩ := assessSMART_eq st inv t opened now
  rw [h]
  cases st.disks now <;> simp [findings_gather, holdUnlisted, apply_ite findings]

theorem findings_assessNetwork : (assessNetwork st.network e opened now).findings =
    ((st.links e now).map fun n => (assessLinks n e opened).findings).getD [] := by
  obtain ⟨why, h⟩ := assessNetwork_eq st e opened now
  rw [h]
  cases st.links e now <;> simp

end Findings

end FrameOperator.Storage
