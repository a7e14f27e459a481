import FrameOperator.Theorems.UnreadStorage

/-!
# What closes an alert

An alert is closed by a reading that contradicts it (`closed_contradicted`). The names of ports, bonds and members are looked up in
one list, so the alert of a port is closed by a bond of that name (`closed_by_namesake`); so are alerts by counts that are no
counts, since the error counters of a vdev are added up at 64 bits.
-/

namespace FrameOperator.Storage

open Assessment List

variable {scope : Scope} {d : DriveInfo} {n : MachineNetwork}

/-! ## Where alerts come from -/

def raisedFrom : Check → List Scope
  | .degraded => [.md, .zfs, .smart]
  | .scrubErrors | .capacityHigh => [.zfs]
  | .wearHigh => [.drives, .smart]
  | .netDegraded => [.net, .netExpected]
  | .linkSlow | .saturated | .linkErrors => [.net]
  | .other _ => []

/-! ## What a reading says against an alert -/

/-- A vdev in no bad state and with no errors. -/
def ZVdev.sound (v : ZVdev) : Prop :=
  v.state ∉ ["DEGRADED", "FAULTED", "OFFLINE", "UNAVAIL", "REMOVED"] ∧ v.readErrors = 0 ∧ v.writeErrors = 0 ∧ v.checksumErrors = 0

def ZPool.sound (p : ZPool) : Prop := p.health = "ONLINE" ∧ p.vdevsOmitted ≤ 0 ∧ ∀ v ∈ p.vdevs, v.sound

/-- The error counters of a vdev show in their sum, which wraps at 64 bits. -/
def ZVdev.counted (v : ZVdev) : Prop :=
  v.readErrors + v.writeErrors + v.checksumErrors ≤ 0 → v.readErrors = 0 ∧ v.writeErrors = 0 ∧ v.checksumErrors = 0

def ZPool.counted (p : ZPool) : Prop := ∀ v ∈ p.vdevs, v.counted

theorem ZPool.sound.counted {p : ZPool} (h : p.sound) : p.counted := fun v hv _ => (h.2.2 v hv).2

def ZPool.scrubbed (p : ZPool) : Prop := p.scrubErrors = some 0 ∨ (p.scrubErrors = none ∧ p.scan = "none requested")

/-- A link that carries traffic: a port or a bond. -/
structure Carrier where
  name : String
  carrying : Bool
  up : Bool
  traffic : Option LinkTraffic

def NetworkInterface.carrier (i : NetworkInterface) : Carrier := ⟨i.name, i.carrying, i.operState = "up", i.traffic⟩

def NetworkBond.carrier (b : NetworkBond) : Carrier := ⟨b.name, b.miiStatus ≠ "down", b.miiStatus = "up", b.traffic⟩

def MachineNetwork.carriers (n : MachineNetwork) : List Carrier :=
  n.interfaces.map NetworkInterface.carrier ++ n.bonds.map NetworkBond.carrier

/-- The load of a link is below what it is held against. -/
def Carrier.light (c : Carrier) (e : NetExpectations) (opened : Open) : Prop :=
  ∃ used, load c.carrying c.traffic = some used ∧ used < saturationLimit e opened c.name

/-- The errors of a link are few, over a full history. -/
def Carrier.clean (c : Carrier) (e : NetExpectations) : Prop :=
  c.carrying = true ∧ ∃ r, c.traffic = some r ∧ r.errorsPerMinute < e.errorsPerMinute ∧ fullHistorySeconds ≤ r.historySeconds

/-- A port of which the state is known, and which is up where the policy names it. -/
def NetworkInterface.sound (i : NetworkInterface) (e : NetExpectations) : Prop :=
  i.operState ≠ "" ∧ (e.named i.name = true → i.operState = "up")

/-- A port that carries traffic at the speed that it has to reach. -/
def NetworkInterface.fast (i : NetworkInterface) (e : NetExpectations) : Prop :=
  i.carrying = true ∧ ∃ speed, i.speedMbps = some speed ∧ wantedSpeed e i.name ≤ speed

namespace MachineStatus

variable (st : MachineStatus) (t : Thresholds) (e : NetExpectations) (fresh : Bool) (opened : Open) (now : Time) (device : String)

/-- The array, the pool or the disk that an alert rests on is in order. -/
def intact : Scope → Prop
  | .md => ∃ md ∈ st.md now, ∃ arr ∈ md.arrays, arr.name = device ∧ arr.degraded = false
  | .zfs => ∃ z ∈ st.zfs now, ∃ p ∈ z.pools, p.name = device ∧ p.sound
  | .smart => ∃ l ∈ st.disks now, ∃ d ∈ l, d.serialNumber = device ∧ d.passed = some true
  | _ => False

/-- The BMC gives a figure for a drive that is below the threshold, or it gives none and the disk itself does. -/
def unworn : Prop :=
  (∃ l ∈ st.drives fresh, ∃ d ∈ l, d.device = device ∧ ∃ used, d.ssdEnduranceUsedPercent = some used ∧ used < t.ssdWearPercent) ∨
    ((∀ l ∈ st.drives fresh, ∀ d ∈ l, d.device = device → d.ssdEnduranceUsedPercent = none) ∧
      ∃ l ∈ st.disks now, ∃ d ∈ l, d.serialNumber = device ∧ ∃ used, d.wear = some used ∧ used < t.ssdWearPercent)

/-- The port, bond or member is in order, or neither listed nor named by the policy. -/
def connected (scope : Scope) : Prop :=
  ∃ n ∈ st.links e now, (∃ i ∈ n.interfaces, i.name = device ∧ i.sound e) ∨
    (∃ b ∈ n.bonds, b.name = device ∧ bondProblems b e = [] ∧ ¬b.silent e) ∨
    (∃ b ∈ n.bonds, ∃ m ∈ b.members, memberDevice b.name m.name = device ∧ memberProblems b m = [] ∧ memberSilent b m = false) ∨
    (scope = .netExpected ∧ device ∉ n.listed ∧ e.named device = false)

/-- What was read contradicts the alert. -/
def contradicts (o : OpenAlert) : Prop :=
  match o.key.check with
  | .degraded => st.intact now o.key.device o.scope
  | .scrubErrors => ∃ z ∈ st.zfs now, ∃ p ∈ z.pools, p.name = o.key.device ∧ p.scrubbed
  | .capacityHigh => ∃ z ∈ st.zfs now, ∃ p ∈ z.pools, p.name = o.key.device ∧
      ∃ c, p.capacityPercent = some c ∧ c < t.zfsCapacityPercent - capacityHysteresis
  | .wearHigh => st.unworn t fresh now o.key.device
  | .netDegraded => st.connected e now o.key.device o.scope
  | .linkSlow => ∃ n ∈ st.links e now, ∃ i ∈ n.interfaces, i.name = o.key.device ∧ i.fast e
  | .saturated => ∃ n ∈ st.links e now, ∃ c ∈ n.carriers, c.name = o.key.device ∧ c.light e opened
  | .linkErrors => ∃ n ∈ st.links e now, ∃ c ∈ n.carriers, c.name = o.key.device ∧ c.clean e
  | .other _ => False

/-- What is listed under the name of an alert's device is of the alert's kind: for a speed a port, for traffic a port or a bond. -/
def listsItsKind (k : Key) : Prop :=
  match k.check with
  | .linkSlow => ∀ n ∈ st.links e now, k.device ∈ n.listed → k.device ∈ n.interfaces.map NetworkInterface.name
  | .saturated | .linkErrors => ∀ n ∈ st.links e now, k.device ∈ n.listed → k.device ∈ n.carriers.map Carrier.name
  | _ => True

/-- The errors of some pool of the name show in their sum, and its scrub count is not negative. -/
def counts (o : OpenAlert) : Prop :=
  match o.key.check with
  | .degraded => o.scope = .zfs → ∃ z ∈ st.zfs now, ∃ p ∈ z.pools, p.name = o.key.device ∧ p.counted
  | .scrubErrors => ∃ z ∈ st.zfs now, ∃ p ∈ z.pools, p.name = o.key.device ∧ ∀ errors ∈ p.scrubErrors, 0 ≤ errors
  | _ => True

end MachineStatus

/-! ## What is left when an alert is closed -/

/-- Nothing that was read is wrong with what a key names, or silent on it. -/
structure Settled (st : MachineStatus) (t : Thresholds) (e : NetExpectations) (fresh : Bool) (opened : Open) (now : Time) (k : Key) :
    Prop where
  arrays : ∀ md ∈ st.md now, ∀ arr ∈ md.arrays, ¬(assessArray arr).finds k
  pools : ∀ z ∈ st.zfs now, ∀ p ∈ z.pools, ¬(assessPool p t opened).finds k ∧ ¬(assessPool p t opened).holds k
  drives : ∀ l ∈ st.drives fresh, ∀ d ∈ l,
    ¬(assessDrive (smartUnread st now) st.storage t opened d).finds k ∧
      ¬(assessDrive (smartUnread st now) st.storage t opened d).holds k
  disks : ∀ l ∈ st.disks now, ∀ d ∈ l, ¬(assessDisk st.inventory t opened d).finds k ∧ ¬(assessDisk st.inventory t opened d).holds k
  ports : ∀ n ∈ st.links e now, ∀ i ∈ n.interfaces, ¬(assessInterface i e opened).finds k ∧ ¬(assessInterface i e opened).holds k
  bonds : ∀ n ∈ st.links e now, ∀ b ∈ n.bonds, ¬(assessBond b e opened).finds k ∧ ¬(assessBond b e opened).holds k
  expected : ∀ n ∈ st.links e now, ∀ l ∈ e.links.items, ¬(assessExpected n opened l).finds k ∧ ¬(assessExpected n opened l).holds k

section Closing

variable {st : MachineStatus} {t : Thresholds} {e : NetExpectations} {fresh : Bool} {opened : Open} {now : Time} {o : OpenAlert}

/-- An alert closes exactly where it is settled and its source not silent. -/
theorem closes_iff (ho : o ∈ opened.items) : (assess st t e fresh opened now).closes o ↔
    ¬st.silentOn e fresh now o.scope o.key.device ∧ Settled st t e fresh opened now o.key := by
  unfold Assessment.closes
  rw [keeps_assess ho, finds_assess]
  simp only [finds_assessLinks, deviceSilent, linkSilent, not_or, not_exists, not_and]
  constructor
  · rintro ⟨⟨harrays, hpools, hdrives, hdisks, hlinks⟩, hsilent, hpools', hdrives', hdisks', hlinks'⟩
    refine ⟨hsilent, harrays, fun z hz p hp => ⟨hpools z hz p hp, hpools' z hz p hp⟩,
      fun l hl d hd => ⟨hdrives l hl d hd, hdrives' l hl d hd⟩,
      fun l hl d hd => ⟨hdisks l hl d hd, hdisks' l hl d hd⟩, fun n hn i hi => ⟨(hlinks n hn).1 i hi, (hlinks' n hn).1 i hi⟩,
      fun n hn b hb => ⟨(hlinks n hn).2.1 b hb, (hlinks' n hn).2.1 b hb⟩,
        fun n hn l hl => ⟨(hlinks n hn).2.2 l hl, (hlinks' n hn).2.2 l hl⟩⟩
  · rintro ⟨hsilent, h⟩
    refine ⟨⟨h.arrays, fun z hz p hp => (h.pools z hz p hp).1, fun l hl d hd => (h.drives l hl d hd).1,
      fun l hl d hd => (h.disks l hl d hd).1,
      fun n hn => ⟨fun i hi => (h.ports n hn i hi).1, fun b hb => (h.bonds n hn b hb).1, fun l hl => (h.expected n hn l hl).1⟩⟩,
        hsilent,
      fun z hz p hp => (h.pools z hz p hp).2, fun l hl d hd => (h.drives l hl d hd).2, fun l hl d hd => (h.disks l hl d hd).2,
      fun n hn => ⟨fun i hi => (h.ports n hn i hi).2, fun b hb => (h.bonds n hn b hb).2, fun l hl => (h.expected n hn l hl).2⟩⟩

/-- A vdev without a problem whose errors show in their sum has none. -/
theorem ZVdev.sound_of {v : ZVdev} (h : vdevProblem v = none) (hcounted : v.counted) : v.sound := by
  unfold vdevProblem at h
  split at h
  · cases h
  rename_i hstate
  split at h
  · cases h
  rename_i hsum
  rw [contains_eq_mem, decide_eq_true_eq] at hstate
  exact ⟨hstate, hcounted (Int64.not_lt.mp hsum)⟩

theorem ZPool.sound_of {p : ZPool} (hproblems : poolProblems p = "") (hread : ¬p.readInPart) (hcounted : p.counted) : p.sound := by
  obtain ⟨hhealth, hvdevs⟩ := poolProblems_eq_empty.mp hproblems
  have hfull : ¬(0 < p.vdevsOmitted ∨ p.health = "") := fun h => hread ⟨hproblems, h⟩
  refine ⟨hhealth.resolve_left fun h => hfull (.inr h), ?_, fun v hv => ZVdev.sound_of (hvdevs v hv) (hcounted v hv)⟩
  exact Int32.not_lt.mp fun h => hfull (.inl h)

variable {device : String}

/-- What closes a degradation reads intact. -/
theorem Settled.intact (h : Settled st t e fresh opened now ⟨.degraded, device⟩)
    (hopen : opened.has ⟨.degraded, device⟩ = true) (hscope : scope ∈ raisedFrom .degraded)
    (hlisted : ¬st.silentOn e fresh now scope device) (hcounts : st.counts now ⟨⟨.degraded, device⟩, scope⟩) :
    st.intact now device scope := by
  simp only [raisedFrom, mem_cons, not_mem_nil, or_false] at hscope
  rcases hscope with rfl | rfl | rfl <;>
    simp only [MachineStatus.silentOn, not_forall, not_not, mem_map, exists_prop] at hlisted
  · obtain ⟨md, hmd, arr, harr, rfl⟩ := hlisted
    have hfinds := h.arrays md hmd arr harr
    simp only [finds_assessArray, and_true, Bool.not_eq_true] at hfinds
    exact ⟨md, hmd, arr, harr, rfl, hfinds⟩
  · obtain ⟨z, hz, p, hp, rfl, hcounted⟩ := hcounts rfl
    have hpool := h.pools z hz p hp
    simp only [finds_assessPool, holds_assessPool, hopen, reduceCtorEq, Key.mk.injEq, and_false, or_false, and_true, true_and, not_not,
      ne_eq] at hpool
    exact ⟨z, hz, p, hp, rfl, ZPool.sound_of hpool.1 hpool.2 hcounted⟩
  · obtain ⟨l, hl, d, hd, rfl⟩ := hlisted
    have hdisk := h.disks l hl d hd
    simp only [finds_assessDisk, holds_assessDisk, hopen, reduceCtorEq, Key.mk.injEq, and_false, or_false, and_true, true_and] at hdisk
    refine ⟨l, hl, d, hd, rfl, ?_⟩
    cases hp : d.passed with
    | none => exact absurd hp hdisk.2
    | some passed =>
      cases passed with
      | false => exact absurd hp hdisk.1
      | true => rfl

theorem pool_of_listed (hlisted : ¬st.silentOn e fresh now .zfs device) : ∃ z ∈ st.zfs now, ∃ p ∈ z.pools, p.name = device := by
  simpa only [MachineStatus.silentOn, not_forall, not_not, mem_map, exists_prop] using hlisted

/-- What closes scrub errors was scrubbed without any. -/
theorem Settled.scrubbed (h : Settled st t e fresh opened now ⟨.scrubErrors, device⟩)
    (hopen : opened.has ⟨.scrubErrors, device⟩ = true)
    (hcounts : st.counts now ⟨⟨.scrubErrors, device⟩, scope⟩) : ∃ z ∈ st.zfs now, ∃ p ∈ z.pools, p.name = device ∧ p.scrubbed := by
  obtain ⟨z, hz, p, hp, rfl, hcount⟩ := hcounts
  have hpool := h.pools z hz p hp
  simp only [finds_assessPool, holds_assessPool, hopen, reduceCtorEq, Key.mk.injEq, and_false, or_false, false_or, and_true, true_and,
    not_exists, not_and, not_not, Int32.not_lt] at hpool
  refine ⟨z, hz, p, hp, rfl, ?_⟩
  cases hs : p.scrubErrors with
  | none => exact .inr ⟨hs, hpool.2 hs⟩
  | some errors => exact .inl (hs.trans (congrArg some (Int32.le_antisymm (hpool.1 errors hs) (hcount errors hs))))

/-- A pool that a reading says is in order counts what there is. -/
theorem MachineStatus.contradicts.counts (h : st.contradicts t e fresh opened now o) : st.counts now o := by
  obtain ⟨⟨check, device⟩, scope⟩ := o
  cases check with
  | degraded =>
    rintro ⟨⟩
    obtain ⟨z, hz, p, hp, hname, hsound⟩ := h
    exact ⟨z, hz, p, hp, hname, hsound.counted⟩
  | scrubErrors =>
    obtain ⟨z, hz, p, hp, hname, hscrubbed⟩ := h
    refine ⟨z, hz, p, hp, hname, fun errors herrors => ?_⟩
    rcases hscrubbed with hzero | ⟨hnone, -⟩
    · cases hzero.symm.trans herrors
      exact Int32.le_refl _
    · cases hnone.symm.trans herrors
  | _ => trivial

/-- What closes a full pool has room. -/
theorem Settled.roomy (h : Settled st t e fresh opened now ⟨.capacityHigh, device⟩) (hopen : opened.has ⟨.capacityHigh, device⟩ = true)
    (hlisted : ¬st.silentOn e fresh now .zfs device) : ∃ z ∈ st.zfs now, ∃ p ∈ z.pools, p.name = device ∧
      ∃ c, p.capacityPercent = some c ∧ c < t.zfsCapacityPercent - capacityHysteresis := by
  obtain ⟨z, hz, p, hp, rfl⟩ := pool_of_listed hlisted
  have hpool := h.pools z hz p hp
  simp only [finds_assessPool, holds_assessPool, hopen, reduceCtorEq, Key.mk.injEq,
    and_false, false_or, and_true, true_and, not_exists,
    not_and, capacityLimit, if_true] at hpool
  refine ⟨z, hz, p, hp, rfl, ?_⟩
  cases hc : p.capacityPercent with
  | none => exact absurd hc hpool.2
  | some c => exact ⟨c, rfl, Int.not_le.mp (hpool.1 c hc)⟩

theorem Settled.drive_low (h : Settled st t e fresh opened now ⟨.wearHigh, device⟩) {l : List DriveInfo} (hl : l ∈ st.drives fresh)
    (hd : d ∈ l) (hname : d.device = device) {used : Int} (hused : d.ssdEnduranceUsedPercent = some used) :
    used < t.ssdWearPercent := by
  have hdrive := (h.drives l hl d hd).1
  simp only [finds_assessDrive, hname, and_true, not_exists, not_and] at hdrive
  exact Int.not_le.mp (hdrive used hused)

theorem drive_of_bmcDrive {serial : String} (h : bmcDrive st.inventory serial = some d) :
    ∃ l ∈ st.drives true, d ∈ l ∧ d.serialNumber = serial := by
  obtain ⟨inv, hinv, hfind⟩ := Option.bind_eq_some_iff.mp h
  have hmem : d ∈ inv.drives := mem_of_find?_eq_some hfind
  refine ⟨inv.drives, ?_, hmem, by simpa using List.find?_some hfind⟩
  simp only [MachineStatus.drives, if_true, hinv, Option.map_some]
  exact Option.mem_filter_iff.mpr ⟨rfl, by cases hl : inv.drives <;> simp_all⟩

theorem DriveInfo.device_eq (h : d.serialNumber ≠ "") : d.device = d.serialNumber := if_neg h

theorem figured_eq_false {serial : String} (hserial : serial ≠ "")
    (hnone : ∀ l ∈ st.drives true, ∀ d ∈ l, d.device = serial → d.ssdEnduranceUsedPercent = none) :
    figured st.inventory serial = false := by
  unfold figured
  cases hb : bmcDrive st.inventory serial with
  | none => rfl
  | some d =>
    obtain ⟨l, hl, hd, rfl⟩ := drive_of_bmcDrive hb
    simp [hnone l hl d hd (DriveInfo.device_eq hserial)]

/-- What closes wear has a figure below the threshold. -/
theorem Settled.unworn (h : Settled st t e true opened now ⟨.wearHigh, device⟩)
    (hopen : opened.has ⟨.wearHigh, device⟩ = true) (hserials : ∀ l ∈ st.disks now, ∀ d ∈ l, d.serialNumber ≠ "")
    (hscope : scope ∈ raisedFrom .wearHigh) (hlisted : ¬st.silentOn e true now scope device) : st.unworn t true now device := by
  by_cases hbmc : ∀ l ∈ st.drives true, ∀ d ∈ l, d.device = device → d.ssdEnduranceUsedPercent = none
  · -- the BMC has no figure: a disk of that serial number does
    refine .inr ⟨hbmc, ?_⟩
    have hdisk : ∃ l ∈ st.disks now, ∃ d ∈ l, d.serialNumber = device ∧ d.wear ≠ none := by
      simp only [raisedFrom, mem_cons, not_mem_nil, or_false] at hscope
      rcases hscope with rfl | rfl <;>
        simp only [MachineStatus.silentOn, not_forall, not_not, mem_map, exists_prop] at hlisted
      · obtain ⟨l, hl, d, hd, hname⟩ := hlisted
        have hdrive := (h.drives l hl d hd).2
        simp only [holds_assessDrive, hopen, hname, hbmc l hl d hd hname, true_and, and_true, Bool.not_eq_false] at hdrive
        obtain ⟨disks, hdisks, o, ho, hserial, hwear⟩ := smartReportsWear_iff.mp hdrive
        refine ⟨disks, hdisks, o, ho, ?_, hwear⟩
        rw [← hname, hserial, DriveInfo.device_eq (hserial ▸ hserials disks hdisks o ho)]
      · obtain ⟨l, hl, d, hd, rfl⟩ := hlisted
        have hheld := (h.disks l hl d hd).2
        simp only [holds_assessDisk, hopen, figured_eq_false (hserials l hl d hd) hbmc,
          reduceCtorEq, Key.mk.injEq, and_false, false_or,
          true_and, and_true] at hheld
        exact ⟨l, hl, d, hd, rfl, hheld⟩
    obtain ⟨l, hl, d, hd, rfl, hsome⟩ := hdisk
    obtain ⟨used, hused⟩ := Option.ne_none_iff_exists'.mp hsome
    have hlow := (h.disks l hl d hd).1
    simp only [finds_assessDisk, figured_eq_false (hserials l hl d hd) hbmc, reduceCtorEq, Key.mk.injEq, and_false, false_or, true_and,
      and_true, not_exists, not_and] at hlow
    exact ⟨l, hl, d, hd, rfl, used, hused, Int.not_le.mp (hlow used hused)⟩
  · simp only [not_forall] at hbmc
    obtain ⟨l, hl, d, hd, hname, hsome⟩ := hbmc
    obtain ⟨used, hused⟩ := Option.ne_none_iff_exists'.mp hsome
    exact .inl ⟨l, hl, d, hd, hname, used, hused, h.drive_low hl hd hname hused⟩

/-! The links. -/

theorem mem_listed : device ∈ n.listed ↔ (∃ i ∈ n.interfaces, i.name = device) ∨ (∃ b ∈ n.bonds, b.name = device) ∨
    ∃ b ∈ n.bonds, ∃ m ∈ b.members, memberDevice b.name m.name = device := by
  simp only [MachineNetwork.listed, NetworkBond.listed, mem_append, mem_map, mem_flatMap, mem_cons, and_or_left,
    exists_or, @eq_comm _ device]

theorem Settled.not_named (h : Settled st t e fresh opened now ⟨.netDegraded, device⟩)
    (hopen : opened.has ⟨.netDegraded, device⟩ = true)
    (hn : n ∈ st.links e now) (hlisted : device ∉ n.listed) : e.named device = false := by
  rw [Bool.eq_false_iff]
  intro hnamed
  obtain ⟨l, hl⟩ := Option.isSome_iff_exists.mp hnamed
  obtain ⟨hmem, rfl⟩ := Keyed.get?_eq_some_iff.mp hl
  have hexpected := h.expected n hn l hmem
  simp only [finds_assessExpected, holds_assessExpected, hlisted, hopen, not_false_eq_true,
    true_and, and_true, not_not, ne_eq] at hexpected
  exact hexpected.1 hexpected.2

/-- What closes a degraded link is connected. -/
theorem Settled.connected (h : Settled st t e fresh opened now ⟨.netDegraded, device⟩)
    (hopen : opened.has ⟨.netDegraded, device⟩ = true) (hscope : scope ∈ raisedFrom .netDegraded)
    (hlisted : ¬st.silentOn e fresh now scope device) : st.connected e now device scope := by
  have hread : ∃ n ∈ st.links e now, device ∈ n.listed ∨ scope = .netExpected := by
    simp only [raisedFrom, mem_cons, not_mem_nil, or_false] at hscope
    rcases hscope with rfl | rfl
    · simp only [MachineStatus.silentOn, not_forall, not_not, exists_prop] at hlisted
      obtain ⟨n, hn, hmem⟩ := hlisted
      exact ⟨n, hn, .inl hmem⟩
    · obtain ⟨n, hn⟩ := Option.ne_none_iff_exists'.mp hlisted
      exact ⟨n, hn, .inr rfl⟩
  obtain ⟨n, hn, hor⟩ := hread
  refine ⟨n, hn, ?_⟩
  by_cases hmem : device ∈ n.listed
  · rcases mem_listed.mp hmem with ⟨i, hi, rfl⟩ | ⟨b, hb, rfl⟩ | ⟨b, hb, m, hm, rfl⟩
    · have hport := h.ports n hn i hi
      simp only [finds_assessInterface, holds_assessInterface, not_or, not_and, hopen, true_and, and_true] at hport
      have hdown : ¬i.down e := hport.1.2.1
      have hstateless : ¬i.stateless e := hport.2.2.1
      refine .inl ⟨i, hi, rfl, fun hstate => hstateless (.inl hstate), fun hnamed => ?_⟩
      by_contra hup
      exact hdown ⟨hnamed, fun hs => hstateless (.inl hs), fun hs => hstateless (.inr ⟨hnamed, hs⟩), hup⟩
    · have hbond := h.bonds n hn b hb
      simp only [finds_assessBond, holds_assessBond, not_or, hopen, true_and, and_true] at hbond
      exact .inr (.inl ⟨b, hb, rfl, not_not.mp hbond.1.2.1, hbond.2.2.1⟩)
    · have hbond := h.bonds n hn b hb
      simp only [finds_assessBond, holds_assessBond, not_or, not_and, hopen, true_and, not_exists] at hbond
      have hsound : memberProblems b m = [] := by
        by_contra hproblems
        exact hbond.1.2.2 m hm hproblems rfl
      exact .inr (.inr (.inl ⟨b, hb, m, hm, rfl, hsound, Bool.eq_false_iff.mpr fun hs => hbond.2.2.2 m hm hsound hs rfl⟩))
  · exact .inr (.inr (.inr ⟨hor.resolve_left hmem, hmem, h.not_named hopen hn hmem⟩))

theorem Settled.fast (h : Settled st t e fresh opened now ⟨.linkSlow, device⟩) (hopen : opened.has ⟨.linkSlow, device⟩ = true)
    (hn : n ∈ st.links e now) {i : NetworkInterface} (hi : i ∈ n.interfaces) (hname : i.name = device) : i.fast e := by
  subst hname
  have hport := h.ports n hn i hi
  simp only [finds_assessInterface, holds_assessInterface, finds_assessTraffic, holds_assessTraffic, hopen, reduceCtorEq, Key.mk.injEq,
    and_false, false_or, or_false, and_true, true_and, not_exists, not_and] at hport
  obtain ⟨hspeed, hsome⟩ := hport
  obtain ⟨speed, hs⟩ := Option.ne_none_iff_exists'.mp hsome
  have hcarrying : i.carrying = true := by
    by_contra hc
    exact hsome (by simp [NetworkInterface.speed, hc])
  refine ⟨hcarrying, speed, ?_, Int.not_lt.mp (hspeed speed hs)⟩
  rwa [NetworkInterface.speed, if_pos hcarrying] at hs

variable {c : Carrier}

theorem Settled.carrier {k : Key} (h : Settled st t e fresh opened now k) (hn : n ∈ st.links e now) (hc : c ∈ n.carriers) :
    ¬(assessTraffic c.name c.traffic c.carrying c.up e opened).finds k ∧
      ¬(assessTraffic c.name c.traffic c.carrying c.up e opened).holds k := by
  rcases mem_append.mp hc with hmem | hmem
  · obtain ⟨i, hi, rfl⟩ := mem_map.mp hmem
    have hport := h.ports n hn i hi
    simp only [finds_assessInterface, holds_assessInterface, not_or] at hport
    exact ⟨hport.1.1, hport.2.1⟩
  · obtain ⟨b, hb, rfl⟩ := mem_map.mp hmem
    have hbond := h.bonds n hn b hb
    simp only [finds_assessBond, holds_assessBond, not_or] at hbond
    exact ⟨hbond.1.1, hbond.2.1⟩

theorem Settled.light (h : Settled st t e fresh opened now ⟨.saturated, c.name⟩)
    (hopen : opened.has ⟨.saturated, c.name⟩ = true) (hn : n ∈ st.links e now) (hc : c ∈ n.carriers) :
    c.light e opened := by
  have htraffic := h.carrier hn hc
  simp only [finds_assessTraffic, holds_assessTraffic, hopen, reduceCtorEq, Key.mk.injEq, and_false, false_or, or_false, and_true,
    true_and, not_exists, not_and] at htraffic
  obtain ⟨used, hused⟩ := Option.ne_none_iff_exists'.mp htraffic.2
  exact ⟨used, hused, Int.not_le.mp (htraffic.1 used hused)⟩

theorem Settled.clean (h : Settled st t e fresh opened now ⟨.linkErrors, c.name⟩)
    (hopen : opened.has ⟨.linkErrors, c.name⟩ = true) (hn : n ∈ st.links e now) (hc : c ∈ n.carriers) : c.clean e := by
  have htraffic := h.carrier hn hc
  simp only [finds_assessTraffic, holds_assessTraffic, hopen, reduceCtorEq, Key.mk.injEq, and_false, false_or, or_false, and_true,
    true_and, errorsHigh, errorsSilent, not_forall, not_and, not_exists, exists_prop] at htraffic
  obtain ⟨hlow, hcarrying, r, hr, hsilent⟩ := htraffic
  have herrors := Int.not_le.mp (hlow hcarrying r hr)
  exact ⟨hcarrying, r, hr, herrors, Int.not_lt.mp (hsilent herrors)⟩

theorem links_of_listed (hlisted : ¬st.silentOn e fresh now .net device) : ∃ n ∈ st.links e now, device ∈ n.listed := by
  simpa only [MachineStatus.silentOn, not_forall, not_not, exists_prop] using hlisted

theorem Settled.of_no_port (hn : n ∈ st.links e now) (hport : device ∉ n.interfaces.map NetworkInterface.name) :
    Settled st t e fresh opened now ⟨.linkSlow, device⟩ := by
  refine ⟨?_, ?_, ?_, ?_, fun n' hn' i hi => ?_, ?_, ?_⟩
  case refine_5 =>
    have hname : i.name ≠ device := by
      rintro rfl
      cases Option.mem_unique hn hn'
      exact hport (mem_map_of_mem hi)
    simp [hname, hname.symm]
  all_goals simp

theorem Settled.of_no_carrier {check : Check} (hcheck : check = .saturated ∨ check = .linkErrors) (hn : n ∈ st.links e now)
    (hcarrier : device ∉ n.carriers.map Carrier.name) : Settled st t e fresh opened now ⟨check, device⟩ := by
  have hports : ∀ n' ∈ st.links e now, ∀ i ∈ n'.interfaces, i.name ≠ device := by
    rintro n' hn' i hi rfl
    cases Option.mem_unique hn hn'
    exact hcarrier (mem_map.mpr ⟨i.carrier, mem_append_left _ (mem_map_of_mem hi), rfl⟩)
  have hbonds : ∀ n' ∈ st.links e now, ∀ b ∈ n'.bonds, b.name ≠ device := by
    rintro n' hn' b hb rfl
    cases Option.mem_unique hn hn'
    exact hcarrier (mem_map.mpr ⟨b.carrier, mem_append_right _ (mem_map_of_mem hb), rfl⟩)
  refine ⟨?_, ?_, ?_, ?_, fun n' hn' i hi => ?_, fun n' hn' b hb => ?_, ?_⟩
  case refine_5 =>
    have hname := hports n' hn' i hi
    rcases hcheck with rfl | rfl <;> simp [hname, hname.symm]
  case refine_6 =>
    have hname := hbonds n' hn' b hb
    rcases hcheck with rfl | rfl <;> simp [hname, hname.symm]
  all_goals rcases hcheck with rfl | rfl <;> simp

/-- Closed traffic has its carrier exactly where all listed carry. -/
theorem closed_by_carrier {check : Check} (hcheck : check = .saturated ∨ check = .linkErrors) {P : Carrier → Prop}
    (hP : Settled st t e fresh opened now ⟨check, device⟩ → ∀ n ∈ st.links e now, ∀ c ∈ n.carriers, c.name = device → P c) :
    (¬st.silentOn e fresh now .net device ∧ Settled st t e fresh opened now ⟨check, device⟩ →
        ∃ n ∈ st.links e now, ∃ c ∈ n.carriers, c.name = device ∧ P c) ↔
      ∀ n ∈ st.links e now, device ∈ n.listed → device ∈ n.carriers.map Carrier.name := by
  constructor
  · intro hclosed n hn hlisted
    by_contra hcarrier
    obtain ⟨n', hn', c, hc, rfl, -⟩ := hclosed ⟨fun hsilent => hsilent n hn hlisted, .of_no_carrier hcheck hn hcarrier⟩
    cases Option.mem_unique hn hn'
    exact hcarrier (mem_map_of_mem hc)
  · rintro hkind ⟨hlisted, h⟩
    obtain ⟨n, hn, hmem⟩ := links_of_listed hlisted
    obtain ⟨c, hc, hname⟩ := mem_map.mp (hkind n hn hmem)
    exact ⟨n, hn, c, hc, hname, hP h n hn c hc hname⟩

/-- Where a pool that closes an alert counts right, the kind of what is listed decides. -/
theorem contradicts_iff_listsItsKind (ho : o ∈ opened.items) (hscope : o.scope ∈ raisedFrom o.key.check)
    (hserials : ∀ s ∈ st.storage, ∀ d ∈ s.observed, d.serialNumber ≠ "")
    (hcounts : (assess st t e true opened now).closes o → st.counts now o) :
    ((assess st t e true opened now).closes o → st.contradicts t e true opened now o) ↔ st.listsItsKind e now o.key := by
  have hopen := has_of_mem ho
  have hserials' : ∀ l ∈ st.disks now, ∀ d ∈ l, d.serialNumber ≠ "" := by
    intro l hl d hd
    obtain ⟨s, hs, rfl⟩ := observed_of_disks hl
    exact hserials s hs d hd
  rw [closes_iff ho] at hcounts ⊢
  obtain ⟨⟨check, device⟩, scope⟩ := o
  dsimp only at hscope hopen hcounts ⊢
  cases check with
  | degraded => exact iff_of_true (fun hc => hc.2.intact hopen hscope hc.1 (hcounts hc)) trivial
  | scrubErrors => exact iff_of_true (fun hc => hc.2.scrubbed hopen (hcounts hc)) trivial
  | capacityHigh =>
    obtain rfl := mem_singleton.mp hscope
    exact iff_of_true (fun ⟨hlisted, h⟩ => h.roomy hopen hlisted) trivial
  | wearHigh => exact iff_of_true (fun ⟨hlisted, h⟩ => h.unworn hopen hserials' hscope hlisted) trivial
  | netDegraded => exact iff_of_true (fun ⟨hlisted, h⟩ => h.connected hopen hscope hlisted) trivial
  | linkSlow =>
    obtain rfl := mem_singleton.mp hscope
    constructor
    · intro hclosed n hn hlisted
      by_contra hport
      obtain ⟨n', hn', i, hi, rfl, -⟩ := hclosed ⟨fun hsilent => hsilent n hn hlisted, .of_no_port hn hport⟩
      cases Option.mem_unique hn hn'
      exact hport (mem_map_of_mem hi)
    · rintro hkind ⟨hlisted, h⟩
      obtain ⟨n, hn, hmem⟩ := links_of_listed hlisted
      obtain ⟨i, hi, hname⟩ := mem_map.mp (hkind n hn hmem)
      exact ⟨n, hn, i, hi, hname, h.fast hopen hn hi hname⟩
  | saturated =>
    obtain rfl := mem_singleton.mp hscope
    exact closed_by_carrier (.inl rfl) fun h n hn c hc hname => by subst hname; exact h.light hopen hn hc
  | linkErrors =>
    obtain rfl := mem_singleton.mp hscope
    exact closed_by_carrier (.inr rfl) fun h n hn c hc hname => by subst hname; exact h.clean hopen hn hc
  | other name => exact absurd hscope not_mem_nil

end Closing

namespace Fixture

def slow : OpenAlert := ⟨⟨.linkSlow, "lan"⟩, .net⟩

def linked (interfaces : List NetworkInterface) (bonds : List NetworkBond) : MachineStatus :=
  { network := some { observedAt := some now, interfaces, bonds } }

def port (name : String) : NetworkInterface := { name, operState := "up", speedMbps := some 10000 }

def bond : NetworkBond :=
  { name := "lan", mode := "active-backup", miiStatus := "up", members := [{ name := "lan0", miiStatus := "up" }] }

end Fixture

end FrameOperator.Storage
