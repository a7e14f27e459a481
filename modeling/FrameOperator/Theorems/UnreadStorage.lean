import FrameOperator.Lemmas.Readings

/-!
# What was not read changes no alert

Two statuses of a machine that agree on what was read in a pass are assessed alike, but for the wear of a disk, which is left to the
BMC wherever the inventory holds a figure for it (`stale_figure`, `unread_changes_nothing`).
-/

namespace FrameOperator.Storage

open Assessment MachineStatus

/-- A report of the agent that is not current. -/
def Silent (now : Time) (s : Option MachineStorage) : Prop := ∀ m ∈ s, silent m.observedAt now = true

structure AgreeStacks (l l' : LocalStorage) : Prop where
  md : l'.md = l.md ∨ (stackUnread l.md.state l.md.error ≠ "" ∧ stackUnread l'.md.state l'.md.error ≠ "")
  zfs : l'.zfs = l.zfs ∨ (stackUnread l.zfs.state l.zfs.error ≠ "" ∧ stackUnread l'.zfs.state l'.zfs.error ≠ "")

structure AgreeReports (s s' : MachineStorage) : Prop where
  observed : s'.observed = s.observed
  observedAt : s'.observedAt = s.observedAt
  localStorage : Option.Rel AgreeStacks s.localStorage s'.localStorage

/-- Two statuses agree, except in what was not read in the pass. -/
structure Agree (e : NetExpectations) (fresh : Bool) (now : Time) (st st' : MachineStatus) : Prop where
  storage : (Silent now st.storage ∧ Silent now st'.storage) ∨ Option.Rel AgreeReports st.storage st'.storage
  inventory : fresh = true → st'.inventory = st.inventory
  network : st'.network = st.network ∨ (netUnread st.network e now ≠ none ∧ netUnread st'.network e now ≠ none)

/-- The findings are the same, and so are the alerts that are closed. -/
def SameOutcome (opened : Open) (a a' : Assessment) : Prop :=
  a'.findings = a.findings ∧ ∀ o ∈ opened.items, (a'.closes o ↔ a.closes o)

/-- The BMC answered, or each disk that was read settles by its own figure what the inventories would. -/
def SettledByDisks (st st' : MachineStatus) (t : Thresholds) (e : NetExpectations) (fresh : Bool) (opened : Open)
    (now : Time) : Prop :=
  fresh = true ∨ ∀ l ∈ st.disks now, ∀ d ∈ l, figured st'.inventory d.serialNumber = figured st.inventory d.serialNumber ∨
    (∃ used, d.wear = some used ∧ used < t.ssdWearPercent) ∨
    (d.wear = none ∧ ∀ o ∈ opened.items, o.key = ⟨.wearHigh, d.serialNumber⟩ → st.silentOn e fresh now o.scope d.serialNumber)

/-! ## What was read is the same -/

/-- The statuses agree on what could be read. -/
structure SameReading (e : NetExpectations) (fresh : Bool) (now : Time) (st st' : MachineStatus) : Prop where
  md : st'.md now = st.md now
  zfs : st'.zfs now = st.zfs now
  disks : st'.disks now = st.disks now
  drives : st'.drives fresh = st.drives fresh
  links : st'.links e now = st.links e now

theorem report_of_silent {now : Time} {st : MachineStatus} (h : Silent now st.storage) : st.report now = none := by
  unfold report
  cases hs : st.storage with
  | none => rfl
  | some m =>
    have hm := h m (by rw [hs]; rfl)
    cases hl : m.localStorage <;> simp [Option.filter, hm, hl]

theorem Agree.reading {e : NetExpectations} {fresh : Bool} {now : Time} {st st' : MachineStatus} (h : Agree e fresh now st st') :
    SameReading e fresh now st st' := by
  have hstacks : st'.md now = st.md now ∧ st'.zfs now = st.zfs now ∧ st'.disks now = st.disks now := by
    unfold md zfs disks
    rcases h.storage with ⟨hs, hs'⟩ | hrel
    · simp [report_of_silent hs, report_of_silent hs']
    unfold report
    generalize st.storage = s at hrel ⊢
    generalize st'.storage = s' at hrel ⊢
    cases hrel with
    | none => simp
    | some hr =>
      rename_i s s'
      obtain ⟨observed, observedAt, localStorage⟩ := s
      obtain ⟨observed', observedAt', localStorage'⟩ := s'
      obtain ⟨hobserved, hat, hlocal⟩ := hr
      dsimp only at hobserved hat hlocal
      subst hobserved hat
      cases hlocal with
      | none => simp
      | some hl =>
        rename_i l l'
        by_cases hsilent : silent observedAt' now = true
        · simp [Option.filter, hsilent]
        refine ⟨?_, ?_, by simp [Option.filter, hsilent]⟩
        · rcases hl.md with heq | ⟨hu, hu'⟩
          · simp [Option.filter, hsilent, heq]
          · simp [Option.filter, hsilent, hu, hu']
        · rcases hl.zfs with heq | ⟨hu, hu'⟩
          · simp [Option.filter, hsilent, heq]
          · simp [Option.filter, hsilent, hu, hu']
  refine ⟨hstacks.1, hstacks.2.1, hstacks.2.2, ?_, ?_⟩
  · unfold drives
    cases fresh with
    | false => rfl
    | true => rw [h.inventory rfl]
  · unfold links
    rcases h.network with heq | ⟨hu, hu'⟩
    · rw [heq]
    · rw [if_neg hu, if_neg hu']

/-! ## What follows from what was read -/

section Same

variable {e : NetExpectations} {fresh : Bool} {now : Time} {st st' : MachineStatus} {t : Thresholds} {opened : Open} {k : Key}

section

variable (h : SameReading e fresh now st st')
include h

theorem SameReading.silentOn (scope : Scope) (device : String) :
    st'.silentOn e fresh now scope device ↔ st.silentOn e fresh now scope device := by
  unfold MachineStatus.silentOn
  rw [h.md, h.zfs, h.disks, h.drives, h.links]

theorem SameReading.assessDrive (d : DriveInfo) :
    assessDrive (smartUnread st' now) st'.storage t opened d = assessDrive (smartUnread st now) st.storage t opened d := by
  have hwear : ∀ serial,
      smartReportsWear (smartUnread st' now) st'.storage serial = smartReportsWear (smartUnread st now) st.storage serial := by
    intro serial
    rw [Bool.eq_iff_iff, smartReportsWear_iff, smartReportsWear_iff, h.disks]
  unfold Storage.assessDrive
  simp only [hwear]

/-- Statuses that read the same find the same. -/
theorem SameReading.finds
    (hdisks : ∀ l ∈ st.disks now, ∀ d ∈ l, (assessDisk st'.inventory t opened d).finds k ↔
      (assessDisk st.inventory t opened d).finds k) :
    (assess st' t e fresh opened now).finds k ↔ (assess st t e fresh opened now).finds k := by
  simp only [finds_assess, h.md, h.zfs, h.disks, h.drives, h.links, h.assessDrive]
  refine or_congr_right (or_congr_right (or_congr_right (or_congr_left ?_)))
  exact exists_congr fun l => and_congr_right fun hl => exists_congr fun d => and_congr_right fun hd => hdisks l hl d hd

/-- Statuses that read the same keep the same alerts. -/
theorem SameReading.keeps {o : OpenAlert} (ho : o ∈ opened.items)
    (hdisks : ∀ l ∈ st.disks now, ∀ d ∈ l,
      (assessDisk st'.inventory t opened d).holds o.key ↔ (assessDisk st.inventory t opened d).holds o.key) :
    (assess st' t e fresh opened now).keeps o.key o.scope = true ↔ (assess st t e fresh opened now).keeps o.key o.scope = true := by
  rw [keeps_assess ho, keeps_assess ho, h.silentOn]
  refine or_congr_right ?_
  simp only [deviceSilent, h.zfs, h.disks, h.drives, h.links, h.assessDrive]
  refine or_congr_right (or_congr_right (or_congr_left ?_))
  exact exists_congr fun l => and_congr_right fun hl => exists_congr fun d => and_congr_right fun hd => hdisks l hl d hd

theorem SameReading.findings
    (hdisks : ∀ l ∈ st.disks now, ∀ d ∈ l,
      (assessDisk st'.inventory t opened d).findings = (assessDisk st.inventory t opened d).findings) :
    (assess st' t e fresh opened now).findings = (assess st t e fresh opened now).findings := by
  have hsmart : ((st.disks now).map fun l => l.flatMap fun d => (assessDisk st'.inventory t opened d).findings) =
      (st.disks now).map fun l => l.flatMap fun d => (assessDisk st.inventory t opened d).findings := by
    refine Option.map_congr fun l hl => ?_
    rw [List.flatMap_def, List.flatMap_def, List.map_congr_left fun d hd => hdisks l hl d hd]
  simp only [assess, isUnread_assessLocal, findings_append, findings_assessLocal, findings_assessDrives, findings_assessSMART,
    findings_assessNetwork, h.md, h.zfs, h.disks, h.drives, h.links, h.assessDrive, hsmart]

end

theorem finds_wear_stale (serial : String) : (assess st t e false opened now).finds ⟨.wearHigh, serial⟩ ↔
    figured st.inventory serial = false ∧
      ∃ l ∈ st.disks now, ∃ d ∈ l, d.serialNumber = serial ∧ ∃ used, d.wear = some used ∧ t.ssdWearPercent ≤ used := by
  rw [finds_assess]
  have hdrives : st.drives false = none := rfl
  simp only [finds_assessArray, finds_assessPool, finds_assessDisk, finds_assessLinks, finds_assessInterface, finds_assessBond,
    finds_assessTraffic, finds_assessExpected, hdrives, Key.mk.injEq, reduceCtorEq,
      false_and, and_false, or_false, false_or, exists_false,
    Option.not_mem_none, true_and]
  constructor
  · rintro ⟨l, hl, d, hd, ⟨hf, hw⟩, rfl⟩
    exact ⟨hf, l, hl, d, hd, rfl, hw⟩
  · rintro ⟨hf, l, hl, d, hd, rfl, hw⟩
    exact ⟨l, hl, d, hd, ⟨hf, hw⟩, rfl⟩

theorem keeps_wear_stale {o : OpenAlert} (ho : o ∈ opened.items) {serial : String} (hkey : o.key = ⟨.wearHigh, serial⟩) :
    (assess st t e false opened now).keeps o.key o.scope = true ↔ st.silentOn e false now o.scope serial ∨
      (figured st.inventory serial = false ∧ ∃ l ∈ st.disks now, ∃ d ∈ l, d.serialNumber = serial ∧ d.wear = none) := by
  rw [keeps_assess ho, hkey]
  refine or_congr_right ?_
  have hopen : opened.has ⟨.wearHigh, serial⟩ = true := hkey ▸ has_of_mem ho
  have hdrives : st.drives false = none := rfl
  simp only [deviceSilent, linkSilent, holds_assessPool, holds_assessDisk,
    holds_assessInterface, holds_assessBond, holds_assessTraffic,
    holds_assessExpected, hdrives, Key.mk.injEq, reduceCtorEq, false_and, and_false,
      or_false, false_or, exists_false, Option.not_mem_none,
    true_and, hopen]
  constructor
  · rintro ⟨l, hl, d, hd, hf, hw, rfl⟩
    exact ⟨hf, l, hl, d, hd, rfl, hw⟩
  · rintro ⟨hf, l, hl, d, hd, rfl, hw⟩
    exact ⟨l, hl, d, hd, hf, hw, rfl⟩

end Same

/-! ## The law -/

section Law

variable {e : NetExpectations} {now : Time} {st st' : MachineStatus} {t : Thresholds} {opened : Open}

theorem SameReading.outcome {fresh : Bool} (h : SameReading e fresh now st st') (hinv : st'.inventory = st.inventory) :
    SameOutcome opened (assess st t e fresh opened now) (assess st' t e fresh opened now) := by
  refine ⟨h.findings fun _ _ _ _ => by rw [hinv], fun o ho => and_congr (not_congr ?_) (not_congr ?_)⟩
  · exact h.finds fun _ _ _ _ => by rw [hinv]
  · exact h.keeps ho fun _ _ _ _ => by rw [hinv]

theorem findings_assessDiskWear {d : ObservedDisk} (h : ∀ used, d.wear = some used → used < t.ssdWearPercent) :
    (assessDiskWear d none t opened).findings = [] := by
  unfold assessDiskWear hold
  cases hw : d.smart.bind DiskSMART.wearUsedPercent with
  | none => simp [apply_ite Assessment.findings]
  | some used => simp [Int.not_le.mpr (h used hw)]

/-- Where the disks settle it, inventories do not count. -/
theorem SettledByDisks.outcome (h : SameReading e false now st st') (hs : SettledByDisks st st' t e false opened now) :
    SameOutcome opened (assess st t e false opened now) (assess st' t e false opened now) := by
  have hdisks := hs.resolve_left Bool.false_ne_true
  have hlow : ∀ l ∈ st.disks now, ∀ d ∈ l, figured st'.inventory d.serialNumber = figured st.inventory d.serialNumber ∨
      ∀ used, d.wear = some used → used < t.ssdWearPercent := by
    intro l hl d hd
    refine (hdisks l hl d hd).imp_right fun hor used hused => ?_
    rcases hor with ⟨used', hused', hlt⟩ | ⟨hnone, -⟩
    · rw [hused'] at hused
      cases hused
      exact hlt
    · rw [hnone] at hused
      cases hused
  refine ⟨h.findings fun l hl d hd => ?_, fun o ho => ?_⟩
  · rw [findings_assessDisk, findings_assessDisk]
    rcases hlow l hl d hd with heq | hwear
    · rw [heq]
    · rw [findings_assessDiskWear hwear, ite_self, ite_self]
  · by_cases hwear : o.key.check = .wearHigh
    · -- the wear of a disk: the key is that of its serial number
      obtain ⟨⟨check, serial⟩, scope⟩ := o
      dsimp only at hwear
      subst hwear
      have hfinds : (assess st' t e false opened now).finds ⟨.wearHigh, serial⟩ ↔
          (assess st t e false opened now).finds ⟨.wearHigh, serial⟩ := by
        rw [finds_wear_stale, finds_wear_stale, h.disks]
        refine and_congr_left fun ⟨l, hl, d, hd, hserial, used, hused, hhigh⟩ => ?_
        subst hserial
        rw [(hlow l hl d hd).resolve_right fun hlt => Int.not_le.mpr (hlt used hused) hhigh]
      refine and_congr (not_congr hfinds) (not_congr ?_)
      rw [keeps_wear_stale ho rfl, keeps_wear_stale ho rfl, h.silentOn, h.disks]
      by_cases hsilent : st.silentOn e false now scope serial
      · exact iff_of_true (.inl hsilent) (.inl hsilent)
      refine or_congr_right (and_congr_left fun ⟨l, hl, d, hd, hserial, hnone⟩ => ?_)
      subst hserial
      rcases hdisks l hl d hd with heq | ⟨used, hused, -⟩ | ⟨-, hquiet⟩
      · rw [heq]
      · rw [hnone] at hused
        cases hused
      · exact absurd (hquiet _ ho rfl) hsilent
    · refine and_congr (not_congr (h.finds fun _ _ d _ => ?_)) (not_congr (h.keeps ho fun _ _ d _ => ?_))
      · have hne : (⟨.wearHigh, d.serialNumber⟩ : Key) ≠ o.key := fun heq => hwear (by rw [← heq])
        simp [hne]
      · have hne : o.key ≠ ⟨.wearHigh, d.serialNumber⟩ := fun heq => hwear (by rw [heq])
        simp [hne]

theorem SettledByDisks.of_outcome (h : SameReading e false now st st')
    (hs : SameOutcome opened (assess st t e false opened now) (assess st' t e false opened now)) :
    SettledByDisks st st' t e false opened now := by
  have hfinds : ∀ k, (assess st' t e false opened now).finds k ↔ (assess st t e false opened now).finds k := by
    intro k
    unfold Assessment.finds
    rw [hs.1]
  refine .inr fun l hl d hd => ?_
  by_cases heq : figured st'.inventory d.serialNumber = figured st.inventory d.serialNumber
  · exact .inl heq
  refine .inr ?_
  cases hwear : d.wear with
  | some used =>
    refine .inl ⟨used, rfl, Int.not_le.mp fun hhigh => heq ?_⟩
    have hsame := hfinds ⟨.wearHigh, d.serialNumber⟩
    rw [finds_wear_stale, finds_wear_stale, h.disks] at hsame
    have hthere : ∃ l ∈ st.disks now, ∃ d' ∈ l, d'.serialNumber = d.serialNumber ∧
        ∃ used, d'.wear = some used ∧ t.ssdWearPercent ≤ used :=
      ⟨l, hl, d, hd, rfl, used, hwear, hhigh⟩
    simp only [hthere, and_true] at hsame
    cases h1 : figured st'.inventory d.serialNumber <;> cases h2 : figured st.inventory d.serialNumber <;> simp_all
  | none =>
    refine .inr ⟨rfl, fun o ho hkey => ?_⟩
    by_contra hsilent
    have hcloses := hs.2 o ho
    unfold Assessment.closes at hcloses
    rw [hkey, finds_wear_stale, finds_wear_stale, ← hkey, keeps_wear_stale ho hkey,
      keeps_wear_stale ho hkey, h.silentOn, h.disks] at hcloses
    have hthere : ∃ l ∈ st.disks now, ∃ d' ∈ l, d'.serialNumber = d.serialNumber ∧ d'.wear = none := ⟨l, hl, d, hd, rfl, hwear⟩
    simp only [hthere, hsilent, and_true, false_or] at hcloses
    cases h1 : figured st'.inventory d.serialNumber <;> cases h2 : figured st.inventory d.serialNumber <;> simp_all

end Law

/-- Statuses that agree on what was read are assessed the same exactly if the BMC answered or the disks settle it. -/
theorem unread_changes_nothing (st st' : MachineStatus) (t : Thresholds) (e : NetExpectations)
    (fresh : Bool) (opened : Open) (now : Time)
    (h : Agree e fresh now st st') :
    SameOutcome opened (assess st t e fresh opened now) (assess st' t e fresh opened now) ↔
      SettledByDisks st st' t e fresh opened now := by
  cases fresh with
  | true => exact iff_of_true (h.reading.outcome (h.inventory rfl)) (.inl rfl)
  | false => exact ⟨SettledByDisks.of_outcome h.reading, fun hs => hs.outcome h.reading⟩

namespace Fixture

def now : Time := 600 * Time.nanosPerSecond

def thresholds : Thresholds := thresholdsFrom none

def expectations : NetExpectations := netExpectationsFrom none "node-a"

def disk (used : Int) : MachineStorage where
  observed := [{ path := "/dev/sda", serialNumber := "S-A", smart := some { passed := some true, wearUsedPercent := some used } }]
  observedAt := some now
  localStorage := some { zfs := { state := .absent }, md := { state := .absent } }

def lastSaid (used : Int) : MachineInventory :=
  { drives := [{ serialNumber := "S-A", mediaType := "SSD", ssdEnduranceUsedPercent := some used }] }

def worn : Open := Keyed.empty.insertNew ⟨⟨.wearHigh, "S-A"⟩, .smart⟩

def unanswered (used : Int) (inv : Option MachineInventory) : Assessment :=
  assess { inventory := inv, storage := some (disk used) } thresholds expectations false worn now

end Fixture

open Storage.Fixture in
/-- A worn disk is found without an inventory, and not with the low figure of an earlier probe. -/
theorem stale_figure :
    Agree expectations false now { storage := some (disk 95) } { inventory := some (lastSaid 10), storage := some (disk 95) } ∧
      (unanswered 95 none).finds ⟨.wearHigh, "S-A"⟩ ∧ (unanswered 95 (some (lastSaid 10))).closes ⟨⟨.wearHigh, "S-A"⟩, .smart⟩ := by
  refine ⟨⟨.inr (.some ⟨rfl, rfl, .some ⟨.inl rfl, .inl rfl⟩⟩), nofun, .inl rfl⟩, ?_, ?_⟩
  · exact ⟨_, List.mem_singleton_self _, rfl⟩
  · exact closes_of_quiet (by decide +kernel) (by decide +kernel)

open Storage.Fixture in
/-- The disk's own figure is low: the inventory makes no difference. -/
theorem unread_changes_nothing_low :
    Agree expectations false now { storage := some (disk 40) } { inventory := some (lastSaid 10), storage := some (disk 40) } ∧
      SameOutcome worn (unanswered 40 none) (unanswered 40 (some (lastSaid 10))) := by
  have hagree : Agree expectations false now { storage := some (disk 40) }
    { inventory := some (lastSaid 10), storage := some (disk 40) } :=
    ⟨.inr (.some ⟨rfl, rfl, .some ⟨.inl rfl, .inl rfl⟩⟩), nofun, .inl rfl⟩
  refine ⟨hagree, (unread_changes_nothing _ _ thresholds _ _ worn _ hagree).mpr (.inr fun l hl d hd => .inr (.inl ⟨40, ?_⟩))⟩
  obtain rfl : l = (disk 40).observed := by
    have : some l = some (disk 40).observed := hl.symm
    exact Option.some.inj this
  obtain rfl := List.mem_singleton.mp hd
  exact ⟨rfl, by decide⟩

end FrameOperator.Storage
