import FrameOperator.Theorems.Contradicted

/-!
# What a condition that is False says

A condition of a machine is False only if all that it is about was read, and reads in order (`false_in_order`). Of a pool whose size
was not given nothing is counted (`false_unsized`), and the errors of a vdev have to show in their sum, which wraps at 64 bits.
-/

namespace FrameOperator.Storage

open Assessment List

variable {a : Assessment} {scope : Scope} {check : Check} {d : ObservedDisk} {n : MachineNetwork} {c : Carrier}

/-! ## What leads to False -/

structure Quiet (a : Assessment) (check : Check) (opened : Open) : Prop where
  finds : ∀ k, k.check = check → ¬a.finds k
  keeps : ∀ o ∈ opened.items, o.key.check = check → ¬a.keeps o.key o.scope = true
  misses : ∀ scope ∈ checkScopes check, ¬a.misses scope
  cuts : ∀ scope ∈ checkScopes check, ¬a.cuts scope
  smartSilent : check = .degraded → a.smartSilent = []
  smartCut : check = .wearHigh → ¬a.cuts .smart
  wear : check = .wearHigh → a.wearUnreported = 0
  speed : check = .linkSlow → a.speedUnreported = 0
  capacity : check = .saturated → a.capacityUnreported = 0

theorem unavailable_eq_none : a.unavailable scope = none ↔ ¬a.misses scope ∧ ¬a.cuts scope := by
  unfold unavailable misses cuts
  rw [← isSome_why?, ← isSome_why?]
  cases why? a.unread scope <;> cases why? a.cut scope <;> simp

theorem quietVerdict_eq_false : (a.quietVerdict check).status = .false ↔
    (∀ scope ∈ checkScopes check, a.unavailable scope = none) ∧ (check = .degraded → a.smartSilent = []) ∧
      (check = .wearHigh → ¬a.cuts .smart ∧ a.wearUnreported = 0) ∧ (check = .linkSlow → a.speedUnreported = 0) ∧
        (check = .saturated → a.capacityUnreported = 0) := by
  have hcut : (if check = .wearHigh then why? a.cut .smart else none) = none ↔ (check = .wearHigh → ¬a.cuts .smart) := by
    unfold cuts
    rw [← isSome_why?]
    split <;> simp [*]
  have hsilent : (if check = .degraded && !a.smartSilent.isEmpty then
      [Scope.smart.name ++ ": nothing read from " ++ ", ".intercalate a.smartSilent] else []) = [] ↔
        (check = .degraded → a.smartSilent = []) := by
    by_cases hc : check = .degraded <;> simp [hc]
  unfold quietVerdict
  rw [← filterMap_eq_nil_iff, ← and_assoc, ← hsilent, ← append_eq_nil_iff, forall_and, and_assoc, ← hcut]
  dsimp only
  generalize (checkScopes check).filterMap a.unavailable ++ _ = unread
  generalize (if check = .wearHigh then why? a.cut .smart else none) = cut
  cases unread with
  | cons => simp
  | nil =>
    cases cut with
    | some => simp
    | none =>
      by_cases hwear : check = .wearHigh
      · by_cases h : a.wearUnreported = 0 <;> simp [hwear, h, Nat.pos_iff_ne_zero]
      by_cases hslow : check = .linkSlow
      · by_cases h : a.speedUnreported = 0 <;> simp [hslow, h, Nat.pos_iff_ne_zero]
      by_cases hsat : check = .saturated
      · by_cases h : a.capacityUnreported = 0 <;> simp [hsat, h, Nat.pos_iff_ne_zero]
      · simp [hwear, hslow, hsat]

theorem verdict_eq_false {opened : Open} :
    (a.verdict check opened).status = .false ↔ Quiet a check opened := by
  have hfinds : ((a.findings.filter fun f => f.check = check).map Finding.message).isEmpty = true ↔
      ∀ k, k.check = check → ¬a.finds k := by
    simp only [List.isEmpty_iff, List.map_eq_nil_iff, List.filter_eq_nil_iff, decide_eq_true_eq, finds]
    constructor
    · rintro h k hk ⟨f, hf, rfl⟩
      exact h f hf hk
    · intro h f hf hk
      exact h f.toKey hk ⟨f, hf, rfl⟩
  have hkeeps : (opened.items.any fun o => o.key.check = check && a.keeps o.key o.scope) = false ↔
      ∀ o ∈ opened.items, o.key.check = check → ¬a.keeps o.key o.scope = true := by
    simp [any_eq_false]
  have hsplit : (a.verdict check opened).status = .false ↔ (∀ k, k.check = check → ¬a.finds k) ∧
      (∀ o ∈ opened.items, o.key.check = check → ¬a.keeps o.key o.scope = true) ∧ (a.quietVerdict check).status = .false := by
    rw [← hfinds, ← hkeeps]
    unfold verdict
    dsimp only
    generalize (a.findings.filter fun f => f.check = check).map Finding.message = msgs
    generalize (opened.items.any fun o => o.key.check = check && a.keeps o.key o.scope) = kept
    cases msgs <;> cases kept <;> simp
  rw [hsplit, quietVerdict_eq_false]
  simp only [unavailable_eq_none]
  constructor
  · rintro ⟨hf, hk, hs, hsilent, hw, hspeed, hcap⟩
    exact ⟨hf, hk, fun s h => (hs s h).1, fun s h => (hs s h).2, hsilent, fun h => (hw h).1, fun h => (hw h).2, hspeed, hcap⟩
  · rintro ⟨hf, hk, hmisses, hcuts, hsilent, hcut, hw, hspeed, hcap⟩
    exact ⟨hf, hk, fun s h => ⟨hmisses s h, hcuts s h⟩, hsilent, fun h => ⟨hcut h, hw h⟩, hspeed, hcap⟩

/-! ## What is in order -/

/-- The checks whose conditions rest on what every device says of itself. -/
def figureChecks : List Check := [.degraded, .capacityHigh, .wearHigh, .linkSlow, .saturated, .linkErrors]

namespace MachineStatus

variable (st : MachineStatus) (t : Thresholds) (e : NetExpectations) (fresh : Bool) (opened : Open) (now : Time)

/-- Every array and pool is listed and healthy, and every disk owed a read passed. -/
def healthy : Prop :=
  (∃ md ∈ st.md now, md.arraysOmitted ≤ 0 ∧ ∀ arr ∈ md.arrays, arr.degraded = false) ∧
    (∃ z ∈ st.zfs now, z.poolsOmitted ≤ 0 ∧ ∀ p ∈ z.pools, p.sound) ∧
    ∃ l ∈ st.disks now, l.length < maxObservedDisks ∧
      ∀ d ∈ l, readOwed d (bmcDrive st.inventory d.serialNumber) = true → d.passed = some true

/-- Every pool is listed, with a percentage below its limit. -/
def roomy : Prop :=
  ∃ z ∈ st.zfs now, z.poolsOmitted ≤ 0 ∧ ∀ p ∈ z.pools, ∃ c, p.capacityPercent = some c ∧ c < capacityLimit t opened p.name

/-- The serial number has a current figure below the threshold, from BMC or disk. -/
def lowFigure (serial : String) : Prop :=
  (∃ l ∈ st.drives fresh, ∃ d ∈ l, d.serialNumber = serial ∧ ∃ used, d.ssdEnduranceUsedPercent = some used ∧ used < t.ssdWearPercent) ∨
    ∃ l ∈ st.disks now, ∃ d ∈ l, d.serialNumber = serial ∧ ∃ used, d.wear = some used ∧ used < t.ssdWearPercent

/-- Every solid-state drive, and every disk that is not known to spin, has a current figure below the threshold. -/
def enduring : Prop :=
  (∃ l ∈ st.drives fresh, l.length < maxInventoryDrives ∧ ∀ d ∈ l, d.mediaType = mediaSSD →
      (∃ used, d.ssdEnduranceUsedPercent = some used ∧ used < t.ssdWearPercent) ∨ st.lowFigure t fresh now d.serialNumber) ∧
    ∀ s ∈ st.storage, ∀ d ∈ s.observed, maybeSolidState d = true → st.lowFigure t fresh now d.serialNumber

/-- What `False` means for a check. -/
def inOrder (check : Check) : Prop :=
  match check with
  | .degraded => st.healthy now
  | .capacityHigh => st.roomy t opened now
  | .wearHigh => st.enduring t fresh now
  | .linkSlow => ∃ n ∈ st.links e now, n.cutBy = none ∧ ∀ i ∈ n.interfaces, i.operState = "up" → i.fast e
  | .saturated => ∃ n ∈ st.links e now, n.cutBy = none ∧ ∀ c ∈ n.carriers, c.up = true → c.light e opened
  | .linkErrors => ∃ n ∈ st.links e now, n.cutBy = none ∧ ∀ c ∈ n.carriers, c.up = true → c.clean e
  | _ => True

/-- The errors of every vdev of the pools that were read show in their sum. -/
def counted : Prop := ∀ z ∈ st.zfs now, ∀ p ∈ z.pools, p.counted

/-- Every pool that was read has a percentage, or the condition is not False for another reason. -/
def sized : Prop :=
  ∀ z ∈ st.zfs now, (∀ p ∈ z.pools, p.capacityPercent ≠ none) ∨ 0 < z.poolsOmitted ∨ (∃ p ∈ z.pools, p.readInPart) ∨
    (∃ p ∈ z.pools, ∃ c, p.capacityPercent = some c ∧ capacityLimit t opened p.name ≤ c) ∨
    ∃ o ∈ opened.items, o.key.check = .capacityHigh ∧
      (st.silentOn e fresh now o.scope o.key.device ∨ ∃ p ∈ z.pools, p.name = o.key.device ∧ p.capacityPercent = none)

end MachineStatus

/-! ## The stacks -/

section Checks

variable {st : MachineStatus} {t : Thresholds} {e : NetExpectations} {fresh : Bool} {opened : Open} {now : Time}

theorem cuts_assess : (assess st t e fresh opened now).cuts scope ↔ (scope = .md ∧ ∃ md ∈ st.md now, 0 < md.arraysOmitted) ∨
      (scope = .zfs ∧ ∃ z ∈ st.zfs now, 0 < z.poolsOmitted ∨ ∃ p ∈ z.pools, p.readInPart) ∨
        (scope = .drives ∧ ∃ l ∈ st.drives fresh, maxInventoryDrives ≤ l.length) ∨
          (scope = .smart ∧ ∃ l ∈ st.disks now, maxObservedDisks ≤ l.length) ∨
            ∃ n ∈ st.links e now, (assessLinks n e opened).cuts scope := by
  simp only [assess, isUnread_assessLocal, cuts_append, cuts_assessLocal, cuts_assessDrives,
    cuts_assessSMART, cuts_assessNetwork, or_assoc]

/-- A quiet verdict on pools rests on a list in full. -/
theorem zfs_of_quiet (h : Quiet (assess st t e fresh opened now) check opened) (hscope : Scope.zfs ∈ checkScopes check) :
    ∃ z ∈ st.zfs now, z.poolsOmitted ≤ 0 ∧ ∀ p ∈ z.pools, ¬p.readInPart := by
  have hmisses := h.misses .zfs hscope
  have hcuts := h.cuts .zfs hscope
  rw [misses_assess] at hmisses
  rw [cuts_assess] at hcuts
  cases hz : st.zfs now with
  | none => exact absurd (.inr (.inl ⟨rfl, hz⟩)) hmisses
  | some z =>
    simp only [hz, reduceCtorEq, false_and, true_and, false_or, not_or, Option.mem_def, Option.some.injEq, exists_eq_left', not_exists,
      not_and, Int32.not_lt] at hcuts
    exact ⟨z, rfl, hcuts.1.1, hcuts.1.2⟩

variable {inv : Option MachineInventory}

theorem smartSilent_assessDisk : (assessDisk inv t opened d).smartSilent ≠ [] ↔
    d.passed = none ∧ readOwed d (bmcDrive inv d.serialNumber) = true := by
  unfold assessDisk assessDiskHealth assessDiskWear hold ObservedDisk.passed
  rcases d.smart.bind DiskSMART.passed with _ | _ | _ <;> cases d.smart.bind DiskSMART.wearUsedPercent <;>
    simp [apply_ite smartSilent, add]

theorem smartSilent_assess (h : (assess st t e fresh opened now).smartSilent = []) {l : List ObservedDisk} (hl : st.disks now = some l)
    (hd : d ∈ l) : (assessDisk st.inventory t opened d).smartSilent = [] := by
  have hsmart : (assessSMART (smartUnread st now) st.storage st.inventory t opened).smartSilent = [] := by
    simp only [assess, isUnread_assessLocal, smartSilent_append, append_eq_nil_iff] at h
    exact h.1.2
  obtain ⟨n, hs⟩ := assessSMART_eq st st.inventory t opened now
  rw [hs, hl, Option.elim, smartSilent_append, smartSilent_append, append_eq_nil_iff, append_eq_nil_iff] at hsmart
  by_contra hne
  exact smartSilent_gather.mpr ⟨d, hd, hne⟩ hsmart.1.1

theorem healthy_of_quiet (h : Quiet (assess st t e fresh opened now) .degraded opened) (hcounted : st.counted now) :
    st.healthy now := by
  have hmisses : ∀ scope ∈ checkScopes .degraded, _ := fun scope hscope => misses_assess.not.mp (h.misses scope hscope)
  have hcuts : ∀ scope ∈ checkScopes .degraded, _ := fun scope hscope => cuts_assess.not.mp (h.cuts scope hscope)
  have hfinds : ∀ device, _ := fun device => finds_assess.not.mp (h.finds ⟨.degraded, device⟩ rfl)
  simp only [not_or] at hmisses hcuts hfinds
  refine ⟨?_, ?_, ?_⟩
  · obtain ⟨md, hmd⟩ := Option.ne_none_iff_exists'.mp fun hnone => (hmisses .md (by decide)).1 ⟨rfl, hnone⟩
    refine ⟨md, hmd, ?_, fun arr harr => ?_⟩
    · by_contra hpos
      exact (hcuts .md (by decide)).1 ⟨rfl, md, hmd, Int32.not_le.mp hpos⟩
    · by_contra hdegraded
      exact (hfinds arr.name).1 ⟨md, hmd, arr, harr, by simpa using hdegraded⟩
  · obtain ⟨z, hz, homitted, hfull⟩ := zfs_of_quiet h (by decide)
    refine ⟨z, hz, homitted, fun p hp => ZPool.sound_of ?_ (hfull p hp) (hcounted z hz p hp)⟩
    by_contra hproblems
    exact (hfinds p.name).2.1 ⟨z, hz, p, hp, by simpa using hproblems⟩
  · obtain ⟨l, hl⟩ := Option.ne_none_iff_exists'.mp fun hnone => (hmisses .smart (by decide)).2.2.1 ⟨rfl, hnone⟩
    refine ⟨l, hl, ?_, fun d hd howed => ?_⟩
    · by_contra hlong
      exact (hcuts .smart (by decide)).2.2.2.1 ⟨rfl, l, hl, Nat.not_lt.mp hlong⟩
    · have hread := smartSilent_assess (h.smartSilent rfl) hl hd
      cases hpassed : d.passed with
      | none => exact absurd hread (smartSilent_assessDisk.mpr ⟨hpassed, howed⟩)
      | some passed =>
        cases passed with
        | true => rfl
        | false => exact absurd ⟨l, hl, d, hd, by simp [hpassed]⟩ (hfinds d.serialNumber).2.2.2.1

theorem roomy_of_quiet (h : Quiet (assess st t e fresh opened now) .capacityHigh opened)
    {z : ZFSStatus} (hz : z ∈ st.zfs now) {p : ZPool}
    (hp : p ∈ z.pools) {c : Int} (hc : p.capacityPercent = some c) : c < capacityLimit t opened p.name := by
  have hfinds := finds_assess.not.mp (h.finds ⟨.capacityHigh, p.name⟩ rfl)
  simp only [not_or] at hfinds
  by_contra hover
  exact hfinds.2.1 ⟨z, hz, p, hp, by simpa [hc] using Int.not_lt.mp hover⟩

theorem cuts_assessLinks : (assessLinks n e opened).cuts scope ↔
    (∃ i ∈ n.interfaces, (assessInterface i e opened).cuts scope) ∨ (∃ b ∈ n.bonds, (assessBond b e opened).cuts scope) ∨
      (scope = .net ∧ n.cutBy ≠ none) := by
  have hcut : (∃ why, (scope, why) ∈ n.cutBy.toList.map fun why => (Scope.net, why)) ↔ scope = .net ∧ n.cutBy ≠ none := by
    cases n.cutBy <;> simp
  simp only [assessLinks, cuts_append, cuts_gather, cuts_mk, hcut, cuts_assessExpected,
    cuts_holdUnlisted, and_false, exists_false, or_false,
    or_assoc]

theorem scope_of_cuts_assessLinks (h : (assessLinks n e opened).cuts scope) :
    scope = .net ∨ scope = .netState ∨ scope = .netTraffic ∨ scope = .netSustained := by
  have htraffic : ∀ {name : String} {traffic : Option LinkTraffic} {carrying up : Bool},
      (assessTraffic name traffic carrying up e opened).cuts scope → scope = .netTraffic ∨ scope = .netSustained := by
    intro name traffic carrying up hcut
    rw [cuts_assessTraffic] at hcut
    rcases hcut with ⟨-, ⟨-, hscope⟩ | ⟨r, -, ⟨-, -, hscope⟩ | ⟨-, -, hscope⟩⟩⟩
    · exact hscope
    · exact .inl hscope
    · exact .inr hscope
  rcases cuts_assessLinks.mp h with ⟨i, -, hcut⟩ | ⟨b, -, hcut⟩ | ⟨hscope, -⟩
  · rcases cuts_assessInterface.mp hcut with hcut | ⟨-, hscope⟩ | ⟨-, hscope⟩
    · exact .inr (.inr (htraffic hcut))
    · exact .inr (.inl hscope)
    · exact .inl hscope
  · rcases cuts_assessBond hcut with hcut | hscope | hscope
    · exact .inr (.inr (htraffic hcut))
    · exact .inr (.inl hscope)
    · exact .inl hscope
  · exact .inl hscope

theorem quiet_of_zfs {z : ZFSStatus} (hz : st.zfs now = some z) (homitted : z.poolsOmitted ≤ 0) (hfull : ∀ p ∈ z.pools, ¬p.readInPart)
    (hroom : ∀ p ∈ z.pools, ∀ c, p.capacityPercent = some c → c < capacityLimit t opened p.name)
    (hopen : ∀ o ∈ opened.items, o.key.check = .capacityHigh → ¬st.silentOn e fresh now o.scope o.key.device ∧
      ∀ p ∈ z.pools, p.name = o.key.device → p.capacityPercent ≠ none) :
    Quiet (assess st t e fresh opened now) .capacityHigh opened := by
  refine ⟨?_, ?_, ?_, ?_, nofun, nofun, nofun, nofun, nofun⟩
  · rintro ⟨check, device⟩ rfl
    rw [finds_assess]
    simp only [finds_assessArray, finds_assessPool, finds_assessDrive, finds_assessDisk, finds_assessLinks, finds_assessInterface,
      finds_assessBond, finds_assessTraffic, finds_assessExpected, Key.mk.injEq,
        reduceCtorEq, false_and, and_false, or_false, false_or,
      exists_false, true_and]
    rintro ⟨z', hz', p, hp, ⟨c, hc, hover⟩, -⟩
    cases Option.mem_unique hz hz'
    exact Int.not_le.mpr (hroom p hp c hc) hover
  · rintro ⟨⟨check, device⟩, scope⟩ ho rfl
    rw [keeps_assess ho]
    simp only [deviceSilent, linkSilent, holds_assessPool, holds_assessDrive,
      holds_assessDisk, holds_assessInterface, holds_assessBond,
      holds_assessTraffic, holds_assessExpected, Key.mk.injEq, reduceCtorEq, false_and,
        and_false, or_false, false_or, exists_false, true_and]
    rintro (hsilent | ⟨z', hz', p, hp, -, hnone, rfl⟩)
    · exact (hopen _ ho rfl).1 hsilent
    · cases Option.mem_unique hz hz'
      exact (hopen _ ho rfl).2 p hp rfl hnone
  · intro scope hscope
    obtain rfl := mem_singleton.mp hscope
    rw [misses_assess]
    simp [hz]
  · intro scope hscope
    obtain rfl := mem_singleton.mp hscope
    rw [cuts_assess]
    rintro (⟨hne, -⟩ | ⟨-, z', hz', hcut⟩ | ⟨hne, -⟩ | ⟨hne, -⟩ | ⟨n, -, hcut⟩)
    · cases hne
    · cases Option.mem_unique hz hz'
      rcases hcut with hpos | ⟨p, hp, hpart⟩
      · exact absurd hpos (Int32.not_lt.mpr homitted)
      · exact hfull p hp hpart
    · cases hne
    · cases hne
    · rcases scope_of_cuts_assessLinks hcut with hne | hne | hne | hne <;> cases hne

/-! ## Wear -/

/-- Where no wear is found, every figure is below the threshold. -/
theorem figure_low (h : ∀ device, ¬(assess st t e fresh opened now).finds ⟨.wearHigh, device⟩)
    {l : List DriveInfo} (hl : l ∈ st.drives fresh)
    {d : DriveInfo} (hd : d ∈ l) {used : Int} (hused : d.ssdEnduranceUsedPercent = some used) : used < t.ssdWearPercent := by
  have hfinds := finds_assess.not.mp (h d.device)
  simp only [not_or] at hfinds
  by_contra hhigh
  exact hfinds.2.2.1 ⟨l, hl, d, hd, by simpa [hused] using Int.not_lt.mp hhigh⟩

theorem lowFigure_of_wear (h : ∀ device, ¬(assess st t e true opened now).finds ⟨.wearHigh, device⟩) {l : List ObservedDisk}
    (hl : st.disks now = some l) (hd : d ∈ l) (hwear : d.wear ≠ none) : st.lowFigure t true now d.serialNumber := by
  obtain ⟨used, hused⟩ := Option.ne_none_iff_exists'.mp hwear
  cases hfigured : figured st.inventory d.serialNumber with
  | true =>
    obtain ⟨used', hused'⟩ := Option.isSome_iff_exists.mp hfigured
    obtain ⟨b, hb, hbused⟩ := Option.bind_eq_some_iff.mp hused'
    obtain ⟨drives, hdrives, hmem, hserial⟩ := drive_of_bmcDrive hb
    exact .inl ⟨drives, hdrives, b, hmem, hserial, used', hbused, figure_low h hdrives hmem hbused⟩
  | false =>
    have hfinds := finds_assess.not.mp (h d.serialNumber)
    simp only [not_or] at hfinds
    refine .inr ⟨l, hl, d, hd, rfl, used, hused, ?_⟩
    by_contra hhigh
    exact hfinds.2.2.2.1 ⟨l, hl, d, hd, by simpa [hfigured, hused] using Int.not_lt.mp hhigh⟩

theorem wearUnreported_assessDisk (hfigured : figured inv d.serialNumber = false)
    (hnone : d.wear = none) (hsolid : maybeSolidState d = true) (howed : wearOwed (bmcDrive inv d.serialNumber) = true) :
    0 < (assessDisk inv t opened d).wearUnreported := by
  have hread : readOwed d (bmcDrive inv d.serialNumber) = true := by simp [readOwed, hsolid]
  have hwear : 0 < (assessDiskWear d (bmcDrive inv d.serialNumber) t opened).wearUnreported := by
    unfold assessDiskWear
    rw [show ((bmcDrive inv d.serialNumber).bind DriveInfo.ssdEnduranceUsedPercent).isSome = false from hfigured,
      show d.smart.bind DiskSMART.wearUsedPercent = none from hnone]
    simp [hread, howed]
  rw [assessDisk, wearUnreported_append]
  omega

section

variable (h : ∀ device, ¬(assess st t e true opened now).finds ⟨.wearHigh, device⟩)
include h

section

variable (hzero : (assess st t e true opened now).wearUnreported = 0)
include hzero

theorem lowFigure_of_drive {l : List DriveInfo} (hl : st.drives true = some l) {d : DriveInfo} (hd : d ∈ l)
    (hssd : d.mediaType = mediaSSD) (hnone : d.ssdEnduranceUsedPercent = none) : st.lowFigure t true now d.serialNumber := by
  have hreported : smartReportsWear (smartUnread st now) st.storage d.serialNumber = true := by
    by_contra hsilent
    have hcounted : 0 < (assessDrives (smartUnread st now) st.inventory st.storage t true opened).wearUnreported :=
      wearUnreported_assessDrives hl hd hnone hssd (Bool.eq_false_iff.mpr hsilent)
    simp only [assess, isUnread_assessLocal, wearUnreported_append] at hzero
    omega
  obtain ⟨disks, hdisks, o, ho, hserial, hwear⟩ := smartReportsWear_iff.mp hreported
  rw [← hserial]
  exact lowFigure_of_wear h hdisks ho hwear

theorem lowFigure_of_not_owed {serial : String}
    (howed : wearOwed (bmcDrive st.inventory serial) = false) : st.lowFigure t true now serial := by
  cases hb : bmcDrive st.inventory serial with
  | none => rw [hb] at howed; cases howed
  | some b =>
    obtain ⟨l, hl, hd, rfl⟩ := drive_of_bmcDrive hb
    cases hused : b.ssdEnduranceUsedPercent with
    | some used => exact .inl ⟨l, hl, b, hd, rfl, used, hused, figure_low h hl hd hused⟩
    | none =>
      have hssd : b.mediaType = mediaSSD := by simpa [hb, wearOwed, hused] using howed
      exact lowFigure_of_drive h hzero hl hd hssd hused

theorem lowFigure_of_disk {s : MachineStorage} (hs : st.storage = some s) (hd : d ∈ s.observed)
    (hsolid : maybeSolidState d = true) : st.lowFigure t true now d.serialNumber := by
  have hsmart : (assessSMART (smartUnread st now) st.storage st.inventory t opened).wearUnreported = 0 := by
    simp only [assess, isUnread_assessLocal, wearUnreported_append] at hzero
    omega
  cases howed : wearOwed (bmcDrive st.inventory d.serialNumber) with
  | false => exact lowFigure_of_not_owed h hzero howed
  | true =>
    cases hdisks : st.disks now with
    | none =>
      have hcount : (assessSMART (smartUnread st now) st.storage st.inventory t opened).wearUnreported =
          (s.observed.filter fun d => maybeSolidState d && wearOwed (bmcDrive st.inventory d.serialNumber)).length := by
        rw [smartUnread, hdisks, hs]
        rfl
      rw [hcount, length_eq_zero_iff, filter_eq_nil_iff] at hsmart
      exact absurd (by simp [hsolid, howed]) (hsmart d hd)
    | some l =>
      obtain ⟨s', hs', rfl⟩ := observed_of_disks hdisks
      rw [hs] at hs'
      cases hs'
      by_cases hwear : d.wear = none
      · have hfigured : figured st.inventory d.serialNumber = false := by
          unfold figured
          unfold wearOwed at howed
          cases hb : bmcDrive st.inventory d.serialNumber with
          | none => rfl
          | some b => simp_all
        have hcounted : 0 < (gather (assessDisk st.inventory t opened) s.observed).wearUnreported :=
          wearUnreported_gather.mpr ⟨d, hd, wearUnreported_assessDisk hfigured hwear hsolid howed⟩
        obtain ⟨n, hsum⟩ := assessSMART_eq st st.inventory t opened now
        rw [hsum, hdisks, Option.elim, wearUnreported_append, wearUnreported_append] at hsmart
        omega
      · exact lowFigure_of_wear h hdisks hd hwear

end

end

theorem enduring_of_quiet (h : Quiet (assess st t e fresh opened now) .wearHigh opened) : st.enduring t fresh now := by
  have hmisses := misses_assess.not.mp (h.misses .drives (by decide))
  have hcuts := cuts_assess.not.mp (h.cuts .drives (by decide))
  simp only [not_or] at hmisses hcuts
  obtain ⟨l, hl⟩ := Option.ne_none_iff_exists'.mp fun hnone => hmisses.2.2.2.1 ⟨trivial, hnone⟩
  have hfresh : fresh = true := by
    by_contra hstale
    rw [Bool.not_eq_true] at hstale
    subst hstale
    cases hl
  subst hfresh
  have hfinds : ∀ device, ¬(assess st t e true opened now).finds ⟨.wearHigh, device⟩ := fun device => h.finds _ rfl
  refine ⟨⟨l, hl, ?_, fun d hd hssd => ?_⟩, fun s hs d hd hsolid => lowFigure_of_disk hfinds (h.wear rfl) hs hd hsolid⟩
  · by_contra hlong
    exact hcuts.2.2.1 ⟨trivial, l, hl, Nat.not_lt.mp hlong⟩
  · cases hused : d.ssdEnduranceUsedPercent with
    | some used => exact .inl ⟨used, rfl, figure_low hfinds hl hd hused⟩
    | none => exact .inr (lowFigure_of_drive hfinds (h.wear rfl) hl hd hssd hused)

theorem MachineStatus.sized.roomy (hsized : st.sized t e fresh opened now)
    (h : Quiet (assess st t e fresh opened now) .capacityHigh opened) :
    st.roomy t opened now := by
  obtain ⟨z, hz, homitted, hfull⟩ := zfs_of_quiet h (by decide)
  refine ⟨z, hz, homitted, fun p hp => ?_⟩
  rcases hsized z hz with hall | hpos | ⟨p', hp', hpart⟩ | ⟨p', hp', c, hc, hover⟩ | ⟨o, ho, hcheck, hkept⟩
  · obtain ⟨c, hc⟩ := Option.ne_none_iff_exists'.mp (hall p hp)
    exact ⟨c, hc, roomy_of_quiet h hz hp hc⟩
  · exact absurd hpos (Int32.not_lt.mpr homitted)
  · exact absurd hpart (hfull p' hp')
  · exact absurd hover (Int.not_le.mpr (roomy_of_quiet h hz hp' hc))
  refine absurd ((keeps_assess ho).mpr (hkept.imp_right ?_)) (h.keeps o ho hcheck)
  rintro ⟨p', hp', hname, hnone⟩
  have hkey : o.key = ⟨.capacityHigh, p'.name⟩ := by rw [hname, ← hcheck]
  exact .inl ⟨z, hz, p', hp', holds_assessPool.mpr ⟨has_of_mem ho, .inr (.inr ⟨hnone, hkey⟩)⟩⟩

/-! ## The links -/

/-- A quiet verdict on links rests on links that were read. -/
theorem links_of_quiet (h : Quiet (assess st t e fresh opened now) check opened) (hscope : Scope.net ∈ checkScopes check) :
    ∃ n, st.links e now = some n ∧ n.cutBy = none ∧ ∀ scope ∈ checkScopes check, ¬(assessLinks n e opened).cuts scope := by
  have hmisses := misses_assess.not.mp (h.misses .net hscope)
  simp only [not_or] at hmisses
  obtain ⟨n, hn⟩ := Option.ne_none_iff_exists'.mp fun hnone => hmisses.2.2.2.2 ⟨.inl trivial, hnone⟩
  have hcuts : ∀ scope ∈ checkScopes check, ¬(assessLinks n e opened).cuts scope := fun scope hmem hcut =>
    h.cuts scope hmem (cuts_assess.mpr (.inr (.inr (.inr (.inr ⟨n, hn, hcut⟩)))))
  refine ⟨n, hn, ?_, hcuts⟩
  by_contra hcut
  exact hcuts .net hscope (cuts_assessLinks.mpr (.inr (.inr ⟨rfl, hcut⟩)))

theorem carrier_cuts (hc : c ∈ n.carriers) (hcut : (assessTraffic c.name c.traffic c.carrying c.up e opened).cuts scope) :
    (assessLinks n e opened).cuts scope := by
  rcases mem_append.mp hc with hmem | hmem
  · obtain ⟨i, hi, rfl⟩ := mem_map.mp hmem
    exact cuts_assessLinks.mpr (.inl ⟨i, hi, cuts_assessInterface.mpr (.inl hcut)⟩)
  obtain ⟨b, hb, rfl⟩ := mem_map.mp hmem
  refine cuts_assessLinks.mpr (.inr (.inl ⟨b, hb, ?_⟩))
  simp only [assessBond, cuts_append, or_assoc]
  exact .inl hcut

/-- What is found in a carrier's traffic is found. -/
theorem carrier_finds (hn : st.links e now = some n) (hc : c ∈ n.carriers) {k : Key}
    (hfinds : (assessTraffic c.name c.traffic c.carrying c.up e opened).finds k) : (assess st t e fresh opened now).finds k := by
  refine finds_assess.mpr (.inr (.inr (.inr (.inr ⟨n, hn, finds_assessLinks.mpr ?_⟩))))
  rcases mem_append.mp hc with hmem | hmem
  · obtain ⟨i, hi, rfl⟩ := mem_map.mp hmem
    exact .inl ⟨i, hi, finds_assessInterface.mpr (.inl hfinds)⟩
  · obtain ⟨b, hb, rfl⟩ := mem_map.mp hmem
    exact .inr (.inl ⟨b, hb, finds_assessBond.mpr (.inl hfinds)⟩)

theorem carrying_of_up (hc : c ∈ n.carriers) (hup : c.up = true) : c.carrying = true := by
  rcases mem_append.mp hc with hmem | hmem
  · obtain ⟨i, -, rfl⟩ := mem_map.mp hmem
    simp [NetworkInterface.carrier, NetworkInterface.carrying, of_decide_eq_true hup]
  · obtain ⟨b, -, rfl⟩ := mem_map.mp hmem
    simp [NetworkBond.carrier, of_decide_eq_true hup]

theorem speedUnreported_assess (hn : st.links e now = some n)
    (hzero : (assess st t e fresh opened now).speedUnreported = 0) {i : NetworkInterface} (hi : i ∈ n.interfaces) :
    (assessInterface i e opened).speedUnreported = 0 := by
  have hlinks : (assessNetwork st.network e opened now).speedUnreported = 0 := by
    simp only [assess, speedUnreported_append] at hzero
    omega
  obtain ⟨why, hnet⟩ := assessNetwork_eq st e opened now
  by_contra hpos
  have hcounted : 0 < (gather (assessInterface · e opened) n.interfaces).speedUnreported :=
    speedUnreported_gather.mpr ⟨i, hi, Nat.pos_of_ne_zero hpos⟩
  rw [hnet, hn, Option.elim] at hlinks
  simp only [assessLinks, speedUnreported_append] at hlinks
  omega

theorem fast_of_quiet (h : Quiet (assess st t e fresh opened now) .linkSlow opened) (hn : st.links e now = some n)
    {i : NetworkInterface} (hi : i ∈ n.interfaces) (hup : i.operState = "up") : i.fast e := by
  have hcarrying : i.carrying = true := by simp [NetworkInterface.carrying, hup]
  cases hspeed : i.speedMbps with
  | none =>
    have hzero := speedUnreported_assess hn (h.speed rfl) hi
    rw [assessInterface, if_neg (by simp [hup]), speedUnreported_append, speedUnreported_append] at hzero
    have hcounted : 0 < (assessSpeed i e opened).speedUnreported := by
      rw [assessSpeed, hspeed]
      simp [hup]
    omega
  | some speed =>
    refine ⟨hcarrying, speed, hspeed, ?_⟩
    by_contra hslow
    refine h.finds ⟨.linkSlow, i.name⟩ rfl
      (finds_assess.mpr (.inr (.inr (.inr (.inr ⟨n, hn, finds_assessLinks.mpr (.inl ⟨i, hi, ?_⟩)⟩)))))
    rw [finds_assessInterface, NetworkInterface.speed, if_pos hcarrying, hspeed]
    exact .inr (.inr ⟨⟨speed, rfl, Int.not_le.mp hslow⟩, rfl⟩)

theorem capacityUnreported_carrier (hn : st.links e now = some n)
    (hzero : (assess st t e fresh opened now).capacityUnreported = 0) (hc : c ∈ n.carriers) :
    (assessTraffic c.name c.traffic c.carrying c.up e opened).capacityUnreported = 0 := by
  have hlinks : (assessNetwork st.network e opened now).capacityUnreported = 0 := by
    simp only [assess, capacityUnreported_append] at hzero
    omega
  obtain ⟨why, hnet⟩ := assessNetwork_eq st e opened now
  rw [hnet, hn, Option.elim] at hlinks
  simp only [assessLinks, capacityUnreported_append] at hlinks
  by_contra hpos
  rcases mem_append.mp hc with hmem | hmem
  · obtain ⟨i, hi, rfl⟩ := mem_map.mp hmem
    have hport : 0 < (assessInterface i e opened).capacityUnreported := by
      rw [assessInterface, capacityUnreported_append]
      exact Nat.add_pos_left (Nat.pos_of_ne_zero hpos) _
    have hcounted : 0 < (gather (assessInterface · e opened) n.interfaces).capacityUnreported :=
      capacityUnreported_gather.mpr ⟨i, hi, hport⟩
    omega
  · obtain ⟨b, hb, rfl⟩ := mem_map.mp hmem
    have hbond : 0 < (assessBond b e opened).capacityUnreported := by
      simp only [assessBond, capacityUnreported_append, Nat.add_assoc]
      exact Nat.add_pos_left (Nat.pos_of_ne_zero hpos) _
    have hcounted : 0 < (gather (assessBond · e opened) n.bonds).capacityUnreported :=
      capacityUnreported_gather.mpr ⟨b, hb, hbond⟩
    omega

theorem light_of_quiet (h : Quiet (assess st t e fresh opened now) .saturated opened) (hn : st.links e now = some n)
    (hcuts : ∀ scope ∈ checkScopes .saturated, ¬(assessLinks n e opened).cuts scope) (hc : c ∈ n.carriers)
    (hup : c.up = true) : c.light e opened := by
  have hcarrying := carrying_of_up hc hup
  have hcut : ¬(assessTraffic c.name c.traffic c.carrying c.up e opened).cuts .netSustained := fun hcut =>
    hcuts _ (by decide) (carrier_cuts hc hcut)
  have hfinds : ¬(assessTraffic c.name c.traffic c.carrying c.up e opened).finds ⟨.saturated, c.name⟩ := fun hfinds =>
    h.finds _ rfl (carrier_finds hn hc hfinds)
  have hzero := capacityUnreported_carrier hn (h.capacity rfl) hc
  have hload : load c.carrying c.traffic ≠ none := by
    intro hnone
    rw [cuts_assessTraffic] at hcut
    simp only [load, hcarrying, if_true] at hnone
    cases htraffic : c.traffic with
    | none => exact hcut ⟨hcarrying, .inl ⟨htraffic, .inr rfl⟩⟩
    | some r =>
      cases hcap : r.capacityMbps with
      | none =>
        rw [hcarrying, htraffic, hup] at hzero
        simp only [assessTraffic, Bool.not_true, Bool.false_eq_true, if_false,
          capacityUnreported_append, assessSaturation, hcap, if_true] at hzero
        omega
      | some m =>
        rw [htraffic] at hnone
        exact hcut ⟨hcarrying, .inr ⟨r, htraffic, .inr ⟨by rw [hcap]; rfl, by simpa [hcap] using hnone, rfl⟩⟩⟩
  obtain ⟨used, hused⟩ := Option.ne_none_iff_exists'.mp hload
  refine ⟨used, hused, ?_⟩
  by_contra hover
  exact hfinds (finds_assessTraffic.mpr (.inr ⟨⟨used, hused, Int.not_lt.mp hover⟩, rfl⟩))

theorem clean_of_quiet (h : Quiet (assess st t e fresh opened now) .linkErrors opened) (hn : st.links e now = some n)
    (hcuts : ∀ scope ∈ checkScopes .linkErrors, ¬(assessLinks n e opened).cuts scope) (hc : c ∈ n.carriers)
    (hup : c.up = true) : c.clean e := by
  have hcarrying := carrying_of_up hc hup
  have hcut : ¬(assessTraffic c.name c.traffic c.carrying c.up e opened).cuts .netTraffic := fun hcut =>
    hcuts _ (by decide) (carrier_cuts hc hcut)
  have hfinds : ¬(assessTraffic c.name c.traffic c.carrying c.up e opened).finds ⟨.linkErrors, c.name⟩ := fun hfinds =>
    h.finds _ rfl (carrier_finds hn hc hfinds)
  rw [cuts_assessTraffic] at hcut
  cases htraffic : c.traffic with
  | none => exact absurd ⟨hcarrying, .inl ⟨htraffic, .inl rfl⟩⟩ hcut
  | some r =>
    have hlow : r.errorsPerMinute < e.errorsPerMinute := by
      by_contra hhigh
      exact hfinds (finds_assessTraffic.mpr (.inl ⟨⟨hcarrying, r, htraffic, Int.not_lt.mp hhigh⟩, rfl⟩))
    refine ⟨hcarrying, r, htraffic, hlow, ?_⟩
    by_contra hshort
    exact hcut ⟨hcarrying, .inr ⟨r, htraffic, .inl ⟨hlow, Int.not_le.mp hshort, rfl⟩⟩⟩

end Checks

namespace Fixture

def pooled (capacity : Option Int) : MachineStatus :=
  { storage := some
      { observedAt := some now
        localStorage := some
          { md := { state := .absent }
            zfs := { state := .present, pools := [{ name := "tank", health := "ONLINE", capacityPercent := capacity }] } } } }

def verdict (capacity : Option Int) : ConditionStatus :=
  ((assess (pooled capacity) thresholds expectations true Keyed.empty now).verdict .capacityHigh Keyed.empty).status

end Fixture

end FrameOperator.Storage
