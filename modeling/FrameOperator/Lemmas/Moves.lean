import FrameOperator.Lemmas.NodeOps

/-!
# What a branch of the switch can decide on

A branch of the switch keeps the node, or drives one that its NodeTuning owns (`Drives`), or starts a rollout (`Starts`), and
carries the node's name and restart record forward (`Carries`).
-/

namespace FrameOperator

/-- An entry carries forward the name, the observation and the restart record of the one before. -/
structure Carries (ns ns' : NodeTuningNodeStatus) : Prop where
  name : ns'.name = ns.name
  observed : ns'.observed = ns.observed
  restartedAt : ns'.restartedAt = ns.restartedAt
  restartedGeneration : ns'.restartedGeneration = ns.restartedGeneration

inductive Drives (now : Time) (generation : Nat) (node : Node) (ns : NodeTuningNodeStatus) : Move → Prop where
  | keep {ns' : NodeTuningNodeStatus} : Carries ns ns' → Drives now generation node ns (.keep ns')
  | fail {done : NodeTuningNodeStatus} : Carries ns done →
      Drives now generation node ns (.patch (.fail now) done (fun _ => done))
  | request {baseline : Time} {e : String} {done : NodeTuningNodeStatus} {failed : String → NodeTuningNodeStatus} :
      annotationTime node .restartRequested = .error e → annotationTime node .unitActiveEnter = .ok baseline →
      Carries ns done → (∀ e, Carries ns (failed e)) →
      Drives now generation node ns (.patch (.request baseline now) done failed)
  | verify {requested baseline current : Time} (unit : String) :
      annotationTime node .restartRequested = .ok requested → annotationTime node .restartBaseline = .ok baseline →
      annotationTime node .unitActiveEnter = .ok current → baseline < current → nodeIsReady node = true →
      Drives now generation node ns (verifyRestart generation node ns unit current)

theorem drives_failRollout (now : Time) (generation : Nat) (node : Node) (ns : NodeTuningNodeStatus) (msg : String) :
    Drives now generation node ns (failRollout now ns msg) :=
  .fail ⟨rfl, rfl, rfl, rfl⟩

variable (r : NodeTuningReconciler)

theorem drives_drainAndRequest (now : Time) (pods : Except String (List Pod)) (generation : Nat)
    (node : Node) (ns : NodeTuningNodeStatus) (unit : String) {e : String}
    (he : annotationTime node .restartRequested = .error e) :
    Drives now generation node ns (drainAndRequest r now pods node ns unit) := by
  unfold drainAndRequest
  cases pods with
  | error e => exact .keep ⟨rfl, rfl, rfl, rfl⟩
  | ok pods =>
    simp only
    split
    · cases annotationTime node .rolloutStarted with
      | error e => exact .keep ⟨rfl, rfl, rfl, rfl⟩
      | ok started =>
        simp only
        split
        · exact drives_failRollout now generation node ns _
        · exact .keep ⟨rfl, rfl, rfl, rfl⟩
    · cases hb : annotationTime node .unitActiveEnter with
      | error e => exact .keep ⟨rfl, rfl, rfl, rfl⟩
      | ok baseline => exact .request he hb ⟨rfl, rfl, rfl, rfl⟩ (fun _ => ⟨rfl, rfl, rfl, rfl⟩)

theorem drives_continueRollout (now : Time) (pods : Except String (List Pod)) (generation : Nat)
    (node : Node) (ns : NodeTuningNodeStatus) :
    Drives now generation node ns (continueRollout r now pods generation node ns) := by
  unfold continueRollout
  cases hq : annotationTime node .restartRequested with
  | error e => exact drives_drainAndRequest r now pods generation node ns _ hq
  | ok requested =>
    -- past its verify branch the function only waits, or gives up once the deadline is over
    have hwait : ∀ msg fmsg, Drives now generation node ns
        (if now - requested > r.restartTimeout then failRollout now ns fmsg
          else .keep { ns with phase := .applying, message := msg }) := by
      intro msg fmsg
      split
      · exact drives_failRollout now generation node ns _
      · exact .keep ⟨rfl, rfl, rfl, rfl⟩
    cases hb : annotationTime node .restartBaseline with
    | error e => exact hwait _ _
    | ok baseline =>
      cases hc : annotationTime node .unitActiveEnter with
      | error e => exact hwait _ _
      | ok current =>
        simp only
        by_cases hgt : current > baseline
        · rw [if_pos hgt]
          by_cases hr : nodeIsReady node = true
          · simp only [hr, Bool.not_true, Bool.false_eq_true, if_false]
            exact .verify _ hq hb hc hgt hr
          simp only [Bool.not_eq_true] at hr
          simp only [hr, Bool.not_false, if_true]
          exact hwait _ _
        · rw [if_neg hgt]
          exact hwait _ _

/-- What has to hold for a pass with this copy, lock and list to start a rollout of the node. -/
structure Starts (lock : String) (listed : List Node) (nt : NodeTuning) (node : Node) (ns : NodeTuningNodeStatus) : Prop where
  free : rolloutInFlight node = false
  approved : approvedForGeneration node nt.generation = true
  unrestarted : restartedForGeneration ns nt.generation = false
  needsRestart : (diffTuning nt.spec ns.observed).2 = true
  unlocked : heldByOther lock node.name = ""
  admitted : startRefusal listed node ns = none

theorem ready_of_notReadyNodes {nodes : List Node} (h : notReadyNodes nodes = []) : ∀ n ∈ nodes, nodeIsReady n = true := by
  intro n hn
  have hlen : (nodes.filter (fun n => !nodeIsReady n)).length = 0 := by
    have := congrArg List.length h
    simpa [notReadyNodes, List.length_insertionSort] using this
  have hnil := List.eq_nil_of_length_eq_zero hlen
  by_contra hr
  have hmem : n ∈ nodes.filter (fun n => !nodeIsReady n) := List.mem_filter.mpr ⟨hn, by simpa using hr⟩
  rw [hnil] at hmem
  cases hmem

theorem startRefusal_eq_none {listed : List Node} {node : Node} {ns : NodeTuningNodeStatus}
    (h : startRefusal listed node ns = none) :
    (∀ n ∈ listed, nodeIsReady n = true) ∧ isRestartable (node.annotations.raw .unit) = true ∧
      ∃ t, annotationTime node .unitActiveEnter = .ok t := by
  unfold startRefusal at h
  simp only at h
  split at h
  · cases h
  rename_i hready
  split at h
  · cases h
  split at h
  · cases h
  rename_i hunit
  cases ht : annotationTime node .unitActiveEnter with
  | error e => rw [ht] at h; cases h
  | ok t => exact ⟨ready_of_notReadyNodes (not_not.mp hready), by simpa using hunit, t, rfl⟩

theorem carries_startRefusal {listed : List Node} {node : Node} {ns ns' : NodeTuningNodeStatus}
    (h : startRefusal listed node ns = some ns') : Carries ns ns' ∧ ns'.phase ≠ .applying := by
  unfold startRefusal at h
  simp only at h
  split at h
  · cases h; exact ⟨⟨rfl, rfl, rfl, rfl⟩, by simp⟩
  split at h
  · cases h; exact ⟨⟨rfl, rfl, rfl, rfl⟩, by simp⟩
  split at h
  · cases h; exact ⟨⟨rfl, rfl, rfl, rfl⟩, by simp⟩
  cases ht : annotationTime node .unitActiveEnter with
  | error e => rw [ht] at h; cases h; exact ⟨⟨rfl, rfl, rfl, rfl⟩, by simp⟩
  | ok t => rw [ht] at h; cases h

theorem startRollout_cases (now : Time) (lock : String) (listed : List Node) (node : Node) (ns : NodeTuningNodeStatus)
    (reason : String) :
    (∃ ns', startRollout now lock listed node ns reason = .keep ns' ∧ Carries ns ns' ∧ ns'.phase ≠ .applying) ∨
      (∃ done failed unfinalized, startRollout now lock listed node ns reason = .cordon now done failed unfinalized ∧
        heldByOther lock node.name = "" ∧ startRefusal listed node ns = none ∧
        (Carries ns done ∧ done.phase = .applying) ∧ (∀ e, Carries ns (failed e) ∧ (failed e).phase ≠ .applying) ∧
        ∀ e, Carries ns (unfinalized e) ∧ (unfinalized e).phase ≠ .applying) := by
  unfold startRollout
  split
  · exact .inl ⟨_, rfl, ⟨rfl, rfl, rfl, rfl⟩, by simp⟩
  rename_i hlock
  cases hr : startRefusal listed node ns with
  | some ns' => exact .inl ⟨ns', rfl, carries_startRefusal hr⟩
  | none =>
    exact .inr ⟨_, _, _, rfl, not_not.mp hlock, rfl, ⟨⟨rfl, rfl, rfl, rfl⟩, rfl⟩,
      fun _ => ⟨⟨rfl, rfl, rfl, rfl⟩, by simp⟩, fun _ => ⟨⟨rfl, rfl, rfl, rfl⟩, by simp⟩⟩

theorem branch_spec (nt : NodeTuning) (others : List String) (node : Node) (ns : NodeTuningNodeStatus) :
    match branch nt others node ns with
    | .halted => rolloutOwnedBy node nt.name = true ∧ rolloutHalted node = true
    | .continues => rolloutOwnedBy node nt.name = true ∧ rolloutHalted node = false
    | .start _ =>
      rolloutInFlight node = false ∧ approvedForGeneration node nt.generation = true ∧
        restartedForGeneration ns nt.generation = false ∧ (diffTuning nt.spec ns.observed).2 = true
    | _ => rolloutOwnedBy node nt.name = false := by
  unfold branch
  by_cases ho : rolloutOwnedBy node nt.name = true
  · by_cases hh : rolloutHalted node = true
    · simp [ho, hh]
    · simp [ho, hh]
  · simp only [Bool.not_eq_true] at ho
    by_cases hf : rolloutInFlight node = true
    · simp [ho, hf]
    simp only [Bool.not_eq_true] at hf
    simp only [ho, hf, Bool.false_and, Bool.false_eq_true, if_false]
    split_ifs <;> simp_all

theorem move_cases (env : NodeEnv) (lock : String) (listed : List Node) (nt : NodeTuning)
    (others : List String) (node : Node) (ns : NodeTuningNodeStatus) :
    (∃ ns', (branch nt others node ns).move r env lock listed nt node ns = .keep ns' ∧ Carries ns ns' ∧
      (branch nt others node ns).owns ns' = rolloutOwnedBy node nt.name) ∨
    (rolloutOwnedBy node nt.name = true ∧ rolloutHalted node = false ∧ branch nt others node ns = .continues ∧
      Drives env.now nt.generation node ns ((branch nt others node ns).move r env lock listed nt node ns)) ∨
    (∃ reason done failed unfinalized, branch nt others node ns = .start reason ∧ Starts lock listed nt node ns ∧
      (branch nt others node ns).move r env lock listed nt node ns = .cordon env.now done failed unfinalized ∧
      (Carries ns done ∧ done.phase = .applying) ∧ (∀ e, Carries ns (failed e) ∧ (failed e).phase ≠ .applying) ∧
      ∀ e, Carries ns (unfinalized e) ∧ (unfinalized e).phase ≠ .applying) := by
  have hspec := branch_spec nt others node ns
  cases hb : branch nt others node ns with
  | halted =>
    rw [hb] at hspec
    exact .inl ⟨_, rfl, ⟨rfl, rfl, rfl, rfl⟩, hspec.1.symm⟩
  | continues =>
    rw [hb] at hspec
    exact .inr (.inl ⟨hspec.1, hspec.2, rfl, drives_continueRollout r env.now env.pods nt.generation node ns⟩)
  | start reason =>
    rw [hb] at hspec
    obtain ⟨hfree, happroved, hunrestarted, hneeds⟩ := hspec
    have howned : rolloutOwnedBy node nt.name = false := by simp [rolloutOwnedBy, hfree]
    rcases startRollout_cases env.now lock listed node ns reason with ⟨ns', hkeep, hc, hphase⟩ | ⟨d, f, u, hmove, hl, hr, h⟩
    · exact .inl ⟨ns', hkeep, hc, by simp [Branch.owns, howned, hphase]⟩
    · exact .inr (.inr ⟨reason, d, f, u, rfl, ⟨hfree, happroved, hunrestarted, hneeds, hl, hr⟩, hmove, h⟩)
  | foreign | overlap | inSync | unapproved | restarted
  | drifted => rw [hb] at hspec; exact .inl ⟨_, rfl, ⟨rfl, rfl, rfl, rfl⟩, hspec.symm⟩

end FrameOperator
