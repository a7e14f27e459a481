import FrameOperator.Theorems.HubRoundTrip

/-!
# A spoke edits what it sees

A client of v1alpha1 gets an object, changes what it likes of it but the stash, and puts it back. What v1alpha1 has no place for is
as it was, and everything else as the client states it, but the namespace in the spec of a `FrameJob` and the phases.
-/

namespace FrameOperator

open GoMap

namespace GoMap

variable {κ ν : Type}

theorem entries_orNil (m : GoMap κ ν) : m.orNil.entries = m.entries := by
  unfold orNil
  split
  · rename_i h
    exact (len_eq_zero_iff.mp h).symm
  · rfl

variable [DecidableEq κ] {m : GoMap κ ν} {k : κ}

/-- Putting back what was taken out gives the map. -/
theorem copySet_erase {v : ν} (h : m.get? k = some v) : (orNil (some (m.entries.erase k))).copySet k v = m := by
  cases m with
  | none => cases h
  | some s =>
    refine congrArg some ((congrArg (Finmap.insert k v) (entries_orNil _)).trans (Finmap.ext_lookup fun x => ?_))
    by_cases hx : x = k
    · subst hx
      rw [Finmap.lookup_insert]
      exact h.symm
    · rw [Finmap.lookup_insert_of_ne _ hx]
      exact Finmap.lookup_erase_ne hx

theorem get?_erase (m : GoMap κ ν) (k x : κ) :
    (orNil (some (m.entries.erase k))).get? x = if x = k then none else m.get? x := by
  rw [get?, entries_orNil]
  split
  · rename_i hx
    rw [hx]
    exact Finmap.lookup_erase k m.entries
  · rename_i hx
    exact Finmap.lookup_erase_ne hx

end GoMap

/-- What v1alpha1 has no place for. -/
def Hub.hidden : Hub → Option (V1beta1.WorkloadType × Option V1beta1.ContainerSpec × String × String)
  | .frameJob j => some (j.spec.type, j.spec.container, j.status.containerJobName, j.status.containerJobKind)
  | _ => none

open V1alpha1

/-- Another object of the same kind, under the same stash. -/
def Edits : Spoke → Spoke → Prop
  | .frameJob o, .frameJob s =>
    s.objectMeta.annotations.get? framejobContainerAnnotation = o.objectMeta.annotations.get? framejobContainerAnnotation
  | .frameNode _, .frameNode _ | .frameResourceQuota _, .frameResourceQuota _ | .schedulingPolicy _, .schedulingPolicy _
  | .frameUser _, .frameUser _ => True
  | _, _ => False

/-- A hub version is as a spoke version states: every field the two have, and the annotations less the stash. -/
def States : Spoke → Hub → Prop
  | .frameJob s, .frameJob h =>
    h.objectMeta = { s.objectMeta with annotations := h.objectMeta.annotations } ∧
      (∀ k, h.objectMeta.annotations.get? k = if k = framejobContainerAnnotation then none else s.objectMeta.annotations.get? k) ∧
      h.spec = ⟨s.spec.pipeline, h.spec.container, h.spec.type, ⟨s.spec.serviceClass⟩, s.spec.priority, s.spec.gpuCount,
        s.spec.parameters.mapValues .mk, s.spec.suspended⟩ ∧
      h.status = ⟨s.status.observedGeneration, s.status.conditions, s.status.argoWorkflowName, h.status.containerJobName,
        h.status.containerJobKind, s.status.startTime, s.status.completionTime, s.status.message⟩
  | .frameNode s, .frameNode h =>
    h.objectMeta = s.objectMeta ∧
      h.spec = ⟨s.spec.ip, s.spec.role, ⟨s.spec.network.address, s.spec.network.gateway, s.spec.network.dns, s.spec.network.vlan,
        s.spec.network.bond⟩, s.spec.rdmaInterface, s.spec.hostname, s.spec.rack, s.spec.zone, ⟨s.spec.serviceClass⟩⟩ ∧
      h.status = ⟨s.status.observedGeneration, s.status.conditions, s.status.kubeletVersion, s.status.capacity,
        s.status.allocatable, s.status.nodeName⟩
  | .frameResourceQuota s, .frameResourceQuota h =>
    h.objectMeta = s.objectMeta ∧
      h.spec = ⟨⟨s.spec.serviceClass⟩, s.spec.maxGPUs, s.spec.maxCPU, s.spec.maxMemory, s.spec.maxJobs⟩ ∧
      h.status = ⟨s.status.observedGeneration, s.status.used, s.status.namespaces, s.status.conditions⟩
  | .schedulingPolicy s, .schedulingPolicy h =>
    h.objectMeta = s.objectMeta ∧
      h.spec = ⟨s.spec.scheduler, s.spec.queueName, s.spec.priorityClass, s.spec.preemption,
        s.spec.priorityValue, s.spec.queueWeight⟩ ∧
      h.status = ⟨s.status.observedGeneration, s.status.conditions, s.status.ownedPriorityClass, s.status.ownedQueue,
        s.status.ownedQueueScheduler⟩
  | .frameUser s, .frameUser h =>
    h.objectMeta = s.objectMeta ∧ h.spec = ⟨s.spec.email, s.spec.role, s.spec.passwordAuth, s.spec.state⟩ ∧
      h.status = ⟨s.status.observedGeneration, s.spec.passwordHash,
        s.status.credentials.map (List.map fun c => ⟨c.id, c.publicKey, c.signCount, c.addedAt, c.label⟩)⟩
  | _, _ => False

/-- The object with what the conversion down computes: its type, the namespace in the spec, and the phases. -/
def Spoke.projected (t : Meta.TypeMeta) : Spoke → Spoke
  | .frameJob o => .frameJob { o with
      typeMeta := t
      spec.namespaceName := o.objectMeta.namespaceName
      status.phase := V1alpha1.frameJobPhaseFromConditions o.status.conditions }
  | .frameNode o => .frameNode { o with
      typeMeta := t
      status.phase := V1alpha1.frameNodePhaseFromConditions o.status.conditions }
  | .frameResourceQuota o => .frameResourceQuota { o with typeMeta := t }
  | .schedulingPolicy o => .schedulingPolicy { o with typeMeta := t }
  | .frameUser o => .frameUser { o with typeMeta := t }
  | .frameService o => .frameService o

/-- What v1alpha1 has no place for is as it was, every other field as stated, and down again it is the object. -/
def PutsBack (json : V1alpha1.EncodingJson) (t : Meta.TypeMeta) (h : Hub) (s : Spoke) : Prop :=
  ∃ h', s.convertTo json h.allocate = .ok h' ∧ h'.hidden = h.hidden ∧ States s h' ∧
    (h'.allocateSpoke t).convertFrom json h' = .ok (s.projected t)

namespace V1alpha1

variable {json : EncodingJson} {h : V1beta1.FrameJob} {s : FrameJob} {t : Meta.TypeMeta}

theorem from_toBetaCredentials (c : Slice WebAuthnCredential) : fromBetaCredentials (toBetaCredentials c) = c :=
  map_map_self (fun _ => rfl) c

/-- Parameters back and there are the same. -/
theorem from_toParameterValues (m : GoMap String String) : fromParameterValues (toParameterValues m) = m :=
  mapValues_mapValues (fun _ => rfl) m

/-- Nothing is stashed: what is put back is what the client states. -/
theorem edit_plain (hs : stashOf h = none) (hkey : s.objectMeta.annotations.get? framejobContainerAnnotation = none) :
    PutsBack json t (.frameJob h) (.frameJob s) := by
  obtain ⟨h1, h2, h3, h4⟩ := hidden_of_stashOf_eq_none hs
  refine ⟨_, by simp only [Spoke.convertTo, FrameJob.convertTo, Hub.allocate, restoreFrameJobContainer, hkey]; rfl, ?_, ?_, ?_⟩
  · simp only [Hub.hidden, h1, h2, h3, h4]
  · refine ⟨rfl, fun k => ?_, rfl, rfl⟩
    split
    · rename_i hk
      rw [hk]
      exact hkey
    · rfl
  · simp only [Hub.allocateSpoke, Spoke.convertFrom, FrameJob.convertFrom, stashFrameJobContainer, stashOf, from_toParameterValues]
    rfl

/-- What is stashed comes back beside what the client states, and is stashed in the same text again. -/
theorem edit_stashed {p : FramejobContainerAnnotationPayload} {raw : String}
    (hs : stashOf h = some p) (hraw : json.marshal p = .ok raw)
    (hjson : json.unmarshal raw = .ok p) (hkey : s.objectMeta.annotations.get? framejobContainerAnnotation = some raw) :
    PutsBack json t (.frameJob h) (.frameJob s) := by
  have hp := eq_of_stashOf_eq_some hs
  have hlen : s.objectMeta.annotations.len ≠ 0 := by
    rw [Ne, len_eq_zero_iff]
    intro hempty
    rw [get?, hempty] at hkey
    cases hkey
  refine ⟨_, by simp only [Spoke.convertTo, FrameJob.convertTo, Hub.allocate,
    restoreFrameJobContainer, hkey, hjson, hlen, if_false]; rfl,
    ?_, ?_, ?_⟩
  · simp only [Hub.hidden, hp, from_toFramejobContainerPayload]
  · exact ⟨rfl, get?_erase _ _, rfl, rfl⟩
  · -- the four fields are the ones that were stashed before
    have hagain : ∀ j : V1beta1.FrameJob, (Hub.frameJob j).hidden = (Hub.frameJob h).hidden → stashOf j = some p := by
      intro j hj
      simp only [Hub.hidden, Option.some.injEq, Prod.mk.injEq] at hj
      rw [← hs]
      simp only [stashOf, hj]
    simp only [Hub.allocateSpoke, Spoke.convertFrom, FrameJob.convertFrom, stashFrameJobContainer]
    rw [hagain _ (by simp only [Hub.hidden, hp, from_toFramejobContainerPayload])]
    simp only [hraw, copySet_erase hkey, from_toParameterValues]
    rfl

end V1alpha1

/-- Whatever a client of v1alpha1 makes of an object but for its stash is put back, and loses nothing that the client does not see. -/
theorem spoke_edit_keeps_hidden (json : V1alpha1.EncodingJson) (t : Meta.TypeMeta) (h : Hub)
    (hkey : h.objectMeta.annotations.get? framejobContainerAnnotation = none)
    (hjson : ∀ p ∈ h.stash, ∀ raw, json.marshal p = .ok raw → json.unmarshal raw = .ok p) {o s : Spoke}
    (hdown : (h.allocateSpoke t).convertFrom json h = .ok o) (hedit : Edits o s) : PutsBack json t h s := by
  cases h with
  | frameJob j =>
    simp only [Hub.allocateSpoke, Spoke.convertFrom, V1alpha1.FrameJob.convertFrom, V1alpha1.stashFrameJobContainer] at hdown
    cases hs : V1alpha1.stashOf j with
    | none =>
      rw [hs] at hdown
      cases hdown
      cases s with
      | frameJob s => exact V1alpha1.edit_plain hs (Eq.trans hedit hkey)
      | _ => exact hedit.elim
    | some p =>
      rw [hs] at hdown
      cases hdown
      cases s with
      | frameJob s => exact V1alpha1.edit_stashed hs rfl (hjson p hs _ rfl) (Eq.trans hedit (GoMap.get?_copySet _ _ _))
      | _ => exact hedit.elim
  | frameNode | frameResourceQuota | schedulingPolicy =>
    cases hdown
    cases s <;> first | exact hedit.elim | exact ⟨_, rfl, rfl, ⟨rfl, rfl, rfl⟩, rfl⟩
  | frameUser =>
    cases hdown
    cases s with
    | frameUser s =>
      refine ⟨_, rfl, rfl, ⟨rfl, rfl, rfl⟩, ?_⟩
      simp only [Hub.allocateSpoke, Spoke.convertFrom, V1alpha1.FrameUser.convertFrom, V1alpha1.from_toBetaCredentials]
      rfl
    | _ => exact hedit.elim
  | frameService =>
    cases hdown
    cases s <;> exact hedit.elim

namespace SpokeFixture

def typedJob : V1beta1.FrameJob := { trainingJob with spec.container := none }

def typedStash : V1alpha1.FramejobContainerAnnotationPayload := ⟨"batch", none, "train", "Job"⟩

def typedJson : V1alpha1.EncodingJson :=
  { trainingJson with parse := fun _ => .ok (V1alpha1.FramejobContainerAnnotationPayload.codec.encode typedStash) }

/-- The job under another name and with a pipeline, over the stash that came with it. -/
def retitledJob : V1alpha1.FrameJob where
  objectMeta :=
    { name := "retrain"
      annotations := GoMap.copySet none framejobContainerAnnotation
        (printJson (V1alpha1.FramejobContainerAnnotationPayload.codec.encode typedStash)) }
  spec := { pipeline := "retrain" }

end SpokeFixture

open SpokeFixture in
theorem spoke_edit_keeps_type :
    (Hub.frameJob typedJob).hidden = some (⟨"batch"⟩, none, "train", "Job") ∧
      PutsBack typedJson {} (.frameJob typedJob) (.frameJob retitledJob) :=
  ⟨rfl, spoke_edit_keeps_hidden typedJson {} (.frameJob typedJob) rfl (by rintro p ⟨⟩ raw ⟨⟩; rfl) rfl rfl⟩

end FrameOperator
