import FrameOperator.Lemmas.Stash
import FrameOperator.Api.Conversion

/-!
# A hub survives its trip to the spoke

A v1beta1 object converted down to v1alpha1 and up again is the object, up to nil and empty in two places of a `FrameJob`: its
annotations, and the limits, requests and claims of its container.
-/

namespace FrameOperator

/-- The object with nil for what the trip does not tell from empty. -/
def V1beta1.FrameJob.orNil (j : V1beta1.FrameJob) : V1beta1.FrameJob :=
  { j with
    objectMeta.annotations := j.objectMeta.annotations.orNil
    spec.container := j.spec.container.map V1beta1.ContainerSpec.orNil }

def Hub.orNil : Hub → Hub
  | .frameJob j => .frameJob j.orNil
  | h => h

namespace GoMap

variable {κ ν : Type}

theorem orNil_orNil (m : GoMap κ ν) : m.orNil.orNil = m.orNil := by
  unfold orNil
  by_cases h : m.len = 0
  · rw [if_pos h]
    split <;> rfl
  · rw [if_neg h, if_neg h]

theorem orNil_some_entries (m : GoMap κ ν) : GoMap.orNil (some m.entries) = m.orNil := by
  cases m with
  | none | some => rfl

theorem len_copySet_ne_zero [DecidableEq κ] (m : GoMap κ ν) (k : κ) (v : ν) : (m.copySet k v).len ≠ 0 := by
  rw [Ne, len_eq_zero_iff]
  intro h
  have hget := get?_copySet m k v
  rw [get?, h] at hget
  cases hget

end GoMap

theorem Slice.orNil_orNil {α : Type} (s : Slice α) : s.orNil.orNil = s.orNil := by
  match s with
  | none => rfl
  | some [] => rfl
  | some (_ :: _) => rfl

theorem V1beta1.ContainerSpec.orNil_orNil (c : V1beta1.ContainerSpec) : c.orNil.orNil = c.orNil := by
  simp only [ContainerSpec.orNil, Core.ResourceRequirements.orNil, GoMap.orNil_orNil, Slice.orNil_orNil]

theorem V1beta1.FrameJob.orNil_orNil (j : V1beta1.FrameJob) : j.orNil.orNil = j.orNil := by
  have hc : (j.spec.container.map ContainerSpec.orNil).map ContainerSpec.orNil = j.spec.container.map ContainerSpec.orNil := by
    rw [Option.map_map]
    refine congrArg (fun f => j.spec.container.map f) (funext fun c => ?_)
    exact c.orNil_orNil
  simp only [FrameJob.orNil, GoMap.orNil_orNil, hc]

namespace V1alpha1

/-- Parameters there and back are the same. -/
theorem to_fromParameterValues (m : GoMap String V1beta1.ParameterValue) : toParameterValues (fromParameterValues m) = m :=
  GoMap.mapValues_mapValues (fun _ => rfl) m

theorem map_map_self {α β : Type} {f : α → β} {g : β → α} (h : ∀ a, g (f a) = a) (s : Slice α) :
    (s.map (List.map f)).map (List.map g) = s := by
  cases s with
  | none => rfl
  | some l => simp [Function.comp_def, h]

theorem to_fromBetaCredentials (s : Slice V1beta1.WebAuthnCredential) : toBetaCredentials (fromBetaCredentials s) = s :=
  map_map_self (fun _ => rfl) s

theorem to_fromBetaProjected (s : Slice V1beta1.ProjectedSecretRef) : toBetaProjected (fromBetaProjected s) = s :=
  map_map_self (fun _ => rfl) s

theorem to_fromBetaProvisioned (s : Slice V1beta1.ProvisionedRef) : toBetaProvisioned (fromBetaProvisioned s) = s :=
  map_map_self (fun _ => rfl) s

variable (json : EncodingJson) (t : Meta.TypeMeta)

variable {h : V1beta1.FrameJob}

/-- Nothing to stash: the four fields are what a new object has. -/
theorem hidden_of_stashOf_eq_none (hs : stashOf h = none) :
    h.spec.container = none ∧ h.spec.type = {} ∧ h.status.containerJobName = "" ∧ h.status.containerJobKind = "" := by
  unfold stashOf at hs
  split at hs
  · rename_i hcond
    obtain ⟨hc, ht, hn, hk⟩ := hcond
    refine ⟨by simpa using hc, ?_, hn, hk⟩
    cases hty : h.spec.type with
    | mk value => rw [hty] at ht; exact congrArg V1beta1.WorkloadType.mk ht
  · cases hs

variable {p : FramejobContainerAnnotationPayload}

theorem eq_of_stashOf_eq_some (hs : stashOf h = some p) :
    p = ⟨h.spec.type.value, toFramejobContainerPayload h.spec.container, h.status.containerJobName, h.status.containerJobKind⟩ := by
  unfold stashOf at hs
  split at hs
  · cases hs
  · exact (Option.some.inj hs).symm

theorem FrameJob.round_trip_plain (hkey : h.objectMeta.annotations.get? framejobContainerAnnotation = none)
    (hs : stashOf h = none) :
    ∃ s, FrameJob.convertFrom json { typeMeta := t } (.frameJob h) = .ok s ∧
      s.convertTo json (.frameJob { typeMeta := h.typeMeta }) = .ok (.frameJob h) := by
  have hstash : ∀ dst, stashFrameJobContainer json dst h = .ok dst := by
    intro dst
    simp only [stashFrameJobContainer, hs]
  refine ⟨_, by simp only [FrameJob.convertFrom, hstash]; rfl, ?_⟩
  simp only [FrameJob.convertTo, restoreFrameJobContainer, hkey, to_fromParameterValues]
  obtain ⟨h1, h2, h3, h4⟩ := hidden_of_stashOf_eq_none hs
  obtain ⟨tm, om, ⟨pipeline, container, type, cls, prio, gpu, params, susp⟩, ⟨og, conds, argo, jn, jk, st, ct, msg⟩⟩ := h
  simp only at h1 h2 h3 h4
  subst h1 h2 h3 h4
  rfl

theorem FrameJob.round_trip_stashed (hkey : h.objectMeta.annotations.get? framejobContainerAnnotation = none) (hs : stashOf h = some p)
    (hjson : json.ReadsBack (FramejobContainerAnnotationPayload.codec.encode p)) :
    ∃ s, FrameJob.convertFrom json { typeMeta := t } (.frameJob h) = .ok s ∧
      s.convertTo json (.frameJob { typeMeta := h.typeMeta }) = .ok (.frameJob h.orNil) := by
  have hp := eq_of_stashOf_eq_some hs
  have hstash : ∀ dst, stashFrameJobContainer json dst h = .ok { dst with
      objectMeta.annotations := dst.objectMeta.annotations.copySet framejobContainerAnnotation
        (json.print (FramejobContainerAnnotationPayload.codec.encode p)) } := by
    intro dst
    simp only [stashFrameJobContainer, hs, EncodingJson.marshal]
  have hread : json.unmarshal (json.print (FramejobContainerAnnotationPayload.codec.encode p)) = .ok ⟨h.spec.type.value,
      toFramejobContainerPayload (h.spec.container.map V1beta1.ContainerSpec.orNil), h.status.containerJobName,
      h.status.containerJobKind⟩ := by
    rw [hp] at hjson ⊢
    exact unmarshal_print hjson
  -- stripping the key that was put in leaves the annotations there were
  have hstrip : (h.objectMeta.annotations.copySet framejobContainerAnnotation
      (json.print (FramejobContainerAnnotationPayload.codec.encode p))).entries.erase framejobContainerAnnotation =
        h.objectMeta.annotations.entries := GoMap.erase_insert_self hkey
  refine ⟨_, by simp only [FrameJob.convertFrom, hstash]; rfl, ?_⟩
  simp only [FrameJob.convertTo, restoreFrameJobContainer, GoMap.get?_copySet, hread, GoMap.len_copySet_ne_zero, if_false,
    hstrip, GoMap.orNil_some_entries, from_toFramejobContainerPayload, to_fromParameterValues]
  rfl

end V1alpha1

def Hub.stash : Hub → Option V1alpha1.FramejobContainerAnnotationPayload
  | .frameJob j => V1alpha1.stashOf j
  | _ => none

/-- There and back a v1beta1 object is the object, up to nil and empty, if it does not hold the reserved annotation. -/
theorem hub_round_trip (json : V1alpha1.EncodingJson) (t : Meta.TypeMeta) (h : Hub)
    (hkey : h.objectMeta.annotations.get? V1alpha1.framejobContainerAnnotation = none)
    (hjson : ∀ p ∈ h.stash, json.ReadsBack (V1alpha1.FramejobContainerAnnotationPayload.codec.encode p)) :
    ∃ s h', (h.allocateSpoke t).convertFrom json h = .ok s ∧ s.convertTo json h.allocate = .ok h' ∧ h'.orNil = h.orNil := by
  cases h with
  | frameJob j =>
    cases hs : V1alpha1.stashOf j with
    | none =>
      obtain ⟨s, hdown, hup⟩ := V1alpha1.FrameJob.round_trip_plain json t hkey hs
      exact ⟨.frameJob s, .frameJob j, by simp only [Hub.allocateSpoke, Spoke.convertFrom, hdown]; rfl, hup, rfl⟩
    | some p =>
      obtain ⟨s, hdown, hup⟩ := V1alpha1.FrameJob.round_trip_stashed json t hkey hs (hjson p hs)
      refine ⟨.frameJob s, .frameJob j.orNil, by simp only [Hub.allocateSpoke, Spoke.convertFrom, hdown]; rfl, hup, ?_⟩
      exact congrArg Hub.frameJob j.orNil_orNil
  | frameNode | frameResourceQuota | schedulingPolicy => exact ⟨_, _, rfl, rfl, rfl⟩
  | frameUser o =>
    refine ⟨_, .frameUser o, rfl, ?_, rfl⟩
    simp only [Spoke.convertTo, V1alpha1.FrameUser.convertTo, V1alpha1.to_fromBetaCredentials]
    rfl
  | frameService o =>
    refine ⟨_, .frameService o, rfl, ?_, rfl⟩
    simp only [Spoke.convertTo, V1alpha1.FrameService.convertTo, V1alpha1.to_fromParameterValues, V1alpha1.to_fromBetaProjected,
      V1alpha1.to_fromBetaProvisioned]
    rfl

namespace SpokeFixture

def jsonChar (c : Char) : String :=
  match c.toNat with
  | 8 => "\\b"
  | 9 => "\\t"
  | 10 => "\\n"
  | 12 => "\\f"
  | 13 => "\\r"
  | 34 => "\\\""
  | 92 => "\\\\"
  | n =>
    if n < 32 ∨ n ∈ [38, 60, 62] then "\\u00" ++ String.ofList [Nat.digitChar (n / 16), Nat.digitChar (n % 16)]
    else if n = 0x2028 then "\\u2028"
    else if n = 0x2029 then "\\u2029"
    else String.ofList [c]

def jsonString (s : String) : String := "\"" ++ String.join (s.toList.map jsonChar) ++ "\""

def printJson : JValue → String
  | .null => "null"
  | .bool b => if b then "true" else "false"
  | .string s => jsonString s
  | .array items => "[" ++ ",".intercalate (items.map printJson) ++ "]"
  | .object members => "\x7b" ++ ",".intercalate (members.map fun m => jsonString m.1 ++ ":" ++ printJson m.2) ++ "\x7d"
decreasing_by
  · rename_i hv
    have := List.sizeOf_lt_of_mem hv
    simp only [JValue.array.sizeOf_spec]
    omega
  · rename_i hm
    have := List.sizeOf_lt_of_mem hm
    obtain ⟨name, v⟩ := m
    simp only [Prod.mk.sizeOf_spec, JValue.object.sizeOf_spec] at this ⊢
    omega

/-- A training job in a container, with empty arguments and empty limits. -/
def trainingJob : V1beta1.FrameJob where
  typeMeta := { kind := "FrameJob", apiVersion := "frame.plume-labs.io/v1beta1" }
  objectMeta := { name := "train", namespaceName := "research", uid := "6f1c" }
  spec :=
    { container := some
        { image := "registry.local/train:2"
          command := some ["python", "train.py"]
          args := some []
          env := some [{ name := "SEED", value := "7" },
            { name := "TOKEN", valueFrom := some { secretKeyRef := some { name := "hub", key := "token" } } }]
          resources := { limits := some ∅ }
          envFrom := some [{ configMapRef := some { name := "train" } }] }
      type := ⟨"batch"⟩
      parameters := some ∅ }
  status := { containerJobName := "train", containerJobKind := "Job" }

def trainingStash : JValue :=
  V1alpha1.FramejobContainerAnnotationPayload.codec.encode
    { type := "batch"
      container := V1alpha1.toFramejobContainerPayload trainingJob.spec.container
      containerJobName := "train"
      containerJobKind := "Job" }

def trainingJson : V1alpha1.EncodingJson where
  print := printJson
  parse text := if text = printJson trainingStash then .ok trainingStash else .error "unexpected end of JSON input"
  typeError _ := "json: cannot unmarshal into Go value of type v1alpha1.framejobContainerAnnotationPayload"

end SpokeFixture

open SpokeFixture in
/-- The trip of a container job whose arguments, limits and parameters are there and empty. -/
theorem hub_round_trip_training :
    ∃ s h', ((Hub.frameJob trainingJob).allocateSpoke { apiVersion := "frame.plume-labs.io/v1alpha1" }).convertFrom
        trainingJson (.frameJob trainingJob) = .ok s ∧
      s.convertTo trainingJson (Hub.frameJob trainingJob).allocate = .ok h' ∧
        h'.orNil = (Hub.frameJob trainingJob).orNil := by
  refine hub_round_trip trainingJson _ (.frameJob trainingJob) rfl ?_
  intro p hp
  cases hp
  exact if_pos rfl

end FrameOperator
