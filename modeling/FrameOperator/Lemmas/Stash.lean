import FrameOperator.Api.Stash

/-!
# What the stash keeps

Every type of the stash reads back what it wrote, except that empty limits, requests and claims come back nil.
-/

namespace FrameOperator

namespace Core

open Codec

theorem Quantity.keeps (q : Quantity) : Quantity.codec.Keeps q q := ⟨by simp [Quantity.codec], rfl⟩

theorem Quantity.survives (q : Quantity) : Quantity.codec.Survives q q := (Quantity.keeps q).survives (by simp [Quantity.codec])

theorem ObjectFieldSelector.keeps (s : ObjectFieldSelector) : ObjectFieldSelector.codec.Keeps s s := by
  refine keeps_object rfl ?_
  simp [codec, get_omitempty (string_survives s.apiVersion), get_always (string_keeps s.fieldPath)]

theorem ResourceFieldSelector.keeps (s : ResourceFieldSelector) : ResourceFieldSelector.codec.Keeps s s := by
  refine keeps_object rfl ?_
  simp [codec, get_omitempty (string_survives s.containerName), get_always (string_keeps s.resource),
    get_omitempty (Quantity.survives s.divisor)]

theorem KeySelector.keeps (s : KeySelector) : KeySelector.codec.Keeps s s := by
  refine keeps_object rfl ?_
  simp [codec, get_omitempty (string_survives s.name), get_always (string_keeps s.key),
    get_omitempty (pointer_survives bool_keeps s.optional)]

theorem FileKeySelector.keeps (s : FileKeySelector) : FileKeySelector.codec.Keeps s s := by
  refine keeps_object rfl ?_
  simp [codec, get_always (string_keeps s.volumeName), get_always (string_keeps s.path), get_always (string_keeps s.key),
    get_omitempty (pointer_survives bool_keeps s.optional)]

theorem EnvVarSource.keeps (s : EnvVarSource) : EnvVarSource.codec.Keeps s s := by
  refine keeps_object rfl ?_
  simp [codec, get_omitempty (pointer_survives ObjectFieldSelector.keeps s.fieldRef),
    get_omitempty (pointer_survives ResourceFieldSelector.keeps s.resourceFieldRef),
    get_omitempty (pointer_survives KeySelector.keeps s.configMapKeyRef),
    get_omitempty (pointer_survives KeySelector.keeps s.secretKeyRef),
    get_omitempty (pointer_survives FileKeySelector.keeps s.fileKeyRef)]

/-- A variable is read back as it was written. -/
theorem EnvVar.keeps (e : EnvVar) : EnvVar.codec.Keeps e e := by
  refine keeps_object rfl ?_
  simp [codec, get_always (string_keeps e.name), get_omitempty (string_survives e.value),
    get_omitempty (pointer_survives EnvVarSource.keeps e.valueFrom)]

theorem EnvSource.keeps (s : EnvSource) : EnvSource.codec.Keeps s s := by
  refine keeps_object rfl ?_
  simp [codec, get_omitempty (string_survives s.name), get_omitempty (pointer_survives bool_keeps s.optional)]

theorem EnvFromSource.keeps (s : EnvFromSource) : EnvFromSource.codec.Keeps s s := by
  refine keeps_object rfl ?_
  simp [codec, get_omitempty (string_survives s.keyPrefix), get_omitempty (pointer_survives EnvSource.keeps s.configMapRef),
    get_omitempty (pointer_survives EnvSource.keeps s.secretRef)]

theorem ResourceClaim.keeps (c : ResourceClaim) : ResourceClaim.codec.Keeps c c := by
  refine keeps_object rfl ?_
  simp [codec, get_always (string_keeps c.name), get_omitempty (string_survives c.request)]

/-- Resources are read back, up to nil and empty. -/
theorem ResourceRequirements.keeps (r : ResourceRequirements) : ResourceRequirements.codec.Keeps r r.orNil := by
  refine keeps_object rfl ?_
  simp [codec, ResourceRequirements.orNil, get_omitempty (map_survives Quantity.keeps r.limits),
    get_omitempty (map_survives Quantity.keeps r.requests),
    get_omitempty (slice_survives ResourceClaim.keeps r.claims)]

end Core

def V1beta1.ContainerSpec.orNil (c : V1beta1.ContainerSpec) : V1beta1.ContainerSpec := { c with resources := c.resources.orNil }

namespace V1alpha1

open Codec

/-- The container is read back from its payload. -/
theorem FramejobContainerPayload.survives (c : Option V1beta1.ContainerSpec) :
    FramejobContainerPayload.codec.pointer.Survives (toFramejobContainerPayload c)
      (toFramejobContainerPayload (c.map V1beta1.ContainerSpec.orNil)) := by
  cases c with
  | none => exact pointer_none_survives codec
  | some c =>
    refine pointer_some_survives (keeps_object rfl ?_)
    simp [codec, V1beta1.ContainerSpec.orNil, get_always (string_keeps c.image),
      get_omitempty (pointer_slice_survives string_keeps c.command),
      get_omitempty (pointer_slice_survives string_keeps c.args), get_omitempty (pointer_slice_survives Core.EnvVar.keeps c.env),
      get_omitempty (pointer_slice_survives Core.EnvFromSource.keeps c.envFrom),
      get_omitempty ((Core.ResourceRequirements.keeps c.resources).survives (by simp [Core.ResourceRequirements.codec]))]

theorem from_toFramejobContainerPayload (c : Option V1beta1.ContainerSpec) :
    fromFramejobContainerPayload (toFramejobContainerPayload c) = c := by
  cases c with
  | none => rfl
  | some c =>
    have hjoin : ∀ {α : Type} (s : Slice α), (s.map some).join = s := by
      intro α s
      cases s <;> rfl
    simp only [toFramejobContainerPayload, fromFramejobContainerPayload, Option.map_some, hjoin]

theorem FramejobContainerAnnotationPayload.keeps (type name kind : String) (c : Option V1beta1.ContainerSpec) :
    FramejobContainerAnnotationPayload.codec.Keeps ⟨type, toFramejobContainerPayload c, name, kind⟩
      ⟨type, toFramejobContainerPayload (c.map V1beta1.ContainerSpec.orNil), name, kind⟩ := by
  refine keeps_object rfl ?_
  simp [codec, get_omitempty (string_survives type), get_omitempty (FramejobContainerPayload.survives c),
    get_omitempty (string_survives name), get_omitempty (string_survives kind)]

/-- A text layer that reads back the text it wrote for a value. -/
def EncodingJson.ReadsBack (json : EncodingJson) (v : JValue) : Prop := json.parse (json.print v) = .ok v

theorem unmarshal_print {json : EncodingJson} {type name kind : String} {c : Option V1beta1.ContainerSpec}
    (h : json.ReadsBack (FramejobContainerAnnotationPayload.codec.encode ⟨type, toFramejobContainerPayload c, name, kind⟩)) :
    json.unmarshal (json.print (FramejobContainerAnnotationPayload.codec.encode ⟨type, toFramejobContainerPayload c, name, kind⟩)) =
      .ok ⟨type, toFramejobContainerPayload (c.map V1beta1.ContainerSpec.orNil), name, kind⟩ := by
  unfold EncodingJson.ReadsBack at h
  unfold EncodingJson.unmarshal
  rw [h]
  simp only [bind, Except.bind, (FramejobContainerAnnotationPayload.keeps type name kind c).read]
  rfl

end V1alpha1

end FrameOperator
