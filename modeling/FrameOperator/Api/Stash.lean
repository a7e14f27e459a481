import FrameOperator.Lib.Json
import FrameOperator.Api.Versions

/-!
# The stash of a FrameJob

The container, the type and the job of a `FrameJob` travel in an annotation of the v1alpha1 one, as the JSON of
`FramejobContainerAnnotationPayload`. The codecs follow the JSON tags of the types.
-/

namespace FrameOperator

namespace Core

/-- A quantity is written as its text. -/
def Quantity.codec : Codec Quantity where
  zero := {}
  isEmpty _ := false
  encode q := .string q.text
  decode
    | .string s => some ⟨s⟩
    | _ => none

def ObjectFieldSelector.codec : Codec ObjectFieldSelector where
  zero := {}
  isEmpty _ := false
  encode s := .struct [Codec.string.omitempty "apiVersion" s.apiVersion, Codec.string.always "fieldPath" s.fieldPath]
  decode
    | .object ms => do
      let apiVersion ← Codec.string.get ms "apiVersion"
      let fieldPath ← Codec.string.get ms "fieldPath"
      return { apiVersion, fieldPath }
    | _ => none

def ResourceFieldSelector.codec : Codec ResourceFieldSelector where
  zero := {}
  isEmpty _ := false
  encode s := .struct [Codec.string.omitempty "containerName" s.containerName, Codec.string.always "resource" s.resource,
    Quantity.codec.omitempty "divisor" s.divisor]
  decode
    | .object ms => do
      let containerName ← Codec.string.get ms "containerName"
      let resource ← Codec.string.get ms "resource"
      let divisor ← Quantity.codec.get ms "divisor"
      return { containerName, resource, divisor }
    | _ => none

def KeySelector.codec : Codec KeySelector where
  zero := {}
  isEmpty _ := false
  encode s := .struct [Codec.string.omitempty "name" s.name, Codec.string.always "key" s.key,
    Codec.bool.pointer.omitempty "optional" s.optional]
  decode
    | .object ms => do
      let name ← Codec.string.get ms "name"
      let key ← Codec.string.get ms "key"
      let optional ← Codec.bool.pointer.get ms "optional"
      return { name, key, optional }
    | _ => none

def FileKeySelector.codec : Codec FileKeySelector where
  zero := {}
  isEmpty _ := false
  encode s := .struct [Codec.string.always "volumeName" s.volumeName, Codec.string.always "path" s.path,
    Codec.string.always "key" s.key, Codec.bool.pointer.omitempty "optional" s.optional]
  decode
    | .object ms => do
      let volumeName ← Codec.string.get ms "volumeName"
      let path ← Codec.string.get ms "path"
      let key ← Codec.string.get ms "key"
      let optional ← Codec.bool.pointer.get ms "optional"
      return { volumeName, path, key, optional }
    | _ => none

def EnvVarSource.codec : Codec EnvVarSource where
  zero := {}
  isEmpty _ := false
  encode s := .struct [ObjectFieldSelector.codec.pointer.omitempty "fieldRef" s.fieldRef,
    ResourceFieldSelector.codec.pointer.omitempty "resourceFieldRef" s.resourceFieldRef,
    KeySelector.codec.pointer.omitempty "configMapKeyRef" s.configMapKeyRef,
    KeySelector.codec.pointer.omitempty "secretKeyRef" s.secretKeyRef,
    FileKeySelector.codec.pointer.omitempty "fileKeyRef" s.fileKeyRef]
  decode
    | .object ms => do
      let fieldRef ← ObjectFieldSelector.codec.pointer.get ms "fieldRef"
      let resourceFieldRef ← ResourceFieldSelector.codec.pointer.get ms "resourceFieldRef"
      let configMapKeyRef ← KeySelector.codec.pointer.get ms "configMapKeyRef"
      let secretKeyRef ← KeySelector.codec.pointer.get ms "secretKeyRef"
      let fileKeyRef ← FileKeySelector.codec.pointer.get ms "fileKeyRef"
      return { fieldRef, resourceFieldRef, configMapKeyRef, secretKeyRef, fileKeyRef }
    | _ => none

def EnvVar.codec : Codec EnvVar where
  zero := {}
  isEmpty _ := false
  encode e := .struct [Codec.string.always "name" e.name, Codec.string.omitempty "value" e.value,
    EnvVarSource.codec.pointer.omitempty "valueFrom" e.valueFrom]
  decode
    | .object ms => do
      let name ← Codec.string.get ms "name"
      let value ← Codec.string.get ms "value"
      let valueFrom ← EnvVarSource.codec.pointer.get ms "valueFrom"
      return { name, value, valueFrom }
    | _ => none

def EnvSource.codec : Codec EnvSource where
  zero := {}
  isEmpty _ := false
  encode s := .struct [Codec.string.omitempty "name" s.name, Codec.bool.pointer.omitempty "optional" s.optional]
  decode
    | .object ms => do
      let name ← Codec.string.get ms "name"
      let optional ← Codec.bool.pointer.get ms "optional"
      return { name, optional }
    | _ => none

def EnvFromSource.codec : Codec EnvFromSource where
  zero := {}
  isEmpty _ := false
  encode s := .struct [Codec.string.omitempty "prefix" s.keyPrefix, EnvSource.codec.pointer.omitempty "configMapRef" s.configMapRef,
    EnvSource.codec.pointer.omitempty "secretRef" s.secretRef]
  decode
    | .object ms => do
      let keyPrefix ← Codec.string.get ms "prefix"
      let configMapRef ← EnvSource.codec.pointer.get ms "configMapRef"
      let secretRef ← EnvSource.codec.pointer.get ms "secretRef"
      return { keyPrefix, configMapRef, secretRef }
    | _ => none

def ResourceClaim.codec : Codec ResourceClaim where
  zero := {}
  isEmpty _ := false
  encode c := .struct [Codec.string.always "name" c.name, Codec.string.omitempty "request" c.request]
  decode
    | .object ms => do
      let name ← Codec.string.get ms "name"
      let request ← Codec.string.get ms "request"
      return { name, request }
    | _ => none

def ResourceRequirements.codec : Codec ResourceRequirements where
  zero := {}
  isEmpty _ := false
  encode r := .struct [Quantity.codec.map.omitempty "limits" r.limits, Quantity.codec.map.omitempty "requests" r.requests,
    ResourceClaim.codec.slice.omitempty "claims" r.claims]
  decode
    | .object ms => do
      let limits ← Quantity.codec.map.get ms "limits"
      let requests ← Quantity.codec.map.get ms "requests"
      let claims ← ResourceClaim.codec.slice.get ms "claims"
      return { limits, requests, claims }
    | _ => none

end Core

namespace V1alpha1

def framejobContainerAnnotation : String := "frame.plume-labs.io/framejob-container"

/-- A container in the stash: its slices are behind pointers. -/
structure FramejobContainerPayload where
  image : String := ""
  command : Option (Slice String) := none
  args : Option (Slice String) := none
  env : Option (Slice Core.EnvVar) := none
  envFrom : Option (Slice Core.EnvFromSource) := none
  resources : Core.ResourceRequirements := {}

structure FramejobContainerAnnotationPayload where
  type : String := ""
  container : Option FramejobContainerPayload := none
  containerJobName : String := ""
  containerJobKind : String := ""

def FramejobContainerPayload.codec : Codec FramejobContainerPayload where
  zero := {}
  isEmpty _ := false
  encode p := .struct [Codec.string.always "image" p.image, Codec.string.slice.pointer.omitempty "command" p.command,
    Codec.string.slice.pointer.omitempty "args" p.args, Core.EnvVar.codec.slice.pointer.omitempty "env" p.env,
    Core.EnvFromSource.codec.slice.pointer.omitempty "envFrom" p.envFrom,
    Core.ResourceRequirements.codec.omitempty "resources" p.resources]
  decode
    | .object ms => do
      let image ← Codec.string.get ms "image"
      let command ← Codec.string.slice.pointer.get ms "command"
      let args ← Codec.string.slice.pointer.get ms "args"
      let env ← Core.EnvVar.codec.slice.pointer.get ms "env"
      let envFrom ← Core.EnvFromSource.codec.slice.pointer.get ms "envFrom"
      let resources ← Core.ResourceRequirements.codec.get ms "resources"
      return { image, command, args, env, envFrom, resources }
    | _ => none

def FramejobContainerAnnotationPayload.codec : Codec FramejobContainerAnnotationPayload where
  zero := {}
  isEmpty _ := false
  encode p := .struct [Codec.string.omitempty "type" p.type,
    FramejobContainerPayload.codec.pointer.omitempty "container" p.container,
    Codec.string.omitempty "containerJobName" p.containerJobName, Codec.string.omitempty "containerJobKind" p.containerJobKind]
  decode
    | .object ms => do
      let type ← Codec.string.get ms "type"
      let container ← FramejobContainerPayload.codec.pointer.get ms "container"
      let containerJobName ← Codec.string.get ms "containerJobName"
      let containerJobKind ← Codec.string.get ms "containerJobKind"
      return { type, container, containerJobName, containerJobKind }
    | _ => none

/-- What `encoding/json` writes for a value, reads from a text, and its errors. -/
structure EncodingJson where
  print : JValue → String
  parse : String → Except String JValue
  typeError : JValue → String

/-- `json.Marshal` of a payload: its types have no value that cannot be written. -/
def EncodingJson.marshal (json : EncodingJson) (p : FramejobContainerAnnotationPayload) : Except String String :=
  .ok (json.print (FramejobContainerAnnotationPayload.codec.encode p))

/-- `json.Unmarshal` of a payload. -/
def EncodingJson.unmarshal (json : EncodingJson) (raw : String) : Except String FramejobContainerAnnotationPayload := do
  let v ← json.parse raw
  match FramejobContainerAnnotationPayload.codec.read v with
  | some p => return p
  | none => throw (json.typeError v)

def toFramejobContainerPayload (c : Option V1beta1.ContainerSpec) : Option FramejobContainerPayload :=
  c.map fun c =>
    { image := c.image
      resources := c.resources
      -- a pointer is taken only to a slice that is not nil
      command := c.command.map some
      args := c.args.map some
      env := c.env.map some
      envFrom := c.envFrom.map some }

def fromFramejobContainerPayload (p : Option FramejobContainerPayload) : Option V1beta1.ContainerSpec :=
  p.map fun p =>
    { image := p.image
      resources := p.resources
      command := p.command.join
      args := p.args.join
      env := p.env.join
      envFrom := p.envFrom.join }

def stashOf (src : V1beta1.FrameJob) : Option FramejobContainerAnnotationPayload :=
  if src.spec.container.isNone ∧ src.spec.type.value = "" ∧ src.status.containerJobName = "" ∧
      src.status.containerJobKind = "" then none
  else some
    { type := src.spec.type.value
      container := toFramejobContainerPayload src.spec.container
      containerJobName := src.status.containerJobName
      containerJobKind := src.status.containerJobKind }

/-- Stashing into the annotations of the destination, which are copied first. -/
def stashFrameJobContainer (json : EncodingJson) (dst : FrameJob) (src : V1beta1.FrameJob) : Except String FrameJob :=
  match stashOf src with
  | none => .ok dst
  | some payload =>
    match json.marshal payload with
    | .error err => .error ("stashing spec.container/spec.type for v1alpha1: " ++ err)
    | .ok raw => .ok { dst with objectMeta.annotations := dst.objectMeta.annotations.copySet framejobContainerAnnotation raw }

/-- Restoring from the annotations of the source, and stripping the stash from those of the destination. -/
def restoreFrameJobContainer (json : EncodingJson) (dst : V1beta1.FrameJob) (src : FrameJob) :
    Except String V1beta1.FrameJob :=
  match src.objectMeta.annotations.get? framejobContainerAnnotation with
  | none => .ok dst
  | some raw =>
    match json.unmarshal raw with
    | .error err => .error ("restoring spec.container/spec.type from v1alpha1: " ++ err)
    | .ok payload =>
      let dst := { dst with
        spec.type := ⟨payload.type⟩
        spec.container := fromFramejobContainerPayload payload.container
        status.containerJobName := payload.containerJobName
        status.containerJobKind := payload.containerJobKind }
      if dst.objectMeta.annotations.len = 0 then .ok dst
      else
        -- what is left is nil when nothing is
        let annotations : GoMap String String := some (dst.objectMeta.annotations.entries.erase framejobContainerAnnotation)
        .ok { dst with objectMeta.annotations := annotations.orNil }

end V1alpha1

end FrameOperator
