import FrameOperator.Lib.GoFormat
import FrameOperator.Lib.Keyed

/-!
# Storage entries and the claims on their classes

`FrameStorageCustomValidator` (`internal/webhook/frame/v1beta1/framestorage_webhook.go`) and `PVCCustomValidator.validate`
(`internal/webhook/core/v1/pvc_webhook.go`).
-/

namespace FrameOperator.Storage

structure FrameStorage where
  name : String
  storageClassName : String
  adoptExisting : Bool
  content : List String

/-- What asking for a StorageClass gets. -/
inductive ClassLookup where
  | found
  | notFound
  | failed (err : String)

def validateAdoption (fs : FrameStorage) (sc : ClassLookup) : Option String :=
  if fs.adoptExisting then none
  else
    match sc with
    | .notFound => none
    | .failed err => some ("cannot determine whether StorageClass " ++ goQuote fs.storageClassName ++ " already exists (" ++ err ++
        "); refusing rather than risk adopting it")
    | .found => some ("StorageClass " ++ goQuote fs.storageClassName ++
        " already exists and was not created by Frame: set spec.adoptExisting to true to reference it. " ++
        "An adopted entry owns nothing and deletes nothing; without the flag, Frame would take ownership of a class " ++
        "that other volumes already provision from")

def validateUpdate (old fs : FrameStorage) (sc : ClassLookup) : Option String :=
  if old.storageClassName = fs.storageClassName then none else validateAdoption fs sc

structure VolumeClaim where
  usage : String
  storageClassName : Option String

/-- The refusal of the first entry of the class, and none where they were not listed. -/
def VolumeClaim.validate (pvc : VolumeClaim) (entries : Except String (List FrameStorage)) : Option String :=
  match pvc.storageClassName, entries with
  | some cls, .ok entries =>
    if pvc.usage = "" ∨ cls = "" then none
    else
      (entries.find? fun e => e.storageClassName = cls).bind fun e =>
        if pvc.usage ∈ e.content then none
        else some ("storage entry " ++ goQuote e.name ++ " (class " ++ goQuote e.storageClassName ++ ") accepts content types [" ++
          ", ".intercalate e.content ++ "]; this claim declares " ++ goQuote pvc.usage)
  | _, _ => none

/-! ## The entries there are -/

abbrev Entries : Type := Keyed FrameStorage FrameStorage.name

inductive EntryWrite where
  | create (fs : FrameStorage) (sc : ClassLookup)
  | update (fs : FrameStorage) (sc : ClassLookup)
  | delete (name : String)

/-- A write that the webhook refuses changes nothing. -/
def Entries.step (t : Entries) : EntryWrite → Entries
  | .create fs sc => if validateAdoption fs sc = none then t.insertNew fs else t
  | .update fs sc =>
    match t.get? fs.name with
    | none => t
    | some old => if validateUpdate old fs sc = none then t.modify fs.name (fun e => { fs with name := e.name }) fun _ => rfl else t
  | .delete name => t.erase name

end FrameOperator.Storage
