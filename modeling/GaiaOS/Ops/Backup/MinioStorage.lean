/-
The MinIO storage, after `ops/backup/minio_storage.py`.

Each operation runs its S3 call through `resilient_call`, which may try it up to three times, skip
it, or answer from the cache of an earlier call under the same key; what is cached is that the
call returned nothing.  An attempt that fails may leave anything in its target, and what fails is
an error of S3, which the resilience layer knows, or another one, which goes through it.
-/
import GaiaOS.Lib.Python
import GaiaOS.Resilience.CallHistory

namespace GaiaOS

namespace Minio

open DegradedMode

abbrev Bytes := List UInt8

/-- The objects of the bucket and the local files. -/
structure Disk where
  objects : String → Option Bytes
  files : String → Option Bytes

def Disk.setObject (disk : Disk) (key : String) (content : Option Bytes) : Disk :=
  { disk with objects := Function.update disk.objects key content }

def Disk.setFile (disk : Disk) (path : String) (content : Option Bytes) : Disk :=
  { disk with files := Function.update disk.files path content }

/-- How an attempt goes: S3 does what it is asked, or something raises and leaves the target in
some state. -/
inductive S3Attempt
  | served
  /-- A `BotoCoreError` or a `ClientError`. -/
  | s3Error (message : String) (left : Option Bytes → Option Bytes)
  | otherError (error : PyError) (left : Option Bytes → Option Bytes)

inductive Operation
  | upload
  | download
  | delete
  deriving DecidableEq

/-- A call of the storage, and what it meets. -/
structure Request extends Clock where
  operation : Operation
  remoteKey : String
  /-- The local file of an upload or a download. -/
  localPath : String := ""
  attempt : Nat → S3Attempt
  /-- What making the directory of a download raises. -/
  mkdirError : Option PyError := none
  /-- The file of a failed download can be removed. -/
  unlinks : Bool := true
  /-- What others have made of the files and the objects since the last call. -/
  between : Disk → Disk := id

/-- What an attempt that raises leaves. -/
def Request.leave (r : Request) (left : Option Bytes → Option Bytes) (disk : Disk) : Disk :=
  match r.operation with
  | .download => disk.setFile r.localPath (left (disk.files r.localPath))
  | _ => disk.setObject r.remoteKey (left (disk.objects r.remoteKey))

/-- `_upload`, `_download` and `_delete` where S3 does what it is asked. -/
def Request.served (r : Request) (disk : Disk) : Attempt Unit × Disk :=
  match r.operation with
  | .upload =>
      match disk.files r.localPath with
      | some content => (.value (), disk.setObject r.remoteKey (some content))
      | none => (.otherError, disk)
  | .download =>
      -- the file is opened before the object is asked for
      match disk.objects r.remoteKey with
      | some content => (.value (), disk.setFile r.localPath (some content))
      | none => (.httpError, disk.setFile r.localPath (some []))
  | .delete => (.value (), disk.setObject r.remoteKey none)

/-- `_execute_s3_call`. -/
def Request.executeS3Call (r : Request) (disk : Disk) (i : Nat) : Attempt Unit × Disk :=
  match r.attempt i with
  | .served => r.served disk
  | .s3Error _ left => (.httpError, r.leave left disk)
  | .otherError _ left => (.otherError, r.leave left disk)

/-- What an attempt that does not return raises. -/
def Request.raisedAt (r : Request) (i : Nat) : PyError :=
  match r.attempt i with
  | .s3Error message _ => .exception ("MinIO S3 operation failed: " ++ message)
  | .otherError error _ => error
  | .served =>
      match r.operation with
      | .upload => .exception ("[Errno 2] No such file or directory: '" ++ r.localPath ++ "'")
      | _ => .exception ("MinIO S3 operation failed: An error occurred (404) when calling the " ++
          "HeadObject operation: Not Found")

/-- The disk after so many attempts. -/
def Request.afterAttempts (r : Request) (disk : Disk) (attempts : Nat) : Disk :=
  (List.range attempts).foldl (fun disk i => (r.executeS3Call disk i).2) disk

structure State where
  world : World
  disk : Disk

section Storage

variable (settings : ResilienceSettings) (codec : JsonCodec Unit) (bucket : String)

/-- `resilient_call(source="minio", ..., ttl=3600)`.  What an attempt comes to rests on the side
that no attempt changes, so it can be read off the disk at the beginning. -/
def Request.toCall (r : Request) (cacheKey : String) (disk : Disk) : Call Unit :=
  { r.toClock with
    source := "minio"
    cacheKey := cacheKey
    ttl := some 3600
    fn := fun i => (r.executeS3Call disk i).1 }

/-- The call with its effects; an exception it does not know is passed on. -/
def Request.resilient (r : Request) (cacheKey : String) (s : State) :
    Except PyError (ResilientResult Unit) × State :=
  let (report, world) := resilientCall settings codec (r.toCall cacheKey s.disk) s.world
  let s := ⟨world, r.afterAttempts s.disk report.attempts⟩
  match report.result with
  | some result => (.ok result, s)
  | none => (.error (r.raisedAt (report.attempts - 1)), s)

/-- The test each operation makes on its result. -/
def failed (result : ResilientResult Unit) : Bool :=
  result.degraded && result.sourceStatus == .unavailable

/-- `upload`, which hashes the file before anything else. -/
def upload (r : Request) (s : State) : Except PyError Json × State :=
  match s.disk.files r.localPath with
  | none =>
      (.error (.exception ("[Errno 2] No such file or directory: '" ++ r.localPath ++ "'")), s)
  | some _ =>
      match r.resilient settings codec ("upload:" ++ r.remoteKey) s with
      | (.error e, s) => (.error e, s)
      | (.ok result, s) =>
          if failed result then
            (.error (.exception ("Failed to upload " ++ r.remoteKey ++ " to MinIO bucket '" ++
              bucket ++ "'.")), s)
          else (.ok (.str ("s3://" ++ bucket ++ "/" ++ r.remoteKey)), s)

/-- `download`; the file of a failed one is removed if it can be. -/
def download (r : Request) (s : State) : Except PyError Json × State :=
  match r.mkdirError with
  | some e => (.error e, s)
  | none =>
      match r.resilient settings codec ("download:" ++ r.remoteKey) s with
      | (.error e, s) => (.error e, s)
      | (.ok result, s) =>
          if failed result then
            (.error (.exception ("Failed to download " ++ r.remoteKey ++ " from MinIO bucket '" ++
                bucket ++ "'.")),
              if r.unlinks then { s with disk := s.disk.setFile r.localPath none } else s)
          else (.ok (.str r.localPath), s)

/-- `delete`. -/
def delete (r : Request) (s : State) : Except PyError Json × State :=
  match r.resilient settings codec ("delete:" ++ r.remoteKey) s with
  | (.error e, s) => (.error e, s)
  | (.ok result, s) =>
      if failed result then
        (.error (.exception ("Failed to delete " ++ r.remoteKey ++ " from MinIO bucket '" ++
          bucket ++ "'.")), s)
      else (.ok .null, s)

def Request.perform (r : Request) (s : State) : Except PyError Json × State :=
  match r.operation with
  | .upload => upload settings codec bucket r s
  | .download => download settings codec bucket r s
  | .delete => delete settings codec bucket r s

/-- The state a request finds. -/
def Request.found (r : Request) (s : State) : State := { s with disk := r.between s.disk }

/-- The state after some requests. -/
def afterRequests (s : State) (requests : List Request) : State :=
  requests.foldl (fun s r => (r.perform settings codec bucket (r.found s)).2) s

end Storage

end Minio

end GaiaOS
