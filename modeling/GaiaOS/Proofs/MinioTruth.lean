/-
When the MinIO storage tells the truth.

A call returns without having done anything exactly if the resilience layer did not get through to
S3 and found an entry in its cache: a call of the same operation on the same key had succeeded
within the last hour.  In every other way a call can go, it returns after an attempt that was
served, and the two sides are equal, or it raises.
-/
import GaiaOS.Ops.Backup.MinioStorage
import GaiaOS.Proofs.CallOutcome

namespace GaiaOS

namespace DegradedMode

variable {T : Type} {settings : ResilienceSettings} {codec : JsonCodec T} {call : Call T}
  {world : World}

/-- The call does not get through: the circuit is open, or every attempt fails. -/
def Unreached (settings : ResilienceSettings) (call : Call T) (world : World) : Prop :=
  (CircuitBreaker.isOpen settings.toCircuitSettings call.checkedAt
      (world.circuit call.source)).2 = true ∨
    ∀ i < maxAttempts, call.fn i = .httpError

/-- What a call past the bypass reports: the cache if it does not get through, and else the first
attempt that does not fail with an `httpx` error. -/
theorem resilientCall_reports (codec : JsonCodec T) (world : World)
    (hbypass : settings.resilienceBypass = false) :
    (Unreached settings call world ∧
        (resilientCall settings codec call world).1.result =
          some (served codec call world.cache) ∧
        ∀ i < (resilientCall settings codec call world).1.attempts, call.fn i = .httpError) ∨
      ¬ Unreached settings call world ∧ ∃ attempts < maxAttempts,
        (resilientCall settings codec call world).1.attempts = attempts + 1 ∧
        (∀ i < attempts, call.fn i = .httpError) ∧
        ((∃ value, call.fn attempts = .value value ∧
            (resilientCall settings codec call world).1.result = some (liveResult value)) ∨
          call.fn attempts = .otherError ∧
            (resilientCall settings codec call world).1.result = none) := by
  unfold resilientCall Unreached
  rw [if_neg (by simp [hbypass])]
  rcases CircuitBreaker.isOpen settings.toCircuitSettings call.checkedAt
    (world.circuit call.source) with ⟨written, isOpen⟩
  cases isOpen with
  | true =>
      left
      refine ⟨.inl rfl, ?_, ?_⟩
      · simp only [if_true, World.write_cache]
        rfl
      · intro i hi
        simp at hi
  | false =>
      simp only [Bool.false_eq_true, if_false, false_or]
      unfold liveCall
      rcases hretry : withRetry call.fn maxAttempts 0 with ⟨outcome, made⟩
      obtain ⟨attempts, rfl, hfew, hlast, hbefore, hend⟩ := withRetry_ends hretry
      cases outcome with
      | value value =>
          right
          refine ⟨fun hall => ?_, attempts, hfew, rfl, hbefore, .inl ⟨value, hlast, rfl⟩⟩
          rw [hall attempts hfew] at hlast
          cases hlast
      | httpError =>
          left
          obtain ⟨-, hall⟩ := hend rfl
          refine ⟨hall, ?_, ?_⟩
          · simp only [World.write_cache]
            rfl
          · intro i hi
            exact hall i (Nat.lt_of_lt_of_le hi hfew)
      | otherError =>
          right
          refine ⟨fun hall => ?_, attempts, hfew, rfl, hbefore, .inr ⟨hlast, rfl⟩⟩
          rw [hall attempts hfew] at hlast
          cases hlast

/-- Past the bypass there is one attempt, and a result only if it returned. -/
theorem resilientCall_bypassed (codec : JsonCodec T) (call : Call T) (world : World)
    (hbypass : settings.resilienceBypass = true) :
    (resilientCall settings codec call world).1.attempts = 1 ∧
      ∀ result, (resilientCall settings codec call world).1.result = some result →
        ∃ value, call.fn 0 = .value value := by
  unfold resilientCall
  rw [if_pos hbypass]
  cases call.fn 0 with
  | value value => exact ⟨rfl, fun _ _ => ⟨value, rfl⟩⟩
  | httpError => exact ⟨rfl, nofun⟩
  | otherError => exact ⟨rfl, nofun⟩

/-- The cache has something for a call. -/
def Cached (codec : JsonCodec T) (call : Call T) (cache : Dict String CacheEntry) : Prop :=
  ∃ entry, cache.get? (sourceCacheKey call.source call.cacheKey) = some entry ∧
    call.servedAt < entry.expiresAt ∧ (codec.loads entry.text).isSome = true

theorem served_status_iff {cache : Dict String CacheEntry} :
    (served codec call cache).sourceStatus ≠ .unavailable ↔ Cached codec call cache := by
  unfold served serveFromCache Cached
  cases hentry : cache.get? (sourceCacheKey call.source call.cacheKey) with
  | none => simp
  | some entry =>
      by_cases hfresh : call.servedAt < entry.expiresAt
      · cases hloads : codec.loads entry.text with
        | none => simp [Option.filter, hfresh, hloads]
        | some value => simp [Option.filter, hfresh, hloads]
      · simp [Option.filter, hfresh]

theorem served_degraded (codec : JsonCodec T) (call : Call T) (cache : Dict String CacheEntry) :
    (served codec call cache).degraded = true := by
  unfold served serveFromCache
  split
  · rfl
  · split
    all_goals rfl

end DegradedMode

namespace Minio

open DegradedMode

/-! ### Attempts -/

section Attempts

variable {r : Request} {disk : Disk}

/-- The side an operation reads. -/
def Request.input (r : Request) (disk : Disk) : Option Bytes :=
  match r.operation with
  | .upload => disk.files r.localPath
  | .download => disk.objects r.remoteKey
  | .delete => none

theorem executeS3Call_input (r : Request) (disk : Disk) (i : Nat) :
    r.input (r.executeS3Call disk i).2 = r.input disk := by
  unfold Request.input Request.executeS3Call Request.served Request.leave
  cases r.operation
  all_goals
    cases r.attempt i
    all_goals
      dsimp only
      repeat' split
      all_goals rfl

/-- What an attempt comes to rests on what the operation reads. -/
theorem executeS3Call_congr {disk' : Disk} (h : r.input disk' = r.input disk) (i : Nat) :
    (r.executeS3Call disk' i).1 = (r.executeS3Call disk i).1 := by
  unfold Request.input at h
  unfold Request.executeS3Call Request.served
  cases hop : r.operation with
  | upload =>
      rw [hop] at h
      dsimp only at h ⊢
      rw [h]
      cases r.attempt i
      all_goals
        dsimp only
        try split
        all_goals rfl
  | download =>
      rw [hop] at h
      dsimp only at h ⊢
      rw [h]
      cases r.attempt i
      all_goals
        dsimp only
        try split
        all_goals rfl
  | delete =>
      cases r.attempt i
      all_goals rfl

theorem afterAttempts_succ (r : Request) (disk : Disk) (attempts : Nat) :
    r.afterAttempts disk (attempts + 1) =
      (r.executeS3Call (r.afterAttempts disk attempts) attempts).2 := by
  unfold Request.afterAttempts
  rw [List.range_succ, List.foldl_append]
  rfl

theorem afterAttempts_input (r : Request) (disk : Disk) (attempts : Nat) :
    r.input (r.afterAttempts disk attempts) = r.input disk := by
  induction attempts with
  | zero => rfl
  | succ attempts ih => rw [afterAttempts_succ, executeS3Call_input, ih]

/-- Attempts before it change nothing about what an attempt comes to. -/
theorem executeS3Call_afterAttempts (r : Request) (disk : Disk) (attempts i : Nat) :
    (r.executeS3Call (r.afterAttempts disk attempts) i).1 = (r.executeS3Call disk i).1 :=
  executeS3Call_congr (afterAttempts_input r disk attempts) i

/-- The operation is done: the object is the file, the file is the object, or the object is
gone. -/
def Request.Done (r : Request) (disk : Disk) : Prop :=
  match r.operation with
  | .upload => (disk.files r.localPath).isSome ∧ disk.objects r.remoteKey = disk.files r.localPath
  | .download =>
      (disk.objects r.remoteKey).isSome ∧ disk.files r.localPath = disk.objects r.remoteKey
  | .delete => disk.objects r.remoteKey = none

/-- After an attempt that returns, the operation is done. -/
theorem done_of_value {i : Nat} (h : (r.executeS3Call disk i).1 = .value ()) :
    r.Done (r.executeS3Call disk i).2 := by
  unfold Request.executeS3Call at h ⊢
  cases hattempt : r.attempt i with
  | s3Error message left =>
      rw [hattempt] at h
      cases h
  | otherError error left =>
      rw [hattempt] at h
      cases h
  | served =>
      rw [hattempt] at h
      dsimp only at h ⊢
      unfold Request.served at h ⊢
      unfold Request.Done
      cases hop : r.operation with
      | upload =>
          rw [hop] at h
          cases hfile : disk.files r.localPath with
          | none =>
              rw [hfile] at h
              cases h
          | some content => simp [Disk.setObject, hfile]
      | download =>
          rw [hop] at h
          cases hobject : disk.objects r.remoteKey with
          | none =>
              rw [hobject] at h
              cases h
          | some content => simp [Disk.setFile, hobject]
      | delete => simp [Disk.setObject]

end Attempts

/-! ### One request -/

section OneRequest

variable (settings : ResilienceSettings) (codec : JsonCodec Unit) (bucket : String) (r : Request)
  (s : State)

def Request.cacheKey : String :=
  match r.operation with
  | .upload => "upload:" ++ r.remoteKey
  | .download => "download:" ++ r.remoteKey
  | .delete => "delete:" ++ r.remoteKey

/-- The call of the resilience layer a request makes. -/
def Request.call (disk : Disk) : Call Unit := r.toCall r.cacheKey disk

/-- The request gets as far as the resilience layer: the file to upload is there, the directory of
the download can be made. -/
def Request.Starts (disk : Disk) : Prop :=
  match r.operation with
  | .upload => (disk.files r.localPath).isSome
  | .download => r.mkdirError = none
  | .delete => True

def Request.report : Report Unit := (resilientCall settings codec (r.call s.disk) s.world).1

/-- S3 served the request during the call. -/
def Request.Performed : Prop :=
  r.Starts s.disk ∧
    ∃ i < (r.report settings codec s).attempts, (r.executeS3Call s.disk i).1 = .value ()

/-- A request that returns was performed, and is done; one that was not performed raises. -/
structure Truthful : Prop where
  performed : ∀ value, (r.perform settings codec bucket s).1 = .ok value →
    r.Performed settings codec s ∧ r.Done (r.perform settings codec bucket s).2.disk
  raises : ¬ r.Performed settings codec s →
    ∃ e, (r.perform settings codec bucket s).1 = .error e

/-- A request that does not get through to S3, while the cache still has an entry of an earlier
one. -/
structure AnsweredFromCache : Prop where
  starts : r.Starts s.disk
  guarded : settings.resilienceBypass = false
  unreached : Unreached settings (r.call s.disk) s.world
  cached : Cached codec (r.call s.disk) s.world.cache

variable {r s}

theorem perform_of_not_starts (h : ¬ r.Starts s.disk) :
    ∃ e, r.perform settings codec bucket s = (.error e, s) := by
  unfold Request.Starts at h
  unfold Request.perform
  cases hop : r.operation with
  | upload =>
      rw [hop] at h
      have hmissing : s.disk.files r.localPath = none := by simpa using h
      exact ⟨_, by simp only [upload, hmissing]; rfl⟩
  | download =>
      rw [hop] at h
      obtain ⟨e, he⟩ := Option.ne_none_iff_exists'.mp h
      exact ⟨e, by simp only [download, he]⟩
  | delete =>
      rw [hop] at h
      exact absurd trivial h

/-- The three operations differ in what they return, what they raise and what they clean up. -/
theorem perform_of_starts (h : r.Starts s.disk) :
    ∃ (e : PyError) (cleaned : State → State) (value : Json),
      r.perform settings codec bucket s =
        match r.resilient settings codec r.cacheKey s with
        | (.error e, s) => (.error e, s)
        | (.ok result, s) => if failed result then (.error e, cleaned s) else (.ok value, s) := by
  unfold Request.Starts at h
  unfold Request.perform Request.cacheKey
  cases hop : r.operation with
  | upload =>
      rw [hop] at h
      obtain ⟨content, hcontent⟩ := Option.isSome_iff_exists.mp h
      exact ⟨_, id, _, by simp only [upload, hcontent]; rfl⟩
  | download =>
      rw [hop] at h
      have hmkdir : r.mkdirError = none := h
      exact ⟨_, fun s =>
          if r.unlinks then { s with disk := s.disk.setFile r.localPath none } else s, _,
        by simp only [download, hmkdir]; rfl⟩
  | delete => exact ⟨_, id, _, rfl⟩

theorem resilient_eq :
    r.resilient settings codec r.cacheKey s =
      (match (r.report settings codec s).result with
        | some result => .ok result
        | none => .error (r.raisedAt ((r.report settings codec s).attempts - 1)),
        ⟨(resilientCall settings codec (r.call s.disk) s.world).2,
          r.afterAttempts s.disk (r.report settings codec s).attempts⟩) := by
  unfold Request.resilient Request.report Request.call
  dsimp only
  cases (resilientCall settings codec (r.toCall r.cacheKey s.disk) s.world).1.result
  all_goals rfl

variable {settings codec bucket}

/-- A request returns exactly if the resilience layer has a result for it that is not
unavailable, and then leaves what the attempts left. -/
theorem perform_ok_iff {value : Json} (h : (r.perform settings codec bucket s).1 = .ok value) :
    r.Starts s.disk ∧
      (∃ result, (r.report settings codec s).result = some result ∧ failed result = false) ∧
      (r.perform settings codec bucket s).2.disk =
        r.afterAttempts s.disk (r.report settings codec s).attempts := by
  by_cases hstarts : r.Starts s.disk
  · obtain ⟨e, cleaned, value', hperform⟩ :=
      perform_of_starts settings codec bucket hstarts
    rw [hperform, resilient_eq] at h
    rw [hperform, resilient_eq]
    cases hresult : (r.report settings codec s).result with
    | none =>
        rw [hresult] at h
        cases h
    | some result =>
        rw [hresult] at h
        cases hfailed : failed result with
        | true => simp [hfailed] at h
        | false => exact ⟨hstarts, ⟨result, rfl, hfailed⟩, by simp [hfailed]⟩
  · obtain ⟨e, hperform⟩ :=
      perform_of_not_starts settings codec bucket hstarts
    rw [hperform] at h
    cases h

theorem perform_ok_of_result (bucket : String) (hstarts : r.Starts s.disk)
    {result : ResilientResult Unit}
    (hresult : (r.report settings codec s).result = some result) (hfailed : failed result = false) :
    ∃ value, (r.perform settings codec bucket s).1 = .ok value := by
  obtain ⟨e, cleaned, value, hperform⟩ :=
    perform_of_starts settings codec bucket hstarts
  refine ⟨value, ?_⟩
  rw [hperform, resilient_eq, hresult]
  simp [hfailed]

theorem failed_served (cache : Dict String CacheEntry) :
    failed (served codec (r.call s.disk) cache) = false ↔ Cached codec (r.call s.disk) cache := by
  rw [← served_status_iff, failed, served_degraded]
  simp

/-- After the attempt that returned, the operation is done. -/
theorem done_afterAttempts {attempts : Nat}
    (h : (r.executeS3Call s.disk attempts).1 = .value ()) :
    r.Done (r.afterAttempts s.disk (attempts + 1)) := by
  rw [afterAttempts_succ]
  refine done_of_value ?_
  rw [executeS3Call_afterAttempts]
  exact h

/-- A request is truthful exactly if it is not answered from the cache. -/
theorem truthful_iff (settings : ResilienceSettings) (codec : JsonCodec Unit) (bucket : String)
    (r : Request) (s : State) :
    Truthful settings codec bucket r s ↔ ¬ AnsweredFromCache settings codec r s := by
  constructor
  · rintro htruthful ⟨hstarts, hguarded, hunreached, hcached⟩
    rcases resilientCall_reports codec s.world hguarded with
      ⟨-, hresult, hfails⟩ | ⟨hreached, -⟩
    · obtain ⟨value, hok⟩ := perform_ok_of_result bucket hstarts hresult
        ((failed_served s.world.cache).mpr hcached)
      obtain ⟨⟨-, i, hi, hvalue⟩, -⟩ := htruthful.performed value hok
      have hfails := hfails i hi
      rw [show (r.call s.disk).fn i = (r.executeS3Call s.disk i).1 from rfl, hvalue] at hfails
      cases hfails
    · exact hreached hunreached
  · intro hnot
    -- a request that returns was performed, whichever way it went
    have hperformed : ∀ value, (r.perform settings codec bucket s).1 = .ok value →
        r.Performed settings codec s ∧ r.Done (r.perform settings codec bucket s).2.disk := by
      intro value hok
      obtain ⟨hstarts, ⟨result, hresult, hfailed⟩, hdisk⟩ := perform_ok_iff hok
      have hlast : ∃ attempts, (r.report settings codec s).attempts = attempts + 1 ∧
          (r.executeS3Call s.disk attempts).1 = .value () := by
        cases hbypass : settings.resilienceBypass with
        | true =>
            obtain ⟨hattempts, hreturned⟩ :=
              resilientCall_bypassed codec (r.call s.disk) s.world hbypass
            obtain ⟨⟨⟩, hvalue⟩ := hreturned result hresult
            exact ⟨0, hattempts, hvalue⟩
        | false =>
            rcases resilientCall_reports codec s.world hbypass with
              ⟨hunreached, hserved, -⟩ | ⟨-, attempts, -, hattempts, -, hend⟩
            · refine absurd ⟨hstarts, hbypass, hunreached, ?_⟩ hnot
              have hsame : result = served codec (r.call s.disk) s.world.cache :=
                Option.some.inj (hresult.symm.trans hserved)
              rw [hsame] at hfailed
              exact (failed_served s.world.cache).mp hfailed
            · refine ⟨attempts, hattempts, ?_⟩
              rcases hend with ⟨⟨⟩, hvalue, -⟩ | ⟨-, hnone⟩
              · exact hvalue
              · have hnone := hresult.symm.trans hnone
                cases hnone
      obtain ⟨attempts, hattempts, hvalue⟩ := hlast
      refine ⟨⟨hstarts, attempts, by omega, hvalue⟩, ?_⟩
      rw [hdisk, hattempts]
      exact done_afterAttempts hvalue
    refine ⟨hperformed, fun hnone => ?_⟩
    cases hresult : (r.perform settings codec bucket s).1 with
    | error e => exact ⟨e, rfl⟩
    | ok value => exact absurd (hperformed value hresult).1 hnone

end OneRequest

/-- **When the MinIO storage is truthful.**  For every sequence of uploads, downloads and deletes,
on any keys and files, with any failures of S3 and any state of the circuit and the cache: every
request that returns performed its operation during the call and left it done, and every one that
did not perform it raises, if and only if no request that gets as far as the resilience layer finds
the circuit open or has all its attempts fail with errors of S3 while the cache still has a readable
entry under its operation and key. -/
theorem minio_truthful_iff (settings : ResilienceSettings) (codec : JsonCodec Unit)
    (bucket : String) (s : State) (requests : List Request) :
    (∀ before r after, requests = before ++ r :: after →
        Truthful settings codec bucket r
          (r.found (afterRequests settings codec bucket s before))) ↔
      ∀ before r after, requests = before ++ r :: after →
        ¬ AnsweredFromCache settings codec r
          (r.found (afterRequests settings codec bucket s before)) := by
  constructor
  · intro h before r after hsplit
    exact (truthful_iff _ _ _ _ _).mp (h before r after hsplit)
  · intro h before r after hsplit
    exact (truthful_iff _ _ _ _ _).mpr (h before r after hsplit)

/-- `json.dumps(None)` and `json.loads` of it. -/
def nullCodec : JsonCodec Unit where
  dumps _ := some "null"
  loads text := if text = "null" then some () else none

/-- An upload of a backup, every attempt of which goes the same way. -/
def uploadAt (now : Int) (attempt : S3Attempt) (content : Bytes) : Request where
  toClock := .at now
  operation := .upload
  remoteKey := "backup_1.sql"
  localPath := "/backups/temp/backup_1.sql"
  attempt _ := attempt
  between disk := disk.setFile "/backups/temp/backup_1.sql" (some content)

/-- Nothing is stored yet. -/
def emptyStorage : State := ⟨⟨fun _ => none, .empty⟩, ⟨fun _ => none, fun _ => none⟩⟩

/-- An upload succeeds, the file is written anew, and ten minutes later S3 fails: the second upload
returns the location all the same, and the object is still the old file. -/
theorem failed_upload_returns :
    let requests := [uploadAt 0 .served [1],
      uploadAt 600000000 (.s3Error "ConnectTimeoutError" id) [2]]
    let second := uploadAt 600000000 (.s3Error "ConnectTimeoutError" id) [2]
    let found := second.found (afterRequests {} nullCodec "gaiaos-backups" emptyStorage
      [uploadAt 0 .served [1]])
    (second.perform {} nullCodec "gaiaos-backups" found).1 =
        .ok (.str "s3://gaiaos-backups/backup_1.sql") ∧
      (second.perform {} nullCodec "gaiaos-backups" found).2.disk.objects "backup_1.sql" =
        some [1] ∧
      found.disk.files "/backups/temp/backup_1.sql" = some [2] ∧
      ¬ ∀ before r after, requests = before ++ r :: after →
        Truthful {} nullCodec "gaiaos-backups" r
          (r.found (afterRequests {} nullCodec "gaiaos-backups" emptyStorage before)) := by
  intro requests second found
  have hok : (second.perform {} nullCodec "gaiaos-backups" found).1 =
      .ok (.str "s3://gaiaos-backups/backup_1.sql") := by
    rfl
  have hobject : (second.perform {} nullCodec "gaiaos-backups" found).2.disk.objects
      "backup_1.sql" = some [1] := by
    decide +kernel
  have hfile : (second.perform {} nullCodec "gaiaos-backups" found).2.disk.files
      "/backups/temp/backup_1.sql" = some [2] := by
    decide +kernel
  refine ⟨hok, hobject, by decide +kernel, fun h => ?_⟩
  obtain ⟨-, -, hsame⟩ := (h [uploadAt 0 .served [1]] second [] rfl).performed _ hok
  exact absurd (hobject.symm.trans (Eq.trans hsame hfile)) (by decide)

end Minio

end GaiaOS
