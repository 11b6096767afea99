/-
What the token bucket promises to the requests on one key.

With one clock for everything, what the script finds in a key is a bucket that filled up
since the last admission, whether the key is still there or not: by the time the key
expires the bucket is full, and a missing key counts as a full bucket (`Kept.available_eq`).
From there on the key may as well stay for ever, and the number of admissions is an account
of what the bucket held and gained: at any time `t` of a window that began at `lo`, the
admissions in the window and the tokens held make no more than the capacity and the gain
since `lo` (`window_account`).

With a clock of its own for every caller the same account needs two things of each
execution: an old time may not find a token to take, and a key may not be gone before it
is full by the time of the caller.  The script asks for neither, and stores whatever time
it is given; the clock that was ahead can then take the same stretch of time again.
-/
import GaiaOS.Gateway.RateLimiter
import GaiaOS.Lib.TokenBucket
import GaiaOS.Lib.Machine

namespace GaiaOS

namespace RateLimiter

open TokenBucket (level)

/-! ### One execution -/

/-- A limit under which the bucket fills up and holds at least one request. -/
structure Limit.Positive (limit : Limit) : Prop where
  capacity : 1 ≤ limit.capacity
  rate : 0 < limit.refillRate

/-- The time to live of a key. -/
def Limit.ttl (limit : Limit) : Int := ⌈limit.capacity / limit.refillRate⌉

/-- The tokens an execution has to give. -/
def available (limit : Limit) (clock now : ℚ) (stored : Option Key) : ℚ :=
  refill limit now ((find clock stored).map (·.bucket))

section Execution

variable {limit : Limit}

theorem ceilDiv_of_pos {x y : ℚ} (hy : 0 < y) : ceilDiv x y = some ⌈x / y⌉ := if_neg hy.ne'

/-- The time to live is enough to fill the bucket. -/
theorem Limit.Positive.capacity_le (h : limit.Positive) :
    limit.capacity ≤ limit.ttl * limit.refillRate := by
  have hceil : limit.capacity / limit.refillRate ≤ (limit.ttl : ℚ) := Int.le_ceil _
  exact (div_le_iff₀ h.rate).mp hceil

theorem Limit.Positive.ttl_pos (h : limit.Positive) : 0 < limit.ttl := by
  have hcapacity : 0 < limit.capacity := lt_of_lt_of_le one_pos h.capacity
  exact Int.ceil_pos.mpr (div_pos hcapacity h.rate)

theorem tokenBucketLua_admits {clock now cost : ℚ} {stored : Option Key} (h : limit.Positive)
    (hcost : cost ≤ available limit clock now stored) :
    tokenBucketLua limit clock now cost stored =
      (some ⟨⟨available limit clock now stored - cost, now⟩, some (clock + limit.ttl)⟩,
        .ok ⟨true, available limit clock now stored - cost, some 0⟩) := by
  refine (if_pos hcost).trans ?_
  rw [ceilDiv_of_pos h.rate]
  show (expire clock limit.ttl _, _) = _
  unfold expire
  rw [if_neg (not_le.mpr h.ttl_pos)]
  rfl

theorem tokenBucketLua_denies {clock now cost : ℚ} {stored : Option Key} (h : limit.Positive)
    (hcost : ¬ cost ≤ available limit clock now stored) :
    tokenBucketLua limit clock now cost stored =
      (stored, .ok ⟨false, available limit clock now stored,
        some ⌈(cost - available limit clock now stored) / limit.refillRate⌉⟩) := by
  rw [← ceilDiv_of_pos h.rate]
  exact if_neg hcost

/-- All an execution can do: admit and write the bucket anew, or deny and write nothing. -/
theorem enforce_eq (h : limit.Positive) (clock now : ℚ) (stored : Option Key) :
    enforce limit clock now stored =
      if 1 ≤ available limit clock now stored then
        (some ⟨⟨available limit clock now stored - 1, now⟩, some (clock + limit.ttl)⟩, .ok ())
      else
        (stored, .error
          (tooManyRequests ⌈(1 - available limit clock now stored) / limit.refillRate⌉)) := by
  unfold enforce
  by_cases htoken : 1 ≤ available limit clock now stored
  · rw [if_pos htoken, tokenBucketLua_admits h htoken]
    rfl
  · rw [if_neg htoken, tokenBucketLua_denies h htoken]
    rfl

/-- Every limit the settings give holds at least one request. -/
theorem one_le_capacity (settings : RateLimitSettings) (scope : String) (quota : Int × Int) :
    1 ≤ (limitOf settings scope quota).capacity := by
  have hmax : ∀ n : Int, (1 : ℚ) ≤ ((max 1 n : Int) : ℚ) := by
    intro n
    exact_mod_cast le_max_left 1 n
  unfold limitOf
  split
  · exact hmax _
  · split
    · exact hmax _
    · exact hmax _

/-- A healthy limiter runs the script once, on the key the request counts against. -/
theorem check_eq_enforce {rt : Runtime} {settings : RateLimitSettings} {request : Request}
    {state : RequestState} (hpath : isExcluded request.path = false)
    (hon : settings.enableRateLimiting = true)
    (hrate : 0 < (resolve rt settings request state).2.refillRate) (clock now : ℚ)
    (store : String → Option Key) :
    check rt settings {} clock now request state store =
      (Function.update store (resolve rt settings request state).1
        (enforce (resolve rt settings request state).2 clock now
          (store (resolve rt settings request state).1)).1,
        (enforce (resolve rt settings request state).2 clock now
          (store (resolve rt settings request state).1)).2) := by
  have hlimited : ¬ (isExcluded request.path = true ∨ settings.enableRateLimiting = false) := by
    simp [hpath, hon]
  have hpos : (resolve rt settings request state).2.Positive := ⟨one_le_capacity .., hrate⟩
  unfold check
  rw [if_neg hlimited]
  simp only [Redis.execute, Call.run, enforce]
  by_cases htoken :
      1 ≤ available (resolve rt settings request state).2 clock now
        (store (resolve rt settings request state).1)
  · rw [tokenBucketLua_admits hpos htoken]
  · rw [tokenBucketLua_denies hpos htoken]

end Execution

/-! ### A run on one key -/

/-- An execution for a request: Redis' time, and the caller's. -/
structure Arrival where
  clock : ℚ
  now : ℚ
  deriving DecidableEq

/-- What is stored for the key, and the requests admitted so far. -/
structure Meter where
  stored : Option Key := none
  admitted : List Arrival := []

/-- The request gets through. -/
def passes (limit : Limit) (stored : Option Key) (arrival : Arrival) : Bool :=
  match (enforce limit arrival.clock arrival.now stored).2 with
  | .ok _ => true
  | .error _ => false

def Meter.serve (limit : Limit) (meter : Meter) (arrival : Arrival) : Meter where
  stored := (enforce limit arrival.clock arrival.now meter.stored).1
  admitted :=
    if passes limit meter.stored arrival then meter.admitted ++ [arrival] else meter.admitted

/-- The requests one after another, from a key that was never written. -/
def serveAll (limit : Limit) (arrivals : List Arrival) : Meter :=
  arrivals.foldl (Meter.serve limit) {}

/-- The answers, with something done to the key after each. -/
def answers (limit : Limit) (after : Option Key → Option Key) :
    Option Key → List Arrival → List (Except HttpException Unit)
  | _, [] => []
  | stored, arrival :: rest =>
      let outcome := enforce limit arrival.clock arrival.now stored
      outcome.2 :: answers limit after (after outcome.1) rest

/-- The key stays for ever. -/
def persist (stored : Option Key) : Option Key := stored.map fun key => { key with expireAt := none }

/-- A request whose time is Redis' own. -/
def Arrival.onTime (t : ℚ) : Arrival := ⟨t, t⟩

section Runs

variable {limit : Limit}

theorem serveAll_append (arrivals : List Arrival) (arrival : Arrival) :
    serveAll limit (arrivals ++ [arrival]) = (serveAll limit arrivals).serve limit arrival := by
  simp [serveAll]

theorem passes_eq (h : limit.Positive) (stored : Option Key) (arrival : Arrival) :
    passes limit stored arrival = decide (1 ≤ available limit arrival.clock arrival.now stored) := by
  unfold passes
  rw [enforce_eq h]
  by_cases htoken : 1 ≤ available limit arrival.clock arrival.now stored
  · rw [if_pos htoken]
    exact (decide_eq_true htoken).symm
  · rw [if_neg htoken]
    exact (decide_eq_false htoken).symm

/-- An admitted request is noted, and takes one token from what was there. -/
theorem Meter.serve_admits (h : limit.Positive) {meter : Meter} (arrival : Arrival)
    (htoken : 1 ≤ available limit arrival.clock arrival.now meter.stored) :
    meter.serve limit arrival =
      { stored := some
          ⟨⟨available limit arrival.clock arrival.now meter.stored - 1, arrival.now⟩,
            some (arrival.clock + limit.ttl)⟩
        admitted := meter.admitted ++ [arrival] } := by
  unfold Meter.serve
  rw [passes_eq h, enforce_eq h, if_pos htoken, decide_eq_true htoken]
  rfl

/-- A denied request changes nothing. -/
theorem Meter.serve_denies (h : limit.Positive) {meter : Meter} (arrival : Arrival)
    (hdeny : ¬ 1 ≤ available limit arrival.clock arrival.now meter.stored) :
    meter.serve limit arrival = meter := by
  unfold Meter.serve
  rw [passes_eq h, enforce_eq h, if_neg hdeny, decide_eq_false hdeny]
  rfl

/-- The admissions are only ever added to. -/
theorem admitted_grows (h : limit.Positive) (meter : Meter) (arrivals : List Arrival) :
    meter.admitted.length ≤ (arrivals.foldl (Meter.serve limit) meter).admitted.length := by
  induction arrivals generalizing meter with
  | nil => exact Nat.le_refl _
  | cons arrival rest ih =>
      refine Nat.le_trans ?_ (ih (meter.serve limit arrival))
      by_cases htoken : 1 ≤ available limit arrival.clock arrival.now meter.stored
      · rw [Meter.serve_admits h arrival htoken]
        simp
      · rw [Meter.serve_denies h arrival htoken]

/-- Requests none of which is admitted leave everything as it was. -/
theorem foldl_serve_of_none (h : limit.Positive) (meter : Meter) (arrivals : List Arrival)
    (hnone : (arrivals.foldl (Meter.serve limit) meter).admitted = meter.admitted) :
    arrivals.foldl (Meter.serve limit) meter = meter := by
  induction arrivals with
  | nil => rfl
  | cons arrival rest ih =>
      rw [List.foldl_cons] at hnone ⊢
      by_cases htoken : 1 ≤ available limit arrival.clock arrival.now meter.stored
      · exfalso
        have hgrown := admitted_grows h (meter.serve limit arrival) rest
        rw [hnone, Meter.serve_admits h arrival htoken] at hgrown
        simp at hgrown
      · rw [Meter.serve_denies h arrival htoken] at hnone ⊢
        exact ih hnone

end Runs

/-! ### One clock for everything -/

section OneClock

variable {limit : Limit}

/-- What the bucket of a key holds at a time, the key never expiring. -/
def held (limit : Limit) (t : ℚ) : Option Key → ℚ
  | none => limit.capacity
  | some key =>
      level limit.capacity limit.refillRate key.bucket.tokens (t - key.bucket.lastUpdated)

/-- The key was written by an admission no later than `t`, by the same clock. -/
structure Written (limit : Limit) (t : ℚ) (key : Key) : Prop where
  nonneg : 0 ≤ key.bucket.tokens
  le_capacity : key.bucket.tokens ≤ limit.capacity
  past : key.bucket.lastUpdated ≤ t
  expireAt : key.expireAt = some (key.bucket.lastUpdated + limit.ttl)

def Kept (limit : Limit) (t : ℚ) (stored : Option Key) : Prop :=
  ∀ key, stored = some key → Written limit t key

theorem Kept.later {t u : ℚ} {stored : Option Key} (h : Kept limit t stored) (hle : t ≤ u) :
    Kept limit u stored := by
  intro key hkey
  obtain ⟨hnonneg, hcapacity, hpast, hexpire⟩ := h key hkey
  exact ⟨hnonneg, hcapacity, le_trans hpast hle, hexpire⟩

/-- A key that expired was full, so its absence is not seen. -/
theorem Kept.available_eq (hpos : limit.Positive) {t : ℚ} {stored : Option Key}
    (h : Kept limit t stored) : available limit t t stored = held limit t stored := by
  cases stored with
  | none => rfl
  | some key =>
      obtain ⟨hnonneg, -, hpast, hexpire⟩ := h key rfl
      have hlevel : held limit t (some key) =
          level limit.capacity limit.refillRate key.bucket.tokens
            (t - key.bucket.lastUpdated) := rfl
      by_cases hlive : t < key.bucket.lastUpdated + limit.ttl
      · have hfind : find t (some key) = some key := by
          simp [find, Key.live, hexpire, hlive]
        unfold available
        rw [hfind, hlevel]
        show min _ (_ + max 0 (t - key.bucket.lastUpdated) * _) = _
        rw [max_eq_right (sub_nonneg.mpr hpast)]
        rfl
      · have hfind : find t (some key) = none := by
          simp [find, Key.live, hexpire, hlive]
        unfold available
        rw [hfind, hlevel, TokenBucket.level_of_full]
        · rfl
        · have hgone : (limit.ttl : ℚ) ≤ t - key.bucket.lastUpdated := by linarith [not_lt.mp hlive]
          have hfull : limit.capacity ≤ (t - key.bucket.lastUpdated) * limit.refillRate :=
            le_trans hpos.capacity_le (mul_le_mul_of_nonneg_right hgone hpos.rate.le)
          linarith

theorem held_le_capacity (limit : Limit) (t : ℚ) (stored : Option Key) :
    held limit t stored ≤ limit.capacity := by
  cases stored with
  | none => exact le_refl _
  | some key => exact TokenBucket.level_le_capacity

theorem Kept.held_nonneg (hpos : limit.Positive) {t : ℚ} {stored : Option Key}
    (h : Kept limit t stored) : 0 ≤ held limit t stored := by
  have hcapacity : 0 ≤ limit.capacity := le_trans zero_le_one hpos.capacity
  cases stored with
  | none => exact hcapacity
  | some key =>
      obtain ⟨hnonneg, -, hpast, -⟩ := h key rfl
      exact TokenBucket.level_nonneg hcapacity hpos.rate.le hnonneg (sub_nonneg.mpr hpast)

/-- What a bucket gains while it waits. -/
theorem held_gain (hpos : limit.Positive) {t u : ℚ} (hle : t ≤ u) (stored : Option Key) :
    held limit u stored ≤ held limit t stored + (u - t) * limit.refillRate := by
  have hgain : 0 ≤ (u - t) * limit.refillRate :=
    mul_nonneg (sub_nonneg.mpr hle) hpos.rate.le
  cases stored with
  | none =>
      show limit.capacity ≤ limit.capacity + _
      linarith
  | some key =>
      have hlater : t - key.bucket.lastUpdated ≤ u - key.bucket.lastUpdated := by linarith
      have h := TokenBucket.level_gain limit.capacity key.bucket.tokens hpos.rate.le hlater
      have hdiff : u - key.bucket.lastUpdated - (t - key.bucket.lastUpdated) = u - t := by ring
      rw [hdiff] at h
      exact h

/-- One request, of which the key is kept. -/
theorem Kept.serve (hpos : limit.Positive) {t u : ℚ} {meter : Meter}
    (h : Kept limit t meter.stored) (hle : t ≤ u) :
    Kept limit u (meter.serve limit (.onTime t)).stored := by
  by_cases htoken : 1 ≤ available limit t t meter.stored
  · rw [Meter.serve_admits hpos (.onTime t) htoken]
    intro key hkey
    cases hkey
    have hle' := held_le_capacity limit t meter.stored
    rw [← h.available_eq hpos] at hle'
    refine ⟨sub_nonneg.mpr htoken, ?_, hle, rfl⟩
    show available limit t t meter.stored - 1 ≤ limit.capacity
    linarith
  · rw [Meter.serve_denies hpos (.onTime t) htoken]
    exact h.later hle

/-- The run lemma: after the requests, and at any later time, the key is kept. -/
theorem kept_serveAll (hpos : limit.Positive) (times : List ℚ) :
    ∀ t, (times ++ [t]).Pairwise (· ≤ ·) →
      Kept limit t (serveAll limit (times.map .onTime)).stored := by
  induction times using List.reverseRecOn with
  | nil =>
      intro t _ key hkey
      cases hkey
  | append_singleton times u ih =>
      intro t hclock
      obtain ⟨hbefore, -, hcross⟩ := List.pairwise_append.mp hclock
      rw [List.map_append, List.map_singleton, serveAll_append]
      exact (ih u hbefore).serve hpos (hcross u (by simp) t (by simp))

/-- Times in order go on in order from the last of them. -/
theorem pairwise_extend {times : List ℚ} {u t : ℚ} (h : (times ++ [u]).Pairwise (· ≤ ·))
    (hut : u ≤ t) : (times ++ [u] ++ [t]).Pairwise (· ≤ ·) := by
  refine List.pairwise_append.mpr ⟨h, List.pairwise_singleton _ _, ?_⟩
  intro v hv w hw
  rw [List.mem_singleton.mp hw]
  rcases List.mem_append.mp hv with hold | hnew
  · exact le_trans ((List.pairwise_append.mp h).2.2 v hold u (by simp)) hut
  · exact le_trans (le_of_eq (List.mem_singleton.mp hnew)) hut

theorem exists_not_earlier {times : List ℚ} (h : times.Pairwise (· ≤ ·)) :
    ∃ t, (times ++ [t]).Pairwise (· ≤ ·) := by
  induction times using List.reverseRecOn with
  | nil => exact ⟨0, List.pairwise_singleton _ _⟩
  | append_singleton times u _ => exact ⟨u, pairwise_extend h le_rfl⟩

/-- The admissions within a window. -/
def admittedWithin (limit : Limit) (lo hi : ℚ) (arrivals : List Arrival) : List Arrival :=
  (serveAll limit arrivals).admitted.filter fun arrival => lo ≤ arrival.now ∧ arrival.now ≤ hi

theorem admitted_subset (hpos : limit.Positive) (arrivals : List Arrival) :
    ∀ arrival ∈ (serveAll limit arrivals).admitted, arrival ∈ arrivals := by
  induction arrivals using List.reverseRecOn with
  | nil =>
      intro arrival hmem
      cases hmem
  | append_singleton arrivals last ih =>
      intro arrival hmem
      rw [serveAll_append] at hmem
      by_cases htoken : 1 ≤ available limit last.clock last.now (serveAll limit arrivals).stored
      · rw [Meter.serve_admits hpos last htoken] at hmem
        rcases List.mem_append.mp hmem with hold | hnew
        · exact List.mem_append_left _ (ih arrival hold)
        · exact List.mem_append_right _ hnew
      · rw [Meter.serve_denies hpos last htoken] at hmem
        exact List.mem_append_left _ (ih arrival hmem)

/-- Nothing is admitted in a window that begins after the last request. -/
theorem admittedWithin_eq_nil (hpos : limit.Positive) {lo hi u : ℚ} (hu : u < lo) {times : List ℚ}
    (hclock : (times ++ [u]).Pairwise (· ≤ ·)) :
    admittedWithin limit lo hi ((times ++ [u]).map .onTime) = [] := by
  unfold admittedWithin
  rw [List.filter_eq_nil_iff]
  intro arrival hmem hinside
  obtain ⟨v, hv, rfl⟩ := List.mem_map.mp (admitted_subset hpos _ arrival hmem)
  have hvu : v ≤ u := by
    rcases List.mem_append.mp hv with hold | hnew
    · exact (List.pairwise_append.mp hclock).2.2 v hold u (by simp)
    · exact le_of_eq (List.mem_singleton.mp hnew)
  have hlov : lo ≤ v := (of_decide_eq_true hinside).1
  exact absurd (le_trans hlov hvu) (not_le.mpr hu)

/-- A request that is admitted takes from the bucket what it adds to the window. -/
theorem window_step (hpos : limit.Positive) (lo hi : ℚ) {times : List ℚ} {u : ℚ}
    (hclock : (times ++ [u]).Pairwise (· ≤ ·)) :
    ((admittedWithin limit lo hi ((times ++ [u]).map .onTime)).length : ℚ) +
        held limit u (serveAll limit ((times ++ [u]).map .onTime)).stored ≤
      (admittedWithin limit lo hi (times.map .onTime)).length +
        held limit u (serveAll limit (times.map .onTime)).stored := by
  have hkept := kept_serveAll hpos times u hclock
  unfold admittedWithin
  rw [List.map_append, List.map_singleton, serveAll_append]
  by_cases htoken : 1 ≤ available limit u u (serveAll limit (times.map .onTime)).stored
  · rw [Meter.serve_admits hpos (.onTime u) htoken, List.filter_append, List.length_append]
    have hone : (([Arrival.onTime u].filter fun arrival =>
        lo ≤ arrival.now ∧ arrival.now ≤ hi).length : ℚ) ≤ 1 := by
      exact_mod_cast List.length_filter_le _ _
    have htake : held limit u (some
        ⟨⟨available limit u u (serveAll limit (times.map .onTime)).stored - 1, u⟩,
          some (u + limit.ttl)⟩) ≤
        held limit u (serveAll limit (times.map .onTime)).stored - 1 := by
      rw [hkept.available_eq hpos]
      refine le_trans (TokenBucket.level_le_add ..) ?_
      show _ + (u - u) * _ ≤ _
      rw [sub_self, zero_mul, add_zero]
    push_cast
    simp only [Arrival.onTime] at hone htake ⊢
    linarith
  · rw [Meter.serve_denies hpos (.onTime u) htoken]

/--
The account of a window: what was admitted in it and what the bucket holds is covered by a
full bucket and the gain since the window began.
-/
theorem window_account (hpos : limit.Positive) (lo hi : ℚ) (times : List ℚ) :
    ∀ t, (times ++ [t]).Pairwise (· ≤ ·) → lo ≤ t →
      ((admittedWithin limit lo hi (times.map .onTime)).length : ℚ) +
          held limit t (serveAll limit (times.map .onTime)).stored ≤
        limit.capacity + (t - lo) * limit.refillRate := by
  induction times using List.reverseRecOn with
  | nil =>
      intro t _ hlo
      have hgain : 0 ≤ (t - lo) * limit.refillRate :=
        mul_nonneg (sub_nonneg.mpr hlo) hpos.rate.le
      show ((0 : Nat) : ℚ) + limit.capacity ≤ _
      push_cast
      linarith
  | append_singleton times u ih =>
      intro t hclock hlo
      obtain ⟨hbefore, -, hcross⟩ := List.pairwise_append.mp hclock
      have hut : u ≤ t := hcross u (by simp) t (by simp)
      by_cases hwindow : lo ≤ u
      · -- the account up to this request, the request, and the gain since
        have hold := ih u hbefore hwindow
        have hstep := window_step hpos lo hi hbefore
        have hgain := held_gain hpos hut (serveAll limit ((times ++ [u]).map .onTime)).stored
        linarith
      · rw [admittedWithin_eq_nil hpos (not_le.mp hwindow) hbefore]
        have hgain : 0 ≤ (t - lo) * limit.refillRate :=
          mul_nonneg (sub_nonneg.mpr hlo) hpos.rate.le
        have hle := held_le_capacity limit t
          (serveAll limit ((times ++ [u]).map .onTime)).stored
        show ((0 : Nat) : ℚ) + _ ≤ _
        push_cast
        linarith

/-- The window bound. -/
theorem admittedWithin_le (hpos : limit.Positive) {lo hi : ℚ} (hle : lo ≤ hi) (times : List ℚ)
    (hclock : times.Pairwise (· ≤ ·)) :
    ((admittedWithin limit lo hi (times.map .onTime)).length : ℚ) ≤
      limit.capacity + limit.refillRate * (hi - lo) := by
  induction times using List.reverseRecOn with
  | nil =>
      have hgain : 0 ≤ limit.refillRate * (hi - lo) :=
        mul_nonneg hpos.rate.le (sub_nonneg.mpr hle)
      have hcapacity := hpos.capacity
      show ((0 : Nat) : ℚ) ≤ _
      push_cast
      linarith
  | append_singleton times u ih =>
      by_cases hinside : u ≤ hi
      · -- the last request is not past the window, so the account can be taken at its end
        have hall := pairwise_extend hclock hinside
        have haccount := window_account hpos lo hi (times ++ [u]) hi hall hle
        have hnonneg := (kept_serveAll hpos (times ++ [u]) hi hall).held_nonneg hpos
        linarith
      · have hsame : admittedWithin limit lo hi ((times ++ [u]).map .onTime) =
            admittedWithin limit lo hi (times.map .onTime) := by
          unfold admittedWithin
          rw [List.map_append, List.map_singleton, serveAll_append]
          by_cases htoken :
              1 ≤ available limit u u (serveAll limit (times.map .onTime)).stored
          · rw [Meter.serve_admits hpos (.onTime u) htoken, List.filter_append]
            simp [Arrival.onTime, hinside]
          · rw [Meter.serve_denies hpos (.onTime u) htoken]
        rw [hsame]
        exact ih (List.pairwise_append.mp hclock).1

theorem Kept.persist_available (hpos : limit.Positive) {t : ℚ} {stored : Option Key}
    (h : Kept limit t stored) :
    available limit t t (persist stored) = available limit t t stored := by
  rw [h.available_eq hpos]
  cases stored with
  | none => rfl
  | some key =>
      obtain ⟨-, -, hpast, -⟩ := h key rfl
      show min _ (_ + max 0 (t - key.bucket.lastUpdated) * _) = _
      rw [max_eq_right (sub_nonneg.mpr hpast)]
      rfl

theorem persist_persist (stored : Option Key) : persist (persist stored) = persist stored := by
  cases stored <;> rfl

/-- Expiry is not seen: a key that stays for ever gives the same answers. -/
theorem answers_persist (hpos : limit.Positive) (times : List ℚ) :
    ∀ meter : Meter, times.Pairwise (· ≤ ·) → (∀ t ∈ times, Kept limit t meter.stored) →
      answers limit id meter.stored (times.map .onTime) =
        answers limit persist (persist meter.stored) (times.map .onTime) := by
  induction times with
  | nil =>
      intro meter _ _
      rfl
  | cons t rest ih =>
      intro meter hclock hkept
      have hstored := hkept t (by simp)
      have hsame : available limit t t (persist meter.stored) = available limit t t meter.stored :=
        hstored.persist_available hpos
      have hanswer : (enforce limit t t meter.stored).2 =
          (enforce limit t t (persist meter.stored)).2 := by
        rw [enforce_eq hpos, enforce_eq hpos, hsame]
        split
        · rfl
        · rfl
      have hkey : persist (enforce limit t t (persist meter.stored)).1 =
          persist (enforce limit t t meter.stored).1 := by
        rw [enforce_eq hpos, enforce_eq hpos, hsame]
        split
        · rfl
        · exact persist_persist _
      have hrest := ih (meter.serve limit (.onTime t)) (List.pairwise_cons.mp hclock).2
        fun u hu => hstored.serve hpos ((List.pairwise_cons.mp hclock).1 u hu)
      show _ :: _ = _ :: _
      congr 1
      show answers limit id (meter.serve limit (.onTime t)).stored _ = _
      rw [hrest]
      show answers limit persist (persist (enforce limit t t meter.stored).1) _ =
        answers limit persist (persist (enforce limit t t (persist meter.stored)).1) _
      rw [hkey]

/-- Who was told to wait and did is admitted, if nobody else was in between. -/
theorem retry_admitted (hpos : limit.Positive) {t later : ℚ} {r : Int} {stored : Option Key}
    (hkept : Kept limit t stored) (hdenied : ¬ 1 ≤ available limit t t stored)
    (hr : max 1 ⌈(1 - available limit t t stored) / limit.refillRate⌉ ≤ r)
    (hlater : t + r ≤ later) : 1 ≤ available limit later later stored := by
  have hrone : (1 : Int) ≤ r := le_trans (le_max_left _ _) hr
  have hrq : (1 : ℚ) ≤ r := by exact_mod_cast hrone
  have hle : t ≤ later := by linarith
  have hceil : (1 - held limit t stored) / limit.refillRate ≤ (r : ℚ) := by
    rw [← hkept.available_eq hpos]
    refine le_trans (Int.le_ceil _) ?_
    exact_mod_cast le_trans (le_max_right _ _) hr
  have hneeded : 1 - held limit t stored ≤ r * limit.refillRate :=
    (div_le_iff₀ hpos.rate).mp hceil
  rw [hkept.available_eq hpos, not_le] at hdenied
  rw [(hkept.later hle).available_eq hpos]
  cases stored with
  | none => exact absurd hpos.capacity (not_le.mpr hdenied)
  | some key =>
      have hwait : (r : ℚ) * limit.refillRate ≤ (later - t) * limit.refillRate := by
        refine mul_le_mul_of_nonneg_right ?_ hpos.rate.le
        linarith
      have henough := TokenBucket.cost_le_level hpos.capacity hdenied (le_trans hneeded hwait)
      have htime : t - key.bucket.lastUpdated + (later - t) = later - key.bucket.lastUpdated := by
        ring
      rw [htime] at henough
      exact henough

end OneClock

/--
**The token bucket conforms.**  With one clock that never goes back, whatever requests come
on a key: the stored tokens stay between nothing and the capacity; any interval sees at most
a full bucket and what it gains in that time; keeping the key for ever would give the same
answers; a denied request writes nothing; and who waits as long as it was told, with nobody
admitted in between, is admitted.
-/
theorem token_bucket_conforms (limit : Limit) (hcapacity : 1 ≤ limit.capacity)
    (hrate : 0 < limit.refillRate) (times : List ℚ) (hclock : times.Pairwise (· ≤ ·)) :
    (∀ key, (serveAll limit (times.map .onTime)).stored = some key →
      0 ≤ key.bucket.tokens ∧ key.bucket.tokens ≤ limit.capacity) ∧
    (∀ lo T : ℚ, 0 ≤ T →
      ((admittedWithin limit lo (lo + T) (times.map .onTime)).length : ℚ) ≤
        limit.capacity + limit.refillRate * T) ∧
    answers limit id none (times.map .onTime) = answers limit persist none (times.map .onTime) ∧
    (∀ now e, (enforce limit now now (serveAll limit (times.map .onTime)).stored).2 = .error e →
      (enforce limit now now (serveAll limit (times.map .onTime)).stored).1 =
        (serveAll limit (times.map .onTime)).stored) ∧
    (∀ now between later e r, (times ++ [now] ++ between ++ [later]).Pairwise (· ≤ ·) →
      (enforce limit now now (serveAll limit (times.map .onTime)).stored).2 = .error e →
      e.retryAfter = some r →
      (serveAll limit ((times ++ [now] ++ between).map .onTime)).admitted =
        (serveAll limit (times.map .onTime)).admitted →
      now + r ≤ later →
      passes limit (serveAll limit ((times ++ [now] ++ between).map .onTime)).stored
        (.onTime later) = true) := by
  have hpos : limit.Positive := ⟨hcapacity, hrate⟩
  refine ⟨?_, ?_, ?_, ?_, ?_⟩
  · intro key hkey
    obtain ⟨t, hall⟩ := exists_not_earlier hclock
    have hwritten := kept_serveAll hpos times t hall key hkey
    exact ⟨hwritten.nonneg, hwritten.le_capacity⟩
  · intro lo T hT
    have hle : lo ≤ lo + T := le_add_of_nonneg_right hT
    have hbound := admittedWithin_le hpos hle times hclock
    rwa [add_sub_cancel_left] at hbound
  · exact answers_persist hpos times {} hclock (by intro t _ key hkey; cases hkey)
  · intro now e he
    rw [enforce_eq hpos] at he ⊢
    split at he
    · cases he
    · rename_i hdeny
      rw [if_neg hdeny]
  · intro now between later e r hall he hr hnone hlater
    have hbefore : (times ++ [now]).Pairwise (· ≤ ·) := by
      rw [List.append_assoc] at hall
      exact (List.pairwise_append.mp hall).1
    have hkept := kept_serveAll hpos times now hbefore
    have hsame : serveAll limit ((times ++ [now] ++ between).map .onTime) =
        serveAll limit (times.map .onTime) := by
      unfold serveAll at hnone ⊢
      rw [List.append_assoc, List.map_append, List.foldl_append] at hnone ⊢
      exact foldl_serve_of_none hpos _ _ hnone
    rw [enforce_eq hpos] at he
    split at he
    · cases he
    · rename_i hdeny
      cases he
      cases hr
      rw [hsame, passes_eq hpos]
      exact decide_eq_true (retry_admitted hpos hkept hdeny le_rfl hlater)

/-- Two tokens and one a second: of three requests at once, the third has to wait a second. -/
theorem token_bucket_third_waits :
    passes ⟨2, 1⟩ (serveAll ⟨2, 1⟩ (([10, 10] ++ [10] ++ [] : List ℚ).map .onTime)).stored
      (.onTime 11) = true := by
  refine (token_bucket_conforms ⟨2, 1⟩ (by decide) (by decide) [10, 10] (by simp)).2.2.2.2
    10 [] 11 (tooManyRequests 1) 1 (by norm_num) ?_ rfl ?_ (by norm_num)
  · decide +kernel
  · decide +kernel

/-! ### A clock for every caller -/

section Replicas

variable {limit : Limit}

/--
What an execution has to find for the account to go on: a time older than the stored one no
token to take, and a key that is gone by Redis' clock a full bucket by the caller's.
-/
def InStep (limit : Limit) (meter : Meter) (arrival : Arrival) : Prop :=
  ∀ key, meter.stored = some key →
    (key.live arrival.clock = true → arrival.now < key.bucket.lastUpdated →
      key.bucket.tokens < 1) ∧
    (key.live arrival.clock = false →
      limit.capacity ≤
        key.bucket.tokens + (arrival.now - key.bucket.lastUpdated) * limit.refillRate)

/-- The admissions and the stored tokens are covered by a full bucket and the gain from `a`
up to the stored time. -/
structure Covered (limit : Limit) (a b : ℚ) (admitted : Nat) (bucket : Bucket) : Prop where
  nonneg : 0 ≤ bucket.tokens
  past : bucket.lastUpdated ≤ b
  account : (admitted : ℚ) + bucket.tokens ≤
    limit.capacity + (bucket.lastUpdated - a) * limit.refillRate

/-- What a run in step keeps, between the times `a` and `b`. -/
structure Paid (limit : Limit) (a b : ℚ) (meter : Meter) : Prop where
  unused : meter.stored = none → meter.admitted = []
  covered : ∀ key, meter.stored = some key → Covered limit a b meter.admitted.length key.bucket

theorem paid_start (a b : ℚ) : Paid limit a b {} where
  unused _ := rfl
  covered := by
    intro key hkey
    cases hkey

/-- What an execution in step finds is covered. -/
theorem Paid.available_le (hpos : limit.Positive) {a b : ℚ} {meter : Meter} {arrival : Arrival}
    (h : Paid limit a b meter) (hstep : InStep limit meter arrival) (ha : a ≤ arrival.now)
    (htoken : 1 ≤ available limit arrival.clock arrival.now meter.stored) :
    (meter.admitted.length : ℚ) + available limit arrival.clock arrival.now meter.stored ≤
      limit.capacity + (arrival.now - a) * limit.refillRate := by
  have hgain : 0 ≤ (arrival.now - a) * limit.refillRate :=
    mul_nonneg (sub_nonneg.mpr ha) hpos.rate.le
  cases hstored : meter.stored with
  | none =>
      rw [h.unused hstored]
      show ((0 : Nat) : ℚ) + limit.capacity ≤ _
      push_cast
      linarith
  | some key =>
      have haccount := (h.covered key hstored).account
      obtain ⟨hold, hgone⟩ := hstep key hstored
      rw [hstored] at htoken
      by_cases hlive : key.live arrival.clock = true
      · have havailable : available limit arrival.clock arrival.now (some key) =
            level limit.capacity limit.refillRate key.bucket.tokens
              (max 0 (arrival.now - key.bucket.lastUpdated)) := by
          unfold available
          rw [show find arrival.clock (some key) = some key from by simp [find, hlive]]
          rfl
        rw [havailable] at htoken ⊢
        have hle := TokenBucket.level_le_add limit.capacity limit.refillRate key.bucket.tokens
          (max 0 (arrival.now - key.bucket.lastUpdated))
        by_cases hback : arrival.now < key.bucket.lastUpdated
        · -- an older time credits nothing, and there is no token to take
          have hshort := hold hlive hback
          rw [max_eq_left (by linarith)] at hle htoken
          linarith
        · rw [max_eq_right (sub_nonneg.mpr (not_lt.mp hback))] at hle ⊢
          linarith
      · have hfull := hgone (by simpa using hlive)
        have havailable : available limit arrival.clock arrival.now (some key) =
            limit.capacity := by
          unfold available
          rw [show find arrival.clock (some key) = none from by simp [find, hlive]]
          rfl
        rw [havailable]
        linarith

/-- The step lemma. -/
theorem Paid.serve (hpos : limit.Positive) {a b : ℚ} {meter : Meter} {arrival : Arrival}
    (h : Paid limit a b meter) (hstep : InStep limit meter arrival) (ha : a ≤ arrival.now)
    (hb : arrival.now ≤ b) : Paid limit a b (meter.serve limit arrival) := by
  by_cases htoken : 1 ≤ available limit arrival.clock arrival.now meter.stored
  · have hcovered := h.available_le hpos hstep ha htoken
    rw [Meter.serve_admits hpos arrival htoken]
    refine ⟨by simp, ?_⟩
    intro key hkey
    cases hkey
    refine ⟨sub_nonneg.mpr htoken, hb, ?_⟩
    simp only [List.length_append, List.length_singleton]
    push_cast
    linarith
  · rw [Meter.serve_denies hpos arrival htoken]
    exact h

/-- The run lemma. -/
theorem paid_of_reaches (hpos : limit.Positive) {a b : ℚ} {arrivals : List Arrival}
    {meter : Meter}
    (hrun : Reaches (fun meter arrival => some (meter.serve limit arrival)) (InStep limit) {}
      arrivals meter)
    (hwithin : ∀ arrival ∈ arrivals, a ≤ arrival.now ∧ arrival.now ≤ b) :
    Paid limit a b meter := by
  induction hrun with
  | start => exact paid_start a b
  | next arrival run ok hstep ih =>
      cases hstep
      obtain ⟨ha, hb⟩ := hwithin arrival (by simp)
      exact (ih fun earlier hmem => hwithin earlier (List.mem_append_left _ hmem)).serve hpos ok ha hb

end Replicas

/--
**Callers with clocks of their own.**  Whatever their times between `a` and `b`, as long as
every execution is in step the key admits at most a full bucket and the gain from `a` to `b`.
-/
theorem replicas_admit_at_most (limit : Limit) (hcapacity : 1 ≤ limit.capacity)
    (hrate : 0 < limit.refillRate) (a b : ℚ) (hab : a ≤ b) (arrivals : List Arrival)
    (hwithin : ∀ arrival ∈ arrivals, a ≤ arrival.now ∧ arrival.now ≤ b) (meter : Meter)
    (hrun : Reaches (fun meter arrival => some (meter.serve limit arrival)) (InStep limit) {}
      arrivals meter) :
    (meter.admitted.length : ℚ) ≤ limit.capacity + limit.refillRate * (b - a) := by
  have hpaid := paid_of_reaches ⟨hcapacity, hrate⟩ hrun hwithin
  have hgain : 0 ≤ limit.refillRate * (b - a) := mul_nonneg hrate.le (sub_nonneg.mpr hab)
  cases hstored : meter.stored with
  | none =>
      rw [hpaid.unused hstored]
      show ((0 : Nat) : ℚ) ≤ _
      push_cast
      linarith
  | some key =>
      obtain ⟨hnonneg, hpast, haccount⟩ := hpaid.covered key hstored
      have hlast : (key.bucket.lastUpdated - a) * limit.refillRate ≤ limit.refillRate * (b - a) := by
        rw [mul_comm limit.refillRate]
        refine mul_le_mul_of_nonneg_right ?_ hrate.le
        linarith
      linarith

/-- A replica a second behind that finds no token is in step. -/
theorem replicas_one_behind :
    ((serveAll ⟨1, 1⟩ [⟨50, 10⟩, ⟨50, 9⟩]).admitted.length : ℚ) ≤ 1 + 1 * (10 - 9) := by
  refine replicas_admit_at_most ⟨1, 1⟩ (by decide) (by decide) 9 10 (by decide)
    [⟨50, 10⟩, ⟨50, 9⟩] (by decide) _ ?_
  refine @Reaches.next Meter Arrival _ _ _ [⟨50, 10⟩] (serveAll ⟨1, 1⟩ [⟨50, 10⟩]) _ ⟨50, 9⟩
    ?_ ?_ rfl
  · refine @Reaches.next Meter Arrival _ _ _ [] {} _ ⟨50, 10⟩ .start ?_ rfl
    intro key hkey
    cases hkey
  · intro key hkey
    have hkey' : key = ⟨⟨0, 10⟩, some 51⟩ := by
      have hstored : (serveAll ⟨1, 1⟩ [⟨50, 10⟩]).stored = some ⟨⟨0, 10⟩, some 51⟩ := by
        decide +kernel
      rw [hstored] at hkey
      cases hkey
      rfl
    subst hkey'
    decide +kernel

/--
Two replicas two seconds apart, taking turns within one second of Redis' clock: each time
the slow one sets the stored time back, the fast one is credited the two seconds again.
-/
theorem replicas_alternating_exceed :
    let arrivals : List Arrival := [⟨50, 2⟩, ⟨50, 0⟩, ⟨50, 2⟩, ⟨50, 0⟩, ⟨50, 2⟩]
    (∀ arrival ∈ arrivals, (0 : ℚ) ≤ arrival.now ∧ arrival.now ≤ 2) ∧
      ¬ ((serveAll ⟨2, 1⟩ arrivals).admitted.length : ℚ) ≤ 2 + 1 * (2 - 0) := by
  have hall : (serveAll ⟨2, 1⟩ [⟨50, 2⟩, ⟨50, 0⟩, ⟨50, 2⟩, ⟨50, 0⟩, ⟨50, 2⟩]).admitted.length = 5 := by
    decide +kernel
  refine ⟨by decide, ?_⟩
  show ¬ ((serveAll ⟨2, 1⟩ [⟨50, 2⟩, ⟨50, 0⟩, ⟨50, 2⟩, ⟨50, 0⟩, ⟨50, 2⟩]).admitted.length : ℚ) ≤ _
  rw [hall]
  norm_num

end RateLimiter

end GaiaOS
