/-
When the limiter limits, on the numbers it computes with.

The capacity is at least one whatever the settings are, the refill rate is not, and the script
divides by it in two places.  The limit is kept where both quotients can be read (`Limit.Holds`):
the time to live by `EXPIRE`, and the seconds to wait by Python.  Then what is in the bucket and
what was let through at an instant make no more than the capacity (`Account`).  That takes the
tokens to be countable as well: a bucket of more than 2^53 + 2 is as full after a request as it
was before.

Everywhere else a request can be repeated at one instant as often as one likes
(`burst_replicate`), or the very first one passes because the limiter failed.
-/
import GaiaOS.Gateway.NumericLimiter
import GaiaOS.Lib.Text
import Mathlib.Order.Fin.Basic

namespace GaiaOS

namespace NumericLimiter

open RateLimiter (RateLimitSettings Redis Call isExcluded extractIdentityAndRole resolveScope
  getQuotaForRole rateLimitKey tooManyRequests)

/-! ### One execution -/

/-- The time to live of a key. -/
def Limit.ttl (limit : Limit) : PyFloat :=
  ((PyFloat.ofRat limit.capacity).div (.finite limit.refillRate)).ceil

/-- The tokens an execution has to give. -/
def Limit.available (limit : Limit) (instant : Instant) (stored : Option Key) : PyFloat :=
  refill (.ofRat limit.capacity) (.finite limit.refillRate) (.finite instant.now)
    ((find instant.clock stored).map (·.bucket))

/-- The seconds to wait for the token that is missing. -/
def Limit.wait (limit : Limit) (tokens : PyFloat) : PyFloat :=
  (((PyFloat.finite 1).sub tokens).div (.finite limit.refillRate)).ceil

/-- The key an admission writes. -/
def Limit.written (limit : Limit) (instant : Instant) (stored : Option Key) : Key :=
  ⟨⟨(limit.available instant stored).sub (.finite 1), .finite instant.now⟩,
    (find instant.clock stored).bind (·.expireAt)⟩

/-- The settings' limits hold at least one request, and their rate is a float. -/
structure Limit.Given (limit : Limit) : Prop where
  capacity : 1 ≤ limit.capacity
  rate : limit.refillRate ≤ 2 ^ 1024

section Execution

variable {limit : Limit} {instant : Instant} {stored : Option Key}

/-- The script as `check` calls it. -/
def Limit.script (limit : Limit) (instant : Instant) (stored : Option Key) :
    Option Key × Except PyError Reply :=
  tokenBucketLua (.ofRat limit.capacity) (.finite limit.refillRate) instant.clock
    (.finite instant.now) (.finite 1) stored

theorem Limit.script_admits {gone : Int}
    (htoken : (PyFloat.finite 1).le (limit.available instant stored) = true)
    (hgone : expireTime instant.clock limit.ttl = .ok gone) :
    limit.script instant stored =
      ((limit.written instant stored).expire instant.clock gone,
        .ok ⟨true, (limit.available instant stored).sub (.finite 1), .finite 0⟩) := by
  have hexpire : expireTime instant.clock
      ((PyFloat.ofRat limit.capacity).div (.finite limit.refillRate)).ceil = .ok gone := hgone
  refine (if_pos htoken).trans ?_
  simp only [hexpire]
  rfl

/-- The hash is written before `EXPIRE` fails. -/
theorem Limit.script_fails {e : PyError}
    (htoken : (PyFloat.finite 1).le (limit.available instant stored) = true)
    (he : expireTime instant.clock limit.ttl = .error e) :
    limit.script instant stored = (some (limit.written instant stored), .error e) := by
  have hexpire : expireTime instant.clock
      ((PyFloat.ofRat limit.capacity).div (.finite limit.refillRate)).ceil = .error e := he
  refine (if_pos htoken).trans ?_
  simp only [hexpire]
  rfl

theorem Limit.script_denies
    (htoken : ¬ (PyFloat.finite 1).le (limit.available instant stored) = true) :
    limit.script instant stored =
      (stored, .ok ⟨false, limit.available instant stored,
        limit.wait (limit.available instant stored)⟩) := if_neg htoken

/-- A reply is what `check` judges. -/
theorem enforce_of_ok {after : Option Key} {reply : Reply}
    (hdigits : limit.capacity < 10 ^ intMaxStrDigits)
    (hrun : limit.script instant stored = (after, .ok reply)) :
    enforce {} limit instant stored = (after, verdict (.ok reply)) := by
  have hexecute : execute {} (limit.script instant) stored = (after, .ok reply) := by
    unfold execute runCall
    simp only [hrun]
  refine (if_neg (not_le.mpr hdigits)).trans ?_
  show ((execute {} (limit.script instant) stored).1,
    verdict (execute {} (limit.script instant) stored).2) = _
  rw [hexecute]

/-- If it raised the script runs once more, on what the first run left. -/
theorem enforce_of_error {after : Option Key} {e : PyError}
    (hdigits : limit.capacity < 10 ^ intMaxStrDigits)
    (hrun : limit.script instant stored = (after, .error e)) :
    enforce {} limit instant stored =
      ((limit.script instant after).1, verdict (limit.script instant after).2) := by
  have hexecute : execute {} (limit.script instant) stored = limit.script instant after := by
    unfold execute runCall
    simp only [hrun]
  refine (if_neg (not_le.mpr hdigits)).trans ?_
  show ((execute {} (limit.script instant) stored).1,
    verdict (execute {} (limit.script instant) stored).2) = _
  rw [hexecute]

theorem enforce_admits {gone : Int} (hdigits : limit.capacity < 10 ^ intMaxStrDigits)
    (htoken : (PyFloat.finite 1).le (limit.available instant stored) = true)
    (hgone : expireTime instant.clock limit.ttl = .ok gone) :
    enforce {} limit instant stored =
      ((limit.written instant stored).expire instant.clock gone, .allowed) := by
  rw [enforce_of_ok hdigits (Limit.script_admits htoken hgone)]
  have hread : (PyFloat.finite 0).asInteger (10 ^ 14 - 1) = some 0 := by decide +kernel
  simp only [verdict, hread, if_true]

theorem enforce_denies {seconds : Int} (hdigits : limit.capacity < 10 ^ intMaxStrDigits)
    (htoken : ¬ (PyFloat.finite 1).le (limit.available instant stored) = true)
    (hread : (limit.wait (limit.available instant stored)).asInteger (10 ^ 14 - 1) =
      some seconds) :
    enforce {} limit instant stored = (stored, .denied (tooManyRequests seconds)) := by
  rw [enforce_of_ok hdigits (Limit.script_denies htoken)]
  simp only [verdict, hread]
  rfl

/-- A denial that Python cannot read. -/
theorem enforce_unread (hdigits : limit.capacity < 10 ^ intMaxStrDigits)
    (htoken : ¬ (PyFloat.finite 1).le (limit.available instant stored) = true)
    (hread : (limit.wait (limit.available instant stored)).asInteger (10 ^ 14 - 1) = none) :
    enforce {} limit instant stored =
      (stored, .failOpen (.valueError "invalid literal for int() with base 10")) := by
  rw [enforce_of_ok hdigits (Limit.script_denies htoken)]
  simp only [verdict, hread]

end Execution

/-! ### The tokens of an execution -/

section Tokens

variable {limit : Limit} {instant : Instant}

theorem find_live {clock : Int} {bucket : Bucket} {expireAt : Option Int}
    (hlive : ∀ gone, expireAt = some gone → clock ≤ gone) :
    find clock (some ⟨bucket, expireAt⟩) = some ⟨bucket, expireAt⟩ := by
  cases expireAt with
  | none => rfl
  | some gone => exact if_pos (decide_eq_true (hlive gone rfl))

theorem find_dead {clock gone : Int} {bucket : Bucket} (hdead : ¬ clock ≤ gone) :
    find clock (some ⟨bucket, some gone⟩) = none := if_neg (by simpa [Key.live] using hdead)

/-- At the instant of the last write nothing is refilled. -/
theorem Limit.available_same {tokens : PyFloat} {expireAt : Option Int}
    (hlive : ∀ gone, expireAt = some gone → instant.clock ≤ gone) :
    limit.available instant (some ⟨⟨tokens, .finite instant.now⟩, expireAt⟩) =
      (PyFloat.ofRat limit.capacity).min (tokens.add (.finite 0)) := by
  have hnone : (PyFloat.finite instant.now).sub (.finite instant.now) = .finite 0 := by
    show PyFloat.ofRat (instant.now + -instant.now) = _
    rw [add_neg_cancel, PyFloat.ofRat_zero]
  have hgain : (PyFloat.finite 0).mul (.finite limit.refillRate) = .finite 0 := by
    show PyFloat.ofRat (0 * limit.refillRate) = _
    rw [zero_mul, PyFloat.ofRat_zero]
  have hmax : (PyFloat.finite 0).max (.finite 0) = .finite 0 := if_neg (by decide)
  unfold Limit.available
  rw [find_live hlive]
  show (PyFloat.ofRat limit.capacity).min (tokens.add (((PyFloat.finite 0).max
    ((PyFloat.finite instant.now).sub (.finite instant.now))).mul (.finite limit.refillRate))) = _
  rw [hnone, hmax, hgain]

/-- The capacity, where it can be counted. -/
theorem Limit.Given.float (h : limit.Given) (hexact : limit.capacity ≤ 2 ^ 53 + 2) :
    ∃ c : ℚ, PyFloat.ofRat limit.capacity = .finite c ∧ 1 ≤ c ∧ c ≤ limit.capacity := by
  have hone := h.capacity
  obtain ⟨n, hn⟩ := Int.eq_ofNat_of_zero_le (a := limit.capacity) (by omega)
  have hcount : n ≤ 2 ^ 53 + 2 := by omega
  have hpos : (1 : ℚ) ≤ n := by exact_mod_cast (show 1 ≤ n by omega)
  rw [hn, Int.cast_natCast]
  refine ⟨double n, ?_, ?_, double_le_natCast (by linarith) (le_refl _) hcount⟩
  · exact PyFloat.ofRat_le_natCast (by linarith) (le_refl _) hcount
  · calc (1 : ℚ) = double 1 := double_one.symm
      _ ≤ double n := double_mono zero_le_one hpos

end Tokens

/-! ### Limits that are kept -/

/-- The rate is positive, the tokens can be counted, and the two times the script works out can be
read: Python reads the seconds to wait for one token, Redis the time it takes to fill a bucket. -/
structure Limit.Holds (limit : Limit) (horizon : Instant) : Prop where
  positive : 0 < limit.refillRate
  exact : limit.capacity ≤ 2 ^ 53 + 2
  awaited : ⌈double (1 / limit.refillRate)⌉ < 10 ^ 14
  filled : ⌈double (double limit.capacity / limit.refillRate)⌉ * 1000 ≤
    longLongMax - horizon.clock

section Holds

variable {limit : Limit} {instant horizon : Instant}

theorem clock_nonneg (instant : Instant) : 0 ≤ instant.clock := by
  unfold Instant.clock
  omega

theorem clock_mono (h : instant ≤ horizon) : instant.clock ≤ horizon.clock := by
  have hval : instant.val ≤ horizon.val := h
  unfold Instant.clock
  omega

/-- A whole number below a bound is read as what it is. -/
theorem asInteger_ceil {bound : Int} {x : ℚ} (hx : 0 ≤ x) (h : ⌈x⌉ ≤ bound) :
    (PyFloat.finite x).ceil.asInteger bound = some ⌈x⌉ := by
  refine PyFloat.asInteger_intCast ?_
  have hceil : (0 : ℚ) ≤ ⌈x⌉ := by exact_mod_cast Int.ceil_nonneg hx
  rw [abs_of_nonneg hceil]
  exact_mod_cast h

/-- The quotient of two numbers that is not too large. -/
theorem div_of_ceil_le {x y : ℚ} {bound : Int} (hx : 0 ≤ x) (hy : 0 < y)
    (h : ⌈double (x / y)⌉ ≤ bound) (hbound : bound ≤ 2 ^ 63) :
    (PyFloat.finite x).div (.finite y) = .finite (double (x / y)) := by
  refine (if_neg hy.ne').trans ?_
  refine PyFloat.ofRat_of_le (div_nonneg hx hy.le) ((Int.le_ceil _).trans ?_) ?_ (b := 2 ^ 63)
  · exact_mod_cast h.trans hbound
  · exact pow_lt_pow_right₀ one_lt_two (by omega)

/-- `EXPIRE` sets the time to live, and it is not over. -/
theorem Limit.Holds.expires (hgiven : limit.Given) (h : limit.Holds horizon)
    (hle : instant ≤ horizon) :
    ∃ gone, expireTime instant.clock limit.ttl = .ok gone ∧ instant.clock < gone := by
  have hclock := clock_nonneg instant
  have hlater := clock_mono hle
  have hfilled := h.filled
  unfold longLongMax at hfilled
  obtain ⟨c, hc, hone, -⟩ := hgiven.float h.exact
  have hcap : c = double limit.capacity := (PyFloat.ofRat_eq_finite hc).1
  rw [← hcap] at hfilled
  have hseconds : ⌈double (c / limit.refillRate)⌉ ≤ 2 ^ 62 := by omega
  have hpos : 0 < double (c / limit.refillRate) := by
    refine double_pos (k := -1024) (by omega) ?_
    have hunit : (0 : ℚ) ≤ (2 ^ (1024 : ℤ))⁻¹ := inv_nonneg.mpr (zpow_nonneg zero_le_two _)
    rw [le_div_iff₀ h.positive, zpow_neg]
    calc ((2 : ℚ) ^ (1024 : ℤ))⁻¹ * limit.refillRate ≤ (2 ^ (1024 : ℤ))⁻¹ * 2 ^ (1024 : ℤ) :=
          mul_le_mul_of_nonneg_left (by exact_mod_cast hgiven.rate) hunit
      _ = 1 := inv_mul_cancel₀ (zpow_ne_zero _ two_ne_zero)
      _ ≤ c := hone
  have hceil : 0 < ⌈double (c / limit.refillRate)⌉ := Int.ceil_pos.mpr hpos
  have hread : limit.ttl.asInteger (2 ^ 62) = some ⌈double (c / limit.refillRate)⌉ := by
    unfold Limit.ttl
    rw [hc, div_of_ceil_le (by linarith) h.positive hseconds (by norm_num)]
    exact_mod_cast asInteger_ceil hpos.le hseconds
  refine ⟨instant.clock + ⌈double (c / limit.refillRate)⌉ * 1000, ?_, by omega⟩
  unfold expireTime
  simp only [hread]
  refine if_neg ?_
  unfold longLongMax
  omega

/-- Python reads the seconds to wait. -/
theorem Limit.Holds.readable (h : limit.Holds horizon) {y : ℚ} (hy : 0 ≤ y) (hlt : y < 1) :
    ∃ seconds, (limit.wait (.finite y)).asInteger (10 ^ 14 - 1) = some seconds := by
  have hshort : (0 : ℚ) ≤ 1 + -y := by linarith
  have hsub : (PyFloat.finite 1).sub (.finite y) = .finite (double (1 + -y)) :=
    PyFloat.ofRat_le_natCast (n := 1) hshort (by rw [Nat.cast_one]; linarith) (by norm_num)
  have hneeded : 0 ≤ double (1 + -y) := double_nonneg hshort
  have hatMost : double (1 + -y) ≤ 1 := by
    have h := double_mono hshort (show 1 + -y ≤ 1 by linarith)
    rwa [double_one] at h
  have hquotient : 0 ≤ double (1 + -y) / limit.refillRate := div_nonneg hneeded h.positive.le
  have hseconds : ⌈double (double (1 + -y) / limit.refillRate)⌉ ≤ 10 ^ 14 - 1 := by
    have hmono : double (double (1 + -y) / limit.refillRate) ≤ double (1 / limit.refillRate) :=
      double_mono hquotient (div_le_div_of_nonneg_right hatMost h.positive.le)
    have hawaited := h.awaited
    have hceil := Int.ceil_mono hmono
    omega
  refine ⟨⌈double (double (1 + -y) / limit.refillRate)⌉, ?_⟩
  unfold Limit.wait
  rw [hsub, div_of_ceil_le hneeded h.positive hseconds (by norm_num)]
  exact_mod_cast asInteger_ceil (double_nonneg hquotient) hseconds

end Holds

/-! ### The account of a key -/

/-- What a key says when `k` requests were let through at an instant. -/
inductive Account (limit : Limit) (instant : Instant) : Option Key → Nat → Prop
  | unused : Account limit instant none 0
  | held {x l : ℚ} {gone : Int} {k : Nat} (nonneg : 0 ≤ x) (room : x + k ≤ limit.capacity)
      (current : 0 < k → l = instant.now ∧ instant.clock ≤ gone) :
      Account limit instant (some ⟨⟨.finite x, .finite l⟩, some gone⟩) k

section Account

variable {limit : Limit} {instant later horizon : Instant} {stored : Option Key} {k : Nat}

theorem Account.le_capacity (hgiven : limit.Given) (h : Account limit instant stored k) :
    (k : Int) ≤ limit.capacity := by
  cases h with
  | unused =>
      have hone := hgiven.capacity
      omega
  | @held x l gone k nonneg room current =>
      have hroom : (k : ℚ) ≤ limit.capacity := by linarith
      exact_mod_cast hroom

/-- At another instant nothing was let through yet. -/
theorem Account.fresh (h : Account limit instant stored k) : Account limit later stored 0 := by
  cases h with
  | unused => exact .unused
  | @held x l gone k nonneg room current =>
      have hk : (0 : ℚ) ≤ k := Nat.cast_nonneg k
      refine .held nonneg ?_ fun hpos => absurd hpos (Nat.lt_irrefl 0)
      rw [Nat.cast_zero]
      linarith

/-- The tokens there are, and what was let through, are no more than the capacity. -/
theorem Account.available (hgiven : limit.Given) (hexact : limit.capacity ≤ 2 ^ 53 + 2)
    (hrate : 0 < limit.refillRate) (h : Account limit instant stored k) :
    ∃ y, limit.available instant stored = .finite y ∧ 0 ≤ y ∧ y + k ≤ limit.capacity := by
  obtain ⟨c, hc, hone, hcap⟩ := hgiven.float hexact
  cases h with
  | unused => exact ⟨c, hc, by linarith, by rw [Nat.cast_zero]; linarith⟩
  | @held x l gone k nonneg room current =>
      rcases Nat.eq_zero_or_pos k with rfl | hk
      · -- whatever was refilled, no more than the capacity is there
        rw [Nat.cast_zero]
        by_cases hlive : instant.clock ≤ gone
        · have hrefilled : (PyFloat.finite 0).le
              ((PyFloat.finite x).add (((PyFloat.finite 0).max
                ((PyFloat.finite instant.now).sub (.finite l))).mul (.finite limit.refillRate))) =
              true :=
            PyFloat.zero_le_add nonneg (PyFloat.zero_le_mul (PyFloat.zero_le_max _) hrate)
          obtain ⟨y, hy, hnonneg, hle⟩ := PyFloat.finite_min (c := c) (by linarith) hrefilled
          refine ⟨y, ?_, hnonneg, by linarith⟩
          unfold Limit.available
          rw [find_live (by intro gone' heq; cases heq; exact hlive), hc]
          exact hy
        · refine ⟨c, ?_, by linarith, by linarith⟩
          unfold Limit.available
          rw [find_dead hlive, hc]
          rfl
      · -- it is the instant of the last write
        obtain ⟨rfl, hlive⟩ := current hk
        obtain ⟨m, hm⟩ := Int.eq_ofNat_of_zero_le
          (show 0 ≤ limit.capacity - k by
            have hroom : (k : ℚ) ≤ limit.capacity := by linarith
            have hroom' : (k : Int) ≤ limit.capacity := by exact_mod_cast hroom
            omega)
        have hroom : x ≤ m := by
          have hm' : (limit.capacity : ℚ) - k = m := by exact_mod_cast hm
          linarith
        have hsame : (PyFloat.finite x).add (.finite 0) = .finite (double x) := by
          show PyFloat.ofRat (x + 0) = _
          rw [add_zero]
          exact PyFloat.ofRat_le_natCast nonneg hroom (by omega)
        have hdouble : double x ≤ m := double_le_natCast nonneg hroom (by omega)
        refine ⟨min c (double x), ?_, le_min (by linarith) (double_nonneg nonneg), ?_⟩
        · rw [Limit.available_same (by intro gone' heq; cases heq; exact hlive), hc, hsame]
          exact PyFloat.min_finite c (double x)
        · have hm' : (limit.capacity : ℚ) - k = m := by exact_mod_cast hm
          linarith [min_le_right c (double x)]

/-- **One request.**  It is admitted and counted, or denied. -/
theorem Account.enforce (hgiven : limit.Given) (hholds : limit.Holds horizon)
    (hle : instant ≤ horizon) (h : Account limit instant stored k) :
    (∃ after, enforce {} limit instant stored = (after, .allowed) ∧
      Account limit instant after (k + 1)) ∨
    ∃ e, enforce {} limit instant stored = (stored, .denied e) := by
  have hdigits : limit.capacity < 10 ^ intMaxStrDigits := by
    calc limit.capacity < 10 ^ 16 := hholds.exact.trans_lt (by norm_num)
      _ ≤ 10 ^ intMaxStrDigits := pow_le_pow_right₀ (by norm_num) (by decide)
  obtain ⟨y, hy, hnonneg, hroom⟩ := h.available hgiven hholds.exact hholds.positive
  by_cases htoken : 1 ≤ y
  · refine .inl ?_
    obtain ⟨gone, hgone, hlater⟩ := hholds.expires hgiven hle
    have hadmits : (PyFloat.finite 1).le (limit.available instant stored) = true := by
      rw [hy]
      exact decide_eq_true htoken
    obtain ⟨m, hm⟩ := Int.eq_ofNat_of_zero_le
      (show 0 ≤ limit.capacity - (k + 1) by
        have hroom' : ((k + 1 : Nat) : ℚ) ≤ limit.capacity := by
          push_cast
          linarith
        have hroom'' : ((k + 1 : Nat) : Int) ≤ limit.capacity := by exact_mod_cast hroom'
        omega)
    have hm' : (limit.capacity : ℚ) - (k + 1) = m := by exact_mod_cast hm
    have hexact := hholds.exact
    have hleft : y + -1 ≤ m := by linarith
    have hsub : (PyFloat.finite y).sub (.finite 1) = .finite (double (y + -1)) :=
      PyFloat.ofRat_le_natCast (by linarith) hleft (by omega)
    have hdouble : double (y + -1) ≤ m := double_le_natCast (by linarith) hleft (by omega)
    refine ⟨some ⟨⟨.finite (double (y + -1)), .finite instant.now⟩, some gone⟩, ?_, ?_⟩
    · rw [enforce_admits hdigits hadmits hgone]
      unfold Key.expire Limit.written
      rw [if_neg (not_le.mpr hlater), hy, hsub]
    · refine .held (double_nonneg (by linarith)) ?_ fun _ => ⟨rfl, hlater.le⟩
      push_cast
      linarith
  · refine .inr ?_
    have hdenies : ¬ (PyFloat.finite 1).le (limit.available instant stored) = true := by
      rw [hy]
      simpa [PyFloat.le] using htoken
    obtain ⟨seconds, hread⟩ := hholds.readable hnonneg (not_le.mp htoken)
    rw [← hy] at hread
    exact ⟨_, enforce_denies hdigits hdenies hread⟩

end Account

/-! ### The limits the settings give -/

section Settings

variable {settings : RateLimitSettings} {scope : String} {quota : Int × Int}

theorem one_le_capacityOf (settings : RateLimitSettings) (scope : String) (quota : Int × Int) :
    1 ≤ capacityOf settings scope quota := by
  unfold capacityOf
  split_ifs <;> exact le_max_left 1 _

theorem pyFloat_ok {n : Int} {x : ℚ} (h : pyFloat n = .ok x) : x = double n ∧ |x| < 2 ^ 1024 := by
  unfold pyFloat at h
  split at h
  · next hlimit =>
      cases h
      exact ⟨rfl, hlimit⟩
  · cases h

/-- No rate is larger than a float. -/
theorem perSecond_le {requests seconds : Int} {rate : ℚ} (hseconds : 1 ≤ seconds)
    (h : perSecond requests seconds = .ok rate) : rate ≤ 2 ^ 1024 := by
  obtain ⟨s, hs, h⟩ := ok_of_bind h
  obtain ⟨r, hr, h⟩ := ok_of_bind h
  cases h
  have hone : 1 ≤ s := by
    rw [(pyFloat_ok hs).1, ← double_one]
    exact double_mono zero_le_one (by exact_mod_cast hseconds)
  have htop : double (2 ^ 1024) = 2 ^ 1024 := by exact_mod_cast double_zpow (k := 1024) (by omega)
  have hrange : r < 2 ^ 1024 := (abs_lt.mp (pyFloat_ok hr).2).2
  rcases le_total 0 r with hpos | hneg
  · calc double (r / s) ≤ double (2 ^ 1024) :=
          double_mono (by positivity) ((div_le_self hpos hone).trans hrange.le)
      _ = 2 ^ 1024 := htop
  · calc double (r / s) ≤ 0 := double_nonpos (div_nonpos_of_nonpos_of_nonneg hneg (by linarith))
      _ ≤ 2 ^ 1024 := by positivity

theorem refillRateOf_le {rate : ℚ} (h : refillRateOf settings scope quota = .ok rate) :
    rate ≤ 2 ^ 1024 := by
  unfold refillRateOf at h
  split_ifs at h
  · exact perSecond_le (le_max_left 1 _) h
  · exact perSecond_le (by omega) h
  · exact perSecond_le (by omega) h

end Settings

/-! ### Keys -/

section Keys

theorem colon_not_mem_resolveScope (request : Request) (state : RequestState) :
    ':' ∉ (resolveScope request state).toList := by
  unfold resolveScope
  split_ifs <;> decide +kernel

theorem rateLimitKey_toList (identifier action : String) :
    (rateLimitKey identifier action).toList =
      "gaiaos:ratelimit:".toList ++ (identifier.toList ++ ':' :: action.toList) := by
  have hcolon : (":" : String).toList = [':'] := by decide +kernel
  unfold rateLimitKey
  rw [String.toList_append, String.toList_append, String.toList_append, hcolon]
  simp only [List.append_assoc, List.singleton_append]

/-- A key tells whose it is, and of which scope. -/
theorem rateLimitKey_inj {i i' s s' : String} (hs : ':' ∉ s.toList) (hs' : ':' ∉ s'.toList)
    (h : rateLimitKey i s = rateLimitKey i' s') : i = i' ∧ s = s' := by
  have hlist := congrArg String.toList h
  rw [rateLimitKey_toList, rateLimitKey_toList] at hlist
  -- the scope is what stands after the last colon
  have hback := congrArg List.reverse (List.append_cancel_left hlist)
  rw [List.reverse_append, List.reverse_append, List.reverse_cons, List.reverse_cons,
    List.append_assoc, List.append_assoc] at hback
  obtain ⟨hscope, hid⟩ := eq_of_append_separator (by simpa using hs) (by simpa using hs') hback
  exact ⟨String.toList_inj.mp (List.reverse_injective hid),
    String.toList_inj.mp (List.reverse_injective hscope)⟩

variable {arrival sample : Arrival}

theorem Arrival.scope_eq (h : isExcluded arrival.request.path = false) :
    arrival.scope = some (resolveScope arrival.request arrival.state) := by
  unfold Arrival.scope
  rw [h]
  rfl

/-- Requests that are not alike count against different keys. -/
theorem Arrival.key_ne (h : isExcluded arrival.request.path = false)
    (hsample : isExcluded sample.request.path = false) (hne : ¬ arrival.alike sample) :
    arrival.key ≠ sample.key := by
  intro hkey
  obtain ⟨hprincipal, hscope⟩ :=
    rateLimitKey_inj (colon_not_mem_resolveScope _ _) (colon_not_mem_resolveScope _ _) hkey
  refine hne ⟨hprincipal, ?_⟩
  rw [Arrival.scope_eq h, Arrival.scope_eq hsample, hscope]

/-- Requests that are alike are not excluded together, and count against one key. -/
theorem Arrival.alike.resolve (halike : arrival.alike sample)
    (hsample : isExcluded sample.request.path = false) :
    isExcluded arrival.request.path = false ∧
      resolveScope arrival.request arrival.state = resolveScope sample.request sample.state ∧
      arrival.key = sample.key := by
  obtain ⟨hprincipal, hscope⟩ := halike
  rw [Arrival.scope_eq hsample] at hscope
  unfold Arrival.scope at hscope
  split at hscope
  · cases hscope
  · next hpath =>
      have hsame := Option.some.inj hscope
      refine ⟨by simpa using hpath, hsame, ?_⟩
      unfold Arrival.key
      rw [hprincipal, hsame]

end Keys

/-! ### One request of a run -/

section Serve

variable {rt : Runtime} {settings : RateLimitSettings} {arrival sample : Arrival}
  {store : String → Option Key}

/-- A request that is limited. -/
theorem check_of_limit {limit : Limit} (hon : settings.enableRateLimiting = true)
    (hpath : isExcluded arrival.request.path = false)
    (hlimit : arrival.limit rt settings = .ok limit) :
    check rt settings {} arrival.instant arrival.request arrival.state store =
      (Function.update store arrival.key
        (enforce {} limit arrival.instant (store arrival.key)).1,
        (enforce {} limit arrival.instant (store arrival.key)).2) := by
  have hresolved : limitOf settings (resolveScope arrival.request arrival.state)
      (getQuotaForRole rt settings (extractIdentityAndRole arrival.request arrival.state).2) =
      .ok limit := hlimit
  refine (if_neg (by simp [hpath, hon])).trans ?_
  simp only [hresolved]
  rfl

/-- A request whose limit cannot be computed. -/
theorem check_of_error {e : PyError} (hon : settings.enableRateLimiting = true)
    (hpath : isExcluded arrival.request.path = false)
    (hlimit : arrival.limit rt settings = .error e) :
    check rt settings {} arrival.instant arrival.request arrival.state store =
      (store, .raised e) := by
  have hresolved : limitOf settings (resolveScope arrival.request arrival.state)
      (getQuotaForRole rt settings (extractIdentityAndRole arrival.request arrival.state).2) =
      .error e := hlimit
  refine (if_neg (by simp [hpath, hon])).trans ?_
  simp only [hresolved]

/-- A request leaves the keys of others alone. -/
theorem check_frame (hon : settings.enableRateLimiting = true)
    (hsample : isExcluded sample.request.path = false) (hne : ¬ arrival.alike sample) :
    (check rt settings {} arrival.instant arrival.request arrival.state store).1 sample.key =
      store sample.key := by
  by_cases hpath : isExcluded arrival.request.path = false
  · cases hlimit : arrival.limit rt settings with
    | error e => rw [check_of_error hon hpath hlimit]
    | ok limit =>
        rw [check_of_limit hon hpath hlimit]
        exact Function.update_of_ne (Arrival.key_ne hpath hsample hne).symm _ _
  · have hskipped : check rt settings {} arrival.instant arrival.request arrival.state store =
        (store, .skipped) := if_pos (.inl (by simpa using hpath))
    rw [hskipped]

end Serve

/-! ### A run -/

/-- Requests in the order of time, up to one of them, whose principal keeps its role. -/
structure Orderly (sample : Arrival) (arrivals : List Arrival) : Prop where
  sorted : arrivals.Pairwise (·.instant ≤ ·.instant)
  upTo : ∀ arrival ∈ arrivals, arrival.instant ≤ sample.instant
  role : ∀ arrival ∈ arrivals, arrival.principal = sample.principal →
    arrival.role = sample.role

/-- Up to the time of a request no more requests like it are let through at one instant than its
capacity, and none because the limiter failed. -/
def Limits (rt : Runtime) (settings : RateLimitSettings) (sample : Arrival) : Prop :=
  ∀ arrivals, Orderly sample arrivals →
    (∀ instant, ((serveAll rt settings arrivals).burst sample instant : Int) ≤
      sample.capacity rt settings) ∧
    ∀ entry ∈ (serveAll rt settings arrivals).log, entry.1.alike sample →
      ∀ e, entry.2 ≠ .failOpen e

section Run

variable {rt : Runtime} {settings : RateLimitSettings} {arrival sample : Arrival}
  {gateway : Gateway}

theorem Orderly.before {arrivals : List Arrival} (h : Orderly sample (arrivals ++ [arrival])) :
    Orderly sample arrivals where
  sorted := (List.pairwise_append.mp h.sorted).1
  upTo := fun earlier hmem => h.upTo earlier (List.mem_append_left _ hmem)
  role := fun earlier hmem => h.role earlier (List.mem_append_left _ hmem)

theorem serveAll_append (arrivals : List Arrival) (arrival : Arrival) :
    serveAll rt settings (arrivals ++ [arrival]) =
      (serveAll rt settings arrivals).serve rt settings arrival := by
  unfold serveAll
  rw [List.foldl_append]
  rfl

/-- What becomes of a request. -/
def Gateway.decision (rt : Runtime) (settings : RateLimitSettings) (gateway : Gateway)
    (arrival : Arrival) : Decision :=
  (check rt settings {} arrival.instant arrival.request arrival.state gateway.store).2

theorem Gateway.serve_log :
    (gateway.serve rt settings arrival).log =
      gateway.log ++ [(arrival, gateway.decision rt settings arrival)] := rfl

theorem Gateway.forall_serve {P : Arrival × Decision → Prop}
    (hold : ∀ entry ∈ gateway.log, P entry)
    (hnew : P (arrival, gateway.decision rt settings arrival)) :
    ∀ entry ∈ (gateway.serve rt settings arrival).log, P entry := by
  rw [Gateway.serve_log]
  exact List.forall_mem_append.mpr ⟨hold, List.forall_mem_singleton.mpr hnew⟩

theorem Gateway.burst_serve (instant : Instant) :
    (gateway.serve rt settings arrival).burst sample instant =
      gateway.burst sample instant +
        if letThrough sample instant (arrival, gateway.decision rt settings arrival) then 1
        else 0 := by
  unfold Gateway.burst
  rw [Gateway.serve_log, List.countP_append, List.countP_singleton]

/-- The limit is the same for requests that are alike, the role being the same. -/
theorem Arrival.alike.limit_eq (halike : arrival.alike sample)
    (hsample : isExcluded sample.request.path = false) (hrole : arrival.role = sample.role) :
    arrival.limit rt settings = sample.limit rt settings := by
  unfold Arrival.limit
  rw [(halike.resolve hsample).2.1, hrole]

theorem Arrival.limit_given {limit : Limit} (h : sample.limit rt settings = .ok limit) :
    limit.Given ∧ limit.capacity = sample.capacity rt settings := by
  obtain ⟨rate, hrate, heq⟩ := ok_of_bind h
  cases heq
  exact ⟨⟨one_le_capacityOf .., refillRateOf_le hrate⟩, rfl⟩

/-- What is known of one key at an instant, before or after any of its requests. -/
structure Metered (limit : Limit) (sample : Arrival) (instant : Instant) (gateway : Gateway) :
    Prop where
  account : Account limit instant (gateway.store sample.key) (gateway.burst sample instant)
  bounded : ∀ t, (gateway.burst sample t : Int) ≤ limit.capacity
  closed : ∀ entry ∈ gateway.log, entry.1.alike sample → ∀ e, entry.2 ≠ .failOpen e
  past : ∀ entry ∈ gateway.log, entry.1.instant ≤ instant

variable {limit : Limit} {instant later horizon : Instant}

theorem Metered.mono (h : Metered limit sample instant gateway) (hle : instant ≤ later) :
    Metered limit sample later gateway := by
  refine ⟨?_, h.bounded, h.closed, fun entry hmem => le_trans (h.past entry hmem) hle⟩
  rcases hle.eq_or_lt with rfl | hlt
  · exact h.account
  · have hnone : gateway.burst sample later = 0 := by
      refine List.countP_eq_zero.mpr fun entry hmem hthrough => ?_
      have hpast := h.past entry hmem
      unfold letThrough at hthrough
      rw [Bool.and_eq_true, decide_eq_true_iff] at hthrough
      rw [hthrough.1.2] at hpast
      exact absurd hpast (not_le.mpr hlt)
    rw [hnone]
    exact h.account.fresh

/-- A request that is limited, and its key. -/
theorem serve_of_limit (hon : settings.enableRateLimiting = true)
    (hsample : isExcluded sample.request.path = false) (halike : arrival.alike sample)
    (hlimit : arrival.limit rt settings = .ok limit) :
    (gateway.serve rt settings arrival).store sample.key =
        (enforce {} limit arrival.instant (gateway.store sample.key)).1 ∧
      gateway.decision rt settings arrival =
        (enforce {} limit arrival.instant (gateway.store sample.key)).2 := by
  obtain ⟨hpath, -, hkey⟩ := halike.resolve hsample
  have hcheck := @check_of_limit rt settings arrival gateway.store limit hon hpath hlimit
  rw [hkey] at hcheck
  constructor
  · show (check rt settings {} arrival.instant arrival.request arrival.state
      gateway.store).1 sample.key = _
    rw [hcheck]
    exact Function.update_self ..
  · unfold Gateway.decision
    rw [hcheck]

/-- A request that passes is counted, if it is alike and of that instant. -/
theorem Gateway.burst_serve_passes (halike : arrival.alike sample)
    (hpasses : (gateway.decision rt settings arrival).passes = true) (t : Instant) :
    (gateway.serve rt settings arrival).burst sample t =
      gateway.burst sample t + if arrival.instant = t then 1 else 0 := by
  rw [Gateway.burst_serve]
  simp [letThrough, halike, hpasses]

/-- A request is not counted if it is denied or of another key. -/
theorem Gateway.burst_serve_quiet
    (hquiet : arrival.alike sample → (gateway.decision rt settings arrival).passes = false)
    (t : Instant) :
    (gateway.serve rt settings arrival).burst sample t = gateway.burst sample t := by
  rw [Gateway.burst_serve]
  by_cases halike : arrival.alike sample
  · simp [letThrough, hquiet halike]
  · simp [letThrough, halike]

/-- A request that writes nothing to the key and is not let through. -/
theorem Metered.quiet (h : Metered limit sample arrival.instant gateway)
    (hstore : (gateway.serve rt settings arrival).store sample.key = gateway.store sample.key)
    (hquiet : arrival.alike sample → ∃ e, gateway.decision rt settings arrival = .denied e) :
    Metered limit sample arrival.instant (gateway.serve rt settings arrival) := by
  have hburst := @Gateway.burst_serve_quiet rt settings arrival sample gateway fun halike => by
    obtain ⟨e, he⟩ := hquiet halike
    rw [he]
    rfl
  refine ⟨?_, ?_, ?_, Gateway.forall_serve h.past (le_refl arrival.instant)⟩
  · rw [hstore, hburst]
    exact h.account
  · intro t
    rw [hburst]
    exact h.bounded t
  · refine Gateway.forall_serve h.closed fun halike e' hopen => ?_
    obtain ⟨e, he⟩ := hquiet halike
    rw [he] at hopen
    cases hopen

/-- The step lemma. -/
theorem Metered.serve (hgiven : limit.Given) (hholds : limit.Holds horizon)
    (hon : settings.enableRateLimiting = true) (hsample : isExcluded sample.request.path = false)
    (hlimit : arrival.alike sample → arrival.limit rt settings = .ok limit)
    (hle : arrival.instant ≤ horizon) (h : Metered limit sample arrival.instant gateway) :
    Metered limit sample arrival.instant (gateway.serve rt settings arrival) := by
  by_cases halike : arrival.alike sample
  · obtain ⟨hstore, hdecision⟩ :=
      @serve_of_limit rt settings arrival sample gateway limit hon hsample halike (hlimit halike)
    rcases h.account.enforce hgiven hholds hle with ⟨after, heq, haccount⟩ | ⟨e, heq⟩
    · -- admitted, and counted at this instant
      rw [heq] at hstore hdecision
      have hburst := Gateway.burst_serve_passes halike (by rw [hdecision]; rfl)
      have hcount := hburst arrival.instant
      rw [if_pos rfl] at hcount
      refine ⟨?_, ?_, ?_, Gateway.forall_serve h.past (le_refl arrival.instant)⟩
      · rw [hstore, hcount]
        exact haccount
      · intro t
        by_cases ht : arrival.instant = t
        · rw [← ht, hcount]
          exact haccount.le_capacity hgiven
        · rw [hburst, if_neg ht]
          exact h.bounded t
      · refine Gateway.forall_serve h.closed fun _ e hopen => ?_
        rw [hdecision] at hopen
        cases hopen
    · rw [heq] at hstore hdecision
      exact h.quiet hstore fun _ => ⟨e, hdecision⟩
  · exact h.quiet (check_frame hon hsample halike) fun hsame => absurd hsame halike

/-- The run lemma. -/
theorem metered_serveAll (hgiven : limit.Given) (hholds : limit.Holds sample.instant)
    (hon : settings.enableRateLimiting = true) (hsample : isExcluded sample.request.path = false)
    (hlimit : sample.limit rt settings = .ok limit) {arrivals : List Arrival}
    (h : Orderly sample arrivals) :
    ∀ instant, (∀ arrival ∈ arrivals, arrival.instant ≤ instant) →
      Metered limit sample instant (serveAll rt settings arrivals) := by
  induction arrivals using List.reverseRecOn with
  | nil =>
      intro instant _
      have hcapacity := hgiven.capacity
      refine ⟨.unused, ?_, ?_, ?_⟩
      · intro t
        show ((0 : Nat) : Int) ≤ limit.capacity
        omega
      · intro entry hmem
        cases hmem
      · intro entry hmem
        cases hmem
  | append_singleton arrivals arrival ih =>
      intro instant hpast
      obtain ⟨hbefore, hlast⟩ := List.forall_mem_append.mp hpast
      rw [serveAll_append]
      have hcross := (List.pairwise_append.mp h.sorted).2.2
      have hmem : arrival ∈ arrivals ++ [arrival] := by simp
      have hmetered := ih h.before arrival.instant fun a ha => hcross a ha arrival (by simp)
      refine (hmetered.serve hgiven hholds hon hsample ?_ (h.upTo arrival hmem)).mono
        (hlast arrival (by simp))
      intro halike
      rw [halike.limit_eq hsample (h.role arrival hmem halike.1)]
      exact hlimit

/-- Requests whose limit cannot be computed are not let through. -/
theorem limits_of_error {e : PyError} (hon : settings.enableRateLimiting = true)
    (hsample : isExcluded sample.request.path = false)
    (hlimit : sample.limit rt settings = .error e) : Limits rt settings sample := by
  intro arrivals h
  have hraised : ∀ entry ∈ (serveAll rt settings arrivals).log, entry.1.alike sample →
      entry.2 = .raised e := by
    induction arrivals using List.reverseRecOn with
    | nil =>
        intro entry hmem
        cases hmem
    | append_singleton arrivals arrival ih =>
        rw [serveAll_append]
        refine Gateway.forall_serve (ih h.before) fun halike => ?_
        have hsame : arrival.limit rt settings = .error e := by
          rw [halike.limit_eq hsample (h.role arrival (by simp) halike.1)]
          exact hlimit
        unfold Gateway.decision
        rw [check_of_error hon (halike.resolve hsample).1 hsame]
  constructor
  · intro instant
    have hnone : (serveAll rt settings arrivals).burst sample instant = 0 := by
      refine List.countP_eq_zero.mpr fun entry hmem hthrough => ?_
      unfold letThrough at hthrough
      rw [Bool.and_eq_true, decide_eq_true_iff] at hthrough
      rw [hraised entry hmem hthrough.1.1] at hthrough
      exact absurd hthrough.2 Bool.false_ne_true
    rw [hnone]
    have hcapacity := one_le_capacityOf settings (resolveScope sample.request sample.state)
      (getQuotaForRole rt settings sample.role)
    unfold Arrival.capacity
    omega
  · intro entry hmem halike e' hopen
    rw [hraised entry hmem halike] at hopen
    cases hopen

end Run

/-! ### One request again and again -/

section Repeated

variable {rt : Runtime} {settings : RateLimitSettings} {sample : Arrival} {limit : Limit}

theorem orderly_replicate (n : Nat) (sample : Arrival) :
    Orderly sample (List.replicate n sample) := by
  refine ⟨List.pairwise_replicate.mpr (.inr (le_refl _)), ?_, ?_⟩
  · intro arrival hmem
    rw [List.eq_of_mem_replicate hmem]
  · intro arrival hmem _
    rw [List.eq_of_mem_replicate hmem]

/-- Where a key always lets a request through, all of them are. -/
theorem burst_replicate {Keeps : Option Key → Prop} (hon : settings.enableRateLimiting = true)
    (hsample : isExcluded sample.request.path = false)
    (hlimit : sample.limit rt settings = .ok limit) (hstart : Keeps none)
    (hstep : ∀ stored, Keeps stored → Keeps (enforce {} limit sample.instant stored).1 ∧
      (enforce {} limit sample.instant stored).2.passes = true) (n : Nat) :
    Keeps ((serveAll rt settings (List.replicate n sample)).store sample.key) ∧
      (serveAll rt settings (List.replicate n sample)).burst sample sample.instant = n := by
  induction n with
  | zero => exact ⟨hstart, rfl⟩
  | succ n ih =>
      obtain ⟨hkeeps, hburst⟩ := ih
      have halike : sample.alike sample := ⟨rfl, rfl⟩
      rw [List.replicate_succ', serveAll_append]
      obtain ⟨hstore, hdecision⟩ := @serve_of_limit rt settings sample sample
        (serveAll rt settings (List.replicate n sample)) limit hon hsample halike hlimit
      obtain ⟨hafter, hpasses⟩ := hstep _ hkeeps
      rw [← hdecision] at hpasses
      rw [hstore, Gateway.burst_serve_passes halike hpasses, hburst, if_pos rfl]
      exact ⟨hafter, rfl⟩

/-- Then the limiter does not limit. -/
theorem Limits.stops (Keeps : Option Key → Prop) (h : Limits rt settings sample)
    (hon : settings.enableRateLimiting = true) (hsample : isExcluded sample.request.path = false)
    (hlimit : sample.limit rt settings = .ok limit) (hstart : Keeps none)
    (hstep : ∀ stored, Keeps stored → Keeps (enforce {} limit sample.instant stored).1 ∧
      (enforce {} limit sample.instant stored).2.passes = true) : False := by
  have hbound := (h _ (orderly_replicate ((sample.capacity rt settings).toNat + 1) sample)).1
    sample.instant
  rw [(burst_replicate hon hsample hlimit hstart hstep _).2] at hbound
  omega

/-- The first request does not pass because the limiter failed. -/
theorem Limits.closed (h : Limits rt settings sample)
    (hon : settings.enableRateLimiting = true) (hsample : isExcluded sample.request.path = false)
    (hlimit : sample.limit rt settings = .ok limit) (e : PyError) :
    (enforce {} limit sample.instant none).2 ≠ .failOpen e := by
  obtain ⟨-, hdecision⟩ := @serve_of_limit rt settings sample sample {} limit hon hsample
    ⟨rfl, rfl⟩ hlimit
  rw [← hdecision]
  exact (h _ (orderly_replicate 1 sample)).2 (sample, _) List.mem_cons_self ⟨rfl, rfl⟩ e

end Repeated

/-! ### Limits that are not kept -/

section Fails

variable {limit : Limit} {instant : Instant} {stored : Option Key}

theorem clock_lt (instant : Instant) : instant.clock < 2 ^ 44 := by
  have hval := instant.isLt
  unfold Instant.clock
  omega

/-- What `EXPIRE` accepts. -/
theorem expireTime_ok {clock gone : Int} {ttl : PyFloat} (h : expireTime clock ttl = .ok gone) :
    ∃ seconds : Int, ttl = .finite seconds ∧ seconds * 1000 ≤ longLongMax - clock ∧
      gone = clock + seconds * 1000 := by
  unfold expireTime at h
  split at h
  · cases h
  · next seconds hread =>
      split at h
      · cases h
      · next hrange =>
          push Not at hrange
          cases h
          exact ⟨seconds, (PyFloat.asInteger_eq_some hread).1, hrange.2.2, rfl⟩

/-- What Python reads `EXPIRE` accepts. -/
theorem expireTime_of_read {ttl : PyFloat} {seconds : Int}
    (h : ttl.asInteger (10 ^ 14 - 1) = some seconds) :
    expireTime instant.clock ttl = .ok (instant.clock + seconds * 1000) := by
  obtain ⟨rfl, hbound⟩ := PyFloat.asInteger_eq_some h
  have hsmall : |seconds| ≤ 10 ^ 14 - 1 := by exact_mod_cast hbound
  have hread : (PyFloat.finite seconds).asInteger (2 ^ 62) = some seconds := by
    refine PyFloat.asInteger_intCast (hbound.trans ?_)
    norm_num
  have hclock := clock_nonneg instant
  have hlimit := clock_lt instant
  obtain ⟨hlow, hhigh⟩ := abs_le.mp hsmall
  unfold expireTime
  simp only [hread]
  refine if_neg ?_
  unfold longLongMax
  omega

/-- A key that was never written has a token. -/
theorem Limit.Given.one_le (h : limit.Given) (instant : Instant) :
    (PyFloat.finite 1).le (limit.available instant none) = true := by
  show (PyFloat.finite 1).le (.ofRat limit.capacity) = true
  have hone : (1 : ℚ) ≤ limit.capacity := by exact_mod_cast h.capacity
  have hle := PyFloat.le_ofRat zero_le_one hone
  rwa [double_one] at hle

/-- Of a bucket of two there is one left, for the second run of the script. -/
theorem one_le_left (h : 2 ≤ limit.capacity) :
    (PyFloat.finite 1).le ((PyFloat.ofRat limit.capacity).min
      (((PyFloat.ofRat limit.capacity).sub (.finite 1)).add (.finite 0))) = true := by
  have htwo : (2 : ℚ) ≤ limit.capacity := by exact_mod_cast h
  have hcapacity : (PyFloat.finite 2).le (.ofRat limit.capacity) = true := by
    have hle := PyFloat.le_ofRat zero_le_two htwo
    have hdouble : double 2 = 2 := by decide +kernel
    rwa [hdouble] at hle
  refine PyFloat.le_min_of_le (PyFloat.le_of_le one_le_two hcapacity) ?_
  have hleft := PyFloat.le_add (y := -1) (by norm_num) hcapacity
  have hsame := PyFloat.le_add (y := 0) (by decide +kernel) hleft
  have hone : double (double (2 + -1) + 0) = 1 := by decide +kernel
  rwa [hone] at hsame

/-- Where the time to live is refused the first request passes. -/
theorem enforce_of_refused {e : PyError} (hgiven : limit.Given)
    (hdigits : limit.capacity < 10 ^ intMaxStrDigits)
    (he : expireTime instant.clock limit.ttl = .error e) :
    ∃ e', (enforce {} limit instant none).2 = .failOpen e' := by
  rw [enforce_of_error hdigits (Limit.script_fails (hgiven.one_le instant) he)]
  have hsame : limit.available instant (some (limit.written instant none)) =
      (PyFloat.ofRat limit.capacity).min
        (((PyFloat.ofRat limit.capacity).sub (.finite 1)).add (.finite 0)) :=
    Limit.available_same (by intro gone heq; cases heq)
  by_cases htoken :
      (PyFloat.finite 1).le (limit.available instant (some (limit.written instant none))) = true
  · rw [Limit.script_fails htoken he]
    exact ⟨e, rfl⟩
  · -- the first run took the only token, and the seconds to wait are the time to live
    have hcapacity : limit.capacity = 1 := by
      have hone := hgiven.capacity
      by_contra hne
      rw [hsame] at htoken
      exact htoken (one_le_left (by omega))
    have hfloat : PyFloat.ofRat limit.capacity = .finite 1 := by
      rw [hcapacity]
      decide +kernel
    have hempty : limit.available instant (some (limit.written instant none)) = .finite 0 := by
      rw [hsame, hfloat]
      decide +kernel
    have hwait : limit.wait (.finite 0) = limit.ttl := by
      have hneeded : (PyFloat.finite 1).sub (.finite 0) = .finite 1 := by decide +kernel
      unfold Limit.wait Limit.ttl
      rw [hneeded, hfloat]
    have hunread : (limit.wait (.finite 0)).asInteger (10 ^ 14 - 1) = none := by
      rw [hwait]
      cases hread : limit.ttl.asInteger (10 ^ 14 - 1) with
      | none => rfl
      | some seconds =>
          rw [expireTime_of_read hread] at he
          cases he
    rw [Limit.script_denies htoken, hempty]
    simp only [verdict, hunread]
    exact ⟨_, rfl⟩

/-- Where the time to live is over at once the key is deleted, and every request is the first. -/
theorem enforce_of_over {gone : Int} (hgiven : limit.Given)
    (hdigits : limit.capacity < 10 ^ intMaxStrDigits)
    (hgone : expireTime instant.clock limit.ttl = .ok gone) (hover : gone ≤ instant.clock) :
    enforce {} limit instant none = (none, .allowed) := by
  rw [enforce_admits hdigits (hgiven.one_le instant) hgone]
  unfold Key.expire
  rw [if_pos hover]

/-- The key holds tokens of some kind, written at this instant. -/
inductive Stocked (instant : Instant) (tokens : PyFloat → Prop) : Option Key → Prop
  | unused : Stocked instant tokens none
  | held {x : PyFloat} {gone : Int} (kind : tokens x) (live : instant.clock ≤ gone) :
      Stocked instant tokens (some ⟨⟨x, .finite instant.now⟩, some gone⟩)

/-- Tokens of a kind that refilling and taking one keeps are always there. -/
theorem Stocked.enforce {tokens : PyFloat → Prop} {gone : Int} (h : Stocked instant tokens stored)
    (hdigits : limit.capacity < 10 ^ intMaxStrDigits)
    (hgone : expireTime instant.clock limit.ttl = .ok gone) (hlater : instant.clock < gone)
    (hfull : tokens (.ofRat limit.capacity))
    (hsame : ∀ x, tokens x → tokens ((PyFloat.ofRat limit.capacity).min (x.add (.finite 0))))
    (htake : ∀ x, tokens x → (PyFloat.finite 1).le x = true → tokens (x.sub (.finite 1)))
    (hunread : ∀ x, tokens x → ¬ (PyFloat.finite 1).le x = true →
      (limit.wait x).asInteger (10 ^ 14 - 1) = none) :
    Stocked instant tokens (enforce {} limit instant stored).1 ∧
      (enforce {} limit instant stored).2.passes = true := by
  have havailable : tokens (limit.available instant stored) := by
    cases h with
    | unused => exact hfull
    | @held x gone' kind live =>
        rw [Limit.available_same (by intro g heq; cases heq; exact live)]
        exact hsame x kind
  by_cases htoken : (PyFloat.finite 1).le (limit.available instant stored) = true
  · rw [enforce_admits hdigits htoken hgone]
    unfold Key.expire
    rw [if_neg (not_le.mpr hlater)]
    exact ⟨.held (htake _ havailable htoken) hlater.le, rfl⟩
  · rw [enforce_unread hdigits htoken (hunread _ havailable htoken)]
    exact ⟨h, rfl⟩

/-- More tokens than can be counted. -/
def Uncountable (x : PyFloat) : Prop := (PyFloat.finite (2 ^ 53 + 4)).le x = true

/-- A bucket of more than 2^53 + 2 is as full after a request as it was before. -/
theorem stocked_of_uncountable {gone : Int} (hcapacity : 2 ^ 53 + 3 ≤ limit.capacity)
    (hdigits : limit.capacity < 10 ^ intMaxStrDigits)
    (hgone : expireTime instant.clock limit.ttl = .ok gone) (hlater : instant.clock < gone)
    (h : Stocked instant Uncountable stored) :
    Stocked instant Uncountable (enforce {} limit instant stored).1 ∧
      (enforce {} limit instant stored).2.passes = true := by
  have hfull : Uncountable (.ofRat limit.capacity) := by
    have hcast : (2 ^ 53 + 3 : ℚ) ≤ limit.capacity := by exact_mod_cast hcapacity
    have hle := PyFloat.le_ofRat (by norm_num) hcast
    rw [double_two_pow_53_add_three] at hle
    exact hle
  refine h.enforce hdigits hgone hlater hfull ?_ ?_ ?_
  · intro x hx
    refine PyFloat.le_min_of_le hfull ?_
    have hle := PyFloat.le_add (y := 0) (by norm_num) hx
    rw [add_zero, double_two_pow_53_add_four] at hle
    exact hle
  · intro x hx _
    have hle := PyFloat.le_add (y := -1) (by norm_num) hx
    have hdown : (2 ^ 53 + 4 + -1 : ℚ) = 2 ^ 53 + 3 := by norm_num
    rw [hdown, double_two_pow_53_add_three] at hle
    exact hle
  · intro x hx htoken
    exact absurd (PyFloat.le_of_le (by norm_num) hx) htoken

/-- Tokens that can be counted. -/
def Countable (x : PyFloat) : Prop := ∃ n : Nat, x = .finite n ∧ n ≤ 2 ^ 53 + 2

theorem countable_ofRat {n : Nat} (hn : n ≤ 2 ^ 53 + 2) : Countable (.ofRat n) := by
  obtain ⟨m, hm, hle⟩ := double_natCast_eq hn
  refine ⟨m, ?_, hle.trans hn⟩
  rw [PyFloat.ofRat_le_natCast (Nat.cast_nonneg n) (le_refl _) hn, hm]

/-- Where the seconds to wait for one token cannot be read, an empty bucket is no obstacle. -/
theorem stocked_of_unread {gone : Int} (hgiven : limit.Given)
    (hexact : limit.capacity ≤ 2 ^ 53 + 2) (hdigits : limit.capacity < 10 ^ intMaxStrDigits)
    (hgone : expireTime instant.clock limit.ttl = .ok gone) (hlater : instant.clock < gone)
    (hunread : (limit.wait (.finite 0)).asInteger (10 ^ 14 - 1) = none)
    (h : Stocked instant Countable stored) :
    Stocked instant Countable (enforce {} limit instant stored).1 ∧
      (enforce {} limit instant stored).2.passes = true := by
  have hone := hgiven.capacity
  obtain ⟨c, hc⟩ := Int.eq_ofNat_of_zero_le (a := limit.capacity) (by omega)
  have hfull : Countable (.ofRat limit.capacity) := by
    rw [hc, Int.cast_natCast]
    exact countable_ofRat (by omega)
  refine h.enforce hdigits hgone hlater hfull ?_ ?_ ?_
  · rintro x ⟨n, rfl, hn⟩
    obtain ⟨c, hcap, hc⟩ := hfull
    obtain ⟨m, hm, hle⟩ := countable_ofRat hn
    have hadd : (PyFloat.finite n).add (.finite 0) = .finite m := by
      show PyFloat.ofRat (n + 0) = _
      rw [add_zero, hm]
    rw [hcap, hadd, PyFloat.min_finite]
    exact ⟨min c m, by rw [Nat.cast_min], (min_le_left c m).trans hc⟩
  · rintro x ⟨n, rfl, hn⟩ htoken
    have hpos : 1 ≤ n := by exact_mod_cast of_decide_eq_true htoken
    have hsub : (PyFloat.finite n).sub (.finite 1) = .ofRat (n - 1 : Nat) := by
      show PyFloat.ofRat (n + -1) = _
      rw [Nat.cast_sub hpos, Nat.cast_one, sub_eq_add_neg]
    rw [hsub]
    exact countable_ofRat (by omega)
  · rintro x ⟨n, rfl, hn⟩ htoken
    have hzero : n = 0 := by
      by_contra hne
      refine htoken (decide_eq_true ?_)
      exact_mod_cast Nat.one_le_iff_ne_zero.mpr hne
    rw [hzero, Nat.cast_zero]
    exact hunread

/-- The seconds to wait for one token cannot be read if there are too many. -/
theorem wait_unread (hrate : 0 < limit.refillRate)
    (h : 10 ^ 14 ≤ ⌈double (1 / limit.refillRate)⌉) :
    (limit.wait (.finite 0)).asInteger (10 ^ 14 - 1) = none := by
  have hneeded : (PyFloat.finite 1).sub (.finite 0) = .finite 1 := by decide +kernel
  have hdiv : (PyFloat.finite 1).div (.finite limit.refillRate) = .ofRat (1 / limit.refillRate) :=
    if_neg hrate.ne'
  unfold Limit.wait
  rw [hneeded, hdiv]
  rcases PyFloat.ofRat_cases (div_nonneg zero_le_one hrate.le) with heq | heq
  · rw [heq]
    refine if_neg fun hread => ?_
    have hbound : |⌈double (1 / limit.refillRate)⌉| ≤ (10 ^ 14 - 1 : Int) := by
      exact_mod_cast hread.2
    have := (abs_le.mp hbound).2
    omega
  · rw [heq]
    rfl

/-- A time to live that is a number and not over comes from a rate that is positive. -/
theorem rate_pos {seconds : Int} {c : ℚ} (hc : PyFloat.ofRat limit.capacity = .finite c)
    (hone : 1 ≤ c) (httl : limit.ttl = .finite seconds) (hpos : 0 < seconds) :
    0 < limit.refillRate ∧ seconds = ⌈double (c / limit.refillRate)⌉ := by
  unfold Limit.ttl at httl
  rw [hc] at httl
  have hne : limit.refillRate ≠ 0 := by
    intro hzero
    rw [hzero] at httl
    have hsign : (PyFloat.finite c).sign = 1 := if_pos (by linarith)
    have hinfinite : (PyFloat.finite c).div (.finite 0) = .infinity := by
      show (if (0 : ℚ) = 0 then PyFloat.infinite (PyFloat.finite c).sign
        else PyFloat.ofRat (c / 0)) = _
      rw [if_pos rfl, hsign]
      exact if_pos one_pos
    rw [hinfinite] at httl
    cases httl
  have hdiv : (PyFloat.finite c).div (.finite limit.refillRate) =
      .ofRat (c / limit.refillRate) := if_neg hne
  rw [hdiv] at httl
  cases hquotient : PyFloat.ofRat (c / limit.refillRate) with
  | finite z =>
      rw [hquotient] at httl
      have hz : z = double (c / limit.refillRate) := (PyFloat.ofRat_eq_finite hquotient).1
      have hceil : (⌈z⌉ : ℚ) = seconds := PyFloat.finite.inj httl
      have hseconds : ⌈z⌉ = seconds := by exact_mod_cast hceil
      refine ⟨?_, by rw [← hz, hseconds]⟩
      by_contra hneg
      have hnonpos : z ≤ 0 := by
        rw [hz]
        exact double_nonpos (div_nonpos_of_nonneg_of_nonpos (by linarith) (not_lt.mp hneg))
      have hover := Int.ceil_nonpos.mpr hnonpos
      omega
  | infinity =>
      rw [hquotient] at httl
      cases httl
  | negInfinity =>
      rw [hquotient] at httl
      cases httl
  | nan =>
      rw [hquotient] at httl
      cases httl

end Fails

/-! ### The limiter limits -/

section Limits

variable {rt : Runtime} {settings : RateLimitSettings} {sample : Arrival} {limit : Limit}

/-- Where the limiter limits, the limit is one that is kept. -/
theorem Limits.holds (h : Limits rt settings sample) (hon : settings.enableRateLimiting = true)
    (hsample : isExcluded sample.request.path = false)
    (hlimit : sample.limit rt settings = .ok limit) : limit.Holds sample.instant := by
  obtain ⟨hgiven, -⟩ := Arrival.limit_given hlimit
  have hdigits : limit.capacity < 10 ^ intMaxStrDigits := by
    by_contra hlong
    refine h.closed hon hsample hlimit
      (.valueError "Exceeds the limit for integer string conversion") ?_
    exact congrArg Prod.snd (if_pos (not_lt.mp hlong))
  obtain ⟨gone, hgone⟩ : ∃ gone, expireTime sample.instant.clock limit.ttl = .ok gone := by
    cases hexpire : expireTime sample.instant.clock limit.ttl with
    | ok gone => exact ⟨gone, rfl⟩
    | error e =>
        obtain ⟨e', hopen⟩ := enforce_of_refused hgiven hdigits hexpire
        exact absurd hopen (h.closed hon hsample hlimit e')
  have hlater : sample.instant.clock < gone := by
    by_contra hover
    refine h.stops (· = none) hon hsample hlimit rfl ?_
    rintro stored rfl
    rw [enforce_of_over hgiven hdigits hgone (not_lt.mp hover)]
    exact ⟨rfl, rfl⟩
  have hexact : limit.capacity ≤ 2 ^ 53 + 2 := by
    by_contra hmore
    refine h.stops (Stocked sample.instant Uncountable) hon hsample hlimit .unused ?_
    intro stored hstored
    exact stocked_of_uncountable (by omega) hdigits hgone hlater hstored
  obtain ⟨seconds, httl, hfits, rfl⟩ := expireTime_ok hgone
  obtain ⟨c, hc, hone, -⟩ := hgiven.float hexact
  obtain ⟨hrate, rfl⟩ := rate_pos hc hone httl (by omega)
  refine ⟨hrate, hexact, ?_, ?_⟩
  · by_contra hlong
    refine h.stops (Stocked sample.instant Countable) hon hsample hlimit .unused ?_
    intro stored hstored
    exact stocked_of_unread hgiven hexact hdigits hgone hlater
      (wait_unread hrate (not_lt.mp hlong)) hstored
  · rw [← (PyFloat.ofRat_eq_finite hc).1]
    exact hfits

/-- Where the limit is one that is kept, the limiter limits. -/
theorem limits_of_holds (hon : settings.enableRateLimiting = true)
    (hsample : isExcluded sample.request.path = false)
    (hlimit : sample.limit rt settings = .ok limit) (hholds : limit.Holds sample.instant) :
    Limits rt settings sample := by
  obtain ⟨hgiven, hcapacity⟩ := Arrival.limit_given hlimit
  intro arrivals h
  have hmetered := metered_serveAll hgiven hholds hon hsample hlimit h sample.instant h.upTo
  rw [← hcapacity]
  exact ⟨hmetered.bounded, hmetered.closed⟩

end Limits

/--
**The limiter limits, exactly where it can read its own numbers.**  For all settings with the
limiter on, up to the time of any request that is in a scope: no more requests of its principal in
its scope are let through at one instant than the capacity, and none because the limiter failed,
if and only if the limit cannot be computed at all or is one that is kept.
-/
theorem limits_iff (rt : Runtime) (settings : RateLimitSettings) (sample : Arrival)
    (hon : settings.enableRateLimiting = true)
    (hscope : isExcluded sample.request.path = false) :
    Limits rt settings sample ↔
      ∀ limit, sample.limit rt settings = .ok limit → limit.Holds sample.instant := by
  constructor
  · intro h limit hlimit
    exact h.holds hon hscope hlimit
  · intro h
    cases hlimit : sample.limit rt settings with
    | error e => exact limits_of_error hon hscope hlimit
    | ok limit => exact limits_of_holds hon hscope hlimit (h limit hlimit)

/-- A request without a key or a login. -/
def visitor : Arrival where
  instant := 1700000000000000000
  request :=
    { method := "GET", path := "/api/v1/events", authorization := none, xApiKey := none,
      xForwardedFor := none, clientHost := some "10.0.0.7" }
  state := {}

/-- The settings as they come, with the limiter on. -/
theorem visitor_limited : Limits Runtime.reference { enableRateLimiting := true } visitor := by
  refine (limits_iff Runtime.reference { enableRateLimiting := true } visitor rfl
    (by decide +kernel)).mpr ?_
  have hlimit : visitor.limit Runtime.reference { enableRateLimiting := true } =
      .ok ⟨5, double (10 / 60)⟩ := by decide +kernel
  intro limit hok
  rw [hlimit] at hok
  cases hok
  exact ⟨by decide +kernel, by decide +kernel, by decide +kernel, by decide +kernel⟩

/-- No requests per minute: the capacity is five all the same, and six of six get through. -/
theorem visitor_unlimited :
    isExcluded visitor.request.path = false ∧
      ¬ Limits Runtime.reference
        { enableRateLimiting := true, rateLimitRequestsPerMinute := 0 } visitor := by
  refine ⟨by decide +kernel, fun h => ?_⟩
  have hbound := (h _ (orderly_replicate 6 visitor)).1 visitor.instant
  have hburst : (serveAll Runtime.reference
      { enableRateLimiting := true, rateLimitRequestsPerMinute := 0 }
      (List.replicate 6 visitor)).burst visitor visitor.instant = 6 := by decide +kernel
  have hcapacity : visitor.capacity Runtime.reference
      { enableRateLimiting := true, rateLimitRequestsPerMinute := 0 } = 5 := by decide +kernel
  rw [hburst, hcapacity] at hbound
  omega

end NumericLimiter

end GaiaOS
