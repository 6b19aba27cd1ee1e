import Mathlib
/-!
# Roughtime timestamps as epoch seconds

`craggy_roughtimeToEpoc` (`library/CraggyTimeUtils.c`) reads a Roughtime
timestamp, whose top three bytes are a Modified Julian Day and whose low five
bytes count the microseconds since midnight of that day, and writes the Unix
epoch second it denotes, moved forward by half the measured round trip.  All of
it is `uint64_t` arithmetic: the day count minus 40587, times 86400, plus the
microseconds and half the round trip divided by a million.

The exact value is `exactEpochSeconds`, written `E` below: the same formula
over the integers, in microseconds first and floored to seconds once.  The two agree
modulo `2^64` for every timestamp and every round trip
(`craggyRoughtimeToEpoc_toNat`).  Below 1970 the day difference is negative,
and the `uint64_t` subtraction wraps, so the function reports success with
`2^64 + E` in `*outTime` (`craggyRoughtimeToEpoc_wraps`).  It has no failing
return at all.
-/

namespace Craggy

/-! ## The conversion as the source computes it -/

/-- `CraggyResult`: the one value `craggy_roughtimeToEpoc` ever returns. -/
inductive CraggyResult where
  | CraggyResultSuccess
  deriving DecidableEq, Repr

/-- `craggy_roughtime_result`: the field the conversion reads. -/
structure RoughtimeResult where
  /-- The server's midpoint, `MJD << 40 | microseconds since midnight`. -/
  time : UInt64
  deriving DecidableEq, Repr

/-- `NUMBER_OF_JULIAN_DAYS_UNTIL_EPOCH`: 1 January 1970 as a Modified Julian Day. -/
def numberOfJulianDaysUntilEpoch : UInt64 := 40587

/-- `NUMBER_OF_MICROSECONDS_IN_SECOND`. -/
def numberOfMicrosecondsInSecond : UInt64 := 1000000

/-- `NUMBER_OF_SECONDS_IN_A_DAY`, `60 * 60 * 24`. -/
def numberOfSecondsInADay : UInt64 := 60 * 60 * 24

/-- `craggy_roughtimeToEpoc`: the status and the value written to `*outTime`. -/
def craggyRoughtimeToEpoc (roughtimeResult : RoughtimeResult) (serverRoundTripUs : UInt64) :
    CraggyResult × UInt64 :=
  let outTime :=
    ((roughtimeResult.time >>> 40) - numberOfJulianDaysUntilEpoch) * numberOfSecondsInADay
  let outTime := outTime +
    (((roughtimeResult.time <<< 24) >>> 24) + serverRoundTripUs / 2) / numberOfMicrosecondsInSecond
  (.CraggyResultSuccess, outTime)

/-! ## `uint64_t` operations as natural numbers -/

theorem uint64_toNat_add (a b : UInt64) : (a + b).toNat = (a.toNat + b.toNat) % 2 ^ 64 := rfl

theorem uint64_toNat_mul (a b : UInt64) : (a * b).toNat = a.toNat * b.toNat % 2 ^ 64 := rfl

theorem uint64_toNat_sub (a b : UInt64) :
    (a - b).toNat = (2 ^ 64 - b.toNat + a.toNat) % 2 ^ 64 :=
  BitVec.toNat_sub _ _

theorem uint64_toNat_shiftRight_40 (a : UInt64) : (a >>> 40).toNat = a.toNat / 2 ^ 40 := by
  show (a.toBitVec >>> (40 : Nat)).toNat = _
  rw [BitVec.toNat_ushiftRight, Nat.shiftRight_eq_div_pow]
  rfl

theorem uint64_toNat_shiftRight_24 (a : UInt64) : (a >>> 24).toNat = a.toNat / 2 ^ 24 := by
  show (a.toBitVec >>> (24 : Nat)).toNat = _
  rw [BitVec.toNat_ushiftRight, Nat.shiftRight_eq_div_pow]
  rfl

theorem uint64_toNat_shiftLeft_24 (a : UInt64) : (a <<< 24).toNat = a.toNat * 2 ^ 24 % 2 ^ 64 := by
  show (a.toBitVec <<< (24 : Nat)).toNat = _
  rw [BitVec.toNat_shiftLeft, Nat.shiftLeft_eq]
  rfl

/-- Shifting the day away and back keeps the low forty bits, the microseconds. -/
theorem usSinceMidnight_eq (time : UInt64) :
    ((time <<< 24) >>> 24).toNat = time.toNat % 2 ^ 40 := by
  rw [uint64_toNat_shiftRight_24, uint64_toNat_shiftLeft_24]
  have := time.toNat_lt_size
  simp only [UInt64.size] at this
  omega

/-! ## The exact epoch second -/

/-- The Modified Julian Day of a timestamp: its top three bytes. -/
def mjd (time : UInt64) : Nat := time.toNat / 2 ^ 40

/-- The microseconds since midnight of a timestamp: its low five bytes. -/
def usSinceMidnight (time : UInt64) : Nat := time.toNat % 2 ^ 40

/-- The epoch second of `time` moved by half the round trip, computed over the
integers in microseconds and floored to seconds. -/
def exactEpochSeconds (time serverRoundTripUs : UInt64) : Int :=
  (((mjd time : Int) - 40587) * 86400000000 + usSinceMidnight time
    + (serverRoundTripUs.toNat / 2 : Nat)) / 1000000

theorem mjd_lt (time : UInt64) : mjd time < 2 ^ 24 := by
  have := time.toNat_lt_size
  simp only [UInt64.size] at this
  unfold mjd
  omega

/-- The day part is a whole number of seconds, so flooring once or twice agrees. -/
theorem exactEpochSeconds_eq (time serverRoundTripUs : UInt64) :
    exactEpochSeconds time serverRoundTripUs = ((mjd time : Int) - 40587) * 86400
      + ((usSinceMidnight time + serverRoundTripUs.toNat / 2) / 1000000 : Nat) := by
  unfold exactEpochSeconds
  omega

/-- The `uint64_t` value is the exact one modulo `2^64`, for every timestamp and
round trip. -/
theorem craggyRoughtimeToEpoc_toNat (roughtimeResult : RoughtimeResult)
    (serverRoundTripUs : UInt64) :
    ((craggyRoughtimeToEpoc roughtimeResult serverRoundTripUs).2.toNat : Int)
      = exactEpochSeconds roughtimeResult.time serverRoundTripUs % 2 ^ 64 := by
  have hm := mjd_lt roughtimeResult.time
  have hr := serverRoundTripUs.toNat_lt_size
  have hu : usSinceMidnight roughtimeResult.time < 2 ^ 40 := Nat.mod_lt _ (by decide)
  simp only [UInt64.size] at hr
  rw [exactEpochSeconds_eq]
  simp only [craggyRoughtimeToEpoc, uint64_toNat_add, uint64_toNat_mul, uint64_toNat_sub,
    UInt64.toNat_div, usSinceMidnight_eq, uint64_toNat_shiftRight_40]
  have h1 : numberOfJulianDaysUntilEpoch.toNat = 40587 := rfl
  have h2 : numberOfSecondsInADay.toNat = 86400 := rfl
  have h3 : numberOfMicrosecondsInSecond.toNat = 1000000 := rfl
  have h4 : (2 : UInt64).toNat = 2 := rfl
  simp only [mjd, usSinceMidnight, h1, h2, h3, h4] at *
  omega

/-- From the epoch day on, the exact second is not negative. -/
theorem exactEpochSeconds_nonneg {time : UInt64} (serverRoundTripUs : UInt64)
    (h : 40587 ≤ mjd time) : 0 ≤ exactEpochSeconds time serverRoundTripUs := by
  rw [exactEpochSeconds_eq]
  omega

/-- The exact second lies strictly between `-2^64` and `2^64`. -/
theorem exactEpochSeconds_bounds (time serverRoundTripUs : UInt64) :
    -2 ^ 64 < exactEpochSeconds time serverRoundTripUs
      ∧ exactEpochSeconds time serverRoundTripUs < 2 ^ 64 := by
  have hm := mjd_lt time
  have hu : usSinceMidnight time < 2 ^ 40 := Nat.mod_lt _ (by decide)
  have hr := serverRoundTripUs.toNat_lt_size
  simp only [UInt64.size] at hr
  rw [exactEpochSeconds_eq]
  omega

/-- The conversion always reports success; `*outTime` is the exact second when
that is not negative, and the exact second wrapped to `2^64 + E` when it is. -/
theorem craggyRoughtimeToEpoc_wraps (roughtimeResult : RoughtimeResult)
    (serverRoundTripUs : UInt64) :
    (craggyRoughtimeToEpoc roughtimeResult serverRoundTripUs).1 = .CraggyResultSuccess
      ∧ (0 ≤ exactEpochSeconds roughtimeResult.time serverRoundTripUs →
          ((craggyRoughtimeToEpoc roughtimeResult serverRoundTripUs).2.toNat : Int)
            = exactEpochSeconds roughtimeResult.time serverRoundTripUs)
      ∧ (exactEpochSeconds roughtimeResult.time serverRoundTripUs < 0 →
          ((craggyRoughtimeToEpoc roughtimeResult serverRoundTripUs).2.toNat : Int)
            = 2 ^ 64 + exactEpochSeconds roughtimeResult.time serverRoundTripUs) := by
  have hb := exactEpochSeconds_bounds roughtimeResult.time serverRoundTripUs
  rw [craggyRoughtimeToEpoc_toNat]
  exact ⟨rfl, fun _ => by omega, fun _ => by omega⟩

/-- From the epoch day on, timestamps convert in order as long as the earlier
one's microsecond field stays below a day: a later timestamp never gives an
earlier second, for any one round trip.  The field is not checked, and one
past a day moves the second past the next midnight. -/
theorem craggyRoughtimeToEpoc_monotone {t₁ t₂ : UInt64} (serverRoundTripUs : UInt64) (hle : t₁.toNat ≤ t₂.toNat)
    (hepoch : 40587 ≤ mjd t₁) (hday : usSinceMidnight t₁ < 86400000000) :
    (craggyRoughtimeToEpoc ⟨t₁⟩ serverRoundTripUs).2.toNat ≤ (craggyRoughtimeToEpoc ⟨t₂⟩ serverRoundTripUs).2.toNat := by
  have hepoch₂ : 40587 ≤ mjd t₂ := le_trans hepoch (Nat.div_le_div_right hle)
  have e₁ := (craggyRoughtimeToEpoc_wraps ⟨t₁⟩ serverRoundTripUs).2.1 (exactEpochSeconds_nonneg _ hepoch)
  have e₂ := (craggyRoughtimeToEpoc_wraps ⟨t₂⟩ serverRoundTripUs).2.1 (exactEpochSeconds_nonneg _ hepoch₂)
  zify
  rw [e₁, e₂, exactEpochSeconds_eq, exactEpochSeconds_eq]
  dsimp only
  have hsplit : t₁.toNat = mjd t₁ * 2 ^ 40 + usSinceMidnight t₁ ∧ t₂.toNat = mjd t₂ * 2 ^ 40 + usSinceMidnight t₂ := by
    unfold mjd usSinceMidnight
    omega
  have hus₂ : usSinceMidnight t₂ < 2 ^ 40 := Nat.mod_lt _ (by decide)
  rcases Nat.lt_or_eq_of_le (Nat.div_le_div_right hle : mjd t₁ ≤ mjd t₂) with hlt | heq
  · -- a later day: the earlier timestamp's field is less than a day
    have : (usSinceMidnight t₁ + serverRoundTripUs.toNat / 2) / 1000000
        ≤ 86400 + (usSinceMidnight t₂ + serverRoundTripUs.toNat / 2) / 1000000 := by omega
    omega
  · -- the same day: the microseconds are in order
    have hus : usSinceMidnight t₁ ≤ usSinceMidnight t₂ := by omega
    have := Nat.div_le_div_right (c := 1000000) (Nat.add_le_add_right hus (serverRoundTripUs.toNat / 2))
    omega

theorem craggyRoughtimeToEpoc_fixture_monotone :
    (65312145749359830 : UInt64).toNat ≤ (65312145749359831 : UInt64).toNat ∧ 40587 ≤ mjd 65312145749359830 ∧
      usSinceMidnight 65312145749359830 < 86400000000 ∧
      (craggyRoughtimeToEpoc ⟨65312145749359830⟩ 1000000).2.toNat
        ≤ (craggyRoughtimeToEpoc ⟨65312145749359831⟩ 1000000).2.toNat :=
  ⟨by decide, by decide, by decide, craggyRoughtimeToEpoc_monotone 1000000 (by decide) (by decide) (by decide)⟩

/-- The fixture of `TestRoughtimeToEpoc`: MJD 59401 and a one second round trip. -/
example : craggyRoughtimeToEpoc ⟨65312145749359830⟩ 1000000
    = (.CraggyResultSuccess, 1625585148) := by decide

/-- At the zero timestamp, MJD 0, the exact second is negative and the function
still reports success, with the wrapped value. -/
theorem craggyRoughtimeToEpoc_reports_pre_epoch :
    (craggyRoughtimeToEpoc ⟨0⟩ 0).1 = .CraggyResultSuccess ∧ exactEpochSeconds 0 0 < 0
      ∧ (craggyRoughtimeToEpoc ⟨0⟩ 0).2 = 18446744070202834816 := by
  decide

end Craggy
