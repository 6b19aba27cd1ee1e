import Craggy.Ubx.Payload

/-!
# The device record the UBX decoders write

`struct gps_device_t` and the records inside it are declared in gpsd's
`gps.h` and `gpsd.h`, which are not in the source.  The structures here hold
exactly the fields the decoders of the driver write, under the names the
driver uses; integer fields hold the value the driver assigns, before any
narrowing to the field's declared C type, which the source does not show.

Everything else the driver takes from gpsd is a field of `Gpsd`: the array
size `MAXCHANNELS`, the helpers `ubx2_to_prn`, `mkgmtime`,
`gpsd_interpret_subframe` and `gpsd_interpret_subframe_raw`, the macros
`TS_NORM` and `MSTOTS`, the reinterpretation of raw bits as `double` and
`float` in `getled64` and `getlef32`, and what zeroing the first pointer-size
bytes of `skyview` and of `raw` does, which depends on the layout of those
records.  Every theorem about the decoders holds for every `Gpsd`.

`skyview` and `raw.meas` are total maps from indices; a store goes through
`GpsData.setSkyview` or `GpsData.setMeas`, which fault with `badIndex` outside
`[0, MAXCHANNELS)`.  So a run that ends without a fault never wrote outside
the arrays.
-/

namespace Craggy.Ubx

/-! ## Records -/

/-- `timespec_t`. -/
structure Timespec where
  /-- `tv_sec`. -/
  tvSec : Int
  /-- `tv_nsec`. -/
  tvNsec : Int
  deriving DecidableEq, Repr

/-- The zero `timespec_t`. -/
def Timespec.zero : Timespec := ⟨0, 0⟩

/-- `struct tm`, with the fields the decoders set before calling `mkgmtime`. -/
structure Tm where
  /-- `tm_year`, years since 1900. -/
  tmYear : Int
  /-- `tm_mon`, months since January. -/
  tmMon : Int
  /-- `tm_mday`. -/
  tmMday : Int
  /-- `tm_hour`. -/
  tmHour : Int
  /-- `tm_min`. -/
  tmMin : Int
  /-- `tm_sec`. -/
  tmSec : Int

/-- `struct satellite_t`, one entry of `skyview`. -/
structure Satellite where
  /-- `gnssid`. -/
  gnssid : Nat
  /-- `svid`. -/
  svid : Int
  /-- `PRN`. -/
  prn : Int
  /-- `ss`, the carrier to noise ratio. -/
  ss : Float
  /-- `elevation`, degrees. -/
  elevation : Float
  /-- `azimuth`, degrees. -/
  azimuth : Float
  /-- `used`: in the solution. -/
  used : Bool
  /-- `health`. -/
  health : Nat
  /-- `qi`, the signal quality. -/
  qi : Nat
  /-- `codephase`. -/
  codephase : Float
  /-- `pseudorange`. -/
  pseudorange : Float
  /-- `carrierphase`. -/
  carrierphase : Float

/-- `struct meas_t`, one entry of `raw.meas`. -/
structure Meas where
  /-- `gnssid`. -/
  gnssid : Nat
  /-- `sigid`. -/
  sigid : Nat
  /-- `svid`. -/
  svid : Int
  /-- `freqid`. -/
  freqid : Nat
  /-- `snr`. -/
  snr : Nat
  /-- `satstat`, the tracking state. -/
  satstat : Nat
  /-- `obs_code`, the RINEX observation code. -/
  obsCode : String
  /-- `pseudorange`. -/
  pseudorange : Float
  /-- `carrierphase`. -/
  carrierphase : Float
  /-- `doppler`. -/
  doppler : Float
  /-- `deltarange`. -/
  deltarange : Float
  /-- `locktime`. -/
  locktime : Nat
  /-- `lli`, the loss of lock indicator. -/
  lli : Nat
  /-- `codephase`. -/
  codephase : Float
  /-- `wholeChips`. -/
  wholeChips : Nat
  /-- `fracChips`. -/
  fracChips : Nat

/-- `struct gps_raw_t`. -/
structure Raw where
  /-- `avb_meas`: how many measurements the last message declared. -/
  avbMeas : Nat
  /-- `mtime`: the measurement time. -/
  mtime : Timespec
  /-- `meas[]`. -/
  meas : Nat → Meas

/-- `struct gps_fix_t`, the fields the decoders set. -/
structure Fix where
  /-- `mode`. -/
  mode : Nat
  /-- `time`. -/
  time : Timespec
  /-- `longitude`. -/
  longitude : Float
  /-- `latitude`. -/
  latitude : Float
  /-- `altHAE`. -/
  altHAE : Float
  /-- `altMSL`. -/
  altMSL : Float
  /-- `speed`. -/
  speed : Float
  /-- `track`. -/
  track : Float
  /-- `eph`. -/
  eph : Float
  /-- `epv`. -/
  epv : Float
  /-- `eps`. -/
  eps : Float
  /-- `ept`. -/
  ept : Float
  /-- `gps_time_itow`. -/
  gpsTimeItow : Int
  /-- `gps_time_ftow`. -/
  gpsTimeFtow : Int
  /-- `gps_time_weekn`. -/
  gpsTimeWeekn : Int

/-- `struct gps_data_t`, the fields the decoders set. -/
structure GpsData where
  /-- `fix`. -/
  fix : Fix
  /-- `skyview[]`. -/
  skyview : Nat → Satellite
  /-- `raw`. -/
  raw : Raw
  /-- `satellites_visible`. -/
  satellitesVisible : Nat
  /-- `satellites_used`. -/
  satellitesUsed : Nat
  /-- `currTime`: when the last time pulse message arrived. -/
  currTime : Timespec
  /-- `tpTime`: the time of week of the last valid time pulse. -/
  tpTime : Timespec

/-- `struct gps_device_t`, the fields the decoders set. -/
structure GpsDevice where
  /-- `gpsdata`. -/
  gpsdata : GpsData
  /-- `iTOW`: the time of week of the message being decoded, `-1` when it has none. -/
  iTOW : Int

/-! ## The zeroed device -/

/-- A `satellite_t` of zero bytes. -/
def Satellite.zero : Satellite := ⟨0, 0, 0, 0, 0, 0, false, 0, 0, 0, 0, 0⟩

/-- A `meas_t` of zero bytes. -/
def Meas.zero : Meas := ⟨0, 0, 0, 0, 0, 0, "", 0, 0, 0, 0, 0, 0, 0, 0, 0⟩

/-- The device `gps_serial_thread_ep` starts from: `memset` to zero, then
`gpsd_zero_satellites` and `gpsd_zero_raw`. -/
def GpsDevice.zero : GpsDevice where
  gpsdata :=
    { fix := ⟨0, .zero, 0, 0, 0, 0, 0, 0, 0, 0, 0, 0, 0, 0, 0⟩
      skyview := fun _ => .zero
      raw := ⟨0, .zero, fun _ => .zero⟩
      satellitesVisible := 0
      satellitesUsed := 0
      currTime := .zero
      tpTime := .zero }
  iTOW := 0

/-! ## What the driver takes from gpsd -/

/-- The bits of `gps_mask_t` the decoders set. -/
inductive MaskFlag where
  | onlineSet | timeSet | ntptimeIs | goodtimeIs | latlonSet | altitudeSet | speedSet | trackSet
  | herrSet | speederrSet | verrSet | gpstimeSet | satelliteSet | usedIs | measxSet | rawSet
  deriving DecidableEq, Repr

/-- `gps_mask_t`, as the set of its bits. -/
abbrev Mask := List MaskFlag

/-- gpsd's part of the driver, none of which is in the source. -/
structure Gpsd where
  /-- `MAXCHANNELS`, the length of `skyview[]` and `raw.meas[]`. -/
  maxChannels : Nat
  /-- `ubx2_to_prn(gnssId, svId)`. -/
  ubx2ToPrn : Nat → Nat → Int
  /-- `mkgmtime`. -/
  mkgmtime : Tm → Int
  /-- `TS_NORM`. -/
  tsNorm : Timespec → Timespec
  /-- `MSTOTS`: milliseconds to a `timespec_t`. -/
  msToTs : Int → Timespec
  /-- The `double` whose bits `getled64` reads. -/
  doubleOfBits : Nat → Float
  /-- The `float` whose bits `getlef32` reads. -/
  floatOfBits : Nat → Float
  /-- The mask `gpsd_interpret_subframe(session, GNSSID_GPS, svid, words)` returns. -/
  interpretSubframe : Nat → List Nat → Mask
  /-- The mask `gpsd_interpret_subframe_raw(session, gnssId, svId, words, numWords)` returns. -/
  interpretSubframeRaw : Nat → Nat → List Nat → Nat → Mask
  /-- `memset(&skyview, 0, sizeof(&skyview))`: the first pointer-size bytes zeroed. -/
  clearSkyview : (Nat → Satellite) → Nat → Satellite
  /-- `memset(&raw, 0, sizeof(&raw))`: the first pointer-size bytes zeroed. -/
  clearRaw : Raw → Raw

/-- A `Gpsd` for concrete runs: 140 channels, every helper returning zero or
its argument, and `memset`s that clear nothing the theorems look at. -/
def Gpsd.sample : Gpsd where
  maxChannels := 140
  ubx2ToPrn _ svId := svId
  mkgmtime _ := 0
  tsNorm := id
  msToTs ms := ⟨ms / 1000, ms % 1000 * 1000000⟩
  doubleOfBits _ := 0
  floatOfBits _ := 0
  interpretSubframe _ _ := []
  interpretSubframeRaw _ _ _ _ := []
  clearSkyview := id
  clearRaw := id

/-! ## Stores into the arrays -/

/-- The map `t` with entry `i` replaced by `a`. -/
def updateAt {α : Type} (t : Nat → α) (i : Nat) (a : α) : Nat → α :=
  fun j => if j = i then a else t j

@[simp] theorem updateAt_same {α : Type} (t : Nat → α) (i : Nat) (a : α) : updateAt t i a i = a := by
  simp [updateAt]

theorem updateAt_ne {α : Type} (t : Nat → α) {i j : Nat} (a : α) (h : j ≠ i) :
    updateAt t i a j = t j := by
  simp [updateAt, h]

/-- An index the arrays of length `MAXCHANNELS` have. -/
def Gpsd.InRange (g : Gpsd) (idx : Int) : Prop := 0 ≤ idx ∧ idx < g.maxChannels

instance (g : Gpsd) (idx : Int) : Decidable (g.InRange idx) :=
  inferInstanceAs (Decidable (0 ≤ idx ∧ idx < g.maxChannels))

/-- `skyview[idx]` rewritten by `f`. -/
def GpsData.setSkyview (g : Gpsd) (d : GpsData) (idx : Int) (f : Satellite → Satellite) :
    Decode GpsData :=
  if g.InRange idx then pure { d with skyview := updateAt d.skyview idx.toNat (f (d.skyview idx.toNat)) }
  else .fault (.badIndex idx)

/-- `raw.meas[idx]` rewritten by `f`. -/
def GpsData.setMeas (g : Gpsd) (d : GpsData) (idx : Int) (f : Meas → Meas) : Decode GpsData :=
  if g.InRange idx then
    pure { d with raw := { d.raw with meas := updateAt d.raw.meas idx.toNat (f (d.raw.meas idx.toNat)) } }
  else .fault (.badIndex idx)

section Stores

variable {g : Gpsd} {d d' : GpsData} {idx : Int}

/-- A store succeeds exactly inside the array, and changes one entry of `skyview`. -/
theorem GpsData.setSkyview_eq_ok {f : Satellite → Satellite} (h : (d.setSkyview g idx f).result = .ok d') :
    g.InRange idx ∧ d' = { d with skyview := updateAt d.skyview idx.toNat (f (d.skyview idx.toNat)) } := by
  unfold GpsData.setSkyview at h
  split at h
  · exact ⟨‹_›, (Except.ok.inj h).symm⟩
  · cases h

/-- A store succeeds exactly inside the array, and changes one entry of `raw.meas`. -/
theorem GpsData.setMeas_eq_ok {f : Meas → Meas} (h : (d.setMeas g idx f).result = .ok d') :
    g.InRange idx ∧
      d' = { d with raw := { d.raw with meas := updateAt d.raw.meas idx.toNat (f (d.raw.meas idx.toNat)) } } := by
  unfold GpsData.setMeas at h
  split at h
  · exact ⟨‹_›, (Except.ok.inj h).symm⟩
  · cases h

theorem GpsData.setSkyview_of_not_inRange (f : Satellite → Satellite) (h : ¬ g.InRange idx) :
    d.setSkyview g idx f = .fault (.badIndex idx) := by
  simp [GpsData.setSkyview, h]

theorem GpsData.setMeas_of_not_inRange (f : Meas → Meas) (h : ¬ g.InRange idx) :
    d.setMeas g idx f = .fault (.badIndex idx) := by
  simp [GpsData.setMeas, h]

/-- A store reads no payload byte. -/
@[simp] theorem GpsData.setSkyview_reach (f : Satellite → Satellite) : (d.setSkyview g idx f).reach = 0 := by
  unfold GpsData.setSkyview
  split <;> rfl

@[simp] theorem GpsData.setMeas_reach (f : Meas → Meas) : (d.setMeas g idx f).reach = 0 := by
  unfold GpsData.setMeas
  split <;> rfl

@[simp] theorem GpsData.setSkyview_always {P : GpsData → Prop} (f : Satellite → Satellite) :
    Decode.Always (d.setSkyview g idx f) P ↔
      (g.InRange idx → P { d with skyview := updateAt d.skyview idx.toNat (f (d.skyview idx.toNat)) }) := by
  unfold GpsData.setSkyview
  split <;> simp_all

@[simp] theorem GpsData.setMeas_always {P : GpsData → Prop} (f : Meas → Meas) :
    Decode.Always (d.setMeas g idx f) P ↔
      (g.InRange idx →
        P { d with raw := { d.raw with meas := updateAt d.raw.meas idx.toNat (f (d.raw.meas idx.toNat)) } }) := by
  unfold GpsData.setMeas
  split <;> simp_all

@[simp] theorem GpsData.setSkyview_succeeds (f : Satellite → Satellite) :
    Decode.Succeeds (d.setSkyview g idx f) ↔ g.InRange idx := by
  unfold GpsData.setSkyview
  split <;> simp_all

@[simp] theorem GpsData.setMeas_succeeds (f : Meas → Meas) :
    Decode.Succeeds (d.setMeas g idx f) ↔ g.InRange idx := by
  unfold GpsData.setMeas
  split <;> simp_all

end Stores

end Craggy.Ubx
