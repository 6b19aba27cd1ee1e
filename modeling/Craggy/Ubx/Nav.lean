import Craggy.Ubx.Device

/-!
# The NAV decoders

`ubx_msg_nav_pvt`, `ubx_msg_nav_timegps`, `ubx_msg_nav_timeutc` and
`ubx_msg_nav_sat`, the NAV messages `ubx_parse` dispatches.  Each takes the
payload `buf` (the bytes after the six byte header) and its declared length
`data_len`, and returns the device and the mask it reports.

The first three check `data_len` against the largest offset they read, so they
never read past it.  NAV-SAT checks `data_len >= 8`, the version byte and the
count `nchan <= MAXCHANNELS`, and then decodes `nchan` blocks of 12 bytes at
`8 + 12 * i` without comparing `8 + 12 * nchan` with `data_len`.  Inside a
block it reads the flags word at `off + 16`, four bytes into the next block,
so that every block reaches `off + 20` (`navSatBlock_reach`) and the last
block of a payload of `8 + 12 * nchan` bytes reads eight bytes past it.  It
stores every field of block `i` into `skyview[svId]`, where `svId` is the
block's second byte, with no check against `MAXCHANNELS`.

Reads and stores are in the source's order, except in a NAV-SAT block, where
the elevation and azimuth bytes are read before the one store of the block.
Those bytes lie below the flags word, which is read first, so the reordering
changes neither the values, nor which fault a run ends in, nor its reach.
-/

namespace Craggy.Ubx

variable (g : Gpsd)

/-! ## UBX-NAV-PVT -/

/-- `UBX_NAV_PVT_VALID_DATE_TIME`. -/
def ubxNavPvtValidDateTime : UInt8 := 0x01 ||| 0x02

/-- `UBX_NAV_PVT_VALID_MAG`. -/
def ubxNavPvtValidMag : UInt8 := 0x08

/-- The date of a NAV-PVT payload as the `struct tm` passed to `mkgmtime`. -/
def navPvtDate (buf : List UInt8) : Decode Tm := do
  let year ← getleu16 buf 4
  let mon ← getub buf 6
  let mday ← getub buf 7
  let hour ← getub buf 8
  let min ← getub buf 9
  let sec ← getub buf 10
  return ⟨(year : Int) - 1900, (mon.toNat : Int) - 1, mday.toNat, hour.toNat, min.toNat, sec.toNat⟩

/-- `ubx_msg_nav_pvt`. -/
def ubxMsgNavPvt (session : GpsDevice) (buf : List UInt8) (dataLen : Nat) :
    Decode (GpsDevice × Mask) := do
  if 84 > dataLen then return (session, [])
  let iTOW ← getleu32 buf 0
  let valid ← getub buf 11
  let fixType ← getub buf 20
  let _flags ← getub buf 21
  let time ← if valid &&& ubxNavPvtValidDateTime = ubxNavPvtValidDateTime then do
      let date ← navPvtDate buf
      let nano ← getles32 buf 16
      pure (some (g.tsNorm ⟨g.mkgmtime date, nano⟩))
    else pure none
  let lon ← getles32 buf 24
  let lat ← getles32 buf 28
  let hae ← getles32 buf 32
  let msl ← getles32 buf 36
  let speed ← getles32 buf 60
  let track ← getles32 buf 64
  let eph ← getles32 buf 40
  let epv ← getles32 buf 44
  let eps ← getles32 buf 68
  if 92 ≤ dataLen ∧ valid &&& ubxNavPvtValidMag ≠ 0 then
    let _magDec ← getles16 buf 88
    let _magAcc ← getleu16 buf 90
  let fix :=
    { session.gpsdata.fix with
      mode := fixType.toNat
      time := time.getD session.gpsdata.fix.time
      longitude := 1e-7 * Float.ofInt lon
      latitude := 1e-7 * Float.ofInt lat
      altHAE := 1e-3 * Float.ofInt hae
      altMSL := 1e-3 * Float.ofInt msl
      speed := 1e-3 * Float.ofInt speed
      track := 1e-5 * Float.ofInt track
      eph := Float.ofInt eph / 1000.0
      epv := Float.ofInt epv / 1000.0
      eps := Float.ofInt eps / 1000.0 }
  let mask : Mask := (if time.isSome then [.timeSet, .ntptimeIs, .goodtimeIs] else [])
    ++ [.latlonSet, .altitudeSet, .speedSet, .trackSet, .herrSet, .speederrSet, .verrSet]
  return ({ session with iTOW := iTOW, gpsdata := { session.gpsdata with fix := fix } }, mask)

/-! ## UBX-NAV-TIMEGPS and UBX-NAV-TIMEUTC -/

/-- `UBX_TIMEGPS_VALID_TIME | UBX_TIMEGPS_VALID_WEEK`. -/
def ubxTimegpsValidTime : UInt8 := 0x01 ||| 0x02

/-- `ubx_msg_nav_timegps`.  The leap second branch of the source is empty. -/
def ubxMsgNavTimegps (session : GpsDevice) (buf : List UInt8) (dataLen : Nat) :
    Decode (GpsDevice × Mask) := do
  if 16 > dataLen then return (session, [])
  let iTOW ← getleu32 buf 0
  let valid ← getub buf 11
  if valid &&& ubxTimegpsValidTime = ubxTimegpsValidTime then
    let week ← getles16 buf 8
    let tow := g.msToTs iTOW
    let ftow ← getles32 buf 4
    let tow := g.tsNorm { tow with tvNsec := tow.tvNsec + ftow }
    let tAcc ← getleu32 buf 12
    let fix :=
      { session.gpsdata.fix with
        gpsTimeItow := tow.tvSec
        gpsTimeFtow := tow.tvNsec
        gpsTimeWeekn := week % 2 ^ 16
        ept := Float.ofNat tAcc * 1e-9 }
    return ({ session with iTOW := iTOW, gpsdata := { session.gpsdata with fix := fix } },
      [.gpstimeSet, .timeSet, .ntptimeIs])
  return ({ session with iTOW := iTOW }, [])

/-- `ubx_msg_nav_timeutc`. -/
def ubxMsgNavTimeutc (session : GpsDevice) (buf : List UInt8) (dataLen : Nat) :
    Decode (GpsDevice × Mask) := do
  if 20 > dataLen then return (session, [])
  let iTOW ← getleu32 buf 0
  let valid ← getub buf 19
  if 4 = 4 &&& valid then
    let _tAcc ← getleu32 buf 4
    let nano ← getles32 buf 8
    let year ← getleu16 buf 12
    let mon ← getub buf 14
    let mday ← getub buf 15
    let hour ← getub buf 16
    let min ← getub buf 17
    let sec ← getub buf 18
    let date : Tm :=
      ⟨(year : Int) - 1900, (mon.toNat : Int) - 1, mday.toNat, hour.toNat, min.toNat, sec.toNat⟩
    let fix := { session.gpsdata.fix with time := g.tsNorm ⟨g.mkgmtime date, nano⟩ }
    return ({ session with iTOW := iTOW, gpsdata := { session.gpsdata with fix := fix } },
      [.timeSet, .ntptimeIs, .goodtimeIs])
  return ({ session with iTOW := iTOW }, [])

/-! ## UBX-NAV-SAT -/

/-- The `skyview[svId]` entry a NAV-SAT block writes, from the entry before. -/
def navSatEntry (gnssId : UInt8) (svId : Nat) (prn : Int) (cno : UInt8) (flags : Nat)
    (elevation azimuth : Int) (sat : Satellite) : Satellite :=
  { sat with
    gnssid := gnssId.toNat
    svid := svId
    prn := prn
    ss := Float.ofNat cno.toNat
    elevation := if elevation.natAbs ≤ 90 then Float.ofInt elevation else sat.elevation
    azimuth := if azimuth ≤ 359 ∧ 0 ≤ azimuth then Float.ofInt azimuth else sat.azimuth
    used := flags &&& 0x08 ≠ 0
    health := (flags >>> 4) &&& 3
    qi := flags &&& 3 }

/-- One pass of NAV-SAT's block loop: block `i` stored into `skyview[svId]`,
and the count of used satellites `nsv`. -/
def navSatBlock (buf : List UInt8) (acc : GpsData × Nat) (i : Nat) : Decode (GpsData × Nat) := do
  let off := 8 + 12 * i
  let gnssId ← getub buf off
  let svId := (← getub buf (off + 1)).toNat
  let cno ← getub buf (off + 2)
  let flags ← getleu32 buf (off + 16)
  let elevation ← getsb buf (off + 3)
  let azimuth ← getles16 buf (off + 4)
  let gpsdata ← acc.1.setSkyview g svId
    (navSatEntry gnssId svId (g.ubx2ToPrn gnssId.toNat svId) cno flags elevation azimuth)
  return (gpsdata, if flags &&& 0x08 ≠ 0 then acc.2 + 1 else acc.2)

/-- Block `i` of a buffer that holds the block's reads, with an `svId` inside
the arrays: the store into `skyview[svId]`, and the count raised by bit 3 of
the word at `off + 16`. -/
theorem navSatBlock_eq_ok {buf : List UInt8} (acc : GpsData × Nat) (i : Nat)
    (hlen : 8 + 12 * i + 20 ≤ buf.length) (hin : g.InRange (byteAt buf (8 + 12 * i + 1)).toNat) :
    (navSatBlock g buf acc i).result =
      .ok ({ acc.1 with
          skyview := updateAt acc.1.skyview (byteAt buf (8 + 12 * i + 1)).toNat
            (navSatEntry (byteAt buf (8 + 12 * i)) (byteAt buf (8 + 12 * i + 1)).toNat
              (g.ubx2ToPrn (byteAt buf (8 + 12 * i)).toNat (byteAt buf (8 + 12 * i + 1)).toNat)
              (byteAt buf (8 + 12 * i + 2)) (le32 buf (8 + 12 * i + 16))
              (toSigned 8 (byteAt buf (8 + 12 * i + 3)).toNat) (toSigned 16 (le16 buf (8 + 12 * i + 4)))
              (acc.1.skyview (byteAt buf (8 + 12 * i + 1)).toNat)) },
        if le32 buf (8 + 12 * i + 16) &&& 0x08 ≠ 0 then acc.2 + 1 else acc.2) := by
  simp (disch := omega) only [navSatBlock, getub_eq, getleu32_eq, getsb_eq, getles16_eq, readOf_bind_of_le]
  simp [GpsData.setSkyview, hin]

/-- A block that returns a value read its flags word, four bytes into the next block. -/
theorem navSatBlock_reach {buf : List UInt8} {acc : GpsData × Nat} {i : Nat}
    (h : Decode.Succeeds (navSatBlock g buf acc i)) : 8 + 12 * i + 20 ≤ (navSatBlock g buf acc i).reach := by
  have hlen : 8 + 12 * i + 3 ≤ buf.length := by
    simp only [navSatBlock, getub_eq, Decode.succeeds_bind, Decode.succeeds_readOf, Decode.always_readOf] at h
    have := ((h.2 h.1).2 (h.2 h.1).1).1
    omega
  simp (disch := omega) only [navSatBlock, getub_eq, readOf_bind_of_le]
  refine le_max_of_le_right (le_max_of_le_right (le_max_of_le_right ?_))
  exact (Decode.le_reach_bind _ _).trans' (by simp)

/-- `ubx_msg_nav_sat`. -/
def ubxMsgNavSat (session : GpsDevice) (buf : List UInt8) (dataLen : Nat) :
    Decode (GpsDevice × Mask) := do
  if 8 > dataLen then return (session, [])
  let iTOW ← getleu32 buf 0
  let session := { session with iTOW := iTOW }
  let ver ← getub buf 4
  if 1 ≠ ver then return (session, [])
  let nchan := (← getub buf 5).toNat
  if nchan > g.maxChannels then return (session, [])
  let r ← (List.range nchan).foldlM (navSatBlock g buf) (session.gpsdata, 0)
  return ({ session with gpsdata := { r.1 with satellitesVisible := nchan, satellitesUsed := r.2 } },
    [.satelliteSet, .usedIs])

end Craggy.Ubx
