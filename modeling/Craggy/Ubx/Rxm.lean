import Craggy.Ubx.Device

/-!
# The RXM decoders

`ubx_msg_rxm_measx`, `ubx_msg_rxm_rawx`, `ubx_msg_rxm_sfrb` and
`ubx_msg_rxm_sfrbx`.

RXM-MEASX and RXM-RAWX share a shape.  Both check `data_len >= 16`, read the
count of measurement blocks and store it in `raw.avb_meas` before comparing it
with `MAXCHANNELS`, and then decode that many blocks (24 bytes at `44 + 24 * i`
for MEASX, 32 bytes at `16 + 32 * i` for RAWX) without comparing their extent
with `data_len`.  MEASX reads its count at byte 34, past the 16 bytes its guard
asks for.  Every field of a block goes to `raw.meas[svId]` and `skyview[svId]`
with `svId` the block's own byte, unchecked, except two things RAWX does: it
moves an SBAS `svId` down by 100 after storing `gnssid` and `sigid`, and it
copies the observation code into `raw.meas[i]`, the slot of the loop index.

RXM-SFRB and RXM-SFRBX hand the subframe words to gpsd; the loop of SFRBX runs
over `numWords` words only after checking `data_len == 8 + 4 * numWords`.

Reads and stores are in the source's order.  In a MEASX block the code phase is
read once and stored twice, as the source reads it twice at the same offset.
-/

namespace Craggy.Ubx

variable (g : Gpsd)

/-! ## UBX-RXM-MEASX -/

/-- The scale of a MEASX code phase, chips per count. -/
def measxCodephaseScale : Float := 4.76837158e-7

/-- One pass of RXM-MEASX's block loop. -/
def measxBlock (buf : List UInt8) (gpsdata : GpsData) (i : Nat) : Decode GpsData := do
  let off := 24 * i
  let svId := (← getub buf (off + 45)).toNat
  let codephase ← getleu32 buf (off + 60)
  let gpsdata ← gpsdata.setMeas g svId fun m =>
    { m with codephase := Float.ofNat codephase * measxCodephaseScale }
  let gpsdata ← gpsdata.setSkyview g svId fun sat =>
    { sat with codephase := Float.ofNat codephase * measxCodephaseScale }
  let wholeChips ← getleu16 buf (off + 52)
  let fracChips ← getleu16 buf (off + 58)
  let doppler ← getleu32 buf (off + 52)
  gpsdata.setMeas g svId fun m =>
    { m with wholeChips := wholeChips, fracChips := fracChips, doppler := Float.ofNat doppler * 0.2 }

/-- `ubx_msg_rxm_measx`. -/
def ubxMsgRxmMeasx (session : GpsDevice) (buf : List UInt8) (dataLen : Nat) :
    Decode (GpsDevice × Mask) := do
  if 16 > dataLen then return (session, [])
  let numMeas := (← getub buf 34).toNat
  let towMS ← getleu32 buf 4
  let session := { session with
    gpsdata := { session.gpsdata with
      raw := { session.gpsdata.raw with avbMeas := numMeas, mtime := g.msToTs towMS } } }
  if numMeas > g.maxChannels then return (session, [])
  let gpsdata ← (List.range numMeas).foldlM (measxBlock g buf) session.gpsdata
  return ({ session with gpsdata := gpsdata }, [.measxSet])

/-! ## UBX-RXM-RAWX -/

/-- The RINEX observation code `ubx_msg_rxm_rawx` gives a signal; the
`default` labels of the source fall through to the first case. -/
def rawxObsCode (gnssId sigId : Nat) : String :=
  match gnssId with
  | 0 => match sigId with
    | 3 => "L2C"
    | 4 => "L2X"
    | _ => "L1C"
  | 1 => "L1C"
  | 2 => match sigId with
    | 1 => "L1B"
    | 5 => "L7I"
    | 6 => "L7Q"
    | _ => "L1C"
  | 3 => match sigId with
    | 1 => "L2I"
    | 2 => "L7Q"
    | 3 => "L7I"
    | _ => "L2Q"
  | 5 => match sigId with
    | 4 => "L2S"
    | 5 => "L2L"
    | _ => "L1C"
  | 6 => match sigId with
    | 2 => "L2C"
    | _ => "L1C"
  | _ => ""

/-- `trkStat`, a constant in the source: pseudorange and carrier phase valid. -/
def rawxTrkStat : Nat := 0x03

/-- The `raw.meas` entry a RAWX block writes after its SBAS adjustment. -/
def rawxMeasEntry (svId : Int) (freqId cno : Nat) (pseudorange carrierphase doppler : Float)
    (locktime : Nat) (m : Meas) : Meas :=
  { m with
    svid := svId
    freqid := freqId
    snr := cno
    satstat := rawxTrkStat
    pseudorange := pseudorange
    carrierphase := carrierphase
    doppler := doppler
    deltarange := 0
    locktime := locktime
    lli := if 0 = locktime then 2 else m.lli }

/-- One pass of RXM-RAWX's block loop. -/
def rawxBlock (buf : List UInt8) (gpsdata : GpsData) (i : Nat) : Decode GpsData := do
  let off := 32 * i
  let prMes := g.doubleOfBits (← getleu64 buf (off + 16))
  let cpMes := g.doubleOfBits (← getleu64 buf (off + 24))
  let doMes := g.floatOfBits (← getleu32 buf (off + 32))
  let gnssId := (← getub buf (off + 36)).toNat
  let svId : Int := (← getub buf (off + 37)).toNat
  let sigId := (← getub buf (off + 38)).toNat
  let freqId := (← getub buf (off + 39)).toNat
  let locktime ← getleu16 buf (off + 40)
  let cno := (← getub buf (off + 42)).toNat
  let _prStdev ← getub buf (off + 43)
  let _cpStdev ← getub buf (off + 44)
  let _doStdev ← getub buf (off + 45)
  let gpsdata ← gpsdata.setMeas g svId fun m => { m with gnssid := gnssId, sigid := sigId }
  let svId := if gnssId = 1 then svId - 100 else svId
  let gpsdata ← gpsdata.setMeas g i fun m => { m with obsCode := rawxObsCode gnssId sigId }
  let pseudorange := if rawxTrkStat &&& 1 ≠ 0 then prMes else 0
  let carrierphase := if rawxTrkStat &&& 2 ≠ 0 then cpMes else 0
  let gpsdata ← gpsdata.setMeas g svId
    (rawxMeasEntry svId freqId cno pseudorange carrierphase doMes locktime)
  gpsdata.setSkyview g svId fun sat =>
    { sat with pseudorange := pseudorange, carrierphase := carrierphase }

/-- A block that returns a value read up to its byte `off + 45`. -/
theorem rawxBlock_reach {buf : List UInt8} {d : GpsData} {i : Nat} (h : Decode.Succeeds (rawxBlock g buf d i)) :
    32 * i + 46 ≤ (rawxBlock g buf d i).reach := by
  have hlen : 32 * i + 46 ≤ buf.length := by
    simp [rawxBlock] at h
    omega
  simp (disch := omega) only [rawxBlock, getub_eq, getsb_eq, getleu16_eq, getleu32_eq, getleu64_eq,
    readOf_bind_of_le, le_max_iff]
  omega

/-- `ubx_msg_rxm_rawx`.  The receiver time of week, week, leap seconds and
receiver status are read and not stored. -/
def ubxMsgRxmRawx (session : GpsDevice) (buf : List UInt8) (dataLen : Nat) :
    Decode (GpsDevice × Mask) := do
  if 16 > dataLen then return (session, [])
  let _rcvTow ← getleu64 buf 0
  let _week ← getleu16 buf 8
  let _leapS ← getsb buf 10
  let numMeas := (← getub buf 11).toNat
  let session := { session with
    gpsdata := { session.gpsdata with raw := { session.gpsdata.raw with avbMeas := numMeas } } }
  let _recStat ← getub buf 12
  if numMeas > g.maxChannels then return (session, [])
  let gpsdata ← (List.range numMeas).foldlM (rawxBlock g buf) session.gpsdata
  return ({ session with gpsdata := gpsdata }, [.rawSet])

/-! ## UBX-RXM-SFRB and UBX-RXM-SFRBX -/

/-- `ubx_msg_rxm_sfrb`: ten words with their top byte cleared. -/
def ubxMsgRxmSfrb (session : GpsDevice) (buf : List UInt8) (dataLen : Nat) :
    Decode (GpsDevice × Mask) := do
  if 42 > dataLen then return (session, [])
  let _chan ← getub buf 0
  let svid := (← getub buf 1).toNat
  let words ← (List.range 10).mapM fun i => do return (← getleu32 buf (4 * i + 2)) &&& 0x00ffffff
  return (session, g.interpretSubframe svid words)

/-- `ubx_msg_rxm_sfrbx`: `numWords` words into a zeroed array of 17. -/
def ubxMsgRxmSfrbx (session : GpsDevice) (buf : List UInt8) (dataLen : Nat) :
    Decode (GpsDevice × Mask) := do
  if 8 > dataLen then return (session, [])
  let numWords := (← getub buf 4).toNat
  if dataLen ≠ 8 + 4 * numWords ∨ 16 < numWords then return (session, [])
  let gnssId := (← getub buf 0).toNat
  let svId := (← getub buf 1).toNat
  let _freqId ← getub buf 2
  let version := (← getub buf 6).toNat
  let _chn ← getub buf 5
  if 0 = version then return (session, [])
  let words ← (List.range numWords).mapM fun i => getleu32 buf (4 * i + 8)
  return (session, g.interpretSubframeRaw gnssId svId (words ++ List.replicate (17 - numWords) 0) numWords)

end Craggy.Ubx
