import Craggy.Ubx.Nav
import Craggy.Ubx.Rxm

/-!
# `ubx_parse` and runs over frames

`ubx_parse` takes the buffer the serial thread hands it, `msg_buf`, with one
frame at its start: the two sync bytes, class, id, the little-endian payload
length `data_len` at bytes 4 and 5, the payload, and the checksum.  It refuses
a buffer shorter than the six byte header, otherwise sets `iTOW` to `-1`, and
hands `&buf[6]` and `data_len` to the decoder of the message id.  The decoder
so sees everything from the payload's start to the end of the buffer
(`framePayload`), the checksum and the rest of `msg_buf` included, and its
reach counts from there.  Nine ids have a decoder: NAV-PVT, NAV-SAT,
NAV-TIMEGPS, NAV-TIMEUTC, RXM-MEASX, RXM-RAWX, RXM-SFRB, RXM-SFRBX and TIM-TP.
Every other id, the commented out NAV ones included, leaves the device alone.

`ubx_msg_tim_tp` is here, next to the dispatcher, because it is the one
decoder that reads the real-time clock: it takes the reading `now` as an
argument, and so does `ubx_parse`.  It stamps `currTime`, runs its two
pointer-size `memset`s and zeroes `satellites_visible` before it checks
`data_len`.

`ubxRun` is the serial thread's view of a stream: `ubx_parse` on each frame in
turn, each with its clock reading, from the device before the stream.
-/

namespace Craggy.Ubx

variable (g : Gpsd)

/-! ## UBX-TIM-TP -/

/-- `ubx_msg_tim_tp`; `now` is what `clock_gettime(CLOCK_REALTIME, ...)` returns. -/
def ubxMsgTimTp (now : Timespec) (session : GpsDevice) (buf : List UInt8) (dataLen : Nat) :
    Decode (GpsDevice × Mask) := do
  let session := { session with
    gpsdata := { session.gpsdata with
      currTime := now
      skyview := g.clearSkyview session.gpsdata.skyview
      raw := g.clearRaw session.gpsdata.raw
      satellitesVisible := 0 } }
  if 16 > dataLen then return (session, [])
  let towMS ← getleu32 buf 0
  let towSubMS ← getleu32 buf 4
  let _qErr ← getles32 buf 8
  let _week ← getleu16 buf 12
  let flags ← getub buf 14
  let _refInfo ← getub buf 15
  if 3 = flags &&& 0x03 ∧ 0 = towSubMS then
    return ({ session with gpsdata := { session.gpsdata with tpTime := g.msToTs towMS } }, [.onlineSet])
  return (session, [.onlineSet])

/-! ## Message ids -/

/-- `UBX_MSGID(cls_, id_)`. -/
def ubxMsgid (cls id : Nat) : Nat := cls <<< 8 ||| id

/-- `UBX_NAV_PVT`. -/
def ubxNavPvt : Nat := ubxMsgid 0x01 0x07
/-- `UBX_NAV_SAT`. -/
def ubxNavSat : Nat := ubxMsgid 0x01 0x35
/-- `UBX_NAV_TIMEGPS`. -/
def ubxNavTimegps : Nat := ubxMsgid 0x01 0x20
/-- `UBX_NAV_TIMEUTC`. -/
def ubxNavTimeutc : Nat := ubxMsgid 0x01 0x21
/-- `UBX_RXM_MEASX`. -/
def ubxRxmMeasx : Nat := ubxMsgid 0x02 0x14
/-- `UBX_RXM_RAWX`. -/
def ubxRxmRawx : Nat := ubxMsgid 0x02 0x15
/-- `UBX_RXM_SFRB`. -/
def ubxRxmSfrb : Nat := ubxMsgid 0x02 0x11
/-- `UBX_RXM_SFRBX`. -/
def ubxRxmSfrbx : Nat := ubxMsgid 0x02 0x13
/-- `UBX_TIM_TP`. -/
def ubxTimTp : Nat := ubxMsgid 0x0d 0x01

/-! ## The dispatcher -/

/-- The ids `ubx_parse` has a decoder for. -/
def ubxDecodedIds : List Nat :=
  [ubxNavPvt, ubxNavSat, ubxNavTimegps, ubxNavTimeutc, ubxRxmMeasx, ubxRxmRawx, ubxRxmSfrb, ubxRxmSfrbx, ubxTimTp]

/-- The `switch (msgid)` of `ubx_parse`: the decoder of the id on the payload,
or the device unchanged and an empty mask. -/
def ubxDispatch (now : Timespec) (session : GpsDevice) (msgid : Nat) (payload : List UInt8)
    (dataLen : Nat) : Decode (GpsDevice × Mask) :=
  if msgid = ubxNavPvt then ubxMsgNavPvt g session payload dataLen
  else if msgid = ubxNavSat then ubxMsgNavSat g session payload dataLen
  else if msgid = ubxNavTimegps then ubxMsgNavTimegps g session payload dataLen
  else if msgid = ubxNavTimeutc then ubxMsgNavTimeutc g session payload dataLen
  else if msgid = ubxRxmMeasx then ubxMsgRxmMeasx g session payload dataLen
  else if msgid = ubxRxmRawx then ubxMsgRxmRawx g session payload dataLen
  else if msgid = ubxRxmSfrb then ubxMsgRxmSfrb g session payload dataLen
  else if msgid = ubxRxmSfrbx then ubxMsgRxmSfrbx g session payload dataLen
  else if msgid = ubxTimTp then ubxMsgTimTp g now session payload dataLen
  else pure (session, [])

/-- `UBX_PREFIX_LEN`. -/
def ubxPrefixLen : Nat := 6

/-! ## A frame's header -/

/-- The message id bytes 2 and 3 of a frame carry. -/
def frameMsgid (buf : List UInt8) : Nat := (byteAt buf 2).toNat <<< 8 ||| (byteAt buf 3).toNat

/-- The payload length `data_len` bytes 4 and 5 of a frame carry. -/
def frameDataLen (buf : List UInt8) : Nat := le16 buf 4

/-- What `ubx_parse` hands a decoder: the buffer from the payload's start on. -/
def framePayload (buf : List UInt8) : List UInt8 := buf.drop ubxPrefixLen

/-- A frame alone, as a fragment that holds it whole: `data_len` bytes of
payload between the six byte header and the two checksum bytes. -/
def WellSized (buf : List UInt8) : Prop := buf.length = ubxPrefixLen + frameDataLen buf + 2

instance (buf : List UInt8) : Decidable (WellSized buf) :=
  inferInstanceAs (Decidable (buf.length = _))

/-! ## `ubx_parse` -/

/-- `ubx_parse` on the buffer `buf`, of length `len`.  The header bytes lie in
the six that the first check asks for, so the id and `data_len` are the values
of `frameMsgid` and `frameDataLen`; the decoder's reads are of `&buf[6]`. -/
def ubxParse (now : Timespec) (session : GpsDevice) (buf : List UInt8) :
    Decode (GpsDevice × Mask) := do
  if ubxPrefixLen > buf.length then return (session, [])
  let r ← ubxDispatch g now { session with iTOW := -1 } (frameMsgid buf) (framePayload buf) (frameDataLen buf)
  return (r.1, r.2 ++ [.onlineSet])

/-- `ubx_parse` on a buffer with a full header: the decoder of its id on its payload. -/
theorem ubxParse_eq {now : Timespec} {session : GpsDevice} {buf : List UInt8}
    (h : ubxPrefixLen ≤ buf.length) :
    ubxParse g now session buf =
      (ubxDispatch g now { session with iTOW := -1 } (frameMsgid buf) (framePayload buf)
        (frameDataLen buf)) >>= fun r => pure (r.1, r.2 ++ [.onlineSet]) := by
  rw [ubxParse, if_neg (Nat.not_lt.2 h), pure_bind]

section Dispatch

variable {now : Timespec} {session : GpsDevice} {msgid : Nat} {payload : List UInt8} {dataLen : Nat}

/-- What the dispatcher can do: run the decoder of `msgid`, or, for an id with
no decoder, return the device unchanged.  A property of each of these outcomes
is a property of the dispatcher's. -/
theorem ubxDispatch_rec (P : Decode (GpsDevice × Mask) → Prop)
    (navPvt : msgid = ubxNavPvt → P (ubxMsgNavPvt g session payload dataLen))
    (navSat : msgid = ubxNavSat → P (ubxMsgNavSat g session payload dataLen))
    (navTimegps : msgid = ubxNavTimegps → P (ubxMsgNavTimegps g session payload dataLen))
    (navTimeutc : msgid = ubxNavTimeutc → P (ubxMsgNavTimeutc g session payload dataLen))
    (rxmMeasx : msgid = ubxRxmMeasx → P (ubxMsgRxmMeasx g session payload dataLen))
    (rxmRawx : msgid = ubxRxmRawx → P (ubxMsgRxmRawx g session payload dataLen))
    (rxmSfrb : msgid = ubxRxmSfrb → P (ubxMsgRxmSfrb g session payload dataLen))
    (rxmSfrbx : msgid = ubxRxmSfrbx → P (ubxMsgRxmSfrbx g session payload dataLen))
    (timTp : msgid = ubxTimTp → P (ubxMsgTimTp g now session payload dataLen))
    (other : msgid ∉ ubxDecodedIds → P (pure (session, []))) :
    P (ubxDispatch g now session msgid payload dataLen) := by
  unfold ubxDispatch
  exact iteInduction navPvt fun h1 => iteInduction navSat fun h2 => iteInduction navTimegps fun h3 =>
    iteInduction navTimeutc fun h4 => iteInduction rxmMeasx fun h5 => iteInduction rxmRawx fun h6 =>
    iteInduction rxmSfrb fun h7 => iteInduction rxmSfrbx fun h8 => iteInduction timTp fun h9 =>
    other (by simp [ubxDecodedIds, h1, h2, h3, h4, h5, h6, h7, h8, h9])

@[simp] theorem ubxDispatch_navPvt :
    ubxDispatch g now session ubxNavPvt payload dataLen = ubxMsgNavPvt g session payload dataLen := rfl

@[simp] theorem ubxDispatch_navSat :
    ubxDispatch g now session ubxNavSat payload dataLen = ubxMsgNavSat g session payload dataLen := rfl

@[simp] theorem ubxDispatch_navTimegps :
    ubxDispatch g now session ubxNavTimegps payload dataLen = ubxMsgNavTimegps g session payload dataLen :=
  rfl

@[simp] theorem ubxDispatch_navTimeutc :
    ubxDispatch g now session ubxNavTimeutc payload dataLen = ubxMsgNavTimeutc g session payload dataLen :=
  rfl

@[simp] theorem ubxDispatch_rxmMeasx :
    ubxDispatch g now session ubxRxmMeasx payload dataLen = ubxMsgRxmMeasx g session payload dataLen := rfl

@[simp] theorem ubxDispatch_rxmRawx :
    ubxDispatch g now session ubxRxmRawx payload dataLen = ubxMsgRxmRawx g session payload dataLen := rfl

@[simp] theorem ubxDispatch_rxmSfrb :
    ubxDispatch g now session ubxRxmSfrb payload dataLen = ubxMsgRxmSfrb g session payload dataLen := rfl

@[simp] theorem ubxDispatch_rxmSfrbx :
    ubxDispatch g now session ubxRxmSfrbx payload dataLen = ubxMsgRxmSfrbx g session payload dataLen := rfl

@[simp] theorem ubxDispatch_timTp :
    ubxDispatch g now session ubxTimTp payload dataLen = ubxMsgTimTp g now session payload dataLen := rfl

end Dispatch

/-- `ubx_parse` on every frame of a stream in turn, each with its clock reading. -/
def ubxRun (session : GpsDevice) : List (Timespec × List UInt8) → Decode GpsDevice
  | [] => pure session
  | (now, frame) :: frames => do
    let r ← ubxParse g now session frame
    ubxRun r.1 frames

end Craggy.Ubx
