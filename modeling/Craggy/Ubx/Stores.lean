import Craggy.Ubx.Parse

/-!
# Where the block loops store

The block loops of NAV-SAT, RXM-MEASX and RXM-RAWX index `skyview[]` and
`raw.meas[]` with the `svId` byte of the block, and never compare it with
`MAXCHANNELS`; a store outside the arrays is the fault `badIndex`.

RXM-RAWX moves the `svId` of an SBAS block (`gnssId == 1`) down by 100 after
its first store, so an SBAS `svId` below 100 reaches `raw.meas[]` at a
negative index, whatever `MAXCHANNELS` is (`ubxParse_rawx_sbas_negative_index`).

NAV-SAT reads the flags of block `i` at `off + 16`, which is four bytes into
block `i + 1`: the `used` bit stored for block `i`'s satellite comes from the
next block (`navSatBlock_used_from_next_block`).  The blocks of RXM-MEASX and
RXM-RAWX, in contrast, read only their own bytes (`rxmBlocks_read_own_block`):
two buffers that agree on a block's bytes, whether they lie in the payload or
past it in `msg_buf`, give the block the same outcome.
-/

namespace Craggy.Ubx

variable (g : Gpsd)

/-! ## RXM-RAWX -/

section Rawx

variable {buf : List UInt8}

/-- An SBAS block whose `svId` is below 100, in a buffer that holds the block:
its third store goes to `raw.meas[svId - 100]`, below the array. -/
theorem rawxBlock_sbas (d : GpsData) (i : Nat) (hlen : 32 * i + 46 ≤ buf.length)
    (hgnss : byteAt buf (32 * i + 36) = 1) (hsv : (byteAt buf (32 * i + 37)).toNat < 100)
    (hin : g.InRange (byteAt buf (32 * i + 37)).toNat) (hi : g.InRange i) :
    (rawxBlock g buf d i).result = .error (.badIndex ((byteAt buf (32 * i + 37)).toNat - 100)) := by
  have hout : ¬ g.InRange ((byteAt buf (32 * i + 37)).toNat - 100 : Int) := fun h => by
    have := h.1
    omega
  simp (disch := omega) only [rawxBlock, getub_eq, getleu16_eq, getleu32_eq, getleu64_eq, readOf_bind_of_le]
  simp [GpsData.setMeas, hin, hi, hgnss, hout]

/-- RXM-RAWX on a payload that passes its guards and whose first block is an
SBAS block with `svId` below 100. -/
theorem ubxMsgRxmRawx_sbas (session : GpsDevice) {dataLen : Nat} (hlen : 46 ≤ buf.length)
    (h16 : 16 ≤ dataLen) (hn : 0 < (byteAt buf 11).toNat) (hmc : (byteAt buf 11).toNat ≤ g.maxChannels)
    (hgnss : byteAt buf 36 = 1) (hsv : (byteAt buf 37).toNat < 100)
    (hin : (byteAt buf 37).toNat < g.maxChannels) :
    (ubxMsgRxmRawx g session buf dataLen).result = .error (.badIndex ((byteAt buf 37).toNat - 100)) := by
  obtain ⟨m, hm⟩ : ∃ m, (byteAt buf 11).toNat = m + 1 := ⟨_, (Nat.succ_pred_eq_of_pos hn).symm⟩
  have hblock := rawxBlock_sbas g { session.gpsdata with raw := { session.gpsdata.raw with avbMeas := m + 1 } } 0
    (by omega) hgnss hsv ⟨by positivity, by exact_mod_cast hin⟩ ⟨le_refl _, by exact_mod_cast (by omega : 0 < g.maxChannels)⟩
  simp (disch := omega) only [ubxMsgRxmRawx, getleu64_eq, getleu16_eq, getsb_eq, getub_eq, readOf_bind_of_le,
    pure_bind, hm, List.range_succ_eq_map, List.foldlM_cons, if_neg (show ¬ 16 > dataLen by omega),
    if_neg (show ¬ m + 1 > g.maxChannels by omega), Decode.result_bind, hblock, except_error_bind]

end Rawx

/-- The RXM-RAWX frame of one SBAS block, `svId` 20. -/
def rawxSbasFrame : List UInt8 :=
  [0xb5, 0x62, 0x02, 0x15, 48, 0] ++ (List.replicate 11 0 ++ [1] ++ List.replicate 24 0 ++ [1, 20] ++
    List.replicate 10 0) ++ [0, 0]

/-- On every RXM-RAWX frame whose first block lies in the payload, in a buffer
that holds it, and is an SBAS block with an `svId` below 100, `ubx_parse`
stores at the negative index `svId - 100`, for every `MAXCHANNELS` that lets
the block through. -/
theorem ubxParse_rawx_sbas_negative_index (now : Timespec) (session : GpsDevice) {frame : List UInt8}
    (hbuf : ubxPrefixLen + 48 ≤ frame.length) (hid : frameMsgid frame = ubxRxmRawx) (h48 : 48 ≤ frameDataLen frame)
    (hn : 0 < (byteAt (framePayload frame) 11).toNat)
    (hmc : (byteAt (framePayload frame) 11).toNat ≤ g.maxChannels)
    (hgnss : byteAt (framePayload frame) 36 = 1) (hsv : (byteAt (framePayload frame) 37).toNat < 100)
    (hin : (byteAt (framePayload frame) 37).toNat < g.maxChannels) :
    (ubxParse g now session frame).result = .error (.badIndex ((byteAt (framePayload frame) 37).toNat - 100)) := by
  have hpay : 46 ≤ (framePayload frame).length := by
    simp only [framePayload, List.length_drop, ubxPrefixLen] at hbuf ⊢
    omega
  rw [ubxParse_eq g (by omega), hid, ubxDispatch_rxmRawx, Decode.result_bind,
    ubxMsgRxmRawx_sbas g _ hpay (by omega) hn hmc hgnss hsv hin]
  rfl

theorem ubxParse_rawx_sbas_frame :
    ubxPrefixLen + 48 ≤ rawxSbasFrame.length ∧ frameMsgid rawxSbasFrame = ubxRxmRawx ∧ 48 ≤ frameDataLen rawxSbasFrame ∧
      0 < (byteAt (framePayload rawxSbasFrame) 11).toNat ∧
      (byteAt (framePayload rawxSbasFrame) 11).toNat ≤ Gpsd.sample.maxChannels ∧
      byteAt (framePayload rawxSbasFrame) 36 = 1 ∧ (byteAt (framePayload rawxSbasFrame) 37).toNat < 100 ∧
      (byteAt (framePayload rawxSbasFrame) 37).toNat < Gpsd.sample.maxChannels ∧
      (ubxParse Gpsd.sample .zero .zero rawxSbasFrame).result = .error (.badIndex (-80)) :=
  ⟨by decide, by decide, by decide, by decide, by decide, by decide, by decide, by decide,
    ubxParse_rawx_sbas_negative_index Gpsd.sample .zero .zero (by decide) (by decide) (by decide) (by decide)
      (by decide) (by decide) (by decide) (by decide)⟩

/-! ## NAV-SAT -/

/-- Two payloads that agree on block `i` of NAV-SAT, and whose flags words at
`off + 16`, bytes 4 to 7 of block `i + 1`, differ in bit 3: block `i` stores
opposite `used` bits into the `skyview` entry of its satellite. -/
theorem navSatBlock_used_from_next_block (acc : GpsData × Nat) (i : Nat) {buf buf' : List UInt8}
    (hblock : (buf.drop (8 + 12 * i)).take 12 = (buf'.drop (8 + 12 * i)).take 12)
    (hlen : 8 + 12 * i + 20 ≤ buf.length) (hlen' : 8 + 12 * i + 20 ≤ buf'.length)
    (hin : g.InRange (byteAt buf (8 + 12 * i + 1)).toNat)
    (hused : le32 buf (8 + 12 * i + 16) &&& 0x08 ≠ 0) (hunused : le32 buf' (8 + 12 * i + 16) &&& 0x08 = 0) :
    ∃ r r', (navSatBlock g buf acc i).result = .ok r ∧ (navSatBlock g buf' acc i).result = .ok r' ∧
      (r.1.skyview (byteAt buf (8 + 12 * i + 1)).toNat).used = true ∧
      (r'.1.skyview (byteAt buf (8 + 12 * i + 1)).toNat).used = false := by
  have hsv : byteAt buf' (8 + 12 * i + 1) = byteAt buf (8 + 12 * i + 1) :=
    (byteAt_eq_of_window hblock (by decide)).symm
  rw [navSatBlock_eq_ok g acc i hlen hin, navSatBlock_eq_ok g acc i hlen' (hsv ▸ hin)]
  refine ⟨_, _, rfl, rfl, ?_, ?_⟩
  · simp [navSatEntry, hused]
  · simp [navSatEntry, hsv, hunused]

/-- A NAV-SAT payload of two blocks, satellites 5 and 6, whose second block
has azimuth `az`. -/
def navSatTwoBlocks (az : UInt8) : List UInt8 :=
  [0, 0, 0, 0, 1, 2, 0, 0] ++ [0, 5, 0, 0, 0, 0, 0, 0, 0, 0, 0, 0] ++ [0, 6, 0, 0, az, 0, 0, 0, 0, 0, 0, 0]

theorem navSatBlock_used_from_azimuth :
    (navSatTwoBlocks 8).take 8 = (navSatTwoBlocks 0).take 8 ∧
      ((navSatTwoBlocks 8).drop (8 + 12 * 0)).take 12 = ((navSatTwoBlocks 0).drop (8 + 12 * 0)).take 12 ∧
      8 + 12 * 0 + 20 ≤ (navSatTwoBlocks 8).length ∧ 8 + 12 * 0 + 20 ≤ (navSatTwoBlocks 0).length ∧
      Gpsd.sample.InRange (byteAt (navSatTwoBlocks 8) (8 + 12 * 0 + 1)).toNat ∧
      le32 (navSatTwoBlocks 8) (8 + 12 * 0 + 16) &&& 0x08 ≠ 0 ∧ le32 (navSatTwoBlocks 0) (8 + 12 * 0 + 16) &&& 0x08 = 0 ∧
      ∃ r r', (navSatBlock Gpsd.sample (navSatTwoBlocks 8) (GpsDevice.zero.gpsdata, 0) 0).result = .ok r ∧
        (navSatBlock Gpsd.sample (navSatTwoBlocks 0) (GpsDevice.zero.gpsdata, 0) 0).result = .ok r' ∧
        (r.1.skyview 5).used = true ∧ (r'.1.skyview 5).used = false :=
  ⟨by decide, by decide, by decide, by decide, by decide, by decide, by decide,
    navSatBlock_used_from_next_block Gpsd.sample _ 0 (by decide) (by decide) (by decide) (by decide) (by decide)
      (by decide)⟩

/-! ## RXM-MEASX and RXM-RAWX blocks -/

/-- Block `i` of RXM-MEASX (24 bytes at `44 + 24 * i`) and block `i` of
RXM-RAWX (32 bytes at `16 + 32 * i`) read nothing outside their own bytes: two
buffers that agree on the block give the same device, or the same fault, and
the same reach. -/
theorem rxmBlocks_read_own_block (d : GpsData) (i : Nat) {buf buf' : List UInt8} :
    ((buf.drop (44 + 24 * i)).take 24 = (buf'.drop (44 + 24 * i)).take 24 →
      measxBlock g buf d i = measxBlock g buf' d i) ∧
    ((buf.drop (16 + 32 * i)).take 32 = (buf'.drop (16 + 32 * i)).take 32 →
      rawxBlock g buf d i = rawxBlock g buf' d i) := by
  constructor
  · intro h
    simp (disch := omega) only [measxBlock, getub_eq_of_window h, getleu16_eq_of_window h,
      getleu32_eq_of_window h]
  · intro h
    simp (disch := omega) only [rawxBlock, getub_eq_of_window h, getleu16_eq_of_window h,
      getleu32_eq_of_window h, getleu64_eq_of_window h]

/-- Payloads with their header bytes changed and block 0 kept give block 0 the same outcome. -/
theorem rxmBlocks_header_changed :
    ((List.replicate 68 (0 : UInt8)).drop (44 + 24 * 0)).take 24 =
        ((List.replicate 44 (1 : UInt8) ++ List.replicate 24 0).drop (44 + 24 * 0)).take 24 ∧
      measxBlock Gpsd.sample (List.replicate 68 0) GpsDevice.zero.gpsdata 0 =
        measxBlock Gpsd.sample (List.replicate 44 (1 : UInt8) ++ List.replicate 24 0) GpsDevice.zero.gpsdata 0 ∧
      ((List.replicate 48 (0 : UInt8)).drop (16 + 32 * 0)).take 32 =
        ((List.replicate 16 (1 : UInt8) ++ List.replicate 32 0).drop (16 + 32 * 0)).take 32 ∧
      rawxBlock Gpsd.sample (List.replicate 48 0) GpsDevice.zero.gpsdata 0 =
        rawxBlock Gpsd.sample (List.replicate 16 (1 : UInt8) ++ List.replicate 32 0) GpsDevice.zero.gpsdata 0 :=
  have hm : ((List.replicate 68 (0 : UInt8)).drop (44 + 24 * 0)).take 24 =
      ((List.replicate 44 (1 : UInt8) ++ List.replicate 24 0).drop (44 + 24 * 0)).take 24 := by decide
  have hr : ((List.replicate 48 (0 : UInt8)).drop (16 + 32 * 0)).take 32 =
      ((List.replicate 16 (1 : UInt8) ++ List.replicate 32 0).drop (16 + 32 * 0)).take 32 := by decide
  ⟨hm, (rxmBlocks_read_own_block Gpsd.sample GpsDevice.zero.gpsdata 0).1 hm, hr,
    (rxmBlocks_read_own_block Gpsd.sample GpsDevice.zero.gpsdata 0).2 hr⟩

end Craggy.Ubx
