import Craggy.Ubx.Parse

/-!
# Reads past the payload

A decoder sees the buffer from the payload's start to the end of `msg_buf`,
so a read past `data_len` is not stopped: it reads the checksum and then
whatever `msg_buf` holds.  What a decoder reads past `data_len` is therefore
stated on its reach.

Six of the nine decoders compare `data_len` with the furthest byte they read
before reading it: NAV-PVT, NAV-TIMEGPS, NAV-TIMEUTC, RXM-SFRB, RXM-SFRBX and
TIM-TP.  On a buffer that holds the payload, `ubx_parse` on a frame of any id
but NAV-SAT, RXM-MEASX and RXM-RAWX therefore returns a value and reads
nothing at or past `data_len` (`ubxParse_ok_of_checked`).

RXM-MEASX asks for 16 bytes and then reads its measurement count at byte 34,
so on every MEASX frame with `16 <= data_len <= 34` it reads past the payload
(`ubxParse_measx_reads_past_payload`).  NAV-SAT and RXM-RAWX read as many
blocks as the payload declares, whatever `data_len` is: every NAV-SAT run over
`nchan` blocks reaches byte `12 * nchan + 16`, eight bytes past a payload of
the `8 + 12 * nchan` bytes it declares (`ubxMsgNavSat_reads_past_blocks`), and
every RAWX run over `numMeas` blocks reaches byte `32 * numMeas + 14`
(`ubxMsgRxmRawx_reads_past_blocks`).
-/

namespace Craggy.Ubx

variable (g : Gpsd)

/-! ## Decoders that check before they read -/

section Checked

variable (session : GpsDevice) {buf : List UInt8} {dataLen : Nat}

theorem ubxMsgNavPvt_checked (hlen : dataLen ≤ buf.length) :
    Decode.Succeeds (ubxMsgNavPvt g session buf dataLen) ∧ (ubxMsgNavPvt g session buf dataLen).reach ≤ dataLen := by
  -- the default simp set takes seconds over the twenty reads; these lemmas suffice
  constructor <;>
  simp only [ubxMsgNavPvt, navPvtDate, getleu32_eq, getub_eq, getleu16_eq, getles32_eq, getles16_eq, pure_bind,
    Decode.succeeds_ite, Decode.succeeds_pure, Decode.succeeds_bind, Decode.succeeds_readOf,
    Decode.always_readOf, Decode.always_ite, Decode.always_pure, Decode.always_bind, Decode.always_const,
    Decode.reach_ite_le, Decode.reach_pure, Decode.reach_bind_le, readOf_reach, Nat.zero_le,
    implies_true, and_true, true_and, and_imp] <;>
  omega

theorem ubxMsgNavTimegps_checked (hlen : dataLen ≤ buf.length) :
    Decode.Succeeds (ubxMsgNavTimegps g session buf dataLen) ∧
      (ubxMsgNavTimegps g session buf dataLen).reach ≤ dataLen := by
  constructor <;> simp [ubxMsgNavTimegps] <;> omega

theorem ubxMsgNavTimeutc_checked (hlen : dataLen ≤ buf.length) :
    Decode.Succeeds (ubxMsgNavTimeutc g session buf dataLen) ∧
      (ubxMsgNavTimeutc g session buf dataLen).reach ≤ dataLen := by
  constructor <;> simp [ubxMsgNavTimeutc] <;> omega

theorem ubxMsgTimTp_checked (now : Timespec) (hlen : dataLen ≤ buf.length) :
    Decode.Succeeds (ubxMsgTimTp g now session buf dataLen) ∧ (ubxMsgTimTp g now session buf dataLen).reach ≤ dataLen := by
  constructor <;> simp [ubxMsgTimTp] <;> omega

theorem ubxMsgRxmSfrb_checked (hlen : dataLen ≤ buf.length) :
    Decode.Succeeds (ubxMsgRxmSfrb g session buf dataLen) ∧ (ubxMsgRxmSfrb g session buf dataLen).reach ≤ dataLen := by
  constructor <;> simp [ubxMsgRxmSfrb, -List.mapM]
  -- the two header reads, then the ten words
  · exact fun _ => ⟨by omega, fun _ => ⟨by omega, fun _ => mapM_succeeds _ _ fun i hi => by simp at hi ⊢; omega⟩⟩
  · exact fun _ => ⟨by omega, fun _ => ⟨by omega, fun _ => mapM_reach_le _ _ fun i hi => by simp at hi ⊢; omega⟩⟩

theorem ubxMsgRxmSfrbx_checked (hlen : dataLen ≤ buf.length) :
    Decode.Succeeds (ubxMsgRxmSfrbx g session buf dataLen) ∧
      (ubxMsgRxmSfrbx g session buf dataLen).reach ≤ dataLen := by
  constructor <;> simp [ubxMsgRxmSfrbx, -List.mapM]
  -- the count, the five header reads, then the words the count declares
  · refine fun _ => ⟨by omega, fun _ hw _ => ?_⟩
    iterate 5 refine ⟨by omega, fun _ => ?_⟩
    exact fun _ => mapM_succeeds _ _ fun i hi => by simp at hi ⊢; omega
  · refine fun _ => ⟨by omega, fun _ hw _ => ?_⟩
    iterate 5 refine ⟨by omega, fun _ => ?_⟩
    exact fun _ => mapM_reach_le _ _ fun i hi => by simp at hi ⊢; omega

end Checked

/-- Every decoder but NAV-SAT, RXM-MEASX and RXM-RAWX, and every id without a
decoder, returns a value and reads below `data_len` on a buffer that holds the
payload. -/
theorem ubxDispatch_checked (now : Timespec) (session : GpsDevice) {msgid : Nat}
    {buf : List UInt8} {dataLen : Nat} (hlen : dataLen ≤ buf.length)
    (hid : msgid ∉ [ubxNavSat, ubxRxmMeasx, ubxRxmRawx]) :
    Decode.Succeeds (ubxDispatch g now session msgid buf dataLen) ∧
      (ubxDispatch g now session msgid buf dataLen).reach ≤ dataLen := by
  simp only [List.mem_cons, List.mem_singleton, List.not_mem_nil, or_false, not_or] at hid
  exact ubxDispatch_rec g (fun d => Decode.Succeeds d ∧ d.reach ≤ dataLen)
    (fun _ => ubxMsgNavPvt_checked g session hlen) (absurd · hid.1)
    (fun _ => ubxMsgNavTimegps_checked g session hlen) (fun _ => ubxMsgNavTimeutc_checked g session hlen)
    (absurd · hid.2.1) (absurd · hid.2.2) (fun _ => ubxMsgRxmSfrb_checked g session hlen)
    (fun _ => ubxMsgRxmSfrbx_checked g session hlen) (fun _ => ubxMsgTimTp_checked g session now hlen)
    fun _ => ⟨⟨_, rfl⟩, Nat.zero_le _⟩

/-- On a buffer that holds a frame's header and payload, whose id is not
NAV-SAT, RXM-MEASX or RXM-RAWX, `ubx_parse` returns a value and reads no
payload byte at or past `data_len`. -/
theorem ubxParse_ok_of_checked (now : Timespec) (session : GpsDevice) {buf : List UInt8}
    (hbuf : ubxPrefixLen + frameDataLen buf ≤ buf.length)
    (hid : frameMsgid buf ∉ [ubxNavSat, ubxRxmMeasx, ubxRxmRawx]) :
    (∃ r, (ubxParse g now session buf).result = .ok r) ∧ (ubxParse g now session buf).reach ≤ frameDataLen buf := by
  obtain ⟨⟨r, hr⟩, hreach⟩ := ubxDispatch_checked g now { session with iTOW := -1 }
    (show frameDataLen buf ≤ (framePayload buf).length by simp only [framePayload, List.length_drop]; omega) hid
  rw [ubxParse_eq g (by omega)]
  refine ⟨⟨_, by rw [Decode.result_bind, hr]; rfl⟩, ?_⟩
  simpa only [Decode.reach_bind_le, Decode.reach_pure, Nat.zero_le, Decode.always_const, and_true] using hreach

/-- A NAV-PVT frame of the full 92 byte payload, a 2D fix with valid date, time
and magnetic declination. -/
def navPvtFrame : List UInt8 :=
  [0xb5, 0x62, 0x01, 0x07, 92, 0] ++ [0x10, 0x27, 0, 0, 0xe8, 0x07, 1, 1, 0, 0, 0, 0x0b] ++ List.replicate 8 0 ++
    [2, 0] ++ List.replicate 70 0 ++ [0, 0]

theorem ubxParse_navPvt_ok :
    ubxPrefixLen + frameDataLen navPvtFrame ≤ navPvtFrame.length ∧
      frameMsgid navPvtFrame ∉ [ubxNavSat, ubxRxmMeasx, ubxRxmRawx] ∧
      (∃ r, (ubxParse Gpsd.sample .zero .zero navPvtFrame).result = .ok r) ∧
      (ubxParse Gpsd.sample .zero .zero navPvtFrame).reach ≤ frameDataLen navPvtFrame :=
  ⟨by decide, by decide, ubxParse_ok_of_checked Gpsd.sample .zero .zero (by decide) (by decide)⟩

/-! ## RXM-MEASX -/

/-- RXM-MEASX reads byte 34 of every payload its guard lets through. -/
theorem ubxMsgRxmMeasx_reach (session : GpsDevice) {buf : List UInt8} {dataLen : Nat} (h16 : 16 ≤ dataLen) :
    35 ≤ (ubxMsgRxmMeasx g session buf dataLen).reach := by
  rw [ubxMsgRxmMeasx, if_neg (by omega), pure_bind]
  exact Decode.le_reach_bind (getub buf 34) _

/-- On every RXM-MEASX frame whose `data_len` is 16 to 34, `ubx_parse` reads
payload byte 34, at or past `data_len`, whatever the buffer holds after the
header. -/
theorem ubxParse_measx_reads_past_payload (now : Timespec) (session : GpsDevice) {buf : List UInt8}
    (hbuf : ubxPrefixLen ≤ buf.length) (hid : frameMsgid buf = ubxRxmMeasx)
    (h16 : 16 ≤ frameDataLen buf) (h34 : frameDataLen buf ≤ 34) :
    frameDataLen buf < (ubxParse g now session buf).reach := by
  rw [ubxParse_eq g hbuf, hid, ubxDispatch_rxmMeasx]
  calc frameDataLen buf < 35 := by omega
    _ ≤ (ubxMsgRxmMeasx g _ (framePayload buf) (frameDataLen buf)).reach := ubxMsgRxmMeasx_reach g _ h16
    _ ≤ _ := Decode.le_reach_bind _ _

/-- The shortest MEASX frame the guard lets through: a 16 byte payload of zeros. -/
def measxRuntFrame : List UInt8 := [0xb5, 0x62, 0x02, 0x14, 16, 0] ++ List.replicate 16 0 ++ [0, 0]

theorem ubxParse_measx_runt_frame :
    ubxPrefixLen ≤ measxRuntFrame.length ∧ frameMsgid measxRuntFrame = ubxRxmMeasx
      ∧ 16 ≤ frameDataLen measxRuntFrame ∧ frameDataLen measxRuntFrame ≤ 34
      ∧ frameDataLen measxRuntFrame < (ubxParse Gpsd.sample .zero .zero measxRuntFrame).reach :=
  ⟨by decide, by decide, by decide, by decide,
    ubxParse_measx_reads_past_payload Gpsd.sample .zero .zero (by decide) (by decide) (by decide) (by decide)⟩

/-! ## NAV-SAT and RXM-RAWX -/

/-- Every NAV-SAT run over `nchan >= 1` blocks that returns a value reads up to
byte `12 * nchan + 16`, the end of its last block's flags word, whatever
`data_len` is: eight bytes past a payload of the `8 + 12 * nchan` bytes its
blocks fill. -/
theorem ubxMsgNavSat_reads_past_blocks (session : GpsDevice) {buf : List UInt8} {dataLen : Nat}
    (hok : Decode.Succeeds (ubxMsgNavSat g session buf dataLen)) (h8 : 8 ≤ dataLen) (hver : byteAt buf 4 = 1)
    (hn : 0 < (byteAt buf 5).toNat) (hmc : (byteAt buf 5).toNat ≤ g.maxChannels) :
    12 * (byteAt buf 5).toNat + 16 ≤ (ubxMsgNavSat g session buf dataLen).reach := by
  have h6 : 6 ≤ buf.length := by
    by_contra h
    rw [byteAt_of_le (by omega)] at hn
    exact absurd hn (by decide)
  obtain ⟨r, hr⟩ := hok
  -- the header reads lie in the buffer and the guards pass
  simp (disch := omega) only [ubxMsgNavSat, getleu32_eq, getub_eq, readOf_bind_of_le, hver, pure_bind,
    if_neg (show ¬ 8 > dataLen by omega), ne_eq, not_true, if_false,
    if_neg (show ¬ (byteAt buf 5).toNat > g.maxChannels by omega)] at hr ⊢
  rw [Decode.result_bind] at hr
  obtain ⟨t, ht, -⟩ := except_bind_eq_ok hr
  -- the loop ran its last block, which read its flags word
  have hlast : 8 + 12 * ((byteAt buf 5).toNat - 1) + 20 ≤ _ :=
    le_reach_foldlM (fun i => 8 + 12 * i + 20) (fun _ _ hs => navSatBlock_reach g hs) _ _ ⟨t, ht⟩
      ((byteAt buf 5).toNat - 1) (List.mem_range.2 (by omega))
  exact le_max_of_le_right (le_max_of_le_right (le_max_of_le_right
    ((Decode.le_reach_bind _ _).trans' (le_trans (by omega) hlast))))

/-- A NAV-SAT payload of one block as `msg_buf` holds it: the 20 bytes
`data_len` declares, then its checksum and six more bytes. -/
def navSatOneBlockBuf : List UInt8 := [0, 0, 0, 0, 1, 1, 0, 0] ++ List.replicate 12 0 ++ List.replicate 8 0

theorem ubxMsgNavSat_one_block_reads_past :
    Decode.Succeeds (ubxMsgNavSat Gpsd.sample .zero navSatOneBlockBuf 20) ∧ 8 ≤ 20 ∧
      byteAt navSatOneBlockBuf 4 = 1 ∧ 0 < (byteAt navSatOneBlockBuf 5).toNat ∧
      (byteAt navSatOneBlockBuf 5).toNat ≤ Gpsd.sample.maxChannels ∧
      12 * (byteAt navSatOneBlockBuf 5).toNat + 16 ≤ (ubxMsgNavSat Gpsd.sample .zero navSatOneBlockBuf 20).reach :=
  ⟨⟨_, rfl⟩, by decide, by decide, by decide, by decide,
    ubxMsgNavSat_reads_past_blocks Gpsd.sample .zero ⟨_, rfl⟩ (by decide) (by decide) (by decide) (by decide)⟩

/-- Every RXM-RAWX run over `numMeas >= 1` blocks that returns a value reads up
to byte `32 * numMeas + 14`, the last block's `doStdev`, whatever `data_len`
is: the count is never compared with the payload length. -/
theorem ubxMsgRxmRawx_reads_past_blocks (session : GpsDevice) {buf : List UInt8} {dataLen : Nat}
    (hok : Decode.Succeeds (ubxMsgRxmRawx g session buf dataLen)) (h16 : 16 ≤ dataLen)
    (hn : 0 < (byteAt buf 11).toNat) (hmc : (byteAt buf 11).toNat ≤ g.maxChannels) :
    32 * (byteAt buf 11).toNat + 14 ≤ (ubxMsgRxmRawx g session buf dataLen).reach := by
  obtain ⟨r, hr⟩ := hok
  have h13 : 13 ≤ buf.length := by
    have := (show Decode.Succeeds (ubxMsgRxmRawx g session buf dataLen) from ⟨r, hr⟩)
    simp only [ubxMsgRxmRawx, if_neg (show ¬ 16 > dataLen by omega), pure_bind, getleu64_eq, getleu16_eq, getsb_eq,
      getub_eq, Decode.succeeds_bind, Decode.succeeds_readOf, Decode.always_readOf] at this
    omega
  -- the header reads lie in the buffer and the guards pass
  simp (disch := omega) only [ubxMsgRxmRawx, getleu64_eq, getleu16_eq, getsb_eq, getub_eq, readOf_bind_of_le,
    pure_bind, if_neg (show ¬ 16 > dataLen by omega), if_neg (show ¬ (byteAt buf 11).toNat > g.maxChannels by omega)]
    at hr ⊢
  rw [Decode.result_bind] at hr
  obtain ⟨t, ht, -⟩ := except_bind_eq_ok hr
  -- the loop ran its last block, which read up to its byte 45
  have hlast : 32 * ((byteAt buf 11).toNat - 1) + 46 ≤ _ :=
    le_reach_foldlM (fun i => 32 * i + 46) (fun _ _ hs => rawxBlock_reach g hs) _ _ ⟨t, ht⟩
      ((byteAt buf 11).toNat - 1) (List.mem_range.2 (by omega))
  exact le_max_of_le_right (le_max_of_le_right (le_max_of_le_right (le_max_of_le_right
    (le_max_of_le_right ((Decode.le_reach_bind _ _).trans' (le_trans (by omega) hlast))))))

/-- A RXM-RAWX payload of its 16 header bytes declaring one measurement, as
`msg_buf` holds it: then its checksum and thirty more bytes. -/
def rawxHeaderOnlyBuf : List UInt8 := List.replicate 11 0 ++ [1] ++ List.replicate 4 0 ++ List.replicate 32 0

theorem ubxMsgRxmRawx_header_only_reads_past :
    Decode.Succeeds (ubxMsgRxmRawx Gpsd.sample .zero rawxHeaderOnlyBuf 16) ∧ 16 ≤ 16 ∧
      0 < (byteAt rawxHeaderOnlyBuf 11).toNat ∧ (byteAt rawxHeaderOnlyBuf 11).toNat ≤ Gpsd.sample.maxChannels ∧
      32 * (byteAt rawxHeaderOnlyBuf 11).toNat + 14 ≤ (ubxMsgRxmRawx Gpsd.sample .zero rawxHeaderOnlyBuf 16).reach :=
  ⟨⟨_, rfl⟩, by decide, by decide, by decide,
    ubxMsgRxmRawx_reads_past_blocks Gpsd.sample .zero ⟨_, rfl⟩ (by decide) (by decide) (by decide)⟩

end Craggy.Ubx
