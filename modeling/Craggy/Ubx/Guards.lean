import Craggy.Ubx.Parse

/-!
# What a decoder has written when a guard rejects the payload

Each decoder opens with validation guards that `return 0`: a payload shorter
than the decoder reads, a version it does not know, a declared count above
`MAXCHANNELS`.  `GuardRejects` collects them, as the source writes them.

Most guards stand before any write to `gpsdata`, but three do not:

* TIM-TP stamps `currTime`, clears the first pointer-size bytes of `skyview`
  and of `raw`, and zeroes `satellites_visible` before it checks `data_len`;
* RXM-MEASX stores `raw.avb_meas` and `raw.mtime` before it compares its count
  with `MAXCHANNELS`;
* RXM-RAWX stores `raw.avb_meas` before the same comparison.

`guardWrites` is what a rejected payload leaves of those writes, and
`ubxDispatch_guard_rejects` says that it is all a rejection writes.
-/

namespace Craggy.Ubx

variable (g : Gpsd)

/-- The validation guards of the decoder of `msgid` reject the payload `buf`
of `dataLen` bytes. -/
def GuardRejects (msgid : Nat) (buf : List UInt8) (dataLen : Nat) : Prop :=
  if msgid = ubxNavPvt then 84 > dataLen
  else if msgid = ubxNavSat then
    8 > dataLen ∨ 1 ≠ byteAt buf 4 ∨ (byteAt buf 5).toNat > g.maxChannels
  else if msgid = ubxNavTimegps then 16 > dataLen
  else if msgid = ubxNavTimeutc then 20 > dataLen
  else if msgid = ubxRxmMeasx then 16 > dataLen ∨ (byteAt buf 34).toNat > g.maxChannels
  else if msgid = ubxRxmRawx then 16 > dataLen ∨ (byteAt buf 11).toNat > g.maxChannels
  else if msgid = ubxRxmSfrb then 42 > dataLen
  else if msgid = ubxRxmSfrbx then
    8 > dataLen ∨ dataLen ≠ 8 + 4 * (byteAt buf 4).toNat ∨ 16 < (byteAt buf 4).toNat ∨ 0 = (byteAt buf 6).toNat
  else if msgid = ubxTimTp then 16 > dataLen
  else False

instance (msgid : Nat) (buf : List UInt8) (dataLen : Nat) : Decidable (GuardRejects g msgid buf dataLen) :=
  inferInstanceAs (Decidable (ite _ _ _))

/-- `gpsdata` as the decoder of `msgid` leaves it when a guard rejects the
payload: the writes made before the guard that fired. -/
def guardWrites (now : Timespec) (msgid : Nat) (buf : List UInt8) (dataLen : Nat) (d : GpsData) : GpsData :=
  if msgid = ubxTimTp then
    { d with currTime := now, skyview := g.clearSkyview d.skyview, raw := g.clearRaw d.raw, satellitesVisible := 0 }
  else if msgid = ubxRxmMeasx then
    if 16 > dataLen then d
    else { d with raw := { d.raw with avbMeas := (byteAt buf 34).toNat, mtime := g.msToTs (le32 buf 4) } }
  else if msgid = ubxRxmRawx then
    if 16 > dataLen then d else { d with raw := { d.raw with avbMeas := (byteAt buf 11).toNat } }
  else d

section GuardWrites

variable (now : Timespec) (buf : List UInt8) (dataLen : Nat) (d : GpsData)

theorem guardWrites_rxmMeasx : guardWrites g now ubxRxmMeasx buf dataLen d =
    if 16 > dataLen then d
    else { d with raw := { d.raw with avbMeas := (byteAt buf 34).toNat, mtime := g.msToTs (le32 buf 4) } } :=
  rfl

theorem guardWrites_rxmRawx : guardWrites g now ubxRxmRawx buf dataLen d =
    if 16 > dataLen then d else { d with raw := { d.raw with avbMeas := (byteAt buf 11).toNat } } :=
  rfl

end GuardWrites

example : GuardRejects Gpsd.sample ubxTimTp [] 0 := by decide
example : ¬ GuardRejects Gpsd.sample ubxRxmMeasx (List.replicate 35 0) 35 := by decide

/-! ## Each decoder's guards -/

section Decoders

variable (session : GpsDevice) {buf : List UInt8} {dataLen : Nat}

theorem ubxMsgNavSat_rejects (hlen : dataLen ≤ buf.length)
    (h : 8 > dataLen ∨ 1 ≠ byteAt buf 4 ∨ (byteAt buf 5).toNat > g.maxChannels) :
    ∃ iTOW, (ubxMsgNavSat g session buf dataLen).result = .ok ({ session with iTOW := iTOW }, []) := by
  by_cases h8 : 8 > dataLen
  · exact ⟨_, by simp only [ubxMsgNavSat, if_pos h8]; rfl⟩
  · simp (disch := omega) only [ubxMsgNavSat, if_neg h8, pure_bind, getleu32_eq, getub_eq, readOf_bind_of_le]
    by_cases hv : 1 ≠ byteAt buf 4
    · exact ⟨_, by simp only [if_pos hv]; rfl⟩
    · exact ⟨_, by simp only [if_neg hv, pure_bind, if_pos ((h.resolve_left h8).resolve_left hv)]; rfl⟩

theorem ubxMsgRxmMeasx_rejects (now : Timespec)
    (h : 16 > dataLen ∨ (byteAt buf 34).toNat > g.maxChannels) :
    (ubxMsgRxmMeasx g session buf dataLen).result =
      .ok ({ session with gpsdata := guardWrites g now ubxRxmMeasx buf dataLen session.gpsdata }, []) := by
  rw [guardWrites_rxmMeasx]
  by_cases h16 : 16 > dataLen
  · simp only [ubxMsgRxmMeasx, if_pos h16]; rfl
  · have hc := h.resolve_left h16
    -- a count above `MAXCHANNELS` is a byte the buffer holds
    have h34 : 34 < buf.length := by
      by_contra h34
      rw [byteAt_of_le (by omega)] at hc
      exact absurd hc (Nat.not_lt_zero _)
    simp (disch := omega) only [ubxMsgRxmMeasx, if_neg h16, pure_bind, getleu32_eq, getub_eq, readOf_bind_of_le,
      if_pos hc]
    rfl

theorem ubxMsgRxmRawx_rejects (now : Timespec) (hlen : dataLen ≤ buf.length)
    (h : 16 > dataLen ∨ (byteAt buf 11).toNat > g.maxChannels) :
    (ubxMsgRxmRawx g session buf dataLen).result =
      .ok ({ session with gpsdata := guardWrites g now ubxRxmRawx buf dataLen session.gpsdata }, []) := by
  rw [guardWrites_rxmRawx]
  by_cases h16 : 16 > dataLen
  · simp only [ubxMsgRxmRawx, if_pos h16]; rfl
  · simp (disch := omega) only [ubxMsgRxmRawx, if_neg h16, pure_bind, getleu64_eq, getleu16_eq, getsb_eq,
      getub_eq, readOf_bind_of_le, if_pos (h.resolve_left h16)]
    rfl

theorem ubxMsgRxmSfrbx_rejects (hlen : dataLen ≤ buf.length)
    (h : 8 > dataLen ∨ dataLen ≠ 8 + 4 * (byteAt buf 4).toNat ∨ 16 < (byteAt buf 4).toNat ∨
      0 = (byteAt buf 6).toNat) :
    (ubxMsgRxmSfrbx g session buf dataLen).result = .ok (session, []) := by
  by_cases h8 : 8 > dataLen
  · simp only [ubxMsgRxmSfrbx, if_pos h8]; rfl
  · simp (disch := omega) only [ubxMsgRxmSfrbx, if_neg h8, pure_bind, getub_eq, readOf_bind_of_le]
    by_cases hw : dataLen ≠ 8 + 4 * (byteAt buf 4).toNat ∨ 16 < (byteAt buf 4).toNat
    · simp only [if_pos hw]; rfl
    · have h0 := ((h.resolve_left h8).resolve_left (not_or.1 hw).1).resolve_left (not_or.1 hw).2
      simp (disch := omega) only [if_neg hw, pure_bind, getub_eq, readOf_bind_of_le, if_pos h0]
      rfl

end Decoders

/-- A payload rejected by a guard leaves `gpsdata` as `guardWrites` says; the
decoder returns an empty mask, and only `iTOW` may have moved. -/
theorem ubxDispatch_guard_rejects (now : Timespec) (session : GpsDevice) (msgid : Nat) (buf : List UInt8)
    (dataLen : Nat) (hlen : dataLen ≤ buf.length) (hrej : GuardRejects g msgid buf dataLen) :
    ∃ iTOW, (ubxDispatch g now session msgid buf dataLen).result =
      .ok ({ gpsdata := guardWrites g now msgid buf dataLen session.gpsdata, iTOW := iTOW }, []) := by
  revert hrej
  refine ubxDispatch_rec g (fun x => GuardRejects g msgid buf dataLen →
      ∃ iTOW, x.result = .ok ({ gpsdata := guardWrites g now msgid buf dataLen session.gpsdata, iTOW := iTOW }, []))
    ?_ ?_ ?_ ?_ ?_ ?_ ?_ ?_ ?_ ?_
  · rintro rfl (h : 84 > dataLen)
    exact ⟨_, by simp only [ubxMsgNavPvt, if_pos h]; rfl⟩
  · rintro rfl h
    exact ubxMsgNavSat_rejects g session hlen h
  · rintro rfl (h : 16 > dataLen)
    exact ⟨_, by simp only [ubxMsgNavTimegps, if_pos h]; rfl⟩
  · rintro rfl (h : 20 > dataLen)
    exact ⟨_, by simp only [ubxMsgNavTimeutc, if_pos h]; rfl⟩
  · rintro rfl h
    exact ⟨_, ubxMsgRxmMeasx_rejects g session now h⟩
  · rintro rfl h
    exact ⟨_, ubxMsgRxmRawx_rejects g session now hlen h⟩
  · rintro rfl (h : 42 > dataLen)
    exact ⟨_, by simp only [ubxMsgRxmSfrb, if_pos h]; rfl⟩
  · rintro rfl h
    exact ⟨_, ubxMsgRxmSfrbx_rejects g session hlen h⟩
  · rintro rfl (h : 16 > dataLen)
    exact ⟨_, by simp only [ubxMsgTimTp, if_pos h]; rfl⟩
  · intro hid h
    simp only [ubxDecodedIds, List.mem_cons, List.mem_singleton, List.not_mem_nil, or_false, not_or] at hid
    simp only [GuardRejects, hid, if_false] at h

/-- A device that sees one satellite. -/
def oneVisibleDevice : GpsDevice :=
  { GpsDevice.zero with gpsdata := { GpsDevice.zero.gpsdata with satellitesVisible := 1 } }

theorem ubxDispatch_timTp_rejects_clears_visible :
    0 ≤ ([] : List UInt8).length ∧ GuardRejects Gpsd.sample ubxTimTp [] 0 ∧
      (∃ iTOW, (ubxDispatch Gpsd.sample .zero oneVisibleDevice ubxTimTp [] 0).result =
        .ok ({ gpsdata := guardWrites Gpsd.sample .zero ubxTimTp [] 0 oneVisibleDevice.gpsdata, iTOW := iTOW }, [])) ∧
      (guardWrites Gpsd.sample .zero ubxTimTp [] 0 oneVisibleDevice.gpsdata).satellitesVisible ≠
        oneVisibleDevice.gpsdata.satellitesVisible :=
  ⟨by decide, by decide,
    ubxDispatch_guard_rejects Gpsd.sample .zero oneVisibleDevice ubxTimTp [] 0 (by decide) (by decide), by decide⟩

end Craggy.Ubx
