import Craggy.Serial.Reassembly
import Craggy.Ubx.Footprint
import Craggy.Ubx.FixTime

/-!
# The serial thread

On every pass that finds bytes waiting, `gps_serial_thread_ep` does two things
in turn: the reassembly step of `Craggy.Serial.Reassembly`, and, when that
step hands over, `ubx_parse(&device, msg_buf, packet_len)` with the clock
reading of the pass.  `gpsSerialThread` runs these passes over a stream of
fragments, each with its reading, as the reads deliver them.  `ubx_parse`
looks at its length argument only to refuse a buffer shorter than the six
byte header; a hand-over passes `packet_len = expected_len + 8 >= 8`
(`gpsSerialStep_handed`), and so does `msg_buf` itself, so here it is called
on `msg_buf`, whose bytes past the frame its decoders may read.

The interleaving cannot be observed.  A run of the thread ends without a fault
exactly when two things hold.  First, reassembly of the whole stream ends
without a fault and hands over buffers `b₁ … bₙ`.  Second, `ubx_parse` on
`b₁ … bₙ` in turn also ends without a fault, in the same device and state
(`gpsSerialThread_ok_iff_handedFrames`).  `handedFrames` is `gpsSerialRun`
with each buffer stamped with the reading of its pass (`handedFrames_map`).
So what holds of every run of `ubx_parse` holds of the device the thread
publishes, whatever the fragments.  Its satellite counts stay within
`MAXCHANNELS` (`gpsSerialThread_zero_counts_within`).  Its fix time is the one
it started with, unless a handed buffer carries a valid time
(`gpsSerialThread_fixTime_from_handed_frame`).

On a stream of whole frames, one to a fragment, the thread is `ubx_parse`
frame by frame, each frame at the start of `msg_buf`
(`gpsSerialThread_whole_frames`).  It never faults when no frame is NAV-SAT,
RXM-MEASX or RXM-RAWX (`gpsSerialThread_ok_of_checked`), and for those frames
it never looks at a checksum: frames that differ only in their checksum bytes
give the same device (`gpsSerialThread_ignores_checksum`).  NAV-SAT, MEASX
and RAWX can read the checksum, as they read past `data_len`.
-/

namespace Craggy.Serial

open Craggy.Ubx

/-! ## Passes -/

/-- Why a pass of the serial thread has no defined outcome in C. -/
inductive ThreadFault where
  | serial (e : SerialFault)
  | ubx (e : UbxFault)
  deriving DecidableEq, Repr

/-- The serial thread over fragments, each with the clock reading of its
pass: reassembly, and `ubx_parse` on `msg_buf` whenever it hands over. -/
def gpsSerialThread (g : Gpsd) :
    GpsDevice × Reassembly → List (Timespec × Fragment) → Except ThreadFault (GpsDevice × Reassembly)
  | st, [] => .ok st
  | (device, s), (now, frag) :: rest => do
    let r ← (gpsSerialStep s frag).mapError .serial
    let device ← match r.2 with
      | some handed => ((ubxParse g now device handed.msgBuf).result.map (·.1)).mapError .ubx
      | none => pure device
    gpsSerialThread g (device, r.1) rest

/-! ## Reassembly, then `ubx_parse` -/

/-- The reassembly of a stream of fragments, each with the clock reading of its
pass: the final state, and every `msg_buf` handed to `ubx_parse` with the
reading of the pass that hands it. -/
def handedFrames (s : Reassembly) :
    List (Timespec × Fragment) → Except SerialFault (Reassembly × List (Timespec × List UInt8))
  | [] => .ok (s, [])
  | (now, frag) :: rest => do
    let r ← gpsSerialStep s frag
    let rs ← handedFrames r.1 rest
    return (rs.1, (r.2.map fun h => (now, h.msgBuf)).toList ++ rs.2)

/-- Without the readings, `handedFrames` is the loop's reassembly. -/
theorem handedFrames_map (s : Reassembly) (xs : List (Timespec × Fragment)) :
    (handedFrames s xs).map (fun r => (r.1, r.2.map Prod.snd)) =
      (gpsSerialRun s (xs.map Prod.snd)).map fun r => (r.1, r.2.map Handed.msgBuf) := by
  induction xs generalizing s with
  | nil => rfl
  | cons x xs ih =>
    obtain ⟨now, frag⟩ := x
    simp only [handedFrames, gpsSerialRun, List.map_cons]
    cases gpsSerialStep s frag with
    | error e => rfl
    | ok r =>
      simp only [except_ok_bind]
      have := ih r.1
      cases hh : handedFrames r.1 xs with
      | error e =>
        rw [hh] at this
        cases hg : gpsSerialRun r.1 (xs.map Prod.snd) with
        | error e' => rw [hg] at this; cases this; rfl
        | ok rs => rw [hg] at this; cases this
      | ok rs =>
        rw [hh] at this
        cases hg : gpsSerialRun r.1 (xs.map Prod.snd) with
        | error e' => rw [hg] at this; cases this
        | ok rs' =>
          rw [hg] at this
          simp only [Except.map, Except.ok.injEq, Prod.mk.injEq] at this
          cases r.2 <;> simp [Except.map, this]

/-- A reassembly that hands over the buffers of `handedFrames`, without the readings. -/
theorem gpsSerialRun_of_handedFrames {s s' : Reassembly} {xs : List (Timespec × Fragment)}
    {frames : List (Timespec × List UInt8)} (h : handedFrames s xs = .ok (s', frames)) :
    ∃ handed, gpsSerialRun s (xs.map Prod.snd) = .ok (s', handed) ∧ handed.map Handed.msgBuf = frames.map Prod.snd := by
  have hmap := handedFrames_map s xs
  rw [h] at hmap
  obtain ⟨⟨s₁, handed⟩, hrun, heq⟩ := except_map_eq_ok hmap.symm
  simp only [Prod.mk.injEq] at heq
  obtain ⟨rfl, hbufs⟩ := heq
  exact ⟨handed, hrun, hbufs⟩

/-- A run of the thread that ends without a fault is a run of the reassembly
followed by a run of `ubx_parse` over the buffers it handed over. -/
theorem gpsSerialThread_handed (g : Gpsd) :
    ∀ (device : GpsDevice) (s : Reassembly) (xs : List (Timespec × Fragment)) (d : GpsDevice) (s' : Reassembly),
      gpsSerialThread g (device, s) xs = .ok (d, s') →
      ∃ frames, handedFrames s xs = .ok (s', frames) ∧ (ubxRun g device frames).result = .ok d
  | _, _, [], _, _, h => by
    cases h
    exact ⟨[], rfl, rfl⟩
  | device, s, (now, frag) :: xs, d, s', h => by
    obtain ⟨⟨s₁, handed⟩, hr, h⟩ := except_bind_eq_ok h
    have hstep := except_mapError_eq_ok hr
    cases handed with
    | none =>
      simp only [except_pure, except_ok_bind] at h
      obtain ⟨frames, hh, hu⟩ := gpsSerialThread_handed g device s₁ xs d s' h
      exact ⟨frames, by simp only [handedFrames, hstep, hh, except_ok_bind, except_pure]; rfl, hu⟩
    | some handed =>
      obtain ⟨device₁, hdev, h⟩ := except_bind_eq_ok h
      obtain ⟨p, hp, rfl⟩ := except_map_eq_ok (except_mapError_eq_ok hdev)
      obtain ⟨frames, hh, hu⟩ := gpsSerialThread_handed g p.1 s₁ xs d s' h
      exact ⟨(now, handed.msgBuf) :: frames, by simp only [handedFrames, hstep, hh, except_ok_bind, except_pure]; rfl,
        by simp only [ubxRun, Decode.result_bind, hp, except_ok_bind, hu]⟩

/-- A run of the reassembly and a run of `ubx_parse` over the buffers it hands
over, both without a fault, make a run of the thread. -/
theorem gpsSerialThread_of_handed (g : Gpsd) :
    ∀ (device : GpsDevice) (s : Reassembly) (xs : List (Timespec × Fragment))
      (frames : List (Timespec × List UInt8)) (d : GpsDevice) (s' : Reassembly),
      handedFrames s xs = .ok (s', frames) → (ubxRun g device frames).result = .ok d →
      gpsSerialThread g (device, s) xs = .ok (d, s')
  | _, _, [], _, _, _, hh, hu => by
    cases hh
    cases hu
    rfl
  | device, s, (now, frag) :: xs, frames, d, s', hh, hu => by
    obtain ⟨⟨s₁, handed⟩, hstep, hh⟩ := except_bind_eq_ok hh
    obtain ⟨rs, hrs, hh⟩ := except_bind_eq_ok hh
    cases hh
    cases handed with
    | none =>
      simp only [gpsSerialThread, hstep, Except.mapError, except_ok_bind, except_pure]
      exact gpsSerialThread_of_handed g device s₁ xs rs.2 d rs.1 hrs hu
    | some handed =>
      simp only [Option.map, Option.toList, List.singleton_append, ubxRun, Decode.result_bind] at hu
      obtain ⟨p, hp, hu⟩ := except_bind_eq_ok hu
      simp only [gpsSerialThread, hstep, hp, Except.mapError, except_ok_bind, except_ok_map]
      exact gpsSerialThread_of_handed g p.1 s₁ xs rs.2 d rs.1 hrs hu

/-- The thread's interleaving of reassembly and `ubx_parse` is not observable:
a run of the thread ends without a fault in device `d` and state `s'` exactly
when the reassembly of the stream ends in `s'` and `ubx_parse` over the
buffers it hands over, each with the reading of its pass, ends in `d`. -/
theorem gpsSerialThread_ok_iff_handedFrames (g : Gpsd) :
    ∀ (device : GpsDevice) (s : Reassembly) (xs : List (Timespec × Fragment)) (d : GpsDevice) (s' : Reassembly),
      gpsSerialThread g (device, s) xs = .ok (d, s') ↔
        ∃ frames, handedFrames s xs = .ok (s', frames) ∧ (ubxRun g device frames).result = .ok d :=
  fun device s xs d s' => ⟨gpsSerialThread_handed g device s xs d s',
    fun ⟨frames, hh, hu⟩ => gpsSerialThread_of_handed g device s xs frames d s' hh hu⟩

/-! ## Streams of whole frames -/

/-- The buffers a stream of whole frames, one to a fragment, hands to
`ubx_parse`, each with the reading of its pass: the frame at the start of
`msg_buf`, which holds `buf` before the first and is zeroed after each. -/
def wholeFrameBuffers (buf : List UInt8) : List (Timespec × Fragment) → List (Timespec × List UInt8)
  | [] => []
  | (now, frag) :: xs => (now, memcpyAt buf 0 frag.bytes) :: wholeFrameBuffers zeroBuf xs

/-- On a stream of whole frames, one to a fragment, the thread's device is
what `ubx_parse` makes of `msg_buf` with each frame at its start, in turn. -/
theorem gpsSerialThread_whole_frames (g : Gpsd) :
    ∀ (device : GpsDevice) (s : Reassembly) (xs : List (Timespec × Fragment)), (∀ x ∈ xs, x.2.Whole) →
      (gpsSerialThread g (device, s) xs).map Prod.fst =
        (ubxRun g device (wholeFrameBuffers s.msgBuf xs)).result.mapError .ubx
  | _, _, [], _ => rfl
  | device, s, (now, frag) :: xs, h => by
    simp only [gpsSerialThread, gpsSerialStep_whole s (h (now, frag) (List.mem_cons_self _ _)), wholeFrameBuffers,
      ubxRun, Decode.result_bind, Except.mapError, except_ok_bind]
    cases (ubxParse g now device (memcpyAt s.msgBuf 0 frag.bytes)).result with
    | error e => rfl
    | ok r => exact gpsSerialThread_whole_frames g r.1 (.cleared _) xs fun x hx => h x (List.mem_cons_of_mem _ hx)

theorem gpsSerialThread_pvt_whole :
    (∀ x ∈ [(Timespec.zero, pvtWhole)], x.2.Whole) ∧
      (gpsSerialThread Gpsd.sample (.zero, .cleared 0) [(.zero, pvtWhole)]).map Prod.fst =
        (ubxRun Gpsd.sample .zero (wholeFrameBuffers (Reassembly.cleared 0).msgBuf [(.zero, pvtWhole)])).result.mapError
          .ubx :=
  ⟨by decide, gpsSerialThread_whole_frames Gpsd.sample _ _ _ (by decide)⟩

/-- `msg_buf` with a whole frame copied to its start holds the frame's header
and payload. -/
theorem memcpyAt_whole (s : Reassembly) {frag : Fragment} (h : frag.Whole) :
    frameMsgid (memcpyAt s.msgBuf 0 frag.bytes) = frameMsgid frag.bytes ∧
      frameDataLen (memcpyAt s.msgBuf 0 frag.bytes) = frameDataLen frag.bytes ∧
      ubxPrefixLen + frameDataLen frag.bytes + 2 ≤ (memcpyAt s.msgBuf 0 frag.bytes).length := by
  have hw := h.2
  unfold WellSized ubxPrefixLen at hw
  have hwin : ((memcpyAt s.msgBuf 0 frag.bytes).drop 0).take frag.bytes.length = (frag.bytes.drop 0).take frag.bytes.length := by
    simp only [List.drop_zero, memcpyAt_zero_take rfl, List.take_length]
  have hbyte (j : Nat) (hj : j < frag.bytes.length) := byteAt_eq_of_window hwin hj
  simp only [Nat.zero_add] at hbyte
  refine ⟨?_, ?_, ?_⟩
  · unfold frameMsgid
    rw [hbyte 2 (by omega), hbyte 3 (by omega)]
  · unfold frameDataLen le16
    rw [hbyte 4 (by omega), hbyte (4 + 1) (by omega)]
  · have := frag.length_le
    rw [memcpyAt_length (by rw [s.msgBuf_length]; omega), s.msgBuf_length]
    unfold ubxPrefixLen
    omega

theorem memcpyAt_zero_take_of_le {dst src : List UInt8} {k : Nat} (h : k ≤ src.length) :
    (memcpyAt dst 0 src).take k = src.take k := by
  simp [memcpyAt, List.take_append_of_le_length h]

/-- `ubx_parse` on `msg_buf` holding a whole frame that is not NAV-SAT,
RXM-MEASX or RXM-RAWX returns a value and reads nothing past the payload. -/
theorem ubxParse_msgBuf_checked (g : Gpsd) (now : Timespec) (device : GpsDevice) (s : Reassembly) {frag : Fragment}
    (hwhole : frag.Whole) (hid : frameMsgid frag.bytes ∉ [ubxNavSat, ubxRxmMeasx, ubxRxmRawx]) :
    Decode.Succeeds (ubxParse g now device (memcpyAt s.msgBuf 0 frag.bytes)) ∧
      (ubxParse g now device (memcpyAt s.msgBuf 0 frag.bytes)).reach ≤ frameDataLen frag.bytes := by
  obtain ⟨hmsgid, hdl, hlen⟩ := memcpyAt_whole s hwhole
  have hpay : frameDataLen (memcpyAt s.msgBuf 0 frag.bytes) ≤ (framePayload (memcpyAt s.msgBuf 0 frag.bytes)).length := by
    simp only [framePayload, List.length_drop]
    omega
  obtain ⟨⟨r, hr⟩, hreach⟩ := ubxDispatch_checked g now { device with iTOW := -1 } hpay (hmsgid ▸ hid)
  rw [ubxParse_eq g (show ubxPrefixLen ≤ (memcpyAt s.msgBuf 0 frag.bytes).length by omega), ← hdl]
  refine ⟨⟨_, by rw [Decode.result_bind, hr]; rfl⟩, ?_⟩
  simpa only [Decode.reach_bind_le, Decode.reach_pure, Nat.zero_le, Decode.always_const, and_true] using hreach

/-- Whatever fragments arrive, split or whole, the device the serial thread
publishes keeps the fix time it started with unless a `msg_buf` its
reassembly hands to `ubx_parse` carries a valid time: NAV-PVT with the date
and time valid bits, or NAV-TIMEUTC with the UTC valid bit. -/
theorem gpsSerialThread_fixTime_from_handed_frame (g : Gpsd) :
    ∀ (device : GpsDevice) (s : Reassembly) (xs : List (Timespec × Fragment)) (d : GpsDevice) (s' : Reassembly),
      gpsSerialThread g (device, s) xs = .ok (d, s') →
      ∃ handed, gpsSerialRun s (xs.map Prod.snd) = .ok (s', handed) ∧
        (d.gpsdata.fix.time = device.gpsdata.fix.time ∨ ∃ h ∈ handed, FrameCarriesFixTime h.msgBuf) := by
  intro device s xs d s' h
  obtain ⟨frames, hh, hu⟩ := gpsSerialThread_handed g device s xs d s' h
  obtain ⟨handed, hrun, hbufs⟩ := gpsSerialRun_of_handedFrames hh
  refine ⟨handed, hrun, (ubxRun_fixTime g device frames d hu).imp_right fun ⟨x, hx, hc⟩ => ?_⟩
  obtain ⟨h, hh, hbuf⟩ := List.mem_map.1 (hbufs ▸ List.mem_map_of_mem Prod.snd hx)
  exact ⟨h, hh, hbuf ▸ hc⟩

/-- The NAV-PVT frame of the full 92 byte payload, in one fragment. -/
def pvtFullWhole : Fragment := ⟨navPvtFrame, by decide⟩

set_option maxRecDepth 8000 in
theorem gpsSerialThread_pvt_fixTime :
    ∃ d s', gpsSerialThread Gpsd.sample (.zero, .cleared 0) [(.zero, pvtFullWhole)] = .ok (d, s') ∧
      ∃ handed, gpsSerialRun (.cleared 0) ([(Timespec.zero, pvtFullWhole)].map Prod.snd) = .ok (s', handed) ∧
        (d.gpsdata.fix.time = GpsDevice.zero.gpsdata.fix.time ∨ ∃ h ∈ handed, FrameCarriesFixTime h.msgBuf) := by
  have hok : (gpsSerialThread Gpsd.sample (.zero, .cleared 0) [(.zero, pvtFullWhole)]).map (fun _ => ()) = .ok () :=
    rfl
  obtain ⟨⟨d, s'⟩, h, -⟩ := except_map_eq_ok hok
  exact ⟨d, s', h, gpsSerialThread_fixTime_from_handed_frame Gpsd.sample _ _ _ _ _ h⟩

/-- Whatever fragments arrive, a run of the thread from the zeroed device that
ends without a fault publishes `satellites_used` and `satellites_visible` no
larger than `MAXCHANNELS`. -/
theorem gpsSerialThread_zero_counts_within (g : Gpsd) (s : Reassembly) (xs : List (Timespec × Fragment))
    (d : GpsDevice) (s' : Reassembly) (h : gpsSerialThread g (.zero, s) xs = .ok (d, s')) :
    d.gpsdata.satellitesUsed ≤ g.maxChannels ∧ d.gpsdata.satellitesVisible ≤ g.maxChannels := by
  obtain ⟨frames, -, hu⟩ := gpsSerialThread_handed g _ s xs d s' h
  have hd := ubxRun_countsWithin g _ frames ⟨Nat.zero_le _, Nat.zero_le _⟩ d hu
  exact ⟨hd.used_le, hd.visible_le⟩

/-- The NAV-SAT frame of `navSatOneUsedFrame`, in one fragment. -/
def navSatOneUsedWhole : Fragment := ⟨navSatOneUsedFrame, by decide⟩

set_option maxRecDepth 8000 in
theorem gpsSerialThread_navSat_counts_within :
    ∃ d s', gpsSerialThread Gpsd.sample (.zero, .cleared 0) [(.zero, navSatOneUsedWhole)] = .ok (d, s') ∧
      d.gpsdata.satellitesUsed = 1 ∧ d.gpsdata.satellitesUsed ≤ Gpsd.sample.maxChannels ∧
      d.gpsdata.satellitesVisible ≤ Gpsd.sample.maxChannels := by
  have hused : (gpsSerialThread Gpsd.sample (.zero, .cleared 0) [(.zero, navSatOneUsedWhole)]).map
      (·.1.gpsdata.satellitesUsed) = .ok 1 := rfl
  obtain ⟨⟨d, s'⟩, h, hd⟩ := except_map_eq_ok hused
  exact ⟨d, s', h, hd, gpsSerialThread_zero_counts_within Gpsd.sample _ _ _ _ h⟩

/-! ## Checksums -/

/-- The serial thread never checks a UBX checksum: on a stream of whole
frames, one to a fragment, none of them NAV-SAT, RXM-MEASX or RXM-RAWX,
changing the two checksum bytes of any frames changes neither the device it
publishes nor its reassembly state.  The decoders of these frames read
nothing past the payload (`ubxParse_msgBuf_checked`), and what they do not
read cannot change their run (`ubxParse_reads_below_reach`). -/
theorem gpsSerialThread_ignores_checksum (g : Gpsd) :
    ∀ (st : GpsDevice × Reassembly) (xs ys : List (Timespec × Fragment)),
      List.Forall₂ (fun x y => x.1 = y.1 ∧ x.2.Whole ∧ frameMsgid x.2.bytes ∉ [ubxNavSat, ubxRxmMeasx, ubxRxmRawx] ∧
        y.2.bytes.length = x.2.bytes.length ∧
        y.2.bytes.take (x.2.bytes.length - 2) = x.2.bytes.take (x.2.bytes.length - 2)) xs ys →
      gpsSerialThread g st ys = gpsSerialThread g st xs
  | _, [], [], .nil => rfl
  | (device, s), (now, x) :: xs, (now', y) :: ys, .cons ⟨hnow, hx, hid, hlen, hbody⟩ hrest => by
    dsimp only at hnow hx hid hlen hbody
    cases hnow
    have hw := hx.2
    unfold WellSized ubxPrefixLen at hw
    have hdl : frameDataLen y.bytes = frameDataLen x.bytes := le16_eq_of_take hbody (by omega)
    -- the sync bytes and the length are in the part that agrees
    have hy : y.Whole := ⟨⟨(byteAt_eq_of_take hbody (by omega)).trans hx.1.1,
      (byteAt_eq_of_take hbody (by omega)).trans hx.1.2⟩, by unfold WellSized ubxPrefixLen; omega⟩
    have hbuf : (memcpyAt s.msgBuf 0 y.bytes).take (ubxPrefixLen + frameDataLen x.bytes) =
        (memcpyAt s.msgBuf 0 x.bytes).take (ubxPrefixLen + frameDataLen x.bytes) := by
      unfold ubxPrefixLen
      rw [memcpyAt_zero_take_of_le (by omega), memcpyAt_zero_take_of_le (by omega),
        show 6 + frameDataLen x.bytes = x.bytes.length - 2 by omega, hbody]
    have hparse := ubxParse_reads_below_reach g now device (ubxParse_msgBuf_checked g now device s hx hid).2 hbuf
    simp only [gpsSerialThread, gpsSerialStep_whole s hx, gpsSerialStep_whole s hy, hdl, hparse, Except.mapError,
      except_ok_bind]
    cases (ubxParse g now device (memcpyAt s.msgBuf 0 x.bytes)).result with
    | error e => rfl
    | ok r => exact gpsSerialThread_ignores_checksum g (r.1, _) xs ys hrest

/-- `pvtWhole` with its checksum bytes zeroed. -/
def pvtBadChecksum : Fragment := ⟨[0xb5, 0x62, 0x01, 0x07, 2, 0, 0xaa, 0xbb, 0, 0], by decide⟩

theorem gpsSerialThread_pvt_bad_checksum :
    List.Forall₂ (fun x y => x.1 = y.1 ∧ x.2.Whole ∧ frameMsgid x.2.bytes ∉ [ubxNavSat, ubxRxmMeasx, ubxRxmRawx] ∧
        y.2.bytes.length = x.2.bytes.length ∧
        y.2.bytes.take (x.2.bytes.length - 2) = x.2.bytes.take (x.2.bytes.length - 2))
      [(Timespec.zero, pvtWhole)] [(Timespec.zero, pvtBadChecksum)] ∧
      gpsSerialThread Gpsd.sample (.zero, .cleared 0) [(.zero, pvtBadChecksum)]
        = gpsSerialThread Gpsd.sample (.zero, .cleared 0) [(.zero, pvtWhole)] := by
  have h : List.Forall₂ (fun x y => x.1 = y.1 ∧ x.2.Whole ∧
        frameMsgid x.2.bytes ∉ [ubxNavSat, ubxRxmMeasx, ubxRxmRawx] ∧ y.2.bytes.length = x.2.bytes.length ∧
        y.2.bytes.take (x.2.bytes.length - 2) = x.2.bytes.take (x.2.bytes.length - 2))
      [(Timespec.zero, pvtWhole)] [(Timespec.zero, pvtBadChecksum)] :=
    .cons ⟨rfl, by decide, by decide, rfl, rfl⟩ .nil
  exact ⟨h, gpsSerialThread_ignores_checksum Gpsd.sample _ _ _ h⟩

end Craggy.Serial
