import Craggy.Ubx.Parse

/-!
# Frame reassembly in the serial thread

`gps_serial_thread_ep` polls the port with `FIONREAD`, and on every pass that
finds bytes waiting treats `rx_buf[0 .. ret)` as the next fragment of the
stream.  The read that fills `rx_buf` is not in the source: each pass here is
the arrival of one `Fragment`, and what the read delivers is assumed.  A
fragment that opens with the sync bytes `0xb5 0x62` starts a frame:
`expected_len` is read from its bytes 4 and 5, and the offset and length
counters restart.  Any other fragment continues the frame:
`multi_fragment_offset` grows by the fragment's own length `ret`, and the
fragment is copied to `msg_buf` at the grown offset.  When `packet_len`
reaches `expected_len + 8`, `msg_buf` and `packet_len` go to `ubx_parse`
(`Handed`), and `msg_buf` and the counters are cleared.

The offset of a continuation is therefore the sum of the continuation lengths
so far, the current one included, where the bytes already in `msg_buf` end at
the first fragment's length plus the sum of the earlier ones.  The two agree
exactly when the continuation is as long as the first fragment.  A frame sent
in one fragment arrives intact (`gpsSerialRun_whole_frames`), and so does one
sent in fragments of one common length (`gpsSerialRun_equal_fragments`); a
frame split in two parts of other lengths lands with its second part copied
to the offset of its own length (`gpsSerialRun_two_fragments`).  In general,
whatever the number and lengths of the fragments, continuation `j` lands at
the sum of the lengths of continuations 1 to `j` (`gpsSerialRun_frame_layout`).

A `memcpy` into `msg_buf` past its 1024 bytes is the fault of `SerialFault`.
Nothing bounds `packet_len` by the size of `msg_buf`: a frame longer than
`msg_buf`, such as RXM-RAWX with 32 measurements, goes to `ubx_parse` with a
`packet_len` past its end (`gpsSerialRun_long_frame_handed`), and what
`ubx_parse` then reads past `msg_buf` is a fault of the decoders.  Every
hand-over passes `packet_len = expected_len + 8`, at least 8, with all of
`msg_buf` (`gpsSerialStep_handed`).

Only the first bytes of a fragment are checked for the sync bytes, and
`packet_len` must hit `expected_len + 8` exactly.  A read that holds the end of
one frame and the start of the next takes `packet_len` past it, and from then
on nothing reaches `ubx_parse` until a read starts with the sync bytes
(`gpsSerialRun_overshoot_loses_frames`).  Conversely, after a frame has gone
out, reads without the sync bytes that add up to its `expected_len + 8` go to
`ubx_parse` as a frame, one whose first byte is 0
(`gpsSerialRun_stray_bytes_handed`).
-/

namespace Craggy.Serial

open Craggy.Ubx

/-! ## Buffers -/

/-- The size of `msg_buf` and of `rx_buf`. -/
def bufSize : Nat := 1024

/-- `memcpy(&dst[off], src, len(src))` on a destination that holds it. -/
def memcpyAt (dst : List UInt8) (off : Nat) (src : List UInt8) : List UInt8 :=
  dst.take off ++ src ++ dst.drop (off + src.length)

theorem memcpyAt_length {dst src : List UInt8} {off : Nat} (h : off + src.length ≤ dst.length) :
    (memcpyAt dst off src).length = dst.length := by
  simp only [memcpyAt, List.length_append, List.length_take, List.length_drop]
  omega

/-- `memset(msg_buf, 0, 1024)`. -/
def zeroBuf : List UInt8 := List.replicate bufSize 0

/-- One pass's read: the `ret` bytes at the start of `rx_buf`, which holds 1024.
The rest of `rx_buf` is zero, from the `memset` that ends every pass, so
`rx_buf[k]` is `byteAt bytes k`. -/
structure Fragment where
  /-- `rx_buf[0 .. ret)`. -/
  bytes : List UInt8
  length_le : bytes.length ≤ bufSize

/-- The fragment opens with the UBX sync bytes `0xb5 0x62`. -/
def Fragment.Sync (frag : Fragment) : Prop := byteAt frag.bytes 0 = 0xb5 ∧ byteAt frag.bytes 1 = 0x62

instance (frag : Fragment) : Decidable frag.Sync := inferInstanceAs (Decidable (_ ∧ _))

/-! ## The reassembler -/

/-- The locals of the loop that carry a frame across passes. -/
structure Reassembly where
  /-- `msg_buf`. -/
  msgBuf : List UInt8
  msgBuf_length : msgBuf.length = bufSize
  /-- `multi_fragment_offset`. -/
  multiFragmentOffset : Nat
  /-- `packet_len`. -/
  packetLen : Nat
  /-- `expected_len`. -/
  expectedLen : Nat

/-- The loop's state after a frame went to `ubx_parse`, or before the first
one: `msg_buf` zeroed, the counters at zero, `expected_len` kept. -/
def Reassembly.cleared (expectedLen : Nat) : Reassembly :=
  ⟨zeroBuf, List.length_replicate _ _, 0, 0, expectedLen⟩

/-- Why a pass has no defined outcome in C. -/
inductive SerialFault where
  /-- `memcpy(&msg_buf[off], rx_buf, ret)` with `off + ret` past the 1024 bytes of `msg_buf`. -/
  | msgBufOverflow (off ret : Nat)
  deriving DecidableEq, Repr

/-- The arguments of `ubx_parse(&device, msg_buf, packet_len)`. -/
structure Handed where
  /-- `msg_buf`, all of it. -/
  msgBuf : List UInt8
  /-- `packet_len`. -/
  packetLen : Nat
  deriving DecidableEq

/-- The frame a hand-over stands for: the first `packet_len` bytes of `msg_buf`. -/
def Handed.frame (h : Handed) : List UInt8 := h.msgBuf.take h.packetLen

/-- One pass of the loop of `gps_serial_thread_ep` that finds `avb > 0`: the
state after it, and what it hands to `ubx_parse`, if anything. -/
def gpsSerialStep (s : Reassembly) (frag : Fragment) : Except SerialFault (Reassembly × Option Handed) :=
  let ret := frag.bytes.length
  let expectedLen :=
    if frag.Sync then (byteAt frag.bytes 4).toNat ||| (byteAt frag.bytes 5).toNat <<< 8 else s.expectedLen
  let offset := if frag.Sync then 0 else s.multiFragmentOffset + ret
  let packetLen := (if frag.Sync then 0 else s.packetLen) + ret
  if h : offset + ret ≤ bufSize then
    let msgBuf := memcpyAt s.msgBuf offset frag.bytes
    if packetLen = expectedLen + 8 then .ok (.cleared expectedLen, some ⟨msgBuf, packetLen⟩)
    else .ok (⟨msgBuf, (memcpyAt_length (s.msgBuf_length ▸ h)).trans s.msgBuf_length, offset, packetLen,
      expectedLen⟩, none)
  else .error (.msgBufOverflow offset ret)

/-- The passes over a sequence of fragments: the final state and every
hand-over to `ubx_parse`, in order. -/
def gpsSerialRun (s : Reassembly) : List Fragment → Except SerialFault (Reassembly × List Handed)
  | [] => .ok (s, [])
  | frag :: frags => do
    let r ← gpsSerialStep s frag
    let rs ← gpsSerialRun r.1 frags
    return (rs.1, r.2.toList ++ rs.2)

/-! ## Frames in one fragment -/

theorem or_shiftLeft_eight {lo hi : Nat} (h : lo < 2 ^ 8) : lo ||| hi <<< 8 = lo + 2 ^ 8 * hi := by
  rw [Nat.or_comm, Nat.shiftLeft_eq, Nat.mul_comm, ← Nat.mul_add_lt_is_or h, Nat.add_comm]

/-- `expected_len` of a fragment that starts a frame is the frame's `data_len`. -/
theorem expectedLen_eq_frameDataLen (frag : Fragment) :
    (byteAt frag.bytes 4).toNat ||| (byteAt frag.bytes 5).toNat <<< 8 = frameDataLen frag.bytes :=
  or_shiftLeft_eight (byteAt frag.bytes 4).toNat_lt

/-- A whole UBX frame in one fragment: the sync bytes, and `6 + data_len + 2`
bytes in all. -/
def Fragment.Whole (frag : Fragment) : Prop := frag.Sync ∧ WellSized frag.bytes

instance (frag : Fragment) : Decidable frag.Whole := inferInstanceAs (Decidable (_ ∧ _))

theorem memcpyAt_zero_take {dst src : List UInt8} {n : Nat} (h : n = src.length) :
    (memcpyAt dst 0 src).take n = src := by
  simp [memcpyAt, h]

/-- A whole frame goes to `ubx_parse` at the start of `msg_buf`, whatever the pass before left. -/
theorem gpsSerialStep_whole (s : Reassembly) {frag : Fragment} (h : frag.Whole) :
    gpsSerialStep s frag =
      .ok (.cleared (frameDataLen frag.bytes), some ⟨memcpyAt s.msgBuf 0 frag.bytes, frag.bytes.length⟩) := by
  have hsize : frag.bytes.length = frameDataLen frag.bytes + 8 := by
    have := h.2
    unfold WellSized ubxPrefixLen at this
    omega
  have hfit := frag.length_le
  simp only [gpsSerialStep, if_pos h.1, expectedLen_eq_frameDataLen, Nat.zero_add, hsize, dif_pos (hsize ▸ hfit),
    if_true]

/-- The hand-overs of a stream of whole frames, one to a fragment: each frame
at the start of `msg_buf`, which holds `buf` before the first and is zeroed
after each. -/
def wholeFrameHandovers (buf : List UInt8) : List Fragment → List Handed
  | [] => []
  | frag :: frags => ⟨memcpyAt buf 0 frag.bytes, frag.bytes.length⟩ :: wholeFrameHandovers zeroBuf frags

theorem gpsSerialRun_whole_frames_eq :
    ∀ (s : Reassembly) (frags : List Fragment), (∀ frag ∈ frags, frag.Whole) →
      ∃ s', gpsSerialRun s frags = .ok (s', wholeFrameHandovers s.msgBuf frags)
  | s, [], _ => ⟨s, rfl⟩
  | s, frag :: frags, h => by
    obtain ⟨s', hs'⟩ := gpsSerialRun_whole_frames_eq (.cleared (frameDataLen frag.bytes)) frags
      fun f hf => h f (List.mem_cons_of_mem frag hf)
    refine ⟨s', ?_⟩
    rw [gpsSerialRun.eq_2, gpsSerialStep_whole s (h frag (List.mem_cons_self frag frags)), except_ok_bind]
    erw [hs']
    rfl

theorem wholeFrameHandovers_frame (buf : List UInt8) :
    ∀ frags : List Fragment, (wholeFrameHandovers buf frags).map Handed.frame = frags.map (·.bytes)
  | [] => rfl
  | frag :: frags => by
    simp [wholeFrameHandovers, Handed.frame, memcpyAt_zero_take, wholeFrameHandovers_frame zeroBuf frags]

/-- A stream of whole frames, one to a fragment, reaches `ubx_parse` frame by
frame: each exactly once, intact at the start of `msg_buf`, in stream order. -/
theorem gpsSerialRun_whole_frames (s : Reassembly) (frags : List Fragment) (h : ∀ frag ∈ frags, frag.Whole) :
    ∃ s' handed, gpsSerialRun s frags = .ok (s', handed) ∧ handed.map Handed.frame = frags.map (·.bytes) :=
  (gpsSerialRun_whole_frames_eq s frags h).elim fun s' hs' => ⟨s', _, hs', wholeFrameHandovers_frame _ frags⟩

/-- A NAV-PVT frame with two payload bytes, in one fragment. -/
def pvtWhole : Fragment := ⟨[0xb5, 0x62, 0x01, 0x07, 2, 0, 0xaa, 0xbb, 0xcc, 0xdd], by decide⟩

theorem gpsSerialRun_pvt_whole :
    (∀ frag ∈ [pvtWhole], frag.Whole) ∧
      ∃ s' handed, gpsSerialRun (.cleared 0) [pvtWhole] = .ok (s', handed) ∧
        handed.map Handed.frame = [pvtWhole].map (·.bytes) :=
  ⟨by decide, gpsSerialRun_whole_frames _ _ (by decide)⟩

/-! ## What every pass hands over -/

/-- A pass that hands over passes all of `msg_buf` and `packet_len =
expected_len + 8`, at least the eight bytes of an empty frame: the check of
`ubx_parse` for a six byte header never refuses it. -/
theorem gpsSerialStep_handed {s s' : Reassembly} {frag : Fragment} {h : Handed}
    (hs : gpsSerialStep s frag = .ok (s', some h)) :
    h.packetLen = s'.expectedLen + 8 ∧ h.msgBuf.length = bufSize := by
  unfold gpsSerialStep at hs
  -- on either kind of fragment something goes out only past the two guards:
  -- the copy fits, and the frame is complete
  by_cases hsync : frag.Sync <;> simp only [hsync, if_true, if_false] at hs <;> split at hs <;>
    (try split at hs) <;> cases hs <;>
    · refine ⟨by assumption, ?_⟩
      simp only [memcpyAt, List.length_take, List.length_append, List.length_drop, s.msgBuf_length]
      omega

/-! ## Frames in two fragments -/

/-- A frame in a head fragment `a` and one continuation `b` whose copy fits:
`b` is copied to `msg_buf` at offset `len(b)`, not `len(a)`, and `msg_buf`
goes to `ubx_parse` with `packet_len = len(a) + len(b)`. -/
theorem gpsSerialRun_head_continuation (s : Reassembly) {a b : Fragment} (ha : a.Sync) (hb : ¬ b.Sync)
    (hframe : a.bytes.length + b.bytes.length = frameDataLen a.bytes + 8) (hb0 : 0 < b.bytes.length)
    (hfit : b.bytes.length + b.bytes.length ≤ bufSize) :
    gpsSerialRun s [a, b] =
      .ok (.cleared (frameDataLen a.bytes),
        [⟨memcpyAt (memcpyAt s.msgBuf 0 a.bytes) b.bytes.length b.bytes, a.bytes.length + b.bytes.length⟩]) := by
  have hne : a.bytes.length ≠ frameDataLen a.bytes + 8 := by omega
  have hfa := a.length_le
  simp only [gpsSerialRun, gpsSerialStep, if_pos ha, if_neg hb, expectedLen_eq_frameDataLen, Nat.zero_add,
    dif_pos hfa, if_neg hne, except_ok_bind, dif_pos hfit, if_pos hframe]
  rfl

/-- A frame split after its header into `a` and `b`: `b` is copied to
`msg_buf` at offset `len(b)`, not `len(a)`, and `msg_buf` goes to `ubx_parse`
as the frame of `len(a) + len(b)` bytes. -/
theorem gpsSerialRun_two_fragments (s : Reassembly) {a b : Fragment} (ha : a.Sync) (hb : ¬ b.Sync)
    (hframe : a.bytes.length + b.bytes.length = frameDataLen a.bytes + 8) (hb0 : 0 < b.bytes.length)
    (hfit : b.bytes.length + b.bytes.length ≤ bufSize) :
    gpsSerialRun s [a, b] =
      .ok (.cleared (frameDataLen a.bytes),
        [⟨memcpyAt (memcpyAt s.msgBuf 0 a.bytes) b.bytes.length b.bytes, a.bytes.length + b.bytes.length⟩]) :=
  gpsSerialRun_head_continuation s ha hb hframe hb0 hfit

/-- The first seven bytes of `pvtWhole`. -/
def pvtHead : Fragment := ⟨[0xb5, 0x62, 0x01, 0x07, 2, 0, 0xaa], by decide⟩

/-- The last three bytes of `pvtWhole`. -/
def pvtTail : Fragment := ⟨[0xbb, 0xcc, 0xdd], by decide⟩

theorem gpsSerialRun_split_frame :
    pvtHead.Sync ∧ ¬ pvtTail.Sync ∧
      pvtHead.bytes.length + pvtTail.bytes.length = frameDataLen pvtHead.bytes + 8 ∧ 0 < pvtTail.bytes.length ∧
      pvtTail.bytes.length + pvtTail.bytes.length ≤ bufSize ∧
      gpsSerialRun (.cleared 0) [pvtHead, pvtTail] =
        .ok (.cleared (frameDataLen pvtHead.bytes),
          [⟨memcpyAt (memcpyAt (Reassembly.cleared 0).msgBuf 0 pvtHead.bytes) pvtTail.bytes.length pvtTail.bytes,
            pvtHead.bytes.length + pvtTail.bytes.length⟩]) ∧
      Handed.frame ⟨memcpyAt (memcpyAt (Reassembly.cleared 0).msgBuf 0 pvtHead.bytes) pvtTail.bytes.length
          pvtTail.bytes, pvtHead.bytes.length + pvtTail.bytes.length⟩ =
        [0xb5, 0x62, 0x01, 0xbb, 0xcc, 0xdd, 0xaa, 0, 0, 0] ∧
      [0xb5, 0x62, 0x01, 0xbb, 0xcc, 0xdd, 0xaa, 0, 0, 0] ≠ pvtHead.bytes ++ pvtTail.bytes :=
  ⟨by decide, by decide, by decide, by decide, by decide,
    gpsSerialRun_two_fragments (.cleared 0) (by decide) (by decide) (by decide) (by decide) (by decide), rfl,
    by decide⟩

/-! ## Frames longer than `msg_buf` -/

/-- A frame of more than 1024 bytes split into a header fragment and one
continuation that fits at its offset: the copies stay in `msg_buf`, but the
whole `packet_len` of the frame goes to `ubx_parse`, past the end of `msg_buf`. -/
theorem gpsSerialRun_long_frame_handed (s : Reassembly) {a b : Fragment} (ha : a.Sync) (hb : ¬ b.Sync)
    (hframe : a.bytes.length + b.bytes.length = frameDataLen a.bytes + 8)
    (hfit : b.bytes.length + b.bytes.length ≤ bufSize) (hlong : bufSize < a.bytes.length + b.bytes.length) :
    ∃ h, gpsSerialRun s [a, b] = .ok (.cleared (frameDataLen a.bytes), [h]) ∧
      h.packetLen = a.bytes.length + b.bytes.length ∧ h.msgBuf.length < h.packetLen := by
  have hfa := a.length_le
  refine ⟨_, gpsSerialRun_head_continuation s ha hb hframe (by omega) hfit, rfl, ?_⟩
  rw [memcpyAt_length (by rw [memcpyAt_length (by rw [s.msgBuf_length]; omega), s.msgBuf_length]; omega),
    memcpyAt_length (by rw [s.msgBuf_length]; omega), s.msgBuf_length]
  exact hlong

/-- The first 1000 bytes of an RXM-RAWX frame of 32 measurements, 1048 bytes in all. -/
def rawx32Head : Fragment :=
  ⟨[0xb5, 0x62, 0x02, 0x15, 0x10, 0x04] ++ List.replicate 994 0, by rw [List.length_append, List.length_replicate]; decide⟩

/-- Its last 48 bytes. -/
def rawx32Tail : Fragment := ⟨List.replicate 48 0, by decide⟩

theorem gpsSerialRun_rawx32_handed :
    rawx32Head.Sync ∧ ¬ rawx32Tail.Sync ∧
      rawx32Head.bytes.length + rawx32Tail.bytes.length = frameDataLen rawx32Head.bytes + 8 ∧
      rawx32Tail.bytes.length + rawx32Tail.bytes.length ≤ bufSize ∧
      bufSize < rawx32Head.bytes.length + rawx32Tail.bytes.length ∧
      ∃ h, gpsSerialRun (.cleared 0) [rawx32Head, rawx32Tail] = .ok (.cleared (frameDataLen rawx32Head.bytes), [h]) ∧
        h.packetLen = rawx32Head.bytes.length + rawx32Tail.bytes.length ∧ h.msgBuf.length < h.packetLen := by
  have hlen : rawx32Head.bytes.length + rawx32Tail.bytes.length = 1048 := by
    simp only [rawx32Head, rawx32Tail, List.length_append, List.length_replicate, List.length_cons, List.length_nil]
  -- the header bytes, read from the six listed ones
  have hhead : ∀ k, k < 6 → byteAt rawx32Head.bytes k = byteAt [0xb5, 0x62, 0x02, 0x15, 0x10, 0x04] k :=
    fun k hk => by unfold byteAt rawx32Head; rw [List.getElem?_append_left (by simpa using hk)]
  have hframe : rawx32Head.bytes.length + rawx32Tail.bytes.length = frameDataLen rawx32Head.bytes + 8 := by
    rw [hlen, frameDataLen, le16, hhead 4 (by decide), hhead 5 (by decide)]
    rfl
  have hlong : bufSize < rawx32Head.bytes.length + rawx32Tail.bytes.length := by rw [hlen]; decide
  have hsync : rawx32Head.Sync := by
    rw [Fragment.Sync, hhead 0 (by decide), hhead 1 (by decide)]
    decide
  exact ⟨hsync, by decide, hframe, by decide, hlong,
    gpsSerialRun_long_frame_handed (.cleared 0) hsync (by decide) hframe (by decide) hlong⟩

/-! ## Frames in three fragments -/

/-- A frame split into a header fragment `a` and continuations `b` and `c`:
`c` is copied at offset `len(b) + len(c)`, and runs past `msg_buf` as soon as
`len(b) + 2 * len(c)` exceeds its 1024 bytes, however short the frame is. -/
theorem gpsSerialRun_three_fragments_overflow (s : Reassembly) {a b c : Fragment} (ha : a.Sync)
    (hb : ¬ b.Sync) (hc : ¬ c.Sync) (hab : a.bytes.length + b.bytes.length < frameDataLen a.bytes + 8)
    (hfit : b.bytes.length + b.bytes.length ≤ bufSize)
    (hover : bufSize < b.bytes.length + c.bytes.length + c.bytes.length) :
    gpsSerialRun s [a, b, c] = .error (.msgBufOverflow (b.bytes.length + c.bytes.length) c.bytes.length) := by
  have hne : a.bytes.length ≠ frameDataLen a.bytes + 8 := by omega
  have hne' : a.bytes.length + b.bytes.length ≠ frameDataLen a.bytes + 8 := by omega
  have hfa := a.length_le
  simp only [gpsSerialRun, gpsSerialStep, if_pos ha, if_neg hb, if_neg hc, expectedLen_eq_frameDataLen,
    Nat.zero_add, dif_pos hfa, if_neg hne, except_ok_bind, dif_pos hfit, if_neg hne',
    dif_neg (Nat.not_le_of_lt hover), except_error_bind]

/-- A frame of 1016 bytes sent as 6, 10 and 1000 bytes. -/
def longHead : Fragment := ⟨[0xb5, 0x62, 0x02, 0x15, 0xf0, 0x03], by decide⟩

/-- Ten bytes of its payload. -/
def longMiddle : Fragment := ⟨List.replicate 10 0, by decide⟩

/-- The last 1000 bytes of the frame. -/
def longTail : Fragment := ⟨List.replicate 1000 0, by rw [List.length_replicate]; decide⟩

theorem gpsSerialRun_long_frame_overflows :
    longHead.Sync ∧ ¬ longMiddle.Sync ∧ ¬ longTail.Sync ∧
      longHead.bytes.length + longMiddle.bytes.length < frameDataLen longHead.bytes + 8 ∧
      longMiddle.bytes.length + longMiddle.bytes.length ≤ bufSize ∧
      bufSize < longMiddle.bytes.length + longTail.bytes.length + longTail.bytes.length ∧
      longHead.bytes.length + longMiddle.bytes.length + longTail.bytes.length = frameDataLen longHead.bytes + 8 ∧
      gpsSerialRun (.cleared 0) [longHead, longMiddle, longTail] = .error (.msgBufOverflow 1010 1000) := by
  have htail : longTail.bytes.length = 1000 := List.length_replicate _ _
  have hsync : ¬ longTail.Sync := by
    simp only [longTail, Fragment.Sync, byteAt, List.getElem?_replicate]
    decide
  have hover : bufSize < longMiddle.bytes.length + longTail.bytes.length + longTail.bytes.length := by
    rw [htail]; decide
  refine ⟨by decide, by decide, hsync, by decide, by decide, hover, by rw [htail]; decide, ?_⟩
  rw [gpsSerialRun_three_fragments_overflow (.cleared 0) (by decide) (by decide) hsync (by decide) (by decide)
    hover, htail]
  rfl

/-! ## Frames in fragments of one length -/

/-- A copy at `off` leaves the bytes below `off` and puts `src` right after them. -/
theorem memcpyAt_take {dst src : List UInt8} {off : Nat} (h : off ≤ dst.length) :
    (memcpyAt dst off src).take (off + src.length) = dst.take off ++ src := by
  have hoff : (dst.take off).length = off := List.length_take_of_le h
  rw [memcpyAt, List.append_assoc, List.take_append_eq_append_take, hoff, List.take_of_length_le (by omega),
    Nat.add_sub_cancel_left, List.take_append_eq_append_take, List.take_of_length_le (le_refl _), Nat.sub_self,
    List.take_zero, List.append_nil]

theorem Fragment.length_pos_of_sync {frag : Fragment} (h : frag.Sync) : 0 < frag.bytes.length := by
  rcases Nat.eq_zero_or_pos frag.bytes.length with h0 | h0
  · have := h.1
    rw [byteAt_of_le (by omega)] at this
    exact absurd this (by decide)
  · exact h0

/-- Continuations of one length `n`, after a first fragment of that length:
each is copied at `multi_fragment_offset + n`, which is `packet_len`, the end
of what `msg_buf` holds; the last one completes the frame, and `msg_buf`
goes to `ubx_parse` with what it held followed by the continuations. -/
theorem gpsSerialRun_equal_continuations {n : Nat} (hn : 0 < n) :
    ∀ (cs : List Fragment) (s : Reassembly), (∀ c ∈ cs, ¬ c.Sync ∧ c.bytes.length = n) → cs ≠ [] →
      s.multiFragmentOffset + n = s.packetLen → s.packetLen + n * cs.length = s.expectedLen + 8 →
      s.expectedLen + 8 ≤ bufSize →
      ∃ buf, gpsSerialRun s cs = .ok (.cleared s.expectedLen, [⟨buf, s.expectedLen + 8⟩]) ∧
        buf.take (s.expectedLen + 8) = s.msgBuf.take s.packetLen ++ (cs.map (·.bytes)).flatten
  | [], _, _, hne, _, _, _ => absurd rfl hne
  | c :: rest, s, hcs, _, hoff, htotal, hfit => by
    obtain ⟨hc, hcn⟩ := hcs c (List.mem_cons_self _ _)
    have hcopy : s.multiFragmentOffset + c.bytes.length + c.bytes.length ≤ bufSize := by
      have : n ≤ n * (c :: rest).length := Nat.le_mul_of_pos_right _ (by simp)
      omega
    have hbuf : (memcpyAt s.msgBuf (s.multiFragmentOffset + c.bytes.length) c.bytes).take
        (s.packetLen + c.bytes.length) = s.msgBuf.take s.packetLen ++ c.bytes := by
      rw [← hoff, ← hcn, memcpyAt_take (by rw [s.msgBuf_length]; omega)]
    cases rest with
    | nil =>
      have hdone : s.packetLen + c.bytes.length = s.expectedLen + 8 := by simpa [hcn] using htotal
      refine ⟨_, ?_, by rw [← hdone, hbuf]; simp⟩
      simp only [gpsSerialRun, gpsSerialStep, if_neg hc, dif_pos hcopy, hdone, if_true, except_ok_bind]
      rfl
    | cons d ds =>
      have hmore : s.packetLen + c.bytes.length ≠ s.expectedLen + 8 := by
        have : n ≤ n * (ds.length + 1) := Nat.le_mul_of_pos_right _ (Nat.succ_pos _)
        simp only [List.length_cons, Nat.mul_add, Nat.mul_one] at htotal this
        omega
      obtain ⟨buf, hrun, htake⟩ := gpsSerialRun_equal_continuations hn (d :: ds)
        ⟨memcpyAt s.msgBuf (s.multiFragmentOffset + c.bytes.length) c.bytes, _,
          s.multiFragmentOffset + c.bytes.length, s.packetLen + c.bytes.length, s.expectedLen⟩
        (fun c' hc' => hcs c' (List.mem_cons_of_mem _ hc')) (List.cons_ne_nil _ _)
        (show s.multiFragmentOffset + c.bytes.length + n = s.packetLen + c.bytes.length by omega)
        (show s.packetLen + c.bytes.length + n * (ds.length + 1) = s.expectedLen + 8 by
          simp only [List.length_cons, Nat.mul_add, Nat.mul_one] at htotal ⊢
          omega) hfit
      refine ⟨buf, ?_, ?_⟩
      · rw [gpsSerialRun.eq_2]
        simp only [gpsSerialStep, if_neg hc, dif_pos hcopy, if_neg hmore, except_ok_bind]
        rw [hrun]
        rfl
      · rw [htake, hbuf]
        simp only [List.map_cons, List.flatten_cons, List.append_assoc]

/-- A frame sent as fragments of one common length arrives intact: the
continuation number `j` is copied at offset `j * n`, where it belongs, so the
frame `ubx_parse` gets is the frame as it was sent. -/
theorem gpsSerialRun_equal_fragments (s : Reassembly) {n : Nat} (a : Fragment) (cs : List Fragment)
    (ha : a.Sync) (han : a.bytes.length = n) (hcs : ∀ c ∈ cs, ¬ c.Sync ∧ c.bytes.length = n)
    (htotal : n * (cs.length + 1) = frameDataLen a.bytes + 8) (hfit : frameDataLen a.bytes + 8 ≤ bufSize) :
    ∃ h, gpsSerialRun s (a :: cs) = .ok (.cleared (frameDataLen a.bytes), [h]) ∧
      h.frame = a.bytes ++ (cs.map (·.bytes)).flatten := by
  have hn : 0 < n := han ▸ a.length_pos_of_sync ha
  cases cs with
  | nil =>
    have hwhole : a.Whole := ⟨ha, by unfold WellSized ubxPrefixLen; simp at htotal; omega⟩
    refine ⟨_, by simp only [gpsSerialRun, gpsSerialStep_whole s hwhole, except_ok_bind]; rfl, ?_⟩
    simp [Handed.frame, memcpyAt_zero_take]
  | cons c cs =>
    have hfa := a.length_le
    have hbuf : (memcpyAt s.msgBuf 0 a.bytes).take a.bytes.length = a.bytes := memcpyAt_zero_take rfl
    have hmore : a.bytes.length ≠ frameDataLen a.bytes + 8 := by
      have : n ≤ n * (cs.length + 1) := Nat.le_mul_of_pos_right _ (Nat.succ_pos _)
      simp only [List.length_cons, Nat.mul_add, Nat.mul_one] at htotal this
      omega
    obtain ⟨buf, hrun, htake⟩ := gpsSerialRun_equal_continuations hn (c :: cs)
      ⟨memcpyAt s.msgBuf 0 a.bytes, _, 0, a.bytes.length, frameDataLen a.bytes⟩ hcs (List.cons_ne_nil _ _)
      (show 0 + n = a.bytes.length by omega)
      (show a.bytes.length + n * (cs.length + 1) = frameDataLen a.bytes + 8 by
        simp only [List.length_cons, Nat.mul_add, Nat.mul_one] at htotal ⊢
        omega) hfit
    refine ⟨⟨buf, frameDataLen a.bytes + 8⟩, ?_, htake.trans (by rw [hbuf])⟩
    rw [gpsSerialRun.eq_2]
    simp only [gpsSerialStep, if_pos ha, expectedLen_eq_frameDataLen, Nat.zero_add, dif_pos hfa, if_neg hmore,
      except_ok_bind]
    rw [hrun]
    rfl

/-- `pvtWhole`'s first five bytes. -/
def pvtFirstHalf : Fragment := ⟨[0xb5, 0x62, 0x01, 0x07, 2], by decide⟩

/-- `pvtWhole`'s last five bytes. -/
def pvtSecondHalf : Fragment := ⟨[0, 0xaa, 0xbb, 0xcc, 0xdd], by decide⟩

theorem gpsSerialRun_pvt_halves :
    pvtFirstHalf.Sync ∧ pvtFirstHalf.bytes.length = 5 ∧
      (∀ c ∈ [pvtSecondHalf], ¬ c.Sync ∧ c.bytes.length = 5) ∧
      5 * ([pvtSecondHalf].length + 1) = frameDataLen pvtFirstHalf.bytes + 8 ∧
      frameDataLen pvtFirstHalf.bytes + 8 ≤ bufSize ∧
      (∃ h, gpsSerialRun (.cleared 0) [pvtFirstHalf, pvtSecondHalf] =
          .ok (.cleared (frameDataLen pvtFirstHalf.bytes), [h]) ∧
        h.frame = pvtFirstHalf.bytes ++ ([pvtSecondHalf].map (·.bytes)).flatten) ∧
      pvtFirstHalf.bytes ++ ([pvtSecondHalf].map (·.bytes)).flatten = pvtWhole.bytes :=
  ⟨by decide, rfl, by decide, by decide, by decide,
    gpsSerialRun_equal_fragments (.cleared 0) pvtFirstHalf [pvtSecondHalf] (by decide) rfl (by decide) (by decide)
      (by decide), rfl⟩

/-! ## Frames in any number of fragments -/

/-- The passes of continuations `cs` of a frame of `expectedLen` payload bytes,
from `multi_fragment_offset` at `off` and `packet_len` at `len`: no
continuation starts with the sync bytes, each copy stays inside `msg_buf`,
and `packet_len` reaches `expected_len + 8` with the last one and not before. -/
def Continues (expectedLen : Nat) : Nat → Nat → List Fragment → Prop
  | _, _, [] => False
  | off, len, [c] =>
    ¬ c.Sync ∧ off + c.bytes.length + c.bytes.length ≤ bufSize ∧ len + c.bytes.length = expectedLen + 8
  | off, len, c :: d :: ds =>
    ¬ c.Sync ∧ off + c.bytes.length + c.bytes.length ≤ bufSize ∧ len + c.bytes.length ≠ expectedLen + 8 ∧
      Continues expectedLen (off + c.bytes.length) (len + c.bytes.length) (d :: ds)

/-- `msg_buf` after continuations `cs` from `multi_fragment_offset` at `off`:
each is copied at `off` plus the lengths of the continuations up to and
including its own. -/
def continuationCopies (buf : List UInt8) : Nat → List Fragment → List UInt8
  | _, [] => buf
  | off, c :: cs => continuationCopies (memcpyAt buf (off + c.bytes.length) c.bytes) (off + c.bytes.length) cs

theorem gpsSerialRun_continues :
    ∀ (cs : List Fragment) (st : Reassembly), Continues st.expectedLen st.multiFragmentOffset st.packetLen cs →
      gpsSerialRun st cs = .ok (.cleared st.expectedLen,
        [⟨continuationCopies st.msgBuf st.multiFragmentOffset cs, st.expectedLen + 8⟩])
  | [], _, h => h.elim
  | [c], st, ⟨hc, hcopy, hdone⟩ => by
    simp only [gpsSerialRun, gpsSerialStep, if_neg hc, dif_pos hcopy, hdone, if_true, except_ok_bind,
      except_pure, Option.toList, List.append_nil]
    rfl
  | c :: d :: ds, st, ⟨hc, hcopy, hmore, hrest⟩ => by
    rw [gpsSerialRun.eq_2]
    simp only [gpsSerialStep, if_neg hc, dif_pos hcopy, if_neg hmore, except_ok_bind]
    rw [gpsSerialRun_continues (d :: ds) ⟨memcpyAt st.msgBuf (st.multiFragmentOffset + c.bytes.length) c.bytes, _,
      st.multiFragmentOffset + c.bytes.length, st.packetLen + c.bytes.length, st.expectedLen⟩ hrest]
    rfl

/-- A frame sent as a first fragment `a` and continuations `cs` reaches
`ubx_parse` as `msg_buf` with `a` at offset 0 and continuation number `j`
copied at the sum of the lengths of continuations 1 to `j`, not at `len(a)`
plus the lengths of those before it, and `packet_len = expected_len + 8`:
whatever the number and the lengths of the fragments, as long as every copy
stays inside `msg_buf`. -/
theorem gpsSerialRun_frame_layout (s : Reassembly) {a : Fragment} (cs : List Fragment) (ha : a.Sync)
    (hfirst : a.bytes.length ≠ frameDataLen a.bytes + 8) (hcs : Continues (frameDataLen a.bytes) 0 a.bytes.length cs) :
    gpsSerialRun s (a :: cs) = .ok (.cleared (frameDataLen a.bytes),
      [⟨continuationCopies (memcpyAt s.msgBuf 0 a.bytes) 0 cs, frameDataLen a.bytes + 8⟩]) := by
  have hfa := a.length_le
  rw [gpsSerialRun.eq_2]
  simp only [gpsSerialStep, if_pos ha, expectedLen_eq_frameDataLen, Nat.zero_add, dif_pos hfa, if_neg hfirst,
    except_ok_bind]
  rw [gpsSerialRun_continues cs _ hcs]
  rfl

/-- `pvtWhole`'s six header bytes. -/
def pvtHeader : Fragment := ⟨[0xb5, 0x62, 0x01, 0x07, 2, 0], by decide⟩

/-- Its two payload bytes. -/
def pvtPayload : Fragment := ⟨[0xaa, 0xbb], by decide⟩

/-- Its two checksum bytes. -/
def pvtChecksum : Fragment := ⟨[0xcc, 0xdd], by decide⟩

theorem gpsSerialRun_pvt_three_parts :
    pvtHeader.Sync ∧ pvtHeader.bytes.length ≠ frameDataLen pvtHeader.bytes + 8 ∧
      Continues (frameDataLen pvtHeader.bytes) 0 pvtHeader.bytes.length [pvtPayload, pvtChecksum] ∧
      gpsSerialRun (.cleared 0) [pvtHeader, pvtPayload, pvtChecksum] = .ok (.cleared (frameDataLen pvtHeader.bytes),
        [⟨continuationCopies (memcpyAt (Reassembly.cleared 0).msgBuf 0 pvtHeader.bytes) 0 [pvtPayload, pvtChecksum],
          frameDataLen pvtHeader.bytes + 8⟩]) ∧
      Handed.frame ⟨continuationCopies (memcpyAt (Reassembly.cleared 0).msgBuf 0 pvtHeader.bytes) 0
          [pvtPayload, pvtChecksum], frameDataLen pvtHeader.bytes + 8⟩
        = [0xb5, 0x62, 0xaa, 0xbb, 0xcc, 0xdd, 0, 0, 0, 0] := by
  have hcont : Continues (frameDataLen pvtHeader.bytes) 0 pvtHeader.bytes.length [pvtPayload, pvtChecksum] :=
    ⟨by decide, by decide, by decide, by decide, by decide, by decide⟩
  exact ⟨by decide, by decide, hcont,
    gpsSerialRun_frame_layout (.cleared 0) [pvtPayload, pvtChecksum] (by decide) (by decide) hcont, rfl⟩

/-! ## Reads that run past a frame -/

/-- The passes of the loop over a fragment and the ones after it, taken apart:
the pass over the fragment, the passes over the rest from the state it leaves,
and the buffers of both. -/
theorem gpsSerialRun_cons_eq_ok {s : Reassembly} {frag : Fragment} {frags : List Fragment}
    {r : Reassembly × List Handed} (h : gpsSerialRun s (frag :: frags) = .ok r) :
    ∃ r₁ rs, gpsSerialStep s frag = .ok r₁ ∧ gpsSerialRun r₁.1 frags = .ok rs ∧ r = (rs.1, r₁.2.toList ++ rs.2) := by
  obtain ⟨r₁, hr₁, h⟩ := except_bind_eq_ok h
  obtain ⟨rs, hrs, h⟩ := except_bind_eq_ok h
  cases h
  exact ⟨r₁, rs, hr₁, hrs, rfl⟩

/-- `packet_len` has passed `expected_len + 8`: the frame under way can no
longer complete, since only a fragment with the sync bytes resets the count. -/
def Reassembly.Overshot (s : Reassembly) : Prop := s.expectedLen + 8 < s.packetLen

/-- A pass whose fragment takes `packet_len` past `expected_len + 8`, a frame
and more in one read or a continuation that runs into the next frame, hands
nothing over and leaves the frame overshot. -/
theorem gpsSerialStep_overshoots {s : Reassembly} {frag : Fragment} {r : Reassembly × Option Handed}
    (hover : if frag.Sync then frameDataLen frag.bytes + 8 < frag.bytes.length
      else s.expectedLen + 8 < s.packetLen + frag.bytes.length)
    (hr : gpsSerialStep s frag = .ok r) : r.2 = none ∧ r.1.Overshot := by
  unfold gpsSerialStep at hr
  by_cases hs : frag.Sync <;>
    simp only [hs, if_true, if_false, expectedLen_eq_frameDataLen, Nat.zero_add] at hover hr <;>
    split at hr <;> (try rw [if_neg (by omega)] at hr) <;> cases hr <;> exact ⟨rfl, hover⟩

/-- From an overshot frame, fragments without the sync bytes bring nothing to
`ubx_parse`. -/
theorem gpsSerialRun_overshot :
    ∀ (frags : List Fragment) (s : Reassembly), s.Overshot → (∀ c ∈ frags, ¬ c.Sync) →
      ∀ r, gpsSerialRun s frags = .ok r → r.2 = []
  | [], _, _, _, _, h => by cases h; rfl
  | c :: frags, s, hs, hcs, _, h => by
    obtain ⟨r₁, rs, hr₁, hrs, rfl⟩ := gpsSerialRun_cons_eq_ok h
    have hover : s.expectedLen + 8 < s.packetLen + c.bytes.length := Nat.lt_of_lt_of_le hs (Nat.le_add_right _ _)
    obtain ⟨hnone, hr₁'⟩ := gpsSerialStep_overshoots (by rwa [if_neg (hcs c (List.mem_cons_self _ _))]) hr₁
    rw [hnone]
    exact gpsSerialRun_overshot frags r₁.1 hr₁' (fun c' hc' => hcs c' (List.mem_cons_of_mem _ hc')) rs hrs

/-- A fragment that takes `packet_len` past `expected_len + 8`, such as a read
that holds the end of one frame and the start of the next, loses that frame
and every later one until a fragment starts with the sync bytes: no buffer of
the run reaches `ubx_parse`. -/
theorem gpsSerialRun_overshoot_loses_frames (s : Reassembly) (a : Fragment) (cs : List Fragment)
    (hover : if a.Sync then frameDataLen a.bytes + 8 < a.bytes.length
      else s.expectedLen + 8 < s.packetLen + a.bytes.length)
    (hcs : ∀ c ∈ cs, ¬ c.Sync) :
    ∀ r, gpsSerialRun s (a :: cs) = .ok r → r.2 = [] := by
  intro r h
  obtain ⟨r₁, rs, hr₁, hrs, rfl⟩ := gpsSerialRun_cons_eq_ok h
  obtain ⟨hnone, hs⟩ := gpsSerialStep_overshoots hover hr₁
  rw [hnone]
  exact gpsSerialRun_overshot cs r₁.1 hs hcs rs hrs

/-- `pvtWhole` and the first four bytes of a second NAV-PVT frame, in one read. -/
def pvtMerged : Fragment := ⟨pvtWhole.bytes ++ [0xb5, 0x62, 0x01, 0x07], by decide⟩

/-- The rest of the second frame. -/
def pvtRest : Fragment := ⟨[2, 0, 0xaa, 0xbb, 0xcc, 0xdd], by decide⟩

theorem gpsSerialRun_merged_pvt_lost :
    (if pvtMerged.Sync then frameDataLen pvtMerged.bytes + 8 < pvtMerged.bytes.length
      else (Reassembly.cleared 0).expectedLen + 8 < (Reassembly.cleared 0).packetLen + pvtMerged.bytes.length) ∧
      (∀ c ∈ [pvtRest], ¬ c.Sync) ∧ (gpsSerialRun (.cleared 0) [pvtMerged, pvtRest]).map Prod.snd = .ok [] ∧
      ∀ r, gpsSerialRun (.cleared 0) [pvtMerged, pvtRest] = .ok r → r.2 = [] :=
  ⟨by decide, by decide, rfl, gpsSerialRun_overshoot_loses_frames (.cleared 0) pvtMerged [pvtRest] (by decide) (by decide)⟩

/-! ## Reads after a frame -/

/-- A copy never shrinks the buffer it writes into. -/
theorem memcpyAt_length_ge (dst src : List UInt8) (off : Nat) : dst.length ≤ (memcpyAt dst off src).length := by
  simp only [memcpyAt, List.length_append, List.length_take, List.length_drop]
  omega

/-- A copy to `off + len(src)` leaves byte 0 of a nonempty buffer alone. -/
theorem byteAt_memcpyAt_zero {dst : List UInt8} (src : List UInt8) (off : Nat) (hdst : 0 < dst.length) :
    byteAt (memcpyAt dst (off + src.length) src) 0 = byteAt dst 0 := by
  cases src with
  | nil => simp [memcpyAt]
  | cons b bs =>
    have htake : 0 < (dst.take (off + (b :: bs).length)).length := by simp only [List.length_take]; simp; omega
    unfold byteAt memcpyAt
    rw [List.append_assoc, List.getElem?_append_left htake, List.getElem?_take_of_lt (by simp)]

/-- Continuations never write byte 0 of `msg_buf`. -/
theorem byteAt_continuationCopies_zero :
    ∀ (cs : List Fragment) (buf : List UInt8) (off : Nat), 0 < buf.length →
      byteAt (continuationCopies buf off cs) 0 = byteAt buf 0
  | [], _, _, _ => rfl
  | c :: cs, buf, off, hbuf => by
    rw [continuationCopies, byteAt_continuationCopies_zero cs _ _
      (Nat.lt_of_lt_of_le hbuf (memcpyAt_length_ge _ _ _)), byteAt_memcpyAt_zero _ _ hbuf]

/-- After a frame has gone to `ubx_parse`, reads without the sync bytes that add
up to that frame's `expected_len + 8` go to `ubx_parse` as a frame of their
own, though nothing marked its start: `msg_buf` with `packet_len =
expected_len + 8` and a first byte that is the 0 left by its `memset`, not
`0xb5`. -/
theorem gpsSerialRun_stray_bytes_handed (e : Nat) (cs : List Fragment) (hcs : Continues e 0 0 cs) :
    ∃ h, gpsSerialRun (.cleared e) cs = .ok (.cleared e, [h]) ∧ h.packetLen = e + 8 ∧ byteAt h.msgBuf 0 = 0 := by
  refine ⟨_, gpsSerialRun_continues cs (.cleared e) hcs, rfl, ?_⟩
  show byteAt (continuationCopies zeroBuf 0 cs) 0 = 0
  rw [byteAt_continuationCopies_zero cs zeroBuf 0 (by rw [zeroBuf, List.length_replicate]; decide)]
  unfold byteAt zeroBuf
  rw [List.getElem?_replicate]
  simp [bufSize]

/-- Ten bytes without the sync bytes, read after `pvtWhole`. -/
def strayTen : Fragment := ⟨[1, 2, 3, 4, 5, 6, 7, 8, 9, 10], by decide⟩

theorem gpsSerialRun_stray_after_pvt :
    Continues 2 0 0 [strayTen] ∧
      (gpsSerialRun (.cleared 0) [pvtWhole]).map Prod.fst = .ok (.cleared 2) ∧
      ∃ h, gpsSerialRun (.cleared 2) [strayTen] = .ok (.cleared 2, [h]) ∧ h.packetLen = 2 + 8 ∧
        byteAt h.msgBuf 0 = 0 := by
  have hcs : Continues 2 0 0 [strayTen] := ⟨by decide, by decide, by decide⟩
  exact ⟨hcs, rfl, gpsSerialRun_stray_bytes_handed 2 [strayTen] hcs⟩

end Craggy.Serial
