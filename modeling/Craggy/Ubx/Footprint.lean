import Craggy.Ubx.Reads

/-!
# What a decoder reads

The reach of a decoder run is meant as the extent of what it reads of its
buffer.  This module proves it is: a decoder that runs on a buffer, and then
on another one that agrees with it below the first run's reach, runs the
same, with the same result and the same reach (`ubxDispatch_readsBelowReach`).
So `data_len < reach` is exactly the statement that the decoder's outcome can
depend on bytes past the payload, and a run whose reach stays within
`data_len` never looks at the checksum or at what follows it in `msg_buf`.

*Closure.*  `ReadsBelowReach` holds of every read and of every step that does
not look at the buffer, and is kept by `>>=`, `if`, and the `foldlM` and
`mapM` of the block loops (`ReadsBelowReach.bind`, `ReadsBelowReach.foldlM`,
...).  Each decoder is built from these alone, so each of its lemmas below is
the same walk over the decoder's `do` block.

*`ubx_parse`.*  Beyond its reach, `ubx_parse` looks at the six header bytes
and at the buffer's length only to refuse a short one, so two buffers that
agree on the header and on the payload below the reach are parsed alike
(`ubxParse_reads_below_reach`).
-/

namespace Craggy.Ubx

/-! ## Buffers that agree on a prefix -/

section Prefix

variable {buf buf' : List UInt8} {n : Nat}

theorem take_eq_of_take_eq {k : Nat} (h : buf'.take n = buf.take n) (hk : k ≤ n) : buf'.take k = buf.take k := by
  have := congrArg (List.take k) h
  simpa only [List.take_take, min_eq_left hk] using this

theorem le_length_iff_of_take_eq {k : Nat} (h : buf'.take n = buf.take n) (hk : k ≤ n) :
    k ≤ buf'.length ↔ k ≤ buf.length := by
  have := congrArg List.length h
  simp only [List.length_take] at this
  omega

theorem byteAt_eq_of_take {k : Nat} (h : buf'.take n = buf.take n) (hk : k < n) : byteAt buf' k = byteAt buf k := by
  simpa using byteAt_eq_of_window (a := 0) (by simpa using h) hk

theorem le16_eq_of_take {off : Nat} (h : buf'.take n = buf.take n) (hk : off + 2 ≤ n) : le16 buf' off = le16 buf off := by
  rw [le16, le16, byteAt_eq_of_take h (by omega), byteAt_eq_of_take h (by omega)]

theorem le32_eq_of_take {off : Nat} (h : buf'.take n = buf.take n) (hk : off + 4 ≤ n) : le32 buf' off = le32 buf off := by
  rw [le32, le32, le16_eq_of_take h (by omega), le16_eq_of_take h (by omega)]

theorem le64_eq_of_take {off : Nat} (h : buf'.take n = buf.take n) (hk : off + 8 ≤ n) : le64 buf' off = le64 buf off := by
  rw [le64, le64, le32_eq_of_take h (by omega), le32_eq_of_take h (by omega)]

end Prefix

/-! ## Steps that read below their reach -/

/-- A step, as a function of the buffer it reads, looks at nothing of the
buffer at or past its reach: on a buffer that agrees with `buf` on the first
`n` bytes, `n` at least the reach of the step on `buf`, it is the same step. -/
def ReadsBelowReach {α : Type} (f : List UInt8 → Decode α) : Prop :=
  ∀ n buf buf', (f buf).reach ≤ n → buf'.take n = buf.take n → f buf' = f buf

namespace ReadsBelowReach

variable {α β σ : Type}

theorem const (x : Decode α) : ReadsBelowReach fun _ => x :=
  fun _ _ _ _ _ => rfl

theorem bind {f : List UInt8 → Decode α} {k : α → List UInt8 → Decode β}
    (hf : ReadsBelowReach f) (hk : ∀ a, ReadsBelowReach (k a)) :
    ReadsBelowReach fun buf => f buf >>= fun a => k a buf := by
  intro n buf buf' hn hagree
  dsimp only at hn ⊢
  rw [hf n buf buf' ((Decode.le_reach_bind _ _).trans hn) hagree]
  rcases hx : f buf with ⟨_ | a, m⟩
  · rfl
  · rw [hx, Decode.mk_ok_bind] at hn
    rw [Decode.mk_ok_bind, Decode.mk_ok_bind, hk a n buf buf' (le_of_max_le_right hn) hagree]

theorem ite (c : Prop) [Decidable c] {f k : List UInt8 → Decode α}
    (hf : ReadsBelowReach f) (hk : ReadsBelowReach k) :
    ReadsBelowReach fun buf => if c then f buf else k buf := by
  by_cases hc : c
  · simpa only [hc, if_true] using hf
  · simpa only [hc, if_false] using hk

/-- A read of `w` bytes at `off`, whose value depends on those bytes alone. -/
theorem readOf {off w : Nat} {v : List UInt8 → α}
    (hv : ∀ buf buf', buf'.take (off + w) = buf.take (off + w) → v buf' = v buf) :
    ReadsBelowReach fun buf => readOf buf off w (v buf) := by
  intro n buf buf' hn hagree
  rw [readOf_reach] at hn
  have hpre := take_eq_of_take_eq hagree hn
  simp only [Craggy.Ubx.readOf, hv buf buf' hpre, le_length_iff_of_take_eq hpre (le_refl _)]

theorem getub (off : Nat) : ReadsBelowReach fun buf => getub buf off := by
  simp only [getub_eq]
  exact readOf fun _ _ h => byteAt_eq_of_take h (by omega)

theorem getsb (off : Nat) : ReadsBelowReach fun buf => getsb buf off := by
  simp only [getsb_eq]
  exact readOf fun _ _ h => by rw [byteAt_eq_of_take h (by omega)]

theorem getleu16 (off : Nat) : ReadsBelowReach fun buf => getleu16 buf off := by
  simp only [getleu16_eq]
  exact readOf fun _ _ h => le16_eq_of_take h (le_refl _)

theorem getles16 (off : Nat) : ReadsBelowReach fun buf => getles16 buf off := by
  simp only [getles16_eq]
  exact readOf fun _ _ h => by rw [le16_eq_of_take h (le_refl _)]

theorem getleu32 (off : Nat) : ReadsBelowReach fun buf => getleu32 buf off := by
  simp only [getleu32_eq]
  exact readOf fun _ _ h => le32_eq_of_take h (le_refl _)

theorem getles32 (off : Nat) : ReadsBelowReach fun buf => getles32 buf off := by
  simp only [getles32_eq]
  exact readOf fun _ _ h => by rw [le32_eq_of_take h (le_refl _)]

theorem getleu64 (off : Nat) : ReadsBelowReach fun buf => getleu64 buf off := by
  simp only [getleu64_eq]
  exact readOf fun _ _ h => le64_eq_of_take h (le_refl _)

/-- A block loop whose every pass reads below its reach. -/
theorem foldlM {f : List UInt8 → σ → β → Decode σ} (hf : ∀ s a, ReadsBelowReach fun buf => f buf s a) :
    ∀ (xs : List β) (s : σ), ReadsBelowReach fun buf => xs.foldlM (f buf) s
  | [], s => const (pure s)
  | a :: xs, s => by
    simp only [List.foldlM_cons]
    exact bind (hf s a) fun s' => foldlM hf xs s'

theorem mapM {f : List UInt8 → β → Decode α} (hf : ∀ a, ReadsBelowReach fun buf => f buf a) :
    ∀ xs : List β, ReadsBelowReach fun buf => xs.mapM (f buf)
  | [] => const (pure [])
  | a :: xs => by
    simp only [List.mapM_cons]
    exact bind (hf a) fun b => bind (mapM hf xs) fun bs => const (pure (b :: bs))

end ReadsBelowReach

/-! ## The decoders -/

/-- Every decoder `ubx_parse` dispatches to reads its payload only below its
reach.  Each is a `do` block of reads, stores that do not look at the buffer,
`if`s and block loops, and the proof takes all of them apart alike. -/
theorem ubxDispatch_readsBelowReach (g : Gpsd) (now : Timespec) (session : GpsDevice) (msgid dataLen : Nat) :
    ReadsBelowReach fun buf => ubxDispatch g now session msgid buf dataLen := by
  unfold ubxDispatch ubxMsgNavPvt navPvtDate ubxMsgNavSat navSatBlock ubxMsgNavTimegps ubxMsgNavTimeutc
    ubxMsgRxmMeasx measxBlock ubxMsgRxmRawx rawxBlock ubxMsgRxmSfrb ubxMsgRxmSfrbx ubxMsgTimTp
  repeat' with_reducible first
    | apply ReadsBelowReach.bind | apply ReadsBelowReach.ite | apply ReadsBelowReach.foldlM
    | apply ReadsBelowReach.mapM | exact .getub _ | exact .getsb _ | exact .getleu16 _ | exact .getles16 _
    | exact .getleu32 _ | exact .getles32 _ | exact .getleu64 _ | exact .const _ | intro _

/-- `ubx_parse` reads of its buffer the length, the six header bytes and the
payload below the decoder's reach: two buffers that agree on their first
`6 + n` bytes, `n` at least the reach of the run on the first, are parsed
alike, faults and reach included. -/
theorem ubxParse_reads_below_reach (g : Gpsd) (now : Timespec) (session : GpsDevice) {buf buf' : List UInt8}
    {n : Nat} (hn : (ubxParse g now session buf).reach ≤ n)
    (hagree : buf'.take (ubxPrefixLen + n) = buf.take (ubxPrefixLen + n)) :
    ubxParse g now session buf' = ubxParse g now session buf := by
  by_cases hlen : ubxPrefixLen ≤ buf.length
  case neg =>
    have htake : buf.take (ubxPrefixLen + n) = buf := List.take_of_length_le (by omega)
    have hlen' : buf'.length ≤ ubxPrefixLen + n := by
      have := congrArg List.length hagree
      simp only [List.length_take, htake] at this
      omega
    have hsame : buf' = buf := by rw [← List.take_of_length_le hlen', hagree, htake]
    rw [hsame]
  case pos =>
    have hlen' : ubxPrefixLen ≤ buf'.length := (le_length_iff_of_take_eq hagree (by omega)).2 hlen
    have hhead := take_eq_of_take_eq hagree (Nat.le_add_right ubxPrefixLen n)
    have hmsgid : frameMsgid buf' = frameMsgid buf := by
      unfold frameMsgid
      rw [byteAt_eq_of_take hhead (by decide), byteAt_eq_of_take hhead (by decide)]
    have hdataLen : frameDataLen buf' = frameDataLen buf := le16_eq_of_take hhead (by decide)
    have hpayload : (framePayload buf').take n = (framePayload buf).take n := by
      have := congrArg (List.drop ubxPrefixLen) hagree
      simpa only [List.drop_take, Nat.add_sub_cancel_left] using this
    rw [ubxParse_eq g hlen] at hn
    have hdispatch := ubxDispatch_readsBelowReach g now { session with iTOW := -1 } (frameMsgid buf)
      (frameDataLen buf) n _ _ ((Decode.le_reach_bind _ _).trans hn) hpayload
    beta_reduce at hdispatch
    rw [ubxParse_eq g hlen, ubxParse_eq g hlen', hmsgid, hdataLen, hdispatch]

/-- `navPvtFrame` with its checksum bytes replaced. -/
def navPvtOtherChecksum : List UInt8 := navPvtFrame.take 98 ++ [0xff, 0xff]

theorem ubxParse_navPvt_checksum_unread :
    (ubxParse Gpsd.sample .zero .zero navPvtFrame).reach ≤ 92 ∧
      navPvtOtherChecksum.take (ubxPrefixLen + 92) = navPvtFrame.take (ubxPrefixLen + 92) ∧
      ubxParse Gpsd.sample .zero .zero navPvtOtherChecksum = ubxParse Gpsd.sample .zero .zero navPvtFrame := by
  have hreach : (ubxParse Gpsd.sample .zero .zero navPvtFrame).reach ≤ 92 := by decide
  have hagree : navPvtOtherChecksum.take (ubxPrefixLen + 92) = navPvtFrame.take (ubxPrefixLen + 92) := by decide
  exact ⟨hreach, hagree, ubxParse_reads_below_reach Gpsd.sample .zero .zero hreach hagree⟩

end Craggy.Ubx
