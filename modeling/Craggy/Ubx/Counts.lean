import Craggy.Ubx.Guards

/-!
# The satellite counts over a run

`satellites_visible` and `satellites_used` are written by two decoders only.
NAV-SAT sets them to its block count `nchan`, which it has compared with
`MAXCHANNELS`, and to the number of blocks whose flags have bit 3 set, at most
`nchan`.  TIM-TP zeroes `satellites_visible`, before its length guard, and
leaves `satellites_used`.  Every other decoder writes neither: the block loops
of RXM-MEASX and RXM-RAWX rewrite entries of `skyview[]` and `raw.meas[]`
only (`GpsData.ArraysOnly`).

So both counts stay within `MAXCHANNELS` over every run
(`ubxRun_zero_counts_within`).  But `satellites_used <= satellites_visible`
does not survive a TIM-TP frame, and `raw.avb_meas` takes any count a MEASX or
RAWX payload declares, before the comparison with `MAXCHANNELS` rejects it:
for every `MAXCHANNELS` some stream breaks one of the two
(`ubxRun_counts_exceed`).
-/

namespace Craggy.Ubx

variable (g : Gpsd)

/-! ## What a block can write -/

/-- `d'` is `d` with at most entries of `skyview[]` and `raw.meas[]` rewritten. -/
structure GpsData.ArraysOnly (d d' : GpsData) : Prop where
  fix : d'.fix = d.fix
  avbMeas : d'.raw.avbMeas = d.raw.avbMeas
  mtime : d'.raw.mtime = d.raw.mtime
  satellitesVisible : d'.satellitesVisible = d.satellitesVisible
  satellitesUsed : d'.satellitesUsed = d.satellitesUsed
  currTime : d'.currTime = d.currTime
  tpTime : d'.tpTime = d.tpTime

namespace GpsData.ArraysOnly

variable {d d' d'' : GpsData}

theorem refl (d : GpsData) : ArraysOnly d d := ⟨rfl, rfl, rfl, rfl, rfl, rfl, rfl⟩

theorem trans (h : ArraysOnly d d') (h' : ArraysOnly d' d'') : ArraysOnly d d'' :=
  ⟨h'.1.trans h.1, h'.2.trans h.2, h'.3.trans h.3, h'.4.trans h.4, h'.5.trans h.5, h'.6.trans h.6,
    h'.7.trans h.7⟩

end GpsData.ArraysOnly

section Blocks

variable (buf : List UInt8)

theorem navSatBlock_arraysOnly (acc : GpsData × Nat) (i : Nat) :
    Decode.Always (navSatBlock g buf acc i) fun r => acc.1.ArraysOnly r.1 ∧ r.2 ≤ acc.2 + 1 := by
  simp only [navSatBlock, Decode.always_bind, getub_eq, getleu32_eq, getsb_eq, getles16_eq, Decode.always_readOf,
    GpsData.setSkyview_always, Decode.always_pure]
  intros
  refine ⟨⟨rfl, rfl, rfl, rfl, rfl, rfl, rfl⟩, ?_⟩
  split <;> omega

theorem measxBlock_arraysOnly (d : GpsData) (i : Nat) :
    Decode.Always (measxBlock g buf d i) d.ArraysOnly := by
  simp only [measxBlock, Decode.always_bind, getub_eq, getleu32_eq, getleu16_eq, Decode.always_readOf,
    GpsData.setSkyview_always, GpsData.setMeas_always]
  intros
  exact ⟨rfl, rfl, rfl, rfl, rfl, rfl, rfl⟩

theorem rawxBlock_arraysOnly (d : GpsData) (i : Nat) :
    Decode.Always (rawxBlock g buf d i) d.ArraysOnly := by
  simp only [rawxBlock, Decode.always_bind, getub_eq, getleu32_eq, getleu16_eq, getleu64_eq, Decode.always_readOf,
    GpsData.setSkyview_always, GpsData.setMeas_always, Decode.always_pure]
  intros
  exact ⟨rfl, rfl, rfl, rfl, rfl, rfl, rfl⟩

/-- The NAV-SAT loop rewrites array entries only, and counts at most one used
satellite per block. -/
theorem navSat_fold_arraysOnly (d : GpsData) (n : Nat) :
    Decode.Always ((List.range n).foldlM (navSatBlock g buf) (d, 0)) fun r => d.ArraysOnly r.1 ∧ r.2 ≤ n := by
  have hinv := @foldlM_invariant _ _ (fun r : GpsData × Nat => d.ArraysOnly r.1) _
    (fun s i hs => (navSatBlock_arraysOnly g buf s i).mono fun _ h => hs.trans h.1) (List.range n) (d, 0)
    (.refl d)
  have hcount := foldlM_le_add_length Prod.snd
    (fun s i => (navSatBlock_arraysOnly g buf s i).mono fun _ h => h.2) (List.range n) (d, 0)
  exact (hinv.and hcount).mono fun r h => ⟨h.1, by simpa using h.2⟩

theorem measx_fold_arraysOnly (d : GpsData) (xs : List Nat) :
    Decode.Always (xs.foldlM (measxBlock g buf) d) d.ArraysOnly :=
  foldlM_invariant (fun _ i hs => (measxBlock_arraysOnly g buf _ i).mono fun _ h => hs.trans h) xs d (.refl d)

theorem rawx_fold_arraysOnly (d : GpsData) (xs : List Nat) :
    Decode.Always (xs.foldlM (rawxBlock g buf) d) d.ArraysOnly :=
  foldlM_invariant (fun _ i hs => (rawxBlock_arraysOnly g buf _ i).mono fun _ h => hs.trans h) xs d (.refl d)

end Blocks

/-! ## What each decoder does to the counts -/

section Decoders

variable (buf : List UInt8)

/-- The satellite counts of the device `r` returns are those of `session`. -/
def KeepsCounts (session : GpsDevice) (r : GpsDevice × Mask) : Prop :=
  r.1.gpsdata.satellitesUsed = session.gpsdata.satellitesUsed ∧
    r.1.gpsdata.satellitesVisible = session.gpsdata.satellitesVisible

variable (session : GpsDevice) (dataLen : Nat)

theorem ubxMsgNavPvt_keepsCounts : Decode.Always (ubxMsgNavPvt g session buf dataLen) (KeepsCounts session) := by
  simp [ubxMsgNavPvt, navPvtDate, KeepsCounts]

theorem ubxMsgNavTimegps_keepsCounts :
    Decode.Always (ubxMsgNavTimegps g session buf dataLen) (KeepsCounts session) := by
  simp [ubxMsgNavTimegps, KeepsCounts]

theorem ubxMsgNavTimeutc_keepsCounts :
    Decode.Always (ubxMsgNavTimeutc g session buf dataLen) (KeepsCounts session) := by
  simp [ubxMsgNavTimeutc, KeepsCounts]

theorem ubxMsgRxmMeasx_keepsCounts :
    Decode.Always (ubxMsgRxmMeasx g session buf dataLen) (KeepsCounts session) := by
  simp only [ubxMsgRxmMeasx, Decode.always_bind, Decode.always_ite, Decode.always_pure, pure_bind, getub_eq,
    getleu32_eq, Decode.always_readOf, KeepsCounts, and_self, implies_true, true_and]
  intros
  exact (measx_fold_arraysOnly g buf _ _).mono fun _ h => And.intro h.satellitesUsed h.satellitesVisible

theorem ubxMsgRxmRawx_keepsCounts :
    Decode.Always (ubxMsgRxmRawx g session buf dataLen) (KeepsCounts session) := by
  simp only [ubxMsgRxmRawx, Decode.always_bind, Decode.always_ite, Decode.always_pure, pure_bind, getub_eq,
    getsb_eq, getleu16_eq, getleu64_eq, Decode.always_readOf, KeepsCounts, and_self, implies_true, true_and]
  intros
  exact (rawx_fold_arraysOnly g buf _ _).mono fun _ h => And.intro h.satellitesUsed h.satellitesVisible

theorem ubxMsgRxmSfrb_keepsCounts :
    Decode.Always (ubxMsgRxmSfrb g session buf dataLen) (KeepsCounts session) := by
  simp [ubxMsgRxmSfrb, KeepsCounts, -List.mapM]

theorem ubxMsgRxmSfrbx_keepsCounts :
    Decode.Always (ubxMsgRxmSfrbx g session buf dataLen) (KeepsCounts session) := by
  simp [ubxMsgRxmSfrbx, KeepsCounts, -List.mapM]

/-- NAV-SAT either rejects the payload, or counts at most as many used
satellites as the `nchan <= MAXCHANNELS` blocks it declares visible. -/
theorem ubxMsgNavSat_counts :
    Decode.Always (ubxMsgNavSat g session buf dataLen) fun r =>
      KeepsCounts session r ∨
        r.1.gpsdata.satellitesUsed ≤ r.1.gpsdata.satellitesVisible ∧
          r.1.gpsdata.satellitesVisible ≤ g.maxChannels := by
  simp only [ubxMsgNavSat, Decode.always_bind, Decode.always_ite, Decode.always_pure, pure_bind, getub_eq,
    getleu32_eq, Decode.always_readOf, KeepsCounts, and_self, true_or, implies_true, true_and]
  intro _ _ _ _ _ hle
  exact (navSat_fold_arraysOnly g buf _ _).mono fun _ h => .inr ⟨h.2, Nat.le_of_not_lt hle⟩

/-- TIM-TP zeroes `satellites_visible` and leaves `satellites_used`, whatever
the payload. -/
theorem ubxMsgTimTp_counts (now : Timespec) :
    Decode.Always (ubxMsgTimTp g now session buf dataLen) fun r =>
      r.1.gpsdata.satellitesUsed = session.gpsdata.satellitesUsed ∧ r.1.gpsdata.satellitesVisible = 0 := by
  simp [ubxMsgTimTp]

end Decoders

/-! ## Counts over a run -/

/-- Bounds on the satellite counts that every frame keeps. -/
structure CountsWithin (d : GpsData) : Prop where
  used_le : d.satellitesUsed ≤ g.maxChannels
  visible_le : d.satellitesVisible ≤ g.maxChannels

variable {g} in
theorem KeepsCounts.countsWithin {session : GpsDevice} {r : GpsDevice × Mask} (hk : KeepsCounts session r)
    (h : CountsWithin g session.gpsdata) : CountsWithin g r.1.gpsdata :=
  ⟨hk.1 ▸ h.1, hk.2 ▸ h.2⟩

variable (buf : List UInt8) (session : GpsDevice) (dataLen : Nat)

theorem ubxDispatch_countsWithin (now : Timespec) (msgid : Nat) (h : CountsWithin g session.gpsdata) :
    Decode.Always (ubxDispatch g now session msgid buf dataLen) fun r => CountsWithin g r.1.gpsdata := by
  have keeps {x : Decode (GpsDevice × Mask)} (hx : Decode.Always x (KeepsCounts session)) :
      Decode.Always x fun r => CountsWithin g r.1.gpsdata :=
    hx.mono fun _ hk => hk.countsWithin h
  exact ubxDispatch_rec g (fun x => Decode.Always x fun r => CountsWithin g r.1.gpsdata)
    (fun _ => keeps (ubxMsgNavPvt_keepsCounts g buf session dataLen))
    (fun _ => (ubxMsgNavSat_counts g buf session dataLen).mono fun _ hr =>
      hr.elim (·.countsWithin h) fun hc => ⟨hc.1.trans hc.2, hc.2⟩)
    (fun _ => keeps (ubxMsgNavTimegps_keepsCounts g buf session dataLen))
    (fun _ => keeps (ubxMsgNavTimeutc_keepsCounts g buf session dataLen))
    (fun _ => keeps (ubxMsgRxmMeasx_keepsCounts g buf session dataLen))
    (fun _ => keeps (ubxMsgRxmRawx_keepsCounts g buf session dataLen))
    (fun _ => keeps (ubxMsgRxmSfrb_keepsCounts g buf session dataLen))
    (fun _ => keeps (ubxMsgRxmSfrbx_keepsCounts g buf session dataLen))
    (fun _ => (ubxMsgTimTp_counts g buf session dataLen now).mono fun _ hr =>
      ⟨hr.1 ▸ h.1, hr.2 ▸ Nat.zero_le _⟩)
    fun _ => (Decode.always_pure _).2 h

theorem ubxParse_countsWithin (now : Timespec) (frame : List UInt8) (h : CountsWithin g session.gpsdata) :
    Decode.Always (ubxParse g now session frame) fun r => CountsWithin g r.1.gpsdata := by
  simp only [ubxParse, Decode.always_ite, Decode.always_pure, pure_bind, Decode.always_bind]
  exact ⟨fun _ => h, fun _ => ubxDispatch_countsWithin g _ _ _ _ _ h⟩

theorem ubxRun_countsWithin :
    ∀ (session : GpsDevice) (frames : List (Timespec × List UInt8)), CountsWithin g session.gpsdata →
      Decode.Always (ubxRun g session frames) fun d => CountsWithin g d.gpsdata
  | _, [], h => (Decode.always_pure _).2 h
  | session, (now, frame) :: frames, h => by
      rw [ubxRun, Decode.always_bind]
      exact fun r hr => ubxRun_countsWithin r.1 frames (ubxParse_countsWithin g session now frame h r hr)

/-- From the zeroed device, every run of `ubx_parse` that ends without a fault
leaves `satellites_used` and `satellites_visible` within `MAXCHANNELS`. -/
theorem ubxRun_zero_counts_within (frames : List (Timespec × List UInt8)) :
    Decode.Always (ubxRun g GpsDevice.zero frames) fun d =>
      d.gpsdata.satellitesUsed ≤ g.maxChannels ∧ d.gpsdata.satellitesVisible ≤ g.maxChannels :=
  (ubxRun_countsWithin g _ frames ⟨Nat.zero_le _, Nat.zero_le _⟩).mono fun _ h => ⟨h.1, h.2⟩

/-! ## The bounds that fail -/

/-- A NAV-SAT frame of one block, for satellite 0, whose flags word (read at
payload byte 24) has bit 3 set. -/
def navSatOneUsedFrame : List UInt8 :=
  [0xb5, 0x62, 0x01, 0x35, 28, 0,
    0, 0, 0, 0, 1, 1, 0, 0, 0, 0, 0, 0, 0, 0, 0, 0, 0, 0, 0, 0, 0, 0, 0, 0, 0x08, 0, 0, 0,
    0, 0]

/-- A TIM-TP frame with an empty payload. -/
def timTpEmptyFrame : List UInt8 := [0xb5, 0x62, 0x0d, 0x01, 0, 0, 0, 0]

/-- An RXM-RAWX frame of 16 payload bytes declaring 255 measurements. -/
def rawxOvercountFrame : List UInt8 :=
  [0xb5, 0x62, 0x02, 0x15, 16, 0, 0, 0, 0, 0, 0, 0, 0, 0, 0, 0, 0, 255, 0, 0, 0, 0, 0, 0]

theorem ubxParse_navSatOneUsed (h : 0 < g.maxChannels) (now : Timespec) :
    ∃ r, (ubxParse g now GpsDevice.zero navSatOneUsedFrame).result = .ok r ∧ r.1.gpsdata.satellitesUsed = 1 := by
  have hin : g.InRange (byteAt (framePayload navSatOneUsedFrame) (8 + 12 * 0 + 1)).toNat :=
    ⟨le_refl _, by exact_mod_cast h⟩
  rw [ubxParse_eq g (by decide), show frameMsgid navSatOneUsedFrame = ubxNavSat by decide, ubxDispatch_navSat]
  simp (disch := decide) only [ubxMsgNavSat, show frameDataLen navSatOneUsedFrame = 28 from rfl,
    if_neg (show ¬ 8 > 28 by decide), pure_bind, getleu32_eq, getub_eq, readOf_bind_of_le,
    show byteAt (framePayload navSatOneUsedFrame) 4 = 1 from rfl, show byteAt (framePayload navSatOneUsedFrame) 5 = 1 from rfl,
    if_neg (show ¬ (1 : UInt8) ≠ 1 by decide), if_neg (Nat.not_lt.mpr h : ¬ (1 : UInt8).toNat > g.maxChannels),
    show List.range (1 : UInt8).toNat = [0] from rfl, List.foldlM_cons, List.foldlM_nil, Decode.result_bind,
    navSatBlock_eq_ok g _ 0 (by decide) hin, except_ok_bind]
  refine ⟨_, rfl, ?_⟩
  dsimp only
  decide

theorem ubxParse_timTpEmpty (now : Timespec) :
    (ubxParse g now session timTpEmptyFrame).result =
      .ok ({ session with
        iTOW := -1
        gpsdata := { session.gpsdata with
          currTime := now, skyview := g.clearSkyview session.gpsdata.skyview,
          raw := g.clearRaw session.gpsdata.raw, satellitesVisible := 0 } }, [.onlineSet]) :=
  rfl

theorem ubxParse_rawxOvercount (h : g.maxChannels < 255) (now : Timespec) :
    ∃ r, (ubxParse g now session rawxOvercountFrame).result = .ok r ∧ r.1.gpsdata.raw.avbMeas = 255 := by
  have hrej := ubxMsgRxmRawx_rejects g { session with iTOW := -1 } now
    (show frameDataLen rawxOvercountFrame ≤ (framePayload rawxOvercountFrame).length by decide)
    (.inr (show (byteAt (framePayload rawxOvercountFrame) 11).toNat > g.maxChannels from h))
  rw [ubxParse_eq g (by decide), show frameMsgid rawxOvercountFrame = ubxRxmRawx by decide, ubxDispatch_rxmRawx,
    Decode.result_bind, hrej]
  exact ⟨_, rfl, rfl⟩

/-- Whatever `MAXCHANNELS` is, some stream of frames from the zeroed device
ends with `satellites_used > satellites_visible` or with `raw.avb_meas >
MAXCHANNELS`. -/
theorem ubxRun_counts_exceed :
    ∃ frames d, (ubxRun g GpsDevice.zero frames).result = .ok d ∧
      ¬ (d.gpsdata.satellitesUsed ≤ d.gpsdata.satellitesVisible ∧ d.gpsdata.satellitesVisible ≤ g.maxChannels ∧
          d.gpsdata.raw.avbMeas ≤ g.maxChannels) := by
  rcases Nat.eq_zero_or_pos g.maxChannels with h0 | hpos
  · obtain ⟨r, hr, havb⟩ := ubxParse_rawxOvercount g GpsDevice.zero (by omega) .zero
    exact ⟨[(.zero, rawxOvercountFrame)], r.1, by simp [ubxRun, hr], fun h => by omega⟩
  · obtain ⟨r, hr, hused⟩ := ubxParse_navSatOneUsed g hpos .zero
    refine ⟨[(.zero, navSatOneUsedFrame), (.zero, timTpEmptyFrame)], _,
      by simp only [ubxRun, Decode.result_bind, hr, except_ok_bind, ubxParse_timTpEmpty]; rfl, fun h => ?_⟩
    simp only [hused] at h
    omega

end Craggy.Ubx
