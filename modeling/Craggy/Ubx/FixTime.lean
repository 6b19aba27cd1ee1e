import Craggy.Ubx.Counts

/-!
# Which frames set the fix time

`gpsdata.fix.time` is the fix timestamp the serial thread publishes with the
device.  Two decoders write it: NAV-PVT, when its `valid` byte (payload offset
11) has both `UBX_NAV_PVT_VALID_DATE_TIME` bits, and NAV-TIMEUTC, when bit 2
of its `valid` byte (offset 19) is set, each past its length guard.
NAV-TIMEGPS writes the GPS week and time of week into `fix` but not
`fix.time`; the block loops of NAV-SAT, RXM-MEASX and RXM-RAWX rewrite array
entries only (`GpsData.ArraysOnly`); TIM-TP, RXM-SFRB and RXM-SFRBX leave `fix`
alone.

So `ubx_parse` keeps the fix time unless its frame carries a valid time
(`ubxParse_fixTime`), and over a whole stream the fix time is the one the
device started with unless some frame of the stream carries one
(`ubxRun_fixTime`).  The serial thread, which feeds `ubx_parse` the buffers its
reassembly hands over, inherits this (`Serial.gpsSerialThread_fixTime_from_handed_frame`).
-/

namespace Craggy.Ubx

variable (g : Gpsd)

/-! ## Frames that carry a time -/

/-- The decoder of `msgid` writes `fix.time` from this payload: NAV-PVT with the
date and time valid bits, or NAV-TIMEUTC with the UTC valid bit, past the
length guard. -/
def CarriesFixTime (msgid : Nat) (payload : List UInt8) (dataLen : Nat) : Prop :=
  (msgid = ubxNavPvt ∧ 84 ≤ dataLen ∧ byteAt payload 11 &&& ubxNavPvtValidDateTime = ubxNavPvtValidDateTime) ∨
    (msgid = ubxNavTimeutc ∧ 20 ≤ dataLen ∧ 4 = 4 &&& byteAt payload 19)

instance (msgid : Nat) (payload : List UInt8) (dataLen : Nat) :
    Decidable (CarriesFixTime msgid payload dataLen) :=
  inferInstanceAs (Decidable (_ ∨ _))

/-- A frame with a full header whose payload carries a time. -/
def FrameCarriesFixTime (frame : List UInt8) : Prop :=
  ubxPrefixLen ≤ frame.length ∧ CarriesFixTime (frameMsgid frame) (framePayload frame) (frameDataLen frame)

instance (frame : List UInt8) : Decidable (FrameCarriesFixTime frame) :=
  inferInstanceAs (Decidable (_ ∧ _))

/-! ## What each decoder does to the fix time -/

section Decoders

variable (buf : List UInt8) (session : GpsDevice) (dataLen : Nat)

/-- The fix time of the device `r` returns is that of `session`. -/
def KeepsFixTime (session : GpsDevice) (r : GpsDevice × Mask) : Prop :=
  r.1.gpsdata.fix.time = session.gpsdata.fix.time

theorem ubxMsgNavPvt_fixTime :
    Decode.Always (ubxMsgNavPvt g session buf dataLen) fun r => KeepsFixTime session r ∨
      (84 ≤ dataLen ∧ byteAt buf 11 &&& ubxNavPvtValidDateTime = ubxNavPvtValidDateTime) := by
  -- the default simp set takes seconds over the twenty reads; these lemmas suffice
  simp only [ubxMsgNavPvt, navPvtDate, Decode.always_bind, Decode.always_ite, Decode.always_pure, pure_bind, getub_eq,
    getleu32_eq, getles32_eq, getleu16_eq, getles16_eq, Decode.always_readOf, Decode.always_const, KeepsFixTime,
    Option.getD_some, Option.getD_none, true_or, implies_true, and_true, true_and, not_lt, gt_iff_lt]
  exact fun h84 _ _ _ _ hv => by simp +contextual [h84, hv]

theorem ubxMsgNavTimeutc_fixTime :
    Decode.Always (ubxMsgNavTimeutc g session buf dataLen) fun r => KeepsFixTime session r ∨
      (20 ≤ dataLen ∧ 4 = 4 &&& byteAt buf 19) := by
  simp [ubxMsgNavTimeutc, KeepsFixTime]
  exact fun h20 _ _ hv _ _ _ _ _ _ _ _ => .inr ⟨h20, hv⟩

theorem ubxMsgNavTimegps_keepsFixTime :
    Decode.Always (ubxMsgNavTimegps g session buf dataLen) (KeepsFixTime session) := by
  simp [ubxMsgNavTimegps, KeepsFixTime]

theorem ubxMsgNavSat_keepsFixTime :
    Decode.Always (ubxMsgNavSat g session buf dataLen) (KeepsFixTime session) := by
  simp only [ubxMsgNavSat, Decode.always_bind, Decode.always_ite, Decode.always_pure, pure_bind, getub_eq,
    getleu32_eq, Decode.always_readOf, KeepsFixTime, and_self, implies_true, true_and]
  intros
  exact (navSat_fold_arraysOnly g buf _ _).mono fun _ h => congrArg Fix.time h.1.fix

theorem ubxMsgRxmMeasx_keepsFixTime :
    Decode.Always (ubxMsgRxmMeasx g session buf dataLen) (KeepsFixTime session) := by
  simp only [ubxMsgRxmMeasx, Decode.always_bind, Decode.always_ite, Decode.always_pure, pure_bind, getub_eq,
    getleu32_eq, Decode.always_readOf, KeepsFixTime, and_self, implies_true, true_and]
  intros
  exact (measx_fold_arraysOnly g buf _ _).mono fun _ h => congrArg Fix.time h.fix

theorem ubxMsgRxmRawx_keepsFixTime :
    Decode.Always (ubxMsgRxmRawx g session buf dataLen) (KeepsFixTime session) := by
  simp only [ubxMsgRxmRawx, Decode.always_bind, Decode.always_ite, Decode.always_pure, pure_bind, getub_eq,
    getsb_eq, getleu16_eq, getleu64_eq, Decode.always_readOf, KeepsFixTime, and_self, implies_true, true_and]
  intros
  exact (rawx_fold_arraysOnly g buf _ _).mono fun _ h => congrArg Fix.time h.fix

theorem ubxMsgRxmSfrb_keepsFixTime :
    Decode.Always (ubxMsgRxmSfrb g session buf dataLen) (KeepsFixTime session) := by
  simp [ubxMsgRxmSfrb, KeepsFixTime, -List.mapM]

theorem ubxMsgRxmSfrbx_keepsFixTime :
    Decode.Always (ubxMsgRxmSfrbx g session buf dataLen) (KeepsFixTime session) := by
  simp [ubxMsgRxmSfrbx, KeepsFixTime, -List.mapM]

theorem ubxMsgTimTp_keepsFixTime (now : Timespec) :
    Decode.Always (ubxMsgTimTp g now session buf dataLen) (KeepsFixTime session) := by
  simp [ubxMsgTimTp, KeepsFixTime]

end Decoders

/-! ## Over frames and runs -/

variable (buf : List UInt8) (session : GpsDevice) (dataLen : Nat)

theorem ubxDispatch_fixTime (now : Timespec) (msgid : Nat) :
    Decode.Always (ubxDispatch g now session msgid buf dataLen) fun r =>
      KeepsFixTime session r ∨ CarriesFixTime msgid buf dataLen := by
  have keeps {x : Decode (GpsDevice × Mask)} (hx : Decode.Always x (KeepsFixTime session)) :
      Decode.Always x fun r => KeepsFixTime session r ∨ CarriesFixTime msgid buf dataLen :=
    hx.mono fun _ => .inl
  exact ubxDispatch_rec g (fun x => Decode.Always x fun r => KeepsFixTime session r ∨ CarriesFixTime msgid buf dataLen)
    (fun h => (ubxMsgNavPvt_fixTime g buf session dataLen).mono fun _ hr => hr.imp_right (.inl ⟨h, ·⟩))
    (fun _ => keeps (ubxMsgNavSat_keepsFixTime g buf session dataLen))
    (fun _ => keeps (ubxMsgNavTimegps_keepsFixTime g buf session dataLen))
    (fun h => (ubxMsgNavTimeutc_fixTime g buf session dataLen).mono fun _ hr => hr.imp_right (.inr ⟨h, ·⟩))
    (fun _ => keeps (ubxMsgRxmMeasx_keepsFixTime g buf session dataLen))
    (fun _ => keeps (ubxMsgRxmRawx_keepsFixTime g buf session dataLen))
    (fun _ => keeps (ubxMsgRxmSfrb_keepsFixTime g buf session dataLen))
    (fun _ => keeps (ubxMsgRxmSfrbx_keepsFixTime g buf session dataLen))
    (fun _ => keeps (ubxMsgTimTp_keepsFixTime g buf session dataLen now))
    fun _ => (Decode.always_pure _).2 (.inl rfl)

/-- `ubx_parse` keeps the fix time unless its frame carries a valid time. -/
theorem ubxParse_fixTime (now : Timespec) (frame : List UInt8) :
    Decode.Always (ubxParse g now session frame) fun r =>
      r.1.gpsdata.fix.time = session.gpsdata.fix.time ∨ FrameCarriesFixTime frame := by
  by_cases h : ubxPrefixLen ≤ frame.length
  · rw [ubxParse_eq g h, Decode.always_bind]
    intro r hr
    rw [Decode.always_pure]
    exact (ubxDispatch_fixTime g _ _ _ now _ r hr).imp id fun hc => ⟨h, hc⟩
  · intro r hr
    simp only [ubxParse, if_pos (Nat.lt_of_not_le h)] at hr
    cases hr
    exact .inl rfl

theorem ubxRun_fixTime :
    ∀ (session : GpsDevice) (frames : List (Timespec × List UInt8)),
      Decode.Always (ubxRun g session frames) fun d =>
        d.gpsdata.fix.time = session.gpsdata.fix.time ∨ ∃ x ∈ frames, FrameCarriesFixTime x.2
  | _, [] => (Decode.always_pure _).2 (.inl rfl)
  | session, (now, frame) :: frames => by
      rw [ubxRun, Decode.always_bind]
      intro r hr d hd
      rcases ubxRun_fixTime r.1 frames d hd with hkeep | ⟨x, hx, hc⟩
      · rcases ubxParse_fixTime g session now frame r hr with hr1 | hc
        · exact .inl (hkeep.trans hr1)
        · exact .inr ⟨(now, frame), List.mem_cons_self _ _, hc⟩
      · exact .inr ⟨x, List.mem_cons_of_mem _ hx, hc⟩

end Craggy.Ubx
