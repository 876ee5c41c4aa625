import LocationStack.BaseUtil.TimeRoutines

/-! # Reading PPS pulses

`gnsspps` waits for the pulses of a PPS source and publishes, for the last of them, the time the
kernel gave it and the time at which it was read, both in terms of the boot time.  The kernel
may have stamped a pulse with the boot time or with the real time, which is found out by
comparing the stamp with both clocks; a real time is moved by the difference of the clocks, as
long as that difference has not jumped.

The comparisons are made in floating point, and are parameters here (`Checks`).
-/
namespace LocationStack
namespace Pps

open Timespec

/-! ## Times -/

/-- `calculate_time_difference`: the time from `time1` to `time2`.  `BILLION_NSEC` is a `double`,
in which the nanoseconds of normalised times are exact. -/
def calculate_time_difference (time1 time2 : Timespec) : Timespec :=
  if time2.tv_nsec < time1.tv_nsec then
    ⟨toLong (toLong (time2.tv_sec - 1) - time1.tv_sec),
      nanoPerSec + time2.tv_nsec - time1.tv_nsec⟩
  else ⟨toLong (time2.tv_sec - time1.tv_sec), time2.tv_nsec - time1.tv_nsec⟩

/-- `pps_sync_time_add`. -/
def pps_sync_time_add (time1 time2 : Timespec) : Timespec :=
  if nanoPerSec ≤ time2.tv_nsec + time1.tv_nsec then
    ⟨toLong (toLong (time2.tv_sec + time1.tv_sec) + 1),
      time2.tv_nsec + time1.tv_nsec - nanoPerSec⟩
  else ⟨toLong (time2.tv_sec + time1.tv_sec), time2.tv_nsec + time1.tv_nsec⟩

theorem calculate_time_difference_eq {time1 time2 : Timespec} (h1 : time1.Normalized)
    (h2 : time2.Normalized) :
    calculate_time_difference time1 time2 = ofNanos (time2.nanos - time1.nanos) := by
  obtain ⟨hlo1, hhi1⟩ := h1
  obtain ⟨hlo2, hhi2⟩ := h2
  unfold calculate_time_difference ofNanos nanos nanoPerSec at *
  split
  · -- a second is borrowed, for the whole difference rounds down
    rw [toLong_toLong_sub]
    congr 2 <;> omega
  · congr 2 <;> omega

/-- The sum of a time and a difference is that of their nanoseconds. -/
theorem pps_sync_time_add_ofNanos {time1 : Timespec} (h1 : time1.Normalized) (x : Int) :
    pps_sync_time_add time1 (ofNanos x) = ofNanos (time1.nanos + x) := by
  obtain ⟨hlo1, hhi1⟩ := h1
  obtain ⟨hlo, hhi⟩ := emod_nanoPerSec x
  unfold pps_sync_time_add ofNanos nanos
  dsimp only
  unfold nanoPerSec at *
  split
  · rw [toLong_toLong_add, Int.add_assoc (toLong _), toLong_toLong_add]
    congr 2 <;> omega
  · rw [toLong_toLong_add]
    congr 2 <;> omega

/-! ## The reader -/

/-- `kernel_reported_time_e`; `KERNEL_REPORTED_CLOCK_MAX` is never reported. -/
inductive KernelReportedTime
  | KERNEL_REPORTED_CLOCK_BOOTTIME
  | KERNEL_REPORTED_CLOCK_REALTIME
  | KERNEL_REPORTED_CLOCK_UNKNOWN
  deriving DecidableEq, Repr

/-- The tests that are made in floating point. -/
structure Checks where
  /-- Whether an offset is at most `MAX_REALTIME_OFFSET_DELTA_DIFFERENCE`. -/
  isTimeOffsetOk : Timespec → Bool
  /-- The clock that is within `MAX_PPS_KERNEL_TO_USERSPACE_LATENCY` of a kernel time, given
  `userBootTs`, `userRealTs` and `kernelTs`. -/
  get_reported_time_type : Timespec → Timespec → Timespec → KernelReportedTime

/-- `skipPPSPulseCnt` and `gnssOutageInSec`, as the configuration sets them. -/
structure Config where
  skipPPSPulseCnt : Int32
  gnssOutageInSec : Int32

/-- The static variables. -/
structure Statics where
  drsyncKernelTs : Timespec
  drsyncUserTs : Timespec
  prevDrsyncKernelTs : Timespec
  /-- `time_offset` of `compute_real_to_boot_time`. -/
  time_offset : Timespec
  /-- `isFirstPulseReceived` and `skipPulseCnt` of `read_pps`. -/
  isFirstPulseReceived : Bool
  skipPulseCnt : Nat
  deriving DecidableEq, Repr

/-- The static variables as the program starts. -/
def Statics.initial : Statics := ⟨⟨0, 0⟩, ⟨0, 0⟩, ⟨0, 0⟩, ⟨0, 0⟩, false, 0⟩

/-- The kernel and user timestamps that `getPPS` gives. -/
def Statics.published (s : Statics) : Timespec × Timespec := (s.drsyncKernelTs, s.drsyncUserTs)

/-- What the system calls of one `read_pps` return. -/
structure Call where
  /-- The result of the `ioctl` in `pps_fetch`; one that fails returns -1. -/
  ret : Int
  ret_ok : ret = -1 ∨ 0 ≤ ret
  infobuf : Timespec
  /-- `clock_gettime` of `CLOCK_BOOTTIME` and `CLOCK_REALTIME`, if they succeed. -/
  boottime : Option Timespec
  realtime : Option Timespec

section

variable (k : Checks) (cfg : Config)

/-- `compute_real_to_boot_time`. -/
def compute_real_to_boot_time (s : Statics) (boottime realtime : Option Timespec)
    (ppsFetchTime : Timespec) : Int × Statics :=
  match boottime with
  | none => (-1, s)
  | some drSyncUserBootTs =>
      match realtime with
      | none => (-1, s)
      | some drSyncUserRealTs =>
          match k.get_reported_time_type drSyncUserBootTs drSyncUserRealTs ppsFetchTime with
          | .KERNEL_REPORTED_CLOCK_BOOTTIME =>
              (0, { s with drsyncKernelTs := ppsFetchTime, drsyncUserTs := drSyncUserBootTs })
          | .KERNEL_REPORTED_CLOCK_REALTIME =>
              let deltaRealToBootTime := calculate_time_difference drSyncUserRealTs drSyncUserBootTs
              let deltaOffsetTime := calculate_time_difference s.time_offset deltaRealToBootTime
              if s.time_offset = ⟨0, 0⟩ ∨ k.isTimeOffsetOk deltaOffsetTime then
                (0, { s with
                  drsyncUserTs := drSyncUserBootTs
                  drsyncKernelTs := pps_sync_time_add ppsFetchTime deltaRealToBootTime
                  time_offset := deltaRealToBootTime })
              -- the offset has jumped; the next pulse is compared with the new one
              else (-1, { s with time_offset := deltaRealToBootTime })
          | .KERNEL_REPORTED_CLOCK_UNKNOWN => (-1, s)

/-- `EINTR`. -/
def EINTR : Int := 4

/-- The first part of `read_pps` after a fetch: the skipping starts with the first pulse, and
again with the one after an outage. -/
def arm (s : Statics) (infobuf : Timespec) : Statics :=
  if !s.isFirstPulseReceived && decide (cfg.skipPPSPulseCnt > 0) then
    { s with skipPulseCnt := cfg.skipPPSPulseCnt.toInt.toNat, isFirstPulseReceived := true }
  else if s.isFirstPulseReceived && decide (cfg.skipPPSPulseCnt > 0) &&
      decide (toLong (infobuf.tv_sec - s.prevDrsyncKernelTs.tv_sec) > cfg.gnssOutageInSec.toInt)
    then { s with skipPulseCnt := cfg.skipPPSPulseCnt.toInt.toNat }
  else s

/-- `read_pps`. -/
def read_pps (s : Statics) (c : Call) : Int × Statics :=
  if c.ret < 0 ∧ c.ret ≠ -EINTR then (-1, s)
  else
    let s : Statics := { arm cfg s c.infobuf with prevDrsyncKernelTs := c.infobuf }
    if s.skipPulseCnt > 0 then (0, { s with skipPulseCnt := s.skipPulseCnt - 1 })
    -- the result of the conversion is not looked at
    else (0, (compute_real_to_boot_time k s c.boottime c.realtime c.infobuf).2)

/-! ## What a conversion publishes -/

/-- What a pulse is published as: its time in terms of the boot time, and the boot time at which
it was read. -/
def converted (time_offset : Timespec) (boottime realtime : Option Timespec)
    (ppsFetchTime : Timespec) : Option (Timespec × Timespec) :=
  boottime.bind fun boot => realtime.bind fun real =>
    match k.get_reported_time_type boot real ppsFetchTime with
    | .KERNEL_REPORTED_CLOCK_BOOTTIME => some (ppsFetchTime, boot)
    | .KERNEL_REPORTED_CLOCK_REALTIME =>
        if time_offset = ⟨0, 0⟩ ∨
            k.isTimeOffsetOk
              (calculate_time_difference time_offset (calculate_time_difference real boot)) then
          some (pps_sync_time_add ppsFetchTime (calculate_time_difference real boot), boot)
        else none
    | .KERNEL_REPORTED_CLOCK_UNKNOWN => none

/-- The ways in which a conversion fails: a clock that cannot be read, a time that is near
neither clock, and a jump of the real time. -/
inductive ConversionFails (time_offset : Timespec) :
    Option Timespec → Option Timespec → Timespec → Prop
  | boottime (realtime : Option Timespec) (t : Timespec) :
      ConversionFails time_offset none realtime t
  | realtime (boot : Timespec) (t : Timespec) : ConversionFails time_offset (some boot) none t
  | unknown {boot real t : Timespec}
      (h : k.get_reported_time_type boot real t = .KERNEL_REPORTED_CLOCK_UNKNOWN) :
      ConversionFails time_offset (some boot) (some real) t
  | jump {boot real t : Timespec}
      (h : k.get_reported_time_type boot real t = .KERNEL_REPORTED_CLOCK_REALTIME)
      (hoffset : time_offset ≠ ⟨0, 0⟩)
      (hjump : k.isTimeOffsetOk (calculate_time_difference time_offset
        (calculate_time_difference real boot)) = false) :
      ConversionFails time_offset (some boot) (some real) t

theorem converted_eq_none_iff (time_offset : Timespec) (boottime realtime : Option Timespec)
    (t : Timespec) :
    converted k time_offset boottime realtime t = none ↔
      ConversionFails k time_offset boottime realtime t := by
  cases boottime with
  | none => exact iff_of_true rfl (.boottime realtime t)
  | some boot =>
    cases realtime with
    | none => exact iff_of_true rfl (.realtime boot t)
    | some real =>
      simp only [converted, Option.bind_some]
      cases htype : k.get_reported_time_type boot real t with
      | KERNEL_REPORTED_CLOCK_BOOTTIME =>
        refine iff_of_false (by simp) fun h => ?_
        cases h with
        | unknown h => cases h.symm.trans htype
        | jump h => cases h.symm.trans htype
      | KERNEL_REPORTED_CLOCK_UNKNOWN => exact iff_of_true rfl (.unknown htype)
      | KERNEL_REPORTED_CLOCK_REALTIME =>
        simp only [ite_eq_right_iff, reduceCtorEq, imp_false, not_or, Bool.not_eq_true]
        constructor
        · rintro ⟨hoffset, hjump⟩
          exact .jump htype hoffset hjump
        · intro h
          cases h with
          | unknown h => cases h.symm.trans htype
          | jump _ hoffset hjump => exact ⟨hoffset, hjump⟩

/-- **What a conversion does** to what is published, and its result code. -/
theorem compute_eq (s : Statics) (boottime realtime : Option Timespec) (t : Timespec) :
    (compute_real_to_boot_time k s boottime realtime t).2.published =
        (converted k s.time_offset boottime realtime t).getD s.published ∧
      ((compute_real_to_boot_time k s boottime realtime t).1 = 0 ↔
        converted k s.time_offset boottime realtime t ≠ none) := by
  cases boottime with
  | none => exact ⟨rfl, by simp [compute_real_to_boot_time, converted]⟩
  | some boot =>
    cases realtime with
    | none => exact ⟨rfl, by simp [compute_real_to_boot_time, converted]⟩
    | some real =>
      simp only [compute_real_to_boot_time, converted, Option.bind_some]
      cases htype : k.get_reported_time_type boot real t with
      | KERNEL_REPORTED_CLOCK_BOOTTIME => exact ⟨rfl, by simp⟩
      | KERNEL_REPORTED_CLOCK_UNKNOWN => exact ⟨rfl, by simp⟩
      | KERNEL_REPORTED_CLOCK_REALTIME =>
        simp only []
        split
        · exact ⟨rfl, by simp⟩
        · exact ⟨rfl, by simp⟩

/-! ## What a pulse publishes -/

@[simp] theorem arm_published (s : Statics) (infobuf : Timespec) :
    (arm cfg s infobuf).published = s.published := by
  unfold arm
  split
  · rfl
  · split <;> rfl

@[simp] theorem arm_time_offset (s : Statics) (infobuf : Timespec) :
    (arm cfg s infobuf).time_offset = s.time_offset := by
  unfold arm
  split
  · rfl
  · split <;> rfl

theorem read_pps_of_failed (s : Statics) {c : Call} (h : c.ret < 0) :
    read_pps k cfg s c = (-1, s) := by
  have hret : c.ret = -1 := c.ret_ok.resolve_right (by omega)
  rw [read_pps, if_pos ⟨h, by rw [hret]; decide⟩]

/-- **What a pulse that was fetched does**: it is skipped, or it is converted. -/
theorem read_pps_of_fetched (s : Statics) {c : Call} (h : 0 ≤ c.ret) :
    (read_pps k cfg s c).1 = 0 ∧
      (read_pps k cfg s c).2.published =
        if 0 < (arm cfg s c.infobuf).skipPulseCnt then s.published
        else (converted k s.time_offset c.boottime c.realtime c.infobuf).getD s.published := by
  rw [read_pps, if_neg (by omega)]
  simp only []
  split
  · exact ⟨rfl, arm_published cfg s c.infobuf⟩
  · refine ⟨rfl, ?_⟩
    rw [(compute_eq k _ _ _ _).1, arm_time_offset]
    exact congrArg (Option.getD _) (arm_published cfg s c.infobuf)

/-- A conversion leaves the variables of the skipping alone. -/
theorem compute_frame (s : Statics) (boottime realtime : Option Timespec) (t : Timespec) :
    (compute_real_to_boot_time k s boottime realtime t).2.isFirstPulseReceived =
        s.isFirstPulseReceived ∧
      (compute_real_to_boot_time k s boottime realtime t).2.prevDrsyncKernelTs =
        s.prevDrsyncKernelTs ∧
      (compute_real_to_boot_time k s boottime realtime t).2.skipPulseCnt = s.skipPulseCnt := by
  unfold compute_real_to_boot_time
  cases boottime with
  | none => exact ⟨rfl, rfl, rfl⟩
  | some boot =>
    cases realtime with
    | none => exact ⟨rfl, rfl, rfl⟩
    | some real =>
      simp only []
      split
      · exact ⟨rfl, rfl, rfl⟩
      · split <;> exact ⟨rfl, rfl, rfl⟩
      · exact ⟨rfl, rfl, rfl⟩

/-- What a pulse that was fetched leaves for the next ones. -/
theorem read_pps_counts (s : Statics) {c : Call} (h : 0 ≤ c.ret) :
    (read_pps k cfg s c).2.isFirstPulseReceived =
        (arm cfg s c.infobuf).isFirstPulseReceived ∧
      (read_pps k cfg s c).2.prevDrsyncKernelTs = c.infobuf ∧
      (read_pps k cfg s c).2.skipPulseCnt = (arm cfg s c.infobuf).skipPulseCnt - 1 := by
  rw [read_pps, if_neg (by omega)]
  simp only []
  split
  · exact ⟨rfl, rfl, rfl⟩
  · rename_i hzero
    obtain ⟨hfirst, hprev, hcount⟩ := compute_frame k
      { arm cfg s c.infobuf with prevDrsyncKernelTs := c.infobuf } c.boottime c.realtime c.infobuf
    exact ⟨hfirst, hprev, hcount.trans (by simp only [] at hzero ⊢; omega)⟩

/-- A `read_pps` fails to fetch a pulse, or to convert the time of one. -/
def Fails (s : Statics) (c : Call) : Prop :=
  c.ret < 0 ∨ ConversionFails k s.time_offset c.boottime c.realtime c.infobuf

/-- **The conversion of PPS times.**  The difference from the real time to the boot time, added
to the time of a pulse, moves it by exactly that difference; and whatever fails leaves what was
published as it was. -/
theorem pulse_times :
    (∀ p r b : Timespec, p.Valid → r.Valid → b.Valid → Fits (p.nanos + (b.nanos - r.nanos)) →
      (pps_sync_time_add p (calculate_time_difference r b)).Normalized ∧
        (pps_sync_time_add p (calculate_time_difference r b)).nanos =
          p.nanos + (b.nanos - r.nanos)) ∧
      (∀ s boottime realtime t,
        ((compute_real_to_boot_time k s boottime realtime t).1 ≠ 0 ↔
          ConversionFails k s.time_offset boottime realtime t) ∧
        ((compute_real_to_boot_time k s boottime realtime t).1 ≠ 0 →
          (compute_real_to_boot_time k s boottime realtime t).2.published = s.published)) ∧
      ∀ s c, Fails k s c → (read_pps k cfg s c).2.published = s.published := by
  refine ⟨?_, ?_, ?_⟩
  · rintro p r b ⟨-, hp⟩ ⟨-, hr⟩ ⟨-, hb⟩ hfits
    rw [calculate_time_difference_eq hr hb, pps_sync_time_add_ofNanos hp]
    exact ⟨normalized_ofNanos _, nanos_ofNanos hfits⟩
  · intro s boottime realtime t
    obtain ⟨hpublished, hcode⟩ := compute_eq k s boottime realtime t
    have hfails := converted_eq_none_iff k s.time_offset boottime realtime t
    have hnone : (compute_real_to_boot_time k s boottime realtime t).1 ≠ 0 ↔
        converted k s.time_offset boottime realtime t = none := by
      rw [ne_eq, hcode, not_not]
    refine ⟨hnone.trans hfails, fun h => ?_⟩
    rw [hpublished, hnone.mp h, Option.getD_none]
  · intro s c hfails
    by_cases hret : c.ret < 0
    · rw [read_pps_of_failed k cfg s hret]
    · have hnone := (converted_eq_none_iff k _ _ _ _).mpr (hfails.resolve_left hret)
      rw [(read_pps_of_fetched k cfg s (not_lt.mp hret)).2, hnone, Option.getD_none, ite_self]

end

/-- The tests, with the thresholds in nanoseconds. -/
def exactChecks : Checks where
  isTimeOffsetOk t := decide (t.nanos.natAbs ≤ 10 * 1000000)
  get_reported_time_type boot real kernel :=
    if (boot.nanos - kernel.nanos).natAbs ≤ 100 * 1000000 then .KERNEL_REPORTED_CLOCK_BOOTTIME
    else if (real.nanos - kernel.nanos).natAbs ≤ 100 * 1000000 then
      .KERNEL_REPORTED_CLOCK_REALTIME
    else .KERNEL_REPORTED_CLOCK_UNKNOWN

/-- A pulse half a second before a second, read when the boot time was 5 seconds. -/
theorem pulse_times_sample :
    (pps_sync_time_add ⟨999, 500000000⟩ (calculate_time_difference ⟨1000, 0⟩ ⟨5, 1⟩)).nanos =
      4500000001 :=
  (((pulse_times exactChecks ⟨1, 1⟩).1 ⟨999, 500000000⟩ ⟨1000, 0⟩ ⟨5, 1⟩
    ⟨by decide, by decide, by decide⟩ ⟨by decide, by decide, by decide⟩
    ⟨by decide, by decide, by decide⟩ (by decide)).2).trans (by decide)

/-- The difference is that from the first time to the second: with the boot time first, it
moves a pulse the other way. -/
theorem difference_from_first_to_second :
    (pps_sync_time_add ⟨999, 500000000⟩ (calculate_time_difference ⟨5, 1⟩ ⟨1000, 0⟩)).nanos ≠
      (⟨999, 500000000⟩ : Timespec).nanos +
        ((⟨5, 1⟩ : Timespec).nanos - (⟨1000, 0⟩ : Timespec).nanos) := by
  decide

end Pps
end LocationStack
