import LocationStack.GnssPps.Reader
import LocationStack.Lib.Countdown
import LocationStack.Lib.EventRun

/-! # The pulses that are skipped

The first pulse of a PPS source, and each one that comes after an outage, start a countdown of
the pulses that `read_pps` skips.  An outage is told by the whole seconds of two pulses that were
fetched one after the other, be they skipped or not; a `read_pps` that fetches no pulse leaves
the countdown alone.
-/
namespace LocationStack
namespace Pps

open Countdown EventRun

/-! ## The pulses of a run -/

section

variable (cfg : Config)

/-- The number of pulses to skip. -/
def Config.skipCount : Nat := cfg.skipPPSPulseCnt.toInt.toNat

/-- The whole seconds between two pulses are more than `gnssOutageInSec`. -/
def Outage (prev t : Timespec) : Prop :=
  cfg.gnssOutageInSec.toInt < toLong (t.tv_sec - prev.tv_sec)

instance (prev t : Timespec) : Decidable (Outage cfg prev t) :=
  inferInstanceAs (Decidable (_ < _))

/-- A pulse starts the countdown if it is the first one, or comes after an outage. -/
def mark (prev : Option Timespec) (t : Timespec) : Bool :=
  match prev with
  | none => true
  | some prev => decide (Outage cfg prev t)

/-- The marks of pulses that come after one, or after none. -/
def marksFrom : Option Timespec → List Timespec → List Bool
  | _, [] => []
  | prev, t :: ts => mark cfg prev t :: marksFrom (some t) ts

/-- The pulses that start the countdown. -/
def marks (ts : List Timespec) : List Bool := marksFrom cfg none ts

/-- The pulse is one of those skipped from the first pulse on, or from one after an outage. -/
def Skipped (ts : List Timespec) (i : Nat) : Prop := Covered cfg.skipCount (marks cfg ts) i

theorem marksFrom_concat (prev : Option Timespec) (ts : List Timespec) (t : Timespec) :
    marksFrom cfg prev (ts ++ [t]) =
      marksFrom cfg prev ts ++ [mark cfg (ts.getLast?.or prev) t] := by
  induction ts generalizing prev with
  | nil => rfl
  | cons a ts ih =>
    rw [List.cons_append, marksFrom, ih, marksFrom, List.cons_append, List.getLast?_cons]
    cases ts.getLast? <;> rfl

theorem marks_concat (ts : List Timespec) (t : Timespec) :
    marks cfg (ts ++ [t]) = marks cfg ts ++ [mark cfg ts.getLast? t] := by
  rw [marks, marksFrom_concat, Option.or_none, marks]

theorem marksFrom_length (prev : Option Timespec) (ts : List Timespec) :
    (marksFrom cfg prev ts).length = ts.length := by
  induction ts generalizing prev with
  | nil => rfl
  | cons a ts ih => rw [marksFrom, List.length_cons, ih, List.length_cons]

theorem marks_length (ts : List Timespec) : (marks cfg ts).length = ts.length :=
  marksFrom_length cfg none ts

end

/-- The pulses that the calls fetched. -/
def pulses (cs : List Call) : List Timespec :=
  cs.filterMap fun c => if 0 ≤ c.ret then some c.infobuf else none

section

variable (k : Checks) (cfg : Config)

/-- The static variables after the calls. -/
def after (cs : List Call) : Statics := run (fun s c => (read_pps k cfg s c).2) .initial cs

/-- The static variables know the last pulse, and what is left of the countdown. -/
structure Counts (ts : List Timespec) (s : Statics) : Prop where
  isFirstPulseReceived : s.isFirstPulseReceived = ts.getLast?.isSome
  prevDrsyncKernelTs : ∀ t, ts.getLast? = some t → s.prevDrsyncKernelTs = t
  skipPulseCnt : s.skipPulseCnt = left cfg.skipCount (marks cfg ts)

variable {cfg}

/-- What `read_pps` finds on its counter. -/
theorem Counts.arm {ts : List Timespec} {s : Statics} (h : Counts cfg ts s)
    (hN : 0 < cfg.skipPPSPulseCnt) (t : Timespec) :
    (arm cfg s t).isFirstPulseReceived = true ∧
      (arm cfg s t).skipPulseCnt =
        found cfg.skipCount (left cfg.skipCount (marks cfg ts)) (mark cfg ts.getLast? t) := by
  obtain ⟨hfirst, hprev, hcount⟩ := h
  have hpos : decide (cfg.skipPPSPulseCnt > 0) = true := by simpa using hN
  unfold Pps.arm
  cases hlast : ts.getLast? with
  | none =>
    rw [hlast] at hfirst
    rw [if_pos (by rw [hfirst, hpos]; rfl)]
    exact ⟨rfl, rfl⟩
  | some prev =>
    rw [hlast] at hfirst
    rw [if_neg (by rw [hfirst]; simp)]
    have hmark : decide (toLong (t.tv_sec - s.prevDrsyncKernelTs.tv_sec) >
        cfg.gnssOutageInSec.toInt) = mark cfg (some prev) t := by
      rw [hprev prev hlast]
      rfl
    cases hm : mark cfg (some prev) t with
    | true =>
      rw [if_pos (by rw [hfirst, hpos, hmark, hm]; rfl)]
      exact ⟨hfirst, rfl⟩
    | false =>
      rw [if_neg (by rw [hfirst, hpos, hmark, hm]; simp)]
      exact ⟨hfirst, hcount⟩

/-- Every call keeps count. -/
theorem Counts.read_pps {ts : List Timespec} {s : Statics} (h : Counts cfg ts s)
    (hN : 0 < cfg.skipPPSPulseCnt) (c : Call) :
    Counts cfg (ts ++ pulses [c]) (read_pps k cfg s c).2 := by
  by_cases hret : 0 ≤ c.ret
  · have hpulses : pulses [c] = [c.infobuf] := by simp [pulses, hret]
    obtain ⟨hfirst, hcount⟩ := h.arm hN c.infobuf
    obtain ⟨hfirst', hprev', hcount'⟩ := read_pps_counts k cfg s hret
    rw [hpulses]
    refine ⟨?_, ?_, ?_⟩
    · rw [hfirst', hfirst]
      simp
    · intro t ht
      rw [hprev']
      simpa using ht
    · rw [hcount', hcount, marks_concat, left_concat]
  · have hpulses : pulses [c] = [] := by simp [pulses, hret]
    rw [hpulses, List.append_nil, read_pps_of_failed k cfg s (not_le.mp hret)]
    exact h

theorem pulses_append (cs ds : List Call) : pulses (cs ++ ds) = pulses cs ++ pulses ds := by
  simp [pulses]

theorem after_concat (cs : List Call) (c : Call) :
    after k cfg (cs ++ [c]) = (Pps.read_pps k cfg (after k cfg cs) c).2 := by
  rw [after, run_append]
  rfl

/-- **Every run keeps count.** -/
theorem counts_after (hN : 0 < cfg.skipPPSPulseCnt) (cs : List Call) :
    Counts cfg (pulses cs) (after k cfg cs) := by
  induction cs using List.reverseRecOn with
  | nil => exact ⟨rfl, by simp [pulses], rfl⟩
  | append_singleton cs c ih =>
    rw [after_concat, pulses_append]
    exact ih.read_pps k hN c

/-- **The pulses that are published.**  A pulse that was fetched changes nothing that is
published if it is one of those skipped, and otherwise it is published unless its conversion
fails; and a call that fetches no pulse changes nothing either. -/
theorem published_after (hN : 0 < cfg.skipPPSPulseCnt) (cs : List Call) (c : Call) :
    (0 ≤ c.ret → Skipped cfg (pulses (cs ++ [c])) (pulses cs).length →
      (after k cfg (cs ++ [c])).published = (after k cfg cs).published) ∧
    (0 ≤ c.ret → ¬ Skipped cfg (pulses (cs ++ [c])) (pulses cs).length →
      (after k cfg (cs ++ [c])).published =
        (converted k (after k cfg cs).time_offset c.boottime c.realtime c.infobuf).getD
          (after k cfg cs).published) ∧
    (c.ret < 0 → (after k cfg (cs ++ [c])).published = (after k cfg cs).published) := by
  have hskipped : 0 ≤ c.ret → (Skipped cfg (pulses (cs ++ [c])) (pulses cs).length ↔
      0 < (Pps.arm cfg (after k cfg cs) c.infobuf).skipPulseCnt) := by
    intro hret
    have hpulses : pulses (cs ++ [c]) = pulses cs ++ [c.infobuf] := by simp [pulses, hret]
    rw [((counts_after k hN cs).arm hN c.infobuf).2, ← covered_concat_iff, hpulses, Skipped,
      marks_concat, marks_length]
  rw [after_concat]
  refine ⟨?_, ?_, ?_⟩
  · intro hret h
    rw [(read_pps_of_fetched k cfg _ hret).2, if_pos ((hskipped hret).mp h)]
  · intro hret h
    rw [(read_pps_of_fetched k cfg _ hret).2, if_neg fun hpos => h ((hskipped hret).mpr hpos)]
  · intro hret
    rw [read_pps_of_failed k cfg _ hret]

end

/-- One pulse is skipped, and an outage is more than a second. -/
def sampleConfig : Config := ⟨1, 1⟩

/-- A pulse with a boot time, read at once. -/
def pulseAt (t : Timespec) : Call := ⟨0, Or.inr (by decide), t, some t, some t⟩

theorem published_after_sample :
    (after exactChecks sampleConfig [pulseAt ⟨100, 0⟩, pulseAt ⟨101, 0⟩]).published =
      (⟨101, 0⟩, ⟨101, 0⟩) := by
  have hnot : ¬ Skipped sampleConfig (pulses [pulseAt ⟨100, 0⟩, pulseAt ⟨101, 0⟩]) 1 := by
    rintro ⟨j, hj, hle, hlt⟩
    have hcount : sampleConfig.skipCount = 1 := rfl
    obtain rfl : j = 1 := by omega
    exact absurd hj (by decide)
  exact ((published_after exactChecks (show 0 < sampleConfig.skipPPSPulseCnt by decide)
    [pulseAt ⟨100, 0⟩] (pulseAt ⟨101, 0⟩)).2.1 (by decide) hnot).trans (by decide)

/-- A pulse whose boot time cannot be told from its time. -/
def strayPulse : Call := ⟨0, Or.inr (by decide), ⟨103, 0⟩, some ⟨200, 0⟩, some ⟨300, 0⟩⟩

/-- A gap of a second and a half, over two whole seconds that follow each other, does not start
the skipping anew; and a pulse that is not skipped may still not be published. -/
theorem fractional_gap_published :
    (1 : Int) * nanoPerSec < (⟨102, 500000000⟩ : Timespec).nanos - (⟨101, 0⟩ : Timespec).nanos ∧
      (after exactChecks sampleConfig
        [pulseAt ⟨100, 0⟩, pulseAt ⟨101, 0⟩, pulseAt ⟨102, 500000000⟩]).published =
          (⟨102, 500000000⟩, ⟨102, 500000000⟩) ∧
      (after exactChecks sampleConfig [pulseAt ⟨100, 0⟩, pulseAt ⟨101, 0⟩,
        pulseAt ⟨102, 500000000⟩, strayPulse]).published =
          (⟨102, 500000000⟩, ⟨102, 500000000⟩) := by
  decide

end Pps
end LocationStack
