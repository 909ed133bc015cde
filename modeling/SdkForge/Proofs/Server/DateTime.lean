import Mathlib.Tactic.Common
import SdkForge.Server.DateTime

/-!
# Points in time from a clock

A computer keeps a time as seconds and nanoseconds from the epoch, and its clock shows the distance
between the two. The point in time is made of the distance in words of 64 and 32 bits.

* `UnixTime.clock` is what the clock shows, and `parts_of_nonneg`, `parts_of_whole` and
  `parts_of_fraction` give its words.
* `UnixTime.wholeSecs?_clock` says that the seconds can be rounded at every time that can be kept.
* `DateTime.ofClock_clock` says that the point in time has the seconds and nanoseconds of the time,
  unless the seconds are the smallest number of 64 bits, where the program stops.
* `DateTime.exact_unless_smallest` puts this together.
-/

namespace SdkForge.Server

/-! ## Times and clocks -/

/-- A time as it is kept: seconds from the epoch, and nanoseconds after that second. -/
structure UnixTime where
  secs : Int64
  nanos : UInt32
  nanos_lt : nanos < nanosPerSecond

/-- So many nanoseconds. -/
def Distance.ofNanos (n : Nat) : Distance where
  secs := UInt64.ofNat (n / nanosPerSecond.toNat)
  nanos := UInt32.ofNat (n % nanosPerSecond.toNat)

/-- The nanoseconds of a span. -/
def Distance.toNanos (d : Distance) : Nat := d.secs.toNat * nanosPerSecond.toNat + d.nanos.toNat

/-- The nanoseconds from the epoch to what a clock shows, which are negative before it. -/
def ClockTime.offset : ClockTime → Int
  | .since d => d.toNanos
  | .before d => -d.toNanos

lemma toNat_nanosPerSecond : nanosPerSecond.toNat = 1000000000 := rfl

lemma Distance.toNanos_ofNanos {n : Nat} (h : n ≤ 9223372036854775808 * nanosPerSecond.toNat) :
    (ofNanos n).toNanos = n := by
  rw [toNat_nanosPerSecond] at h
  have hsecs : n / 1000000000 < UInt64.size := by
    show _ < 18446744073709551616
    omega
  have hnanos : n % 1000000000 < UInt32.size := by
    show _ < 4294967296
    omega
  rw [toNanos, ofNanos, toNat_nanosPerSecond, UInt64.toNat_ofNat_of_lt' hsecs,
    UInt32.toNat_ofNat_of_lt' hnanos]
  omega

namespace UnixTime

/-- The nanoseconds from the epoch to a time, which are negative before it. -/
def offset (t : UnixTime) : Int := t.secs.toInt * nanosPerSecond.toNat + t.nanos.toNat

/-- What a clock shows at a time: the distance from the epoch, and on which side of it the time
is. -/
def clock (t : UnixTime) : ClockTime :=
  if 0 ≤ t.offset then .since (.ofNanos t.offset.toNat) else .before (.ofNanos (-t.offset).toNat)

variable {t : UnixTime}

lemma toNat_nanos_lt (t : UnixTime) : t.nanos.toNat < 1000000000 :=
  UInt32.lt_iff_toNat_lt.1 t.nanos_lt

/-- The distance that the clock shows has enough seconds for every time. -/
theorem offset_clock (t : UnixTime) : t.clock.offset = t.offset := by
  have hlower := Int64.le_toInt t.secs
  have hupper := Int64.toInt_lt t.secs
  have hnanos := t.toNat_nanos_lt
  have hoffset : t.offset = t.secs.toInt * 1000000000 + t.nanos.toNat := rfl
  rw [clock]
  split
  · rw [ClockTime.offset, Distance.toNanos_ofNanos (by rw [toNat_nanosPerSecond]; omega)]
    omega
  · rw [ClockTime.offset, Distance.toNanos_ofNanos (by rw [toNat_nanosPerSecond]; omega)]
    omega

/-- From the epoch on, the clock shows the seconds and nanoseconds of the time. -/
lemma parts_of_nonneg (h : 0 ≤ t.secs.toInt) :
    t.clock = .since ⟨UInt64.ofNat t.secs.toInt.natAbs, t.nanos⟩ := by
  have hnanos := t.toNat_nanos_lt
  have hoffset : t.offset = t.secs.toInt * 1000000000 + t.nanos.toNat := rfl
  have hquotient : t.offset.toNat / 1000000000 = t.secs.toInt.natAbs := by omega
  have hrest : t.offset.toNat % 1000000000 = t.nanos.toNat := by omega
  rw [clock, if_pos (by omega), Distance.ofNanos, toNat_nanosPerSecond, hquotient, hrest,
    UInt32.ofNat_toNat]

/-- Before the epoch, the clock shows how far back a whole second lies. -/
lemma parts_of_whole (h : t.secs.toInt < 0) (hwhole : t.nanos = 0) :
    t.clock = .before ⟨UInt64.ofNat t.secs.toInt.natAbs, 0⟩ := by
  have hoffset : t.offset = t.secs.toInt * 1000000000 + t.nanos.toNat := rfl
  have hnanos : t.nanos.toNat = 0 := by rw [hwhole]; rfl
  have hquotient : (-t.offset).toNat / 1000000000 = t.secs.toInt.natAbs := by omega
  have hrest : (-t.offset).toNat % 1000000000 = 0 := by omega
  rw [clock, if_neg (by omega), Distance.ofNanos, toNat_nanosPerSecond, hquotient, hrest]
  rfl

/-- Before the epoch, the clock shows one second less for a time between seconds, and the
nanoseconds up to the next second. -/
lemma parts_of_fraction (h : t.secs.toInt < 0) (hfraction : t.nanos ≠ 0) :
    t.clock = .before ⟨UInt64.ofNat (t.secs.toInt.natAbs - 1), nanosPerSecond - t.nanos⟩ := by
  have hnanos := t.toNat_nanos_lt
  have hpos : t.nanos.toNat ≠ 0 := fun hzero => hfraction (UInt32.toNat_inj.1 hzero)
  have hoffset : t.offset = t.secs.toInt * 1000000000 + t.nanos.toNat := rfl
  have hquotient : (-t.offset).toNat / 1000000000 = t.secs.toInt.natAbs - 1 := by omega
  have hrest : (-t.offset).toNat % 1000000000 = 1000000000 - t.nanos.toNat := by omega
  rw [clock, if_neg (by omega), Distance.ofNanos, toNat_nanosPerSecond, hquotient, hrest,
    UInt32.ofNat_sub (by omega), UInt32.ofNat_toNat]
  rfl

end UnixTime

/-! ## Steps that stay in range -/

lemma sum?_eq_some_iff {x y z : UInt64} :
    sum? x y = some z ↔ x.toNat + y.toNat < UInt64.size ∧ x + y = z := by
  rw [sum?, Option.ite_none_right_eq_some, Option.some_inj]

lemma difference?_eq_some_iff {x y z : UInt32} : difference? x y = some z ↔ y ≤ x ∧ x - y = z := by
  rw [difference?, Option.ite_none_right_eq_some, Option.some_inj]

/-- What is left of a second after what is left of it. -/
lemma nanosPerSecond_sub_sub (n : UInt32) : nanosPerSecond - (nanosPerSecond - n) = n := by grind

lemma nanosPerSecond_sub_ne_zero {n : UInt32} (h : n < nanosPerSecond) :
    nanosPerSecond - n ≠ 0 := by
  intro hzero
  have hsub := nanosPerSecond_sub_sub n
  rw [hzero] at hsub
  rw [← hsub] at h
  exact absurd h (by decide)

/-- Parts of a second are less than one, and stay as they are. -/
lemma Distance.ofParts?_of_lt (secs : UInt64) {nanos : UInt32} (h : nanos < nanosPerSecond) :
    ofParts? secs nanos = some ⟨secs, nanos⟩ := by
  have hlt : nanos.toNat < nanosPerSecond.toNat := UInt32.lt_iff_toNat_lt.1 h
  have hquotient : nanos / nanosPerSecond = 0 := by
    rw [← UInt32.toNat_inj, UInt32.toNat_div, Nat.div_eq_of_lt hlt]
    rfl
  have hrest : nanos % nanosPerSecond = nanos := by
    rw [← UInt32.toNat_inj, UInt32.toNat_mod, Nat.mod_eq_of_lt hlt]
  have hsum : sum? secs 0 = some secs := sum?_eq_some_iff.2 ⟨secs.toNat_lt, UInt64.add_zero secs⟩
  rw [ofParts?, hquotient, hrest]
  show (sum? secs 0).bind _ = _
  rw [hsum]
  rfl

lemma toNat_ofNat {n : Nat} (h : n ≤ 9223372036854775808) : (UInt64.ofNat n).toNat = n := by
  apply UInt64.toNat_ofNat_of_lt'
  show n < 18446744073709551616
  omega

/-- One second more than one less. -/
lemma Distance.add?_second {n : Nat} (hpos : 0 < n) (h : n ≤ 9223372036854775808) {nanos : UInt32}
    (hnanos : nanos < nanosPerSecond) :
    add? ⟨UInt64.ofNat (n - 1), nanos⟩ { secs := 1 } = some ⟨UInt64.ofNat n, nanos⟩ := by
  have hsum : sum? (UInt64.ofNat (n - 1)) 1 = some (UInt64.ofNat n) := by
    have hsucc : n - 1 + 1 = n := by omega
    refine sum?_eq_some_iff.2 ⟨?_, ?_⟩
    · rw [toNat_ofNat (by omega)]
      show n - 1 + 1 < 18446744073709551616
      omega
    · calc UInt64.ofNat (n - 1) + 1 = UInt64.ofNat (n - 1 + 1) := (UInt64.ofNat_add _ _).symm
        _ = UInt64.ofNat n := by rw [hsucc]
  rw [add?, hsum, UInt32.add_zero]
  exact ofParts?_of_lt _ hnanos

/-- The seconds can be rounded at every time, and are those of the time without their sign. -/
theorem UnixTime.wholeSecs?_clock (t : UnixTime) :
    t.clock.wholeSecs? = some (UInt64.ofNat t.secs.toInt.natAbs) := by
  have hlower := Int64.le_toInt t.secs
  by_cases hsign : 0 ≤ t.secs.toInt
  · rw [parts_of_nonneg hsign]
    rfl
  · have hneg : t.secs.toInt < 0 := by omega
    by_cases hwhole : t.nanos = 0
    · rw [parts_of_whole hneg hwhole, ClockTime.wholeSecs?, if_pos rfl]
    · have hnonzero := nanosPerSecond_sub_ne_zero t.nanos_lt
      have hrest : nanosPerSecond - t.nanos < nanosPerSecond := by
        rw [UInt32.lt_iff_toNat_lt, UInt32.toNat_sub_of_le _ _ (UInt32.le_of_lt t.nanos_lt)]
        have hpos : t.nanos.toNat ≠ 0 := fun hzero => hwhole (UInt32.toNat_inj.1 hzero)
        have := t.toNat_nanos_lt
        rw [toNat_nanosPerSecond]
        omega
      rw [parts_of_fraction hneg hwhole, ClockTime.wholeSecs?, if_neg hnonzero,
        Distance.add?_second (by omega) (by omega) hrest]
      rfl

/-- What a clock shows at any time can be kept. -/
lemma UnixTime.isKept_clock (t : UnixTime) : t.clock.isKept = true := by
  have hlower := Int64.le_toInt t.secs
  have hupper := Int64.toInt_lt t.secs
  by_cases hsign : 0 ≤ t.secs.toInt
  · rw [parts_of_nonneg hsign, ClockTime.isKept, toNat_ofNat (by omega)]
    exact decide_eq_true (by omega)
  · have hneg : t.secs.toInt < 0 := by omega
    by_cases hwhole : t.nanos = 0
    · rw [parts_of_whole hneg hwhole, ClockTime.isKept, toNat_ofNat (by omega)]
      simp only [beq_self_eq_true, Bool.and_true, Bool.or_eq_true, decide_eq_true_eq, beq_iff_eq]
      omega
    · rw [parts_of_fraction hneg hwhole, ClockTime.isKept, toNat_ofNat (by omega)]
      exact Bool.or_eq_true_iff.2 (.inl (decide_eq_true (by omega)))

/-- Of the numbers up to `2 ^ 63`, this one alone wraps around as a signed one. -/
lemma toInt_toInt64_iff {n : Nat} (h : n ≤ 9223372036854775808) :
    (UInt64.ofNat n).toInt64.toInt = (UInt64.ofNat n).toNat ↔ n ≠ 9223372036854775808 := by
  rw [toNat_ofNat h, UInt64.toInt64_ofNat']
  constructor
  · rintro hvalue rfl
    have hupper := Int64.toInt_lt (Int64.ofNat 9223372036854775808)
    omega
  · intro hne
    exact Int64.toInt_ofNat_of_lt (by omega)

namespace DateTime

/-! ## The seconds and nanoseconds of a point in time -/

lemma toInt64_natAbs {s : Int64} (h : 0 ≤ s.toInt) : (UInt64.ofNat s.toInt.natAbs).toInt64 = s := by
  have hcast : ((s.toInt.natAbs : Nat) : Int) = s.toInt := Int.natAbs_of_nonneg h
  rw [UInt64.toInt64_ofNat', ← Int64.ofInt_eq_ofNat, hcast, Int64.ofInt_toInt]

/-- The negative of the seconds gives their sign back, if it has a word. -/
lemma negative?_natAbs {s : Int64} (h : s.toInt < 0) :
    negative? (UInt64.ofNat s.toInt.natAbs).toInt64 = if s = Int64.minValue then none
      else some s := by
  have hcast : ((s.toInt.natAbs : Nat) : Int) = -s.toInt := by omega
  have hneg : (UInt64.ofNat s.toInt.natAbs).toInt64 = -s := by
    rw [UInt64.toInt64_ofNat', ← Int64.ofInt_eq_ofNat, hcast, Int64.ofInt_neg, Int64.ofInt_toInt]
  -- the smallest number is its own negative
  have hsmallest : -s = Int64.minValue ↔ s = Int64.minValue := by
    constructor
    · intro heq
      rw [← Int64.neg_neg (a := s), heq]
      rfl
    · rintro rfl
      rfl
  rw [hneg, negative?, Int64.neg_neg]
  simp only [hsmallest]

/-- The point in time that a clock shows has the seconds and nanoseconds of the time, unless the
program stops, which it does at the smallest seconds alone. -/
theorem ofClock_clock (t : UnixTime) :
    ofClock t.clock = if t.secs = Int64.minValue then none else some ⟨t.secs, t.nanos⟩ := by
  rw [ofClock, t.wholeSecs?_clock]
  by_cases hsign : 0 ≤ t.secs.toInt
  · have hne : t.secs ≠ Int64.minValue := by
      intro heq
      rw [heq, Int64.toInt_minValue] at hsign
      omega
    rw [UnixTime.parts_of_nonneg hsign, if_neg hne]
    simp [toInt64_natAbs hsign]
  · have hneg : t.secs.toInt < 0 := by omega
    by_cases hwhole : t.nanos = 0
    · rw [UnixTime.parts_of_whole hneg hwhole]
      simp only [Option.bind_eq_bind, Option.bind_some, negative?_natAbs hneg, if_true, hwhole]
      split <;> rfl
    · have hrest : difference? nanosPerSecond (nanosPerSecond - t.nanos) = some t.nanos := by
        refine difference?_eq_some_iff.2 ⟨?_, nanosPerSecond_sub_sub _⟩
        rw [UInt32.le_iff_toNat_le, UInt32.toNat_sub_of_le _ _ (UInt32.le_of_lt t.nanos_lt)]
        omega
      rw [UnixTime.parts_of_fraction hneg hwhole]
      simp only [Option.bind_eq_bind, Option.bind_some, negative?_natAbs hneg, hrest,
        if_neg (nanosPerSecond_sub_ne_zero t.nanos_lt)]
      split <;> rfl

/-- What the clock shows can be kept, and is as far from the epoch as the time. The point in time is
made of it without leaving the range of any word, and has the seconds and nanoseconds of the time,
unless the seconds are the smallest number of 64 bits: they can still be rounded, but then they are
no signed number, and the program stops. -/
theorem exact_unless_smallest (t : UnixTime) :
    t.clock.isKept = true ∧ t.clock.offset = t.offset ∧
    ofClock t.clock = (if t.secs = Int64.minValue then none else some ⟨t.secs, t.nanos⟩) ∧
    ∃ secs, t.clock.wholeSecs? = some secs ∧
      (secs.toInt64.toInt = secs.toNat ↔ t.secs ≠ Int64.minValue) := by
  have hlower := Int64.le_toInt t.secs
  have hupper := Int64.toInt_lt t.secs
  have hsmallest : t.secs ≠ Int64.minValue ↔ t.secs.toInt ≠ -9223372036854775808 := by
    rw [Ne, ← Int64.toInt_inj, Int64.toInt_minValue]
    exact Iff.rfl
  refine ⟨t.isKept_clock, t.offset_clock, ofClock_clock t, _, t.wholeSecs?_clock, ?_⟩
  rw [toInt_toInt64_iff (by omega), hsmallest]
  omega

/-- The smallest number of seconds lies too far back for its distance to have a signed word. -/
theorem not_exact_of_smallest :
    (⟨Int64.minValue, 0, by decide⟩ : UnixTime).clock = .before ⟨9223372036854775808, 0⟩ ∧
      ofClock (.before ⟨9223372036854775808, 0⟩) = none := by
  decide

end DateTime

end SdkForge.Server
