import BestTimes.Proofs.Binary64.Order
import BestTimes.Proofs.Measurement.Conversion
set_option autoImplicit false

/-!
# Conversion keeps the order of times

A time in a unit is converted by a product, a cut of its fraction toward zero, and a cut at the
ends of the range of times.  Each of these keeps the order: products as `Binary64.le_mul_of_le`
says, infinite ones included, integer parts on both sides of zero (`Nanos.ofBinary64_mono`), and
the range because it is cut in the same place for all times.

So the order in which benchmarks have their best times never contradicts what was written, in
whatever units it was written (`TimeUnit.toNanos_mono`).
-/

namespace BestTimes

open Binary64

namespace Nanos

theorem clamp_mono {i j : ℤ} (order : i ≤ j) : clamp i ≤ clamp j := by
  change (clamp i).toInt ≤ (clamp j).toInt
  unfold clamp
  dsimp only
  omega

/-- The time of a number keeps the order of the numbers. -/
theorem ofBinary64_mono {a b : Binary64} (h : Binary64.le a b = true) :
    ofBinary64 a ≤ ofBinary64 b := by
  obtain ⟨i, j, ha, hb, order⟩ := exists_truncate?_of_le h
  unfold ofBinary64
  rw [ha, hb]
  exact clamp_mono order

end Nanos

namespace TimeUnit

/-- **Conversion never inverts two times**, whatever their units are: if the exact product of one
time with its unit is at most that of another one with its own, then so are the nanoseconds.  The
times are any two finite numbers, of either sign, and the products may round, overflow, or lie
beyond the times that there are. -/
theorem toNanos_mono {u w : TimeUnit} {a b : Binary64} {x y : ℚ} (ha : a.value? = some x)
    (hb : b.value? = some y) (order : x * u.scale ≤ y * w.scale) : u.toNanos a ≤ w.toNanos b := by
  have products : Binary64.le (a * u.multiplier) (b * w.multiplier) = true :=
    le_mul_of_le ha u.value?_multiplier hb w.value?_multiplier order
  exact Nanos.ofBinary64_mono products

/-- A negative time whose product overflows, a product that is rounded down to one nanosecond
less, the same time in nanoseconds, and a product that overflows, in their order. -/
theorem toNanos_mono_of_extremes :
    ∃ (least short whole greatest : Binary64) (x y z t : ℚ),
      least.value? = some x ∧ short.value? = some y ∧ whole.value? = some z ∧
      greatest.value? = some t ∧
      x * milliseconds.scale ≤ y * microseconds.scale ∧
      y * microseconds.scale ≤ z * nanoseconds.scale ∧
      z * nanoseconds.scale ≤ t * milliseconds.scale ∧
      (least * milliseconds.multiplier).isFinite = false ∧
      (greatest * milliseconds.multiplier).isFinite = false ∧
      milliseconds.toNanos least ≤ microseconds.toNanos short ∧
      microseconds.toNanos short ≤ nanoseconds.toNanos whole ∧
      nanoseconds.toNanos whole ≤ milliseconds.toNanos greatest ∧
      (microseconds.toNanos short).toInt = 1000 ∧ (nanoseconds.toNanos whole).toInt = 1001 := by
  let number (negative : Bool) (c : ℕ) (e : ℤ) : Binary64 :=
    Numeral.toBinary64 (.decimal negative ⟨c, e⟩)
  let value (a : Binary64) : ℚ := a.value?.getD 0
  let least := number true 1 305
  let short := number false 1001 (-3)
  let whole := number false 1001 0
  let greatest := number false 1 305
  have ⟨first, second, third, fourth⟩ : least.value? = some (value least) ∧
      short.value? = some (value short) ∧ whole.value? = some (value whole) ∧
      greatest.value? = some (value greatest) := by
    decide +kernel
  have ⟨low, middle, high⟩ : value least * milliseconds.scale ≤ value short * microseconds.scale ∧
      value short * microseconds.scale ≤ value whole * nanoseconds.scale ∧
      value whole * nanoseconds.scale ≤ value greatest * milliseconds.scale := by
    decide +kernel
  refine ⟨least, short, whole, greatest, _, _, _, _, first, second, third, fourth, low, middle,
    high, ?_, ?_, toNanos_mono first second low, toNanos_mono second third middle,
    toNanos_mono third fourth high, ?_, ?_⟩
  all_goals decide +kernel

end TimeUnit

end BestTimes
