import BestTimes.Rounding
set_option autoImplicit false

/-!
# Binary64 numbers

A finite binary64 number is a whole number of *units*, a unit being `2 ^ -1074`,
the least positive binary64 number.  All arithmetic is then exact arithmetic on
natural numbers and integers, followed by one rounding to the nearest
representable count of units.

* A count is representable when it is below `2 ^ 2098` and is a multiple of the
  spacing of the binary64 numbers around it, `2 ^ (log2 units - 52)`
  (`Magnitude`).  The subtraction of natural numbers stops at zero, which is
  right: below `2 ^ 53` units, subnormal numbers included, every count is
  representable.
* `roundUnits` rounds a quotient of naturals to that grid, `granular_roundUnits`
  says that it lands on it, and `ofQuotient` is the number it denotes, an
  infinity from `2 ^ 2098` units on.
* Zero and the infinities carry a sign.  There is one `nan`.

The order of the numbers is the order of their `rank?`; `nan` has none, so every
comparison with it is false.
-/

namespace BestTimes

/-! ## The grid -/

/-- The number of units in one: a unit is `2 ^ -1074`. -/
def unitsPerOne : Nat := Nat.pow 2 1074

/-- The least count of units that is too large for a finite binary64 number. -/
def unitLimit : Nat := Nat.pow 2 2098

theorem unitsPerOne_pos : 0 < unitsPerOne := by
  unfold unitsPerOne
  generalize 1074 = e
  exact Nat.two_pow_pos e

theorem unitLimit_pos : 0 < unitLimit := by
  unfold unitLimit
  generalize 2098 = e
  exact Nat.two_pow_pos e

/-- The exponent of the spacing of the binary64 numbers around `units` units. -/
def spacing (units : Nat) : Nat := units.log2 - 52

/-- The count of units nearest to `num / den` that has at most 53 significant
binary digits, from the middle the even one. -/
def roundUnits (num den : Nat) : Nat :=
  divNearest num (den * Nat.pow 2 (spacing (num / den))) * Nat.pow 2 (spacing (num / den))

private theorem div_spacing_lt (n : Nat) : n / Nat.pow 2 (spacing n) < Nat.pow 2 53 := by
  change n / 2 ^ spacing n < 2 ^ 53
  have hlog : n < 2 ^ (n.log2 + 1) := Nat.lt_log2_self
  have hexp : 2 ^ (n.log2 + 1) ≤ 2 ^ (53 + spacing n) :=
    Nat.pow_le_pow_right (by omega) (by unfold spacing; omega)
  have hlt : n < 2 ^ (53 + spacing n) := by omega
  rw [Nat.pow_add] at hlt
  exact Nat.div_lt_of_lt_mul (by rwa [Nat.mul_comm] at hlt)

private theorem significand_le (num den : Nat) :
    divNearest num (den * Nat.pow 2 (spacing (num / den))) ≤ Nat.pow 2 53 := by
  have hround := divNearest_le_div_add_one num (den * Nat.pow 2 (spacing (num / den)))
  have hlt := div_spacing_lt (num / den)
  rw [Nat.div_div_eq_div_mul] at hlt
  omega

/-- Rounding lands on the binary64 grid. -/
theorem granular_roundUnits (num den : Nat) :
    Nat.pow 2 (spacing (roundUnits num den)) ∣ roundUnits num den := by
  have hle := significand_le num den
  unfold roundUnits
  generalize divNearest num (den * Nat.pow 2 (spacing (num / den))) = q at hle
  generalize spacing (num / den) = s
  change 2 ^ spacing (q * 2 ^ s) ∣ q * 2 ^ s
  change q ≤ 2 ^ 53 at hle
  rcases Nat.lt_or_eq_of_le hle with hlt | heq
  · have hexp : spacing (q * 2 ^ s) ≤ s := by
      unfold spacing
      by_cases hz : q * 2 ^ s = 0
      · simp [hz]
      · have hbound : q * 2 ^ s < 2 ^ (53 + s) := by
          rw [Nat.pow_add]
          exact Nat.mul_lt_mul_of_pos_right hlt (Nat.two_pow_pos s)
        have := (Nat.log2_lt hz).2 hbound
        omega
    exact Nat.dvd_trans (Nat.pow_dvd_pow 2 hexp) (Nat.dvd_mul_left _ _)
  · rw [heq, ← Nat.pow_add]
    unfold spacing
    rw [Nat.log2_two_pow]
    exact Nat.pow_dvd_pow 2 (by omega)

/-- The size of a finite binary64 number: a representable count of units. -/
structure Magnitude where
  units : Nat
  units_lt : units < unitLimit
  granular : Nat.pow 2 (spacing units) ∣ units
  deriving DecidableEq, Repr

namespace Magnitude

theorem ext_units {a b : Magnitude} (h : a.units = b.units) : a = b := by
  cases a; cases b; simp_all

/-- The size of zero. -/
def zero : Magnitude := ⟨0, unitLimit_pos, Nat.dvd_zero _⟩

instance : Inhabited Magnitude := ⟨zero⟩

end Magnitude

/-! ## The numbers -/

/-- A binary64 number. -/
inductive Binary64 where
  /-- The result of an operation that has no value, such as `0 / 0`. -/
  | nan
  /-- One of the two infinities. -/
  | infinite (negative : Bool)
  /-- A finite number; zero too has a sign. -/
  | finite (negative : Bool) (magnitude : Magnitude)
  deriving DecidableEq, Repr, Inhabited

namespace Binary64

/-- A sign applied to a count. -/
def signed (negative : Bool) (n : Nat) : Int := if negative then -(n : Int) else n

/-- The zero of a sign. -/
def zero (negative : Bool) : Binary64 := .finite negative .zero

/-- The binary64 number nearest to `num / den` units. -/
def ofQuotient (negative : Bool) (num den : Nat) : Binary64 :=
  if h : roundUnits num den < unitLimit then
    .finite negative ⟨roundUnits num den, h, granular_roundUnits num den⟩
  else .infinite negative

/-- The binary64 number nearest to an integer. -/
def ofInt (i : Int) : Binary64 := ofQuotient (i < 0) (i.natAbs * unitsPerOne) 1

/-- Neither `nan` nor an infinity. -/
def isFinite : Binary64 → Bool
  | .finite .. => true
  | _ => false

/-- The signed number of units; the infinities stand at the first count beyond
the finite ones. -/
def rank? : Binary64 → Option Int
  | .nan => none
  | .infinite negative => some (signed negative unitLimit)
  | .finite negative m => some (signed negative m.units)

/-- Strictly below; false of `nan`. -/
def lt (a b : Binary64) : Bool :=
  match a.rank?, b.rank? with
  | some x, some y => x < y
  | _, _ => false

/-- Below or equal; the two zeros are equal.  False of `nan`. -/
def le (a b : Binary64) : Bool :=
  match a.rank?, b.rank? with
  | some x, some y => x ≤ y
  | _, _ => false

/-- The integer part, toward zero.  An infinity gives an integer beyond every
finite binary64 number. -/
def truncate? (a : Binary64) : Option Int := a.rank?.map (·.tdiv unitsPerOne)

/-! ## Arithmetic -/

/-- The number of the other sign. -/
def neg : Binary64 → Binary64
  | .nan => .nan
  | .infinite negative => .infinite !negative
  | .finite negative m => .finite (!negative) m

/-- The sum.  An exact zero is positive unless both terms are negative zeros. -/
def add : Binary64 → Binary64 → Binary64
  | .nan, _ => .nan
  | _, .nan => .nan
  | .infinite s, .infinite t => if s = t then .infinite s else .nan
  | .infinite s, .finite .. => .infinite s
  | .finite .., .infinite t => .infinite t
  | .finite s x, .finite t y =>
    let sum := signed s x.units + signed t y.units
    if sum = 0 then zero (s && t) else ofQuotient (sum < 0) sum.natAbs 1

/-- The difference. -/
def sub (a b : Binary64) : Binary64 := add a b.neg

/-- The product. -/
def mul : Binary64 → Binary64 → Binary64
  | .nan, _ => .nan
  | _, .nan => .nan
  | .infinite s, .infinite t => .infinite (s != t)
  | .infinite s, .finite t y => if y.units = 0 then .nan else .infinite (s != t)
  | .finite s x, .infinite t => if x.units = 0 then .nan else .infinite (s != t)
  | .finite s x, .finite t y => ofQuotient (s != t) (x.units * y.units) unitsPerOne

/-- The quotient.  A finite number over zero is an infinity, zero over zero has
no value. -/
def div : Binary64 → Binary64 → Binary64
  | .nan, _ => .nan
  | _, .nan => .nan
  | .infinite _, .infinite _ => .nan
  | .infinite s, .finite t _ => .infinite (s != t)
  | .finite s _, .infinite t => zero (s != t)
  | .finite s x, .finite t y =>
    if y.units = 0 then (if x.units = 0 then .nan else .infinite (s != t))
    else ofQuotient (s != t) (x.units * unitsPerOne) y.units

instance : Neg Binary64 := ⟨neg⟩
instance : Add Binary64 := ⟨add⟩
instance : Sub Binary64 := ⟨sub⟩
instance : Mul Binary64 := ⟨mul⟩
instance : Div Binary64 := ⟨div⟩
instance (n : Nat) : OfNat Binary64 n := ⟨ofInt n⟩

end Binary64

end BestTimes
