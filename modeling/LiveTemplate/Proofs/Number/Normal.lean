import LiveTemplate.Number.Compare
import LiveTemplate.Number.Read
import Mathlib.Algebra.Group.Nat.Defs

/-! The one form of a double. A mantissa has all its bits unless the exponent is the least one, so
numbers that are equal are the same double, the two zeros apart. -/
namespace LiveTemplate.Double

/-- The mantissa fits, and it could not be doubled for a smaller exponent. -/
def Normal : Double → Prop
  | finite _ mantissa exponent =>
    mantissa < mantissaLimit ∧ leastExponent ≤ exponent ∧ exponent ≤ greatestExponent ∧
      (exponent = leastExponent ∨ mantissaLimit ≤ 2 * mantissa)
  | _ => True

instance : DecidablePred Normal
  | nan | infinite _ => .isTrue trivial
  | finite _ mantissa exponent =>
    inferInstanceAs (Decidable (mantissa < mantissaLimit ∧ leastExponent ≤ exponent ∧
      exponent ≤ greatestExponent ∧ (exponent = leastExponent ∨ mantissaLimit ≤ 2 * mantissa)))

section Finite

variable {m n : Nat} {d e : Int}

/-- Were the exponents different, the mantissa of the lesser one would be too large. -/
theorem le_exponent_of_equal (fits : m < mantissaLimit) (least : leastExponent ≤ d)
    (full : e = leastExponent ∨ mantissaLimit ≤ 2 * n)
    (equal : m * 2 ^ (d.toNat + (-e).toNat) = n * 2 ^ (e.toNat + (-d).toNat)) : e ≤ d := by
  rcases Int.lt_or_le d e with lt | le
  · obtain ⟨k, shift⟩ : ∃ k, e.toNat + (-d).toNat = k + 1 + (d.toNat + (-e).toNat) :=
      ⟨e.toNat + (-d).toNat - (d.toNat + (-e).toNat) - 1, by omega⟩
    have apart : n * 2 ^ (e.toNat + (-d).toNat) =
        n * 2 ^ (k + 1) * 2 ^ (d.toNat + (-e).toNat) := by
      rw [shift, Nat.pow_add, Nat.mul_assoc]
    have size : m = n * 2 ^ (k + 1) :=
      Nat.eq_of_mul_eq_mul_right (Nat.two_pow_pos (d.toNat + (-e).toNat)) (equal.trans apart)
    have two : 2 ≤ 2 ^ (k + 1) := Nat.le_self_pow (Nat.succ_ne_zero k) 2
    have large : n * 2 ≤ m := size ▸ Nat.mul_le_mul_left n two
    omega
  · exact le

theorem finite_unique {negative other : Bool} (left : (finite negative m d).Normal)
    (right : (finite other n e).Normal)
    (equal : m * 2 ^ (d.toNat + (-e).toNat) = n * 2 ^ (e.toNat + (-d).toNat)) : m = n ∧ d = e := by
  obtain ⟨fitsLeft, leastLeft, -, fullLeft⟩ := left
  obtain ⟨fitsRight, leastRight, -, fullRight⟩ := right
  have same : d = e := Int.le_antisymm
    (le_exponent_of_equal fitsRight leastRight fullLeft equal.symm)
    (le_exponent_of_equal fitsLeft leastLeft fullRight equal)
  subst same
  exact ⟨Nat.eq_of_mul_eq_mul_right (Nat.two_pow_pos _) equal, rfl⟩

end Finite

theorem signed_eq {negative other : Bool} {a b : Nat}
    (equal : (if negative then -(a : Int) else a) = if other then -(b : Int) else b) :
    a = b ∧ (a = 0 ∨ negative = other) := by
  cases negative <;> cases other <;> simp at equal <;> simp <;> omega

theorem signed_mul (negative : Bool) (a b : Nat) :
    (if negative then -(a : Int) else a) * (b : Int) =
      if negative then -((a * b : Nat) : Int) else ((a * b : Nat) : Int) := by
  cases negative with
  | true => exact Int.neg_mul _ _
  | false => rfl

/-- Doubles that are equal numbers are the same one, or both zeros. -/
theorem eq_or_zeros_of_equals {x y : Double} (left : x.Normal) (right : y.Normal)
    (equal : (Quantity.ofDouble x).equals (Quantity.ofDouble y) = true) :
    x = y ∨ (x.isZero = true ∧ y.isZero = true) := by
  match x, y with
  | nan, _ => simp [Quantity.ofDouble, Quantity.equals] at equal
  | infinite a, infinite b =>
    left
    simpa [Quantity.ofDouble, Quantity.equals] using equal
  | infinite a, nan | infinite a, finite b n e | finite a m d, nan | finite a m d, infinite b =>
    simp [Quantity.ofDouble, Quantity.equals] at equal
  | finite a m d, finite b n e =>
    simp only [Quantity.ofDouble, Quantity.equals, power, beq_iff_eq, signed_mul] at equal
    obtain ⟨sizes, signs⟩ := signed_eq equal
    simp only [Nat.pow_eq, Nat.mul_assoc, ← Nat.pow_add] at sizes signs
    obtain ⟨rfl, rfl⟩ := finite_unique left right sizes
    rcases signs with zero | rfl
    · have empty : m = 0 :=
        (Nat.mul_eq_zero.mp zero).resolve_right (Nat.ne_of_gt (Nat.two_pow_pos _))
      simp [isZero, empty]
    · exact .inl rfl

section Rounding

variable {a b k : Nat}

/-- A quotient above `k - 1 / 2` is rounded to `k` or more. -/
theorem le_roundQuotient (positive : 0 < b) (above : (2 * k - 1) * b < 2 * a) :
    k ≤ roundQuotient a b := by
  have parts := Nat.div_add_mod a b
  have bound := Nat.mod_lt a positive
  rcases Nat.lt_or_ge (a / b) k with beyond | reached
  · have half : (2 * (a / b) + 1) * b ≤ (2 * k - 1) * b := Nat.mul_le_mul_right b (by omega)
    have next : (2 * k - 1) * b < (2 * (a / b) + 2) * b := by
      rw [Nat.add_mul, Nat.mul_assoc, Nat.mul_comm (a / b)]
      omega
    have level := Nat.lt_of_mul_lt_mul_right next
    rw [Nat.add_mul, Nat.mul_assoc, Nat.mul_comm (a / b)] at half
    have up : b < 2 * (a % b) := by omega
    simp only [roundQuotient, if_neg (Nat.not_lt.mpr (Nat.le_of_lt up)), if_pos up]
    omega
  · unfold roundQuotient
    dsimp only
    split
    · exact reached
    · split <;> omega

/-- A quotient that is rounded to `k` or more is not below `k - 1 / 2`. -/
theorem of_le_roundQuotient (reached : k ≤ roundQuotient a b) : (2 * k - 1) * b ≤ 2 * a := by
  have parts := Nat.div_add_mod a b
  rcases Nat.lt_or_ge (a / b) k with beyond | below
  · have up : b ≤ 2 * (a % b) ∧ k ≤ a / b + 1 := by
      unfold roundQuotient at reached
      dsimp only at reached
      split at reached
      · omega
      · split at reached <;> omega
    have last : (2 * k - 1) * b ≤ (2 * (a / b) + 1) * b := Nat.mul_le_mul_right b (by omega)
    rw [Nat.add_mul, Nat.mul_assoc, Nat.mul_comm (a / b)] at last
    omega
  · have whole : (2 * k - 1) * b ≤ 2 * (a / b) * b := Nat.mul_le_mul_right b (by omega)
    rw [Nat.mul_assoc, Nat.mul_comm (a / b)] at whole
    omega

end Rounding

theorem power_pos {base : Nat} (positive : 0 < base) (e : Int) : 0 < power base e :=
  Nat.pow_pos positive

section Fitting

variable {numerator denominator : Nat} {e : Int}

/-- In units twice as large half the quotient is left. -/
theorem half_roundAt (positive : 0 < denominator)
    (large : mantissaLimit ≤ roundAt numerator denominator e) :
    mantissaLimit ≤ 2 * roundAt numerator denominator (e + 1) := by
  have reached := of_le_roundQuotient large
  have one : 0 < denominator * power 2 e := Nat.mul_pos positive (power_pos (by decide) e)
  have two : 0 < denominator * power 2 (e + 1) := Nat.mul_pos positive (power_pos (by decide) _)
  suffices above : (2 * (mantissaLimit / 2) - 1) * (denominator * power 2 (e + 1)) <
      2 * (numerator * power 2 (-(e + 1))) by
    have := le_roundQuotient two above
    rw [roundAt]
    unfold mantissaLimit at this ⊢
    omega
  unfold mantissaLimit at reached ⊢
  rcases Int.lt_or_le e 0 with negative | nonnegative
  · have next : (-e).toNat = (-(e + 1)).toNat + 1 := by omega
    have same : (e + 1).toNat = e.toNat := by omega
    have halved : numerator * power 2 (-e) = 2 * (numerator * power 2 (-(e + 1))) := by
      rw [power, next, Nat.pow_eq, Nat.pow_succ', Nat.mul_left_comm]
      rfl
    rw [halved] at reached
    rw [power, same, ← power]
    omega
  · have next : (e + 1).toNat = e.toNat + 1 := by omega
    have same : (-(e + 1)).toNat = (-e).toNat := by omega
    have doubled : denominator * power 2 (e + 1) = 2 * (denominator * power 2 e) := by
      rw [power, next, Nat.pow_eq, Nat.pow_succ', Nat.mul_left_comm]
      rfl
    rw [doubled, power, power, same, ← power, ← power]
    omega

/-- The exponent that the search for a mantissa starts with leaves all bits. -/
theorem full_roughExponent (some : 0 < numerator) (positive : 0 < denominator) :
    mantissaLimit ≤ 2 * roundAt numerator denominator (roughExponent numerator denominator) := by
  generalize start : roughExponent numerator denominator = e
  simp only [roughExponent, mantissaBits] at start
  have least : 2 ^ numerator.log2 ≤ numerator := Nat.log2_self_le (Nat.ne_of_gt some)
  have greatest : denominator < 2 ^ (denominator.log2 + 1) := Nat.lt_log2_self
  have above : 2 ^ 53 * (denominator * power 2 e) < 2 * (numerator * power 2 (-e)) := by
    calc 2 ^ 53 * (denominator * power 2 e)
        < 2 ^ 53 * (2 ^ (denominator.log2 + 1) * power 2 e) :=
          Nat.mul_lt_mul_of_pos_left (Nat.mul_lt_mul_of_pos_right greatest
            (power_pos (by decide) e)) (Nat.two_pow_pos 53)
      _ = 2 * (2 ^ numerator.log2 * power 2 (-e)) := by
        rw [power, power, Nat.pow_eq, Nat.pow_eq, ← Nat.pow_add, ← Nat.pow_add, ← Nat.pow_add,
          ← Nat.pow_succ']
        congr 1
        omega
      _ ≤ 2 * (numerator * power 2 (-e)) :=
        Nat.mul_le_mul_left 2 (Nat.mul_le_mul_right _ least)
  have reached : 2 ^ 52 ≤ roundAt numerator denominator e :=
    le_roundQuotient (Nat.mul_pos positive (power_pos (by decide) e))
      (Nat.lt_of_le_of_lt (Nat.mul_le_mul_right _ (by decide)) above)
  unfold mantissaLimit
  omega

theorem normal_fit {negative : Bool} {tries : Nat} (positive : 0 < denominator)
    (least : leastExponent ≤ e)
    (full : e = leastExponent ∨ mantissaLimit ≤ 2 * roundAt numerator denominator e) :
    (fit negative numerator denominator tries e).Normal := by
  induction tries generalizing e with
  | zero => trivial
  | succ tries ih =>
    simp only [fit]
    split
    · rename_i fits
      split
      · rename_i most
        exact ⟨fits, least, most, full⟩
      · trivial
    · rename_i large
      exact ih (by omega) (.inr (half_roundAt positive (Nat.not_lt.mp large)))

end Fitting

theorem normal_zero (negative : Bool) : (zero negative).Normal := by
  refine ⟨?_, ?_, ?_, .inl rfl⟩ <;> decide

/-- Rounding a quotient gives the one form of a double. -/
theorem normal_ofRatio {denominator : Nat} (negative : Bool) (numerator : Nat)
    (positive : 0 < denominator) : (ofRatio negative numerator denominator).Normal := by
  unfold ofRatio
  split
  · exact normal_zero negative
  · rename_i some
    refine normal_fit positive (Int.le_max_left _ _) ?_
    rcases Int.le_total (roughExponent numerator denominator) leastExponent with low | high
    · exact .inl (Int.max_eq_left low)
    · rw [Int.max_eq_right high]
      exact .inr (full_roughExponent (Nat.pos_of_ne_zero some) positive)

theorem normal_ofDecimal (negative : Bool) (digits : Nat) (scale : Int) :
    (ofDecimal negative digits scale).Normal := by
  unfold ofDecimal
  split
  · exact normal_zero negative
  · split
    · trivial
    · split
      · exact normal_zero negative
      · exact normal_ofRatio negative _ (power_pos (by decide) _)

theorem normal_of_readUnsigned {negative : Bool} {cs : List Char} {x : Double}
    (read : readUnsigned? negative cs = some x) : x.Normal := by
  unfold readUnsigned? at read
  dsimp only at read
  split at read
  all_goals
    dsimp only at read
    split at read
    · cases read
    · obtain ⟨scale, -, rfl⟩ := Option.map_eq_some_iff.mp read
      exact normal_ofDecimal _ _ _

/-- Every double that is read from text is in its one form. -/
theorem normal_of_ofText {text : String} {x : Double} (read : ofText? text = some x) :
    x.Normal := by
  obtain ⟨cs, -, read⟩ := Option.bind_eq_some_iff.mp read
  unfold readSigned? at read
  dsimp only at read
  split at read
  · cases read
    trivial
  · split at read
    · cases read
      trivial
    · exact normal_of_readUnsigned read

end LiveTemplate.Double
