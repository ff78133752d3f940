import GraphBroker.Proofs.Json.Texts

/-!
# Numbers of 64 bits

A whole number that is written is read as this number if it fits a signed word of 64 bits, and
else as none. Before its digits are read, a number is refused that is too large for a double; a
number of 64 bits never is.

## Main definitions

* `Fits`: a number fits a signed word of 64 bits.

## Main statements

* `Double.isInfiniteTimes_ofNat`: a number of 64 bits is far from the greatest double.
* `toJson_numeralOf`, `int64?_numeralOf`: which number is read.
-/

namespace GraphBroker

namespace Double

variable {negative : Bool} {n d : Nat} {power : Int}

/-- The `power` of two of the units of a fraction goes with the digits of `n` and `d`. -/
theorem exists_ofFraction_eq (negative : Bool) (d : Nat) (positive : n ≠ 0) : ∃ power : Int,
    (n.log2 : Int) - d.log2 - 53 ≤ power ∧ power ≤ max leastPower (n.log2 - d.log2 - 52) ∧
    ofFraction negative n d =
      if unitsOf power n d = Nat.pow 2 53 then
        if greatestPower < power + 1 then infinite negative
        else finite negative (Nat.pow 2 52) (power + 1)
      else if greatestPower < power then infinite negative
      else finite negative (unitsOf power n d) power := by
  unfold ofFraction
  rw [if_neg positive]
  dsimp only
  generalize (scaled 2 (-((n.log2 : Int) - d.log2 - 53)) n d).1 /
    (scaled 2 (-((n.log2 : Int) - d.log2 - 53)) n d).2 = digits
  refine ⟨max leastPower (if digits < Nat.pow 2 53 then (n.log2 : Int) - d.log2 - 53
    else n.log2 - d.log2 - 53 + 1), ?_, ?_, ?_⟩
  · split <;> omega
  · split <;> omega
  · generalize max leastPower _ = power
    split <;> rfl

/-- The fraction of `n` and `d` is far from the greatest double if `n` is. -/
theorem isInfinite_ofFraction (small : n.log2 ≤ 200) :
    (ofFraction negative n d).isInfinite = false := by
  by_cases positive : n = 0
  · rw [ofFraction, if_pos positive]
    rfl
  · obtain ⟨power, -, bound, same⟩ := exists_ofFraction_eq negative d positive
    have low : power + 1 ≤ greatestPower := by
      simp only [leastPower, greatestPower] at bound ⊢
      omega
    rw [same]
    split
    · rw [if_neg (Int.not_lt.2 low)]
      rfl
    · rw [if_neg (by omega)]
      rfl

theorem nearestEven_le : nearestEven n d ≤ n + 1 := by
  have quotient := Nat.div_le_self n d
  unfold nearestEven
  dsimp only
  split <;> omega

theorem unitsOf_le : unitsOf power n d ≤ n * Nat.pow 2 (-power).toNat + 1 := by
  unfold unitsOf scaled
  cases -power with
  | ofNat k => exact nearestEven_le
  | negSucc k => simpa using nearestEven_le

/-- The double nearest to `n`, which is a number of 64 bits. -/
theorem ofNat_cases (positive : n ≠ 0) (small : n < Nat.pow 2 64) : ∃ units power,
    ofNat n = finite false units power ∧ units ≤ Nat.pow 2 118 ∧ power ≤ 13 := by
  have digits : n.log2 < 64 := (Nat.log2_lt positive).2 small
  -- At most 53 digits are added to the 64, and the power makes up for them.
  obtain ⟨power, least, bound, same⟩ := exists_ofFraction_eq false 1 positive
  have one : (1 : Nat).log2 = 0 := rfl
  simp only [leastPower, one] at least bound
  have low : power + 1 ≤ greatestPower := by
    simp only [greatestPower]
    omega
  rw [ofNat, same]
  split
  · rw [if_neg (Int.not_lt.2 low)]
    exact ⟨_, _, rfl, by decide, by omega⟩
  · rw [if_neg (by omega)]
    refine ⟨_, _, rfl, ?_, by omega⟩
    have few : n * Nat.pow 2 (-power).toNat ≤ Nat.pow 2 64 * Nat.pow 2 53 :=
      Nat.mul_le_mul (Nat.le_of_lt small) (Nat.pow_le_pow_right (by decide) (by omega))
    calc unitsOf power n 1 ≤ n * Nat.pow 2 (-power).toNat + 1 := unitsOf_le
      _ ≤ Nat.pow 2 64 * Nat.pow 2 53 + 1 := by omega
      _ ≤ Nat.pow 2 118 := by decide

/-- If `n` is a number of 64 bits, it is far from the greatest double. -/
theorem isInfiniteTimes_ofNat (positive : n ≠ 0) (small : n < Nat.pow 2 64) :
    (ofNat n).isInfiniteTimes (ofDecimal false 1 0) = false := by
  obtain ⟨units, power, same, few, low⟩ := ofNat_cases positive small
  have one : ofDecimal false 1 0 = finite false (Nat.pow 2 52) (-52) := by decide +kernel
  rw [same, one, isInfiniteTimes]
  obtain ⟨k, fraction⟩ : ∃ k, power + -52 = .negSucc k := ⟨(-(power + -52) - 1).toNat, by omega⟩
  rw [fraction, scaled]
  refine isInfinite_ofFraction ?_
  by_cases none : units * Nat.pow 2 52 = 0
  · rw [none]
    decide
  · refine Nat.le_of_lt ((Nat.log2_lt none).2 ?_)
    calc units * Nat.pow 2 52 ≤ Nat.pow 2 118 * Nat.pow 2 52 := Nat.mul_le_mul_right _ few
      _ < Nat.pow 2 200 := by decide

end Double

namespace Json

/-- The number `n` fits a signed word of 64 bits. -/
def Fits (n : Int) : Prop :=
  -0x8000000000000000 ≤ n ∧ n ≤ 0x7FFFFFFFFFFFFFFF

instance (n : Int) : Decidable (Fits n) :=
  inferInstanceAs (Decidable (_ ∧ _))

variable {n : Int}

theorem ofDigits_toDigits (k : Nat) : Text.ofDigits (Nat.toDigits 10 k) = k :=
  Nat.ofDigitChars_toDigits (by decide) (by decide)

/-! ### Numbers that are not too large -/

theorem le_ofDigitChars (ds : List Char) (k : Nat) : k ≤ Nat.ofDigitChars 10 ds k := by
  induction ds generalizing k with
  | nil => exact Nat.le_refl k
  | cons d ds ih =>
    refine Nat.le_trans ?_ (ih (10 * k + (d.toNat - '0'.toNat)))
    omega

/-- As long as a number fits a word, all its digits `ds` are read. -/
theorem word_eq {ds : List Char} {k : Nat}
    (small : Nat.ofDigitChars 10 ds k < 0x10000000000000000) :
    word k ds = (Nat.ofDigitChars 10 ds k, 0) := by
  induction ds generalizing k with
  | nil => rfl
  | cons d ds ih =>
    have next : 10 * k + (d.toNat - '0'.toNat) < 0x10000000000000000 :=
      Nat.lt_of_le_of_lt (le_ofDigitChars ds _) small
    rw [word, if_pos next]
    exact ih small

/-- If `n` fits 64 bits, it is not too large. -/
theorem isHuge_numeralOf (fits : Fits n) : (numeralOf n).isHuge = false := by
  have digits : Nat.ofDigitChars 10 (Nat.toDigits 10 n.natAbs) 0 = n.natAbs := ofDigits_toDigits _
  have small : n.natAbs < 0x10000000000000000 := by
    unfold Fits at fits
    omega
  have whole : word 0 (numeralOf n).whole = (n.natAbs, 0) := by
    have read : word 0 (Nat.toDigits 10 n.natAbs) =
        (Nat.ofDigitChars 10 (Nat.toDigits 10 n.natAbs) 0, 0) := word_eq (by rwa [digits])
    rwa [digits] at read
  have fraction : word n.natAbs (numeralOf n).fraction = (n.natAbs, 0) := rfl
  unfold Numeral.isHuge
  rw [whole]
  dsimp only
  rw [fraction]
  by_cases none : n.natAbs = 0
  · simp [none]
  · have finite := Double.isInfiniteTimes_ofNat none small
    simp [none, numeralOf, greatestExponent, greatestPower, finite]

/-! ### Which number is read -/

theorem toJson_numeralOf (fits : Fits n) : (numeralOf n).toJson = .int n := by
  have value : Text.ofDigits (numeralOf n).whole = n.natAbs := ofDigits_toDigits _
  have parts : (numeralOf n).pointed = false ∧ (numeralOf n).exponent = none ∧
    (numeralOf n).negative = decide (n < 0) := ⟨rfl, rfl, rfl⟩
  unfold Fits at fits
  rw [Numeral.toJson, isHuge_numeralOf fits, value, parts.1, parts.2.1, parts.2.2]
  by_cases negative : n < 0
  · rw [if_neg (by simp), if_neg (by simp), if_pos (by simpa using negative), if_neg (by omega),
      show -(n.natAbs : Int) = n by omega]
  · rw [if_neg (by simp), if_neg (by simp), if_neg (by simpa using negative), if_pos (by omega),
      show (n.natAbs : Int) = n by omega]

theorem int64?_int (fits : Fits n) : (Json.int n).int64? = some n :=
  if_pos fits

theorem int64?_numeralOf (other : ¬Fits n) : (numeralOf n).toJson.int64? = none := by
  have value : Text.ofDigits (numeralOf n).whole = n.natAbs := ofDigits_toDigits _
  have parts : (numeralOf n).pointed = false ∧ (numeralOf n).exponent = none ∧
    (numeralOf n).negative = decide (n < 0) := ⟨rfl, rfl, rfl⟩
  unfold Fits at other
  rw [Numeral.toJson, value, parts.1, parts.2.1, parts.2.2]
  -- A positive number may still be kept as a whole one, but then it is more than 64 bits hold.
  split
  · rfl
  · rw [if_neg (by simp)]
    dsimp only
    split
    · rename_i negative
      split
      · rfl
      · rename_i small
        simp only [decide_eq_true_eq] at negative
        omega
    · rename_i positive
      split
      · simp only [decide_eq_true_eq] at positive
        rw [int64?, intBetween?, if_neg (by omega)]
      · rfl

end Json

end GraphBroker
