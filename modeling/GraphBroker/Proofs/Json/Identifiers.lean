import GraphBroker.Proofs.Json.Values
import GraphBroker.Uuid
import Mathlib.Data.Nat.Basic

/-!
# Identifiers there and back

The canonical text of an identifier is read as this identifier. The 32 digits are those of its
number, with zeros in front, and the hyphens between them are passed over.

## Main definitions

* `Uuid.Write`: digits write a number.

## Main statements

* `ofString?_toString`: the canonical text of an identifier.
* `ofJson?_toJson`: the name of a subscription as JSON.
-/

namespace GraphBroker

namespace Uuid

variable {ds : List Char} {n : Nat}

/-- The hexadecimal digits `ds` write `n`. -/
def Write (ds : List Char) (n : Nat) : Prop :=
  ∃ values, ds.mapM Json.hexDigit? = some values ∧
    values.foldl (fun value digit => 16 * value + digit) 0 = n

theorem hexDigit?_digitChar : ∀ d < 16, Json.hexDigit? (Nat.digitChar d) = some d := by
  decide

theorem write_digit {d : Nat} (small : d < 16) (before : ds = [] ∧ n = 0 ∨ Write ds n) :
    Write (ds ++ [Nat.digitChar d]) (16 * n + d) := by
  obtain ⟨values, read, value⟩ : Write ds n := by
    rcases before with ⟨rfl, rfl⟩ | before
    · exact ⟨[], rfl, rfl⟩
    · exact before
  refine ⟨values ++ [d], ?_, ?_⟩
  · rw [List.mapM_append, read, List.mapM_cons, hexDigit?_digitChar d small]
    rfl
  · rw [List.foldl_append, value]
    rfl

/-- The digits of `n` write it. -/
theorem write_toDigits (n : Nat) : Write (Nat.toDigits 16 n) n := by
  induction n using Nat.strongRecOn with
  | ind n ih =>
    by_cases small : n < 16
    · rw [Nat.toDigits_of_lt_base small]
      have start : ([] : List Char) = [] ∧ 0 = 0 ∨ Write [] 0 := .inl ⟨rfl, rfl⟩
      simpa using write_digit small start
    · rw [Nat.toDigits_of_base_le (by decide) (Nat.not_lt.1 small)]
      have whole := write_digit (Nat.mod_lt n (by decide : 16 > 0))
        (.inr (ih (n / 16) (by omega)))
      rwa [Nat.div_add_mod] at whole

/-- Zeros in front, here `k` of them, do not count. -/
theorem Write.pad (written : Write ds n) (k : Nat) : Write (List.replicate k '0' ++ ds) n := by
  induction k with
  | zero => exact written
  | succ k ih =>
    obtain ⟨values, read, value⟩ := ih
    refine ⟨0 :: values, ?_, value⟩
    rw [List.replicate_succ, List.cons_append, List.mapM_cons, read]
    rfl

theorem write_digits (id : Uuid) : Write id.digits id.value :=
  (write_toDigits id.value).pad _

theorem length_digits (id : Uuid) : id.digits.length = 32 := by
  have few : (Nat.toDigits 16 id.value).length ≤ 32 :=
    (Nat.length_toDigits_le_iff (by decide) (by decide)).2 id.value_lt
  simp only [digits, List.length_append, List.length_replicate]
  omega

/-- No digit is a hyphen. -/
theorem Write.filter (written : Write ds n) : ds.filter (· != '-') = ds := by
  obtain ⟨values, read, -⟩ := written
  refine List.filter_eq_self.2 fun c listed => ?_
  -- A hyphen would not be read as a digit.
  have digit := Json.isSome_of_mapM_eq_some read c listed
  refine bne_iff_ne.2 ?_
  rintro rfl
  cases digit

theorem filter_hyphenate (ds : List Char) :
    (hyphenate ds).filter (· != '-') = ds.filter (· != '-') := by
  have parts : ds = ds.take 8 ++ ((ds.drop 8).take 4 ++ ((ds.drop 12).take 4 ++
      ((ds.drop 16).take 4 ++ ds.drop 20))) := by
    have cut (k : Nat) : (ds.drop k).take 4 ++ ds.drop (k + 4) = ds.drop k := by
      rw [← List.drop_drop, List.take_append_drop]
    rw [cut 16, cut 12, cut 8, List.take_append_drop]
  conv_rhs => rw [parts]
  simp [hyphenate, List.filter_append]

theorem length_hyphenate (whole : ds.length = 32) : (hyphenate ds).length = 36 := by
  simp [hyphenate, whole]

/-- The canonical text of `id` is read as this identifier. -/
theorem ofString?_toString (id : Uuid) : ofString? id.toString = some id := by
  have chars : id.toString.toList = hyphenate id.digits := String.toList_ofList
  obtain ⟨values, read, value⟩ := write_digits id
  have same : (hyphenate id.digits).filter (· != '-') = id.digits :=
    (filter_hyphenate _).trans (write_digits id).filter
  have number : ofNat id.value = id := by
    cases id
    simp only [ofNat, mk.injEq]
    exact Nat.mod_eq_of_lt ‹_›
  unfold ofString?
  simp only [chars, length_hyphenate (length_digits id)]
  rw [ofHyphenated?, same]
  simp only [if_true]
  rw [ofDigits?, if_pos (length_digits id), read, Option.map_some, value, number]

end Uuid

/-- The name `id` of a subscription is read from its JSON. -/
theorem SubscriptionId.ofJson?_toJson (id : SubscriptionId) : ofJson? id.toJson = some id := by
  have read : Uuid.ofString? id.uuid.toString = some id.uuid := Uuid.ofString?_toString id.uuid
  simp only [ofJson?, toJson, Json.text?, Option.bind_eq_bind, Option.bind_some, read,
    Option.pure_def]

end GraphBroker
