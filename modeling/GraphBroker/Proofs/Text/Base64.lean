import GraphBroker.Proofs.Text.Utf8
import GraphBroker.Text.Base64

/-!
# Base 64 there and back

What is written in base 64 is read as the same bytes, with padding or without. It is written
with the characters of the alphabet only, so that it can stand between other characters.

## Main statements

* `decode?_encode`, `decodePadded?_encodePadded`: what is written is read as the same bytes.
* `forall_mem_encode`: only characters of the alphabet are written.
-/

namespace GraphBroker.Base64

variable {alphabet : Alphabet} {bytes : List UInt8} {n : Nat}

theorem value?_digit (small : n < 64) : value? alphabet (digit alphabet n) = some n := by
  have all : ∀ n < 64, value? .standard (digit .standard n) = some n ∧
      value? .url (digit .url n) = some n := by decide
  cases alphabet
  · exact (all n small).1
  · exact (all n small).2

/-- The numbers that the characters for bytes stand for. -/
def sextets : List UInt8 → List Nat
  | [] => []
  | [a] => [a.toNat / 4, a.toNat % 4 * 16]
  | [a, b] => [a.toNat / 4, a.toNat % 4 * 16 + b.toNat / 16, b.toNat % 16 * 4]
  | a :: b :: c :: rest =>
    a.toNat / 4 :: (a.toNat % 4 * 16 + b.toNat / 16) :: (b.toNat % 16 * 4 + c.toNat / 64) ::
      c.toNat % 64 :: sextets rest

theorem encode_eq_map : encode alphabet bytes = (sextets bytes).map (digit alphabet) := by
  fun_induction sextets bytes with
  | case1 => rfl
  | case2 => rfl
  | case3 => rfl
  | case4 a b c rest ih => rw [encode, ih]; rfl

theorem lt_of_mem_sextets (listed : n ∈ sextets bytes) : n < 64 := by
  fun_induction sextets bytes with
  | case1 => cases listed
  | case2 a =>
    have := a.toNat_lt
    simp only [List.mem_cons, List.not_mem_nil, or_false] at listed
    omega
  | case3 a b =>
    have := a.toNat_lt
    have := b.toNat_lt
    simp only [List.mem_cons, List.not_mem_nil, or_false] at listed
    omega
  | case4 a b c rest ih =>
    have := a.toNat_lt
    have := b.toNat_lt
    have := c.toNat_lt
    simp only [List.mem_cons] at listed
    rcases listed with rfl | rfl | rfl | rfl | later
    · omega
    · omega
    · omega
    · omega
    · exact ih later

theorem bytesOf?_sextets : bytesOf? (sextets bytes) = some bytes := by
  fun_induction sextets bytes with
  | case1 => rfl
  | case2 a =>
    rw [bytesOf?, if_pos (by omega), Utf8.byte_eq (b := a) (by omega)]
  | case3 a b =>
    have := b.toNat_lt
    rw [bytesOf?, if_pos (by omega), Utf8.byte_eq (b := a) (by omega),
      Utf8.byte_eq (b := b) (by omega)]
  | case4 a b c rest ih =>
    have := b.toNat_lt
    have := c.toNat_lt
    rw [bytesOf?, ih, Option.map_some, Utf8.byte_eq (b := a) (by omega),
      Utf8.byte_eq (b := b) (by omega), Utf8.byte_eq (b := c) (by omega)]

/-- If `p` holds of every character of the alphabet, it holds of what is written. -/
theorem forall_mem_encode {p : Char → Prop} (all : ∀ n < 64, p (digit alphabet n)) :
    ∀ c ∈ encode alphabet bytes, p c := by
  rw [encode_eq_map, List.forall_mem_map]
  exact fun n listed => all n (lt_of_mem_sextets listed)

theorem mapM_map_digit {numbers : List Nat} (small : ∀ n ∈ numbers, n < 64) :
    (numbers.map (digit alphabet)).mapM (value? alphabet) = some numbers := by
  induction numbers with
  | nil => rfl
  | cons n rest ih =>
    rw [List.forall_mem_cons] at small
    rw [List.map_cons, List.mapM_cons, value?_digit small.1, ih small.2]
    rfl

/-- What is written for `bytes` is read as the same bytes. -/
@[simp] theorem decode?_encode : decode? alphabet (encode alphabet bytes) = some bytes := by
  rw [decode?, encode_eq_map, mapM_map_digit fun _ => lt_of_mem_sextets, Option.bind_some,
    bytesOf?_sextets]

/-- The same with padding, which starts at the first equality sign. -/
@[simp] theorem decodePadded?_encodePadded :
    decodePadded? alphabet (encodePadded alphabet bytes) = some bytes := by
  -- The padding is looked for from the start, so that no equality sign may come before it.
  have inside : ∀ d ∈ encode alphabet bytes, (d != '=') = true :=
    forall_mem_encode (by cases alphabet <;> decide)
  have padded (n : Nat) : (padding n).takeWhile (· != '=') = [] := by
    rw [padding]
    cases (4 - n % 4) % 4 <;> rfl
  have body : (encodePadded alphabet bytes).takeWhile (· != '=') = encode alphabet bytes := by
    rw [encodePadded, List.takeWhile_append_of_pos inside, padded, List.append_nil]
  rw [decodePadded?, body, encodePadded, if_pos rfl, decode?_encode]

end GraphBroker.Base64
