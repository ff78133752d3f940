import GraphBroker.Text.Utf8
import Mathlib.Data.List.Basic
import Mathlib.Tactic.Common

/-!
# UTF-8 there and back

Bytes spell a text exactly if they are the bytes of this text. A character has one, two, three
or four bytes, and the classes of bytes that reading goes by are those that writing makes.

## Main definitions

* `Spells`: what the bytes of a character are like.

## Main statements

* `Spells.eq`, `spells_utf8EncodeChar`: a character is spelt by its own bytes and no others.
* `decode_eq_ok_iff`: bytes spell a text if and only if they are its bytes.
-/

namespace GraphBroker.Utf8

/-- The bytes of a character of one, two, three or four bytes. -/
inductive Spells : List UInt8 → Char → Prop where
  /-- A byte `a` below 128 is a character. -/
  | one {a : UInt8} (first : a.toNat < 0x80) : Spells [a] (Char.ofNat a.toNat)
  /-- A first byte `a` and a tail `b`. -/
  | two {a b : UInt8} (first : 0xC2 ≤ a.toNat ∧ a.toNat ≤ 0xDF) (second : isTail b) :
    Spells [a, b] (Char.ofNat (shift (a.toNat % 32) b))
  /-- A first byte `a` and two tails, of which `b` is bounded. -/
  | three {a b c : UInt8} (first : 0xE0 ≤ a.toNat ∧ a.toNat ≤ 0xEF) (second : isSecondOfThree a b)
    (third : isTail c) : Spells [a, b, c] (Char.ofNat (shift (shift (a.toNat % 16) b) c))
  /-- A first byte `a` and three tails, of which `b` is bounded. -/
  | four {a b c d : UInt8} (first : 0xF0 ≤ a.toNat ∧ a.toNat ≤ 0xF4) (second : isSecondOfFour a b)
    (third : isTail c) (fourth : isTail d) :
    Spells [a, b, c, d] (Char.ofNat (shift (shift (shift (a.toNat % 8) b) c) d))

variable {a b c d : UInt8} {bytes rest : List UInt8} {text : String} {index n : Nat} {char : Char}

/-! ### Classes of bytes -/

theorem toNat_byte (small : n < 256) : (UInt8.ofNat n).toNat = n := by
  rw [UInt8.toNat_ofNat', Nat.mod_eq_of_lt small]

theorem byte_eq (same : n = b.toNat) : UInt8.ofNat n = b := by
  rw [same, UInt8.ofNat_toNat]

theorem between_iff {low high : UInt8} : between low high b ↔
    low.toNat ≤ b.toNat ∧ b.toNat ≤ high.toNat := by
  simp [between, UInt8.le_iff_toNat_le]

theorem not_between {low high : UInt8} (outside : b.toNat < low.toNat ∨ high.toNat < b.toNat) :
    between low high b = false :=
  Bool.eq_false_iff.2 fun inside => by
    have := between_iff.1 inside
    omega

theorem not_small (large : 0x80 ≤ b.toNat) : ¬b < 0x80 := fun small =>
  Nat.not_lt.2 large (UInt8.lt_iff_toNat_lt.1 small)

theorem isTail_iff : isTail b ↔ 0x80 ≤ b.toNat ∧ b.toNat ≤ 0xBF := between_iff

theorem isSecondOfThree_iff : isSecondOfThree a b ↔ 0x80 ≤ b.toNat ∧ b.toNat ≤ 0xBF ∧
    (a.toNat = 0xE0 → 0xA0 ≤ b.toNat) ∧ (a.toNat = 0xED → b.toNat ≤ 0x9F) := by
  simp only [isSecondOfThree, between_iff, ← UInt8.toNat_inj, apply_ite UInt8.toNat]
  change (if a.toNat = 0xE0 then 0xA0 else 0x80) ≤ b.toNat ∧
    (b.toNat ≤ if a.toNat = 0xED then 0x9F else 0xBF) ↔ _
  split <;> split <;> omega

theorem isSecondOfFour_iff : isSecondOfFour a b ↔ 0x80 ≤ b.toNat ∧ b.toNat ≤ 0xBF ∧
    (a.toNat = 0xF0 → 0x90 ≤ b.toNat) ∧ (a.toNat = 0xF4 → b.toNat ≤ 0x8F) := by
  simp only [isSecondOfFour, between_iff, ← UInt8.toNat_inj, apply_ite UInt8.toNat]
  change (if a.toNat = 0xF0 then 0x90 else 0x80) ≤ b.toNat ∧
    (b.toNat ≤ if a.toNat = 0xF4 then 0x8F else 0xBF) ↔ _
  split <;> split <;> omega

/-! ### One character -/

/-- The character `char` is spelt by its own bytes. -/
theorem spells_utf8EncodeChar (char : Char) : Spells (String.utf8EncodeChar char) char := by
  obtain ⟨n, number⟩ : ∃ n, char.val.toNat = n := ⟨_, rfl⟩
  have valid : n.isValidChar := number ▸ char.valid
  obtain rfl : char = Char.ofNat n := by rw [← number]; exact char.ofNat_toNat.symm
  simp only [String.utf8EncodeChar, number]
  split
  · have first := toNat_byte (n := n) (by omega)
    have spells := Spells.one (a := .ofNat n) (by omega)
    rwa [first] at spells
  split
  · have first := toNat_byte (n := n / 64 % 32 + 192) (by omega)
    have second := toNat_byte (n := n % 64 + 128) (by omega)
    have spells := Spells.two (a := .ofNat (n / 64 % 32 + 192)) (b := .ofNat (n % 64 + 128))
      (by omega) (isTail_iff.2 (by omega))
    rwa [show shift _ _ = n by rw [shift, first, second]; omega] at spells
  split
  · have first := toNat_byte (n := n / 4096 % 16 + 224) (by omega)
    have second := toNat_byte (n := n / 64 % 64 + 128) (by omega)
    have third := toNat_byte (n := n % 64 + 128) (by omega)
    have spells := Spells.three (a := .ofNat (n / 4096 % 16 + 224))
      (b := .ofNat (n / 64 % 64 + 128)) (c := .ofNat (n % 64 + 128)) (by omega)
      (isSecondOfThree_iff.2 (by rw [first, second]; omega)) (isTail_iff.2 (by omega))
    rwa [show shift _ _ = n by rw [shift, shift, first, second, third]; omega] at spells
  · have first := toNat_byte (n := n / 262144 % 8 + 240) (by omega)
    have second := toNat_byte (n := n / 4096 % 64 + 128) (by omega)
    have third := toNat_byte (n := n / 64 % 64 + 128) (by omega)
    have fourth := toNat_byte (n := n % 64 + 128) (by omega)
    have spells := Spells.four (a := .ofNat (n / 262144 % 8 + 240))
      (b := .ofNat (n / 4096 % 64 + 128)) (c := .ofNat (n / 64 % 64 + 128))
      (d := .ofNat (n % 64 + 128)) (by omega) (isSecondOfFour_iff.2 (by rw [first, second]; omega))
      (isTail_iff.2 (by omega)) (isTail_iff.2 (by omega))
    rwa [show shift _ _ = n by rw [shift, shift, shift, first, second, third, fourth]; omega]
      at spells

theorem toNat_ofNat (valid : n.isValidChar) : (Char.ofNat n).toNat = n := by
  rw [Char.ofNat, dif_pos valid]
  rfl

theorem utf8EncodeChar_ofNat (valid : n.isValidChar) : String.utf8EncodeChar (Char.ofNat n) =
    if n ≤ 127 then [.ofNat n]
    else if n ≤ 2047 then [.ofNat (n / 64 % 32 + 192), .ofNat (n % 64 + 128)]
    else if n ≤ 65535 then
      [.ofNat (n / 4096 % 16 + 224), .ofNat (n / 64 % 64 + 128), .ofNat (n % 64 + 128)]
    else [.ofNat (n / 262144 % 8 + 240), .ofNat (n / 4096 % 64 + 128), .ofNat (n / 64 % 64 + 128),
      .ofNat (n % 64 + 128)] := by
  have number : (Char.ofNat n).val.toNat = n := toNat_ofNat valid
  rw [String.utf8EncodeChar, number]

/-- The `bytes` that spell `char` are its own. -/
theorem Spells.eq (spells : Spells bytes char) : String.utf8EncodeChar char = bytes := by
  cases spells with
  | @one a first =>
    rw [utf8EncodeChar_ofNat (.inl (by omega)), if_pos (by omega), UInt8.ofNat_toNat]
  | @two a b first second =>
    rw [isTail_iff] at second
    rw [utf8EncodeChar_ofNat (.inl (by rw [shift]; omega)), if_neg (by rw [shift]; omega),
      if_pos (by rw [shift]; omega)]
    rw [byte_eq (b := a) (by rw [shift]; omega), byte_eq (b := b) (by rw [shift]; omega)]
  | @three a b c first second third =>
    rw [isSecondOfThree_iff] at second
    rw [isTail_iff] at third
    have number : shift (shift (a.toNat % 16) b) c =
        a.toNat % 16 * 4096 + b.toNat % 64 * 64 + c.toNat % 64 := by
      rw [shift, shift]
      omega
    rw [number, utf8EncodeChar_ofNat (by rw [Nat.isValidChar]; omega), if_neg (by omega),
      if_neg (by omega), if_pos (by omega), byte_eq (b := a) (by omega),
      byte_eq (b := b) (by omega), byte_eq (b := c) (by omega)]
  | @four a b c d first second third fourth =>
    rw [isSecondOfFour_iff] at second
    rw [isTail_iff] at third fourth
    have number : shift (shift (shift (a.toNat % 8) b) c) d =
        a.toNat % 8 * 262144 + b.toNat % 64 * 4096 + c.toNat % 64 * 64 + d.toNat % 64 := by
      rw [shift, shift, shift]
      omega
    rw [number, utf8EncodeChar_ofNat (by rw [Nat.isValidChar]; omega), if_neg (by omega),
      if_neg (by omega), if_neg (by omega), byte_eq (b := a) (by omega),
      byte_eq (b := b) (by omega), byte_eq (b := c) (by omega), byte_eq (b := d) (by omega)]

/-- The bytes of `char`, if it is not in ASCII, are not in ASCII. -/
theorem le_of_mem_utf8EncodeChar (large : 0x80 ≤ char.toNat) :
    ∀ b ∈ String.utf8EncodeChar char, 0x80 ≤ b.toNat := by
  have spells := spells_utf8EncodeChar char
  generalize String.utf8EncodeChar char = bytes at spells
  cases spells with
  | @one a first =>
    have number : (Char.ofNat a.toNat).toNat = a.toNat := toNat_ofNat (.inl (by omega))
    omega
  | two first second =>
    rw [isTail_iff] at second
    simp
    omega
  | three first second third =>
    rw [isSecondOfThree_iff] at second
    rw [isTail_iff] at third
    simp
    omega
  | four first second third fourth =>
    rw [isSecondOfFour_iff] at second
    rw [isTail_iff] at third fourth
    simp
    omega

/-! ### Texts -/

/-- The `bytes` that spell `char` are read as this character. -/
theorem Spells.decodeFrom_append (spells : Spells bytes char) : decodeFrom index (bytes ++ rest) =
    (decodeFrom (index + bytes.length) rest).map (char :: ·) := by
  cases spells with
  | @one a first =>
    have small : a < 0x80 := UInt8.lt_iff_toNat_lt.2 first
    rw [List.singleton_append, decodeFrom.eq_def]
    simp [small]
  | @two a b first second =>
    have large : ¬a < 0x80 := not_small (by omega)
    have isTwo : between 0xC2 0xDF a := between_iff.2 first
    change decodeFrom index (a :: b :: rest) = _
    rw [decodeFrom.eq_def]
    simp [large, isTwo, second]
  | @three a b c first second third =>
    have large : ¬a < 0x80 := not_small (by omega)
    have notTwo : between 0xC2 0xDF a = false := not_between (by simp; omega)
    have isThree : between 0xE0 0xEF a := between_iff.2 first
    change decodeFrom index (a :: b :: c :: rest) = _
    rw [decodeFrom.eq_def]
    simp [large, notTwo, isThree, second, third]
  | @four a b c d first second third fourth =>
    have large : ¬a < 0x80 := not_small (by omega)
    have notTwo : between 0xC2 0xDF a = false := not_between (by simp; omega)
    have notThree : between 0xE0 0xEF a = false := not_between (by simp; omega)
    have isFour : between 0xF0 0xF4 a := between_iff.2 first
    change decodeFrom index (a :: b :: c :: d :: rest) = _
    rw [decodeFrom.eq_def]
    simp [large, notTwo, notThree, isFour, second, third, fourth]

theorem decodeFrom_flatMap (chars : List Char) :
    decodeFrom index (chars.flatMap String.utf8EncodeChar) = .ok chars := by
  induction chars generalizing index with
  | nil => rfl
  | cons char chars ih =>
    rw [List.flatMap_cons, (spells_utf8EncodeChar char).decodeFrom_append, ih]
    rfl

/-- What has been read of a character that is spelt is this character. -/
private theorem Spells.append_eq {read : Except Fault (List Char)} {chars : List Char}
    (spells : Spells bytes char)
    (ih : ∀ {others}, read = .ok others → rest = others.flatMap String.utf8EncodeChar)
    (all : read.map (char :: ·) = .ok chars) :
    bytes ++ rest = chars.flatMap String.utf8EncodeChar := by
  cases read with
  | error fault => cases all
  | ok others =>
    cases all
    rw [ih rfl, List.flatMap_cons, spells.eq]

theorem flatMap_of_decodeFrom {chars : List Char} (read : decodeFrom index bytes = .ok chars) :
    bytes = chars.flatMap String.utf8EncodeChar := by
  -- Each way of reading a character is one of the ways in which it is spelt.
  fun_induction decodeFrom index bytes generalizing chars
  all_goals try cases read
  case case1 => rfl
  case case2 _ _ _ first ih =>
    exact (Spells.one (UInt8.lt_iff_toNat_lt.1 first)).append_eq ih read
  case case4 _ _ _ first _ _ second ih =>
    exact (Spells.two (between_iff.1 first) second).append_eq ih read
  case case8 _ _ _ _ first _ second _ _ third ih =>
    exact (Spells.three (between_iff.1 first) second third).append_eq ih read
  case case14 _ _ _ _ _ first _ second _ third _ _ fourth ih =>
    exact (Spells.four (between_iff.1 first) second third fourth).append_eq ih read

/-- The `bytes` spell `text` if and only if they are its bytes. -/
theorem decode_eq_ok_iff : decode bytes = .ok text ↔ bytes = encode text := by
  constructor
  · intro read
    cases chars : decodeFrom 0 bytes with
    | error fault => rw [decode, chars] at read; cases read
    | ok cs =>
      rw [decode, chars] at read
      cases read
      rw [encode, String.toList_ofList]
      exact flatMap_of_decodeFrom chars
  · rintro rfl
    rw [decode, encode, decodeFrom_flatMap]
    exact congrArg Except.ok String.ofList_toList

@[simp] theorem decode_encode : decode (encode text) = .ok text := decode_eq_ok_iff.2 rfl

@[simp] theorem encode_append {s t : String} : encode (s ++ t) = encode s ++ encode t := by
  rw [encode, String.toList_append, List.flatMap_append, encode, encode]

@[simp] theorem length_encode : (encode text).length = text.utf8ByteSize := by
  obtain ⟨chars, rfl⟩ : ∃ chars, text = String.ofList chars := ⟨_, String.ofList_toList.symm⟩
  rw [← String.size_toByteArray, String.toByteArray_ofList, List.utf8Encode,
    List.size_toByteArray, encode, String.toList_ofList]

end GraphBroker.Utf8
