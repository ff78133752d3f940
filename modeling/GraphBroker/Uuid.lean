import GraphBroker.Json.Reader

/-!
# Identifiers

128-bit identifiers, written as hexadecimal digits in groups of 8, 4, 4, 4 and
12.

## Main definitions

* `Uuid`: an identifier; `Uuid.toString` is its canonical text.
* `Uuid.ofString?`: reads the canonical text, the digits without hyphens, the text in
  braces and the text after `urn:uuid:`, with digits of either case.
* `GateId`, `SubscriptionId`: what an identifier is used for.
-/

namespace GraphBroker

/-- A 128-bit identifier. -/
structure Uuid where
  /-- The identifier as a number. -/
  value : Nat
  /-- It has 128 bits. -/
  value_lt : value < 0x100000000000000000000000000000000
deriving DecidableEq, Repr

namespace Uuid

/-- The identifier of the number `n`, cut to 128 bits. -/
def ofNat (n : Nat) : Uuid :=
  ⟨n % 0x100000000000000000000000000000000, Nat.mod_lt _ (by decide)⟩

instance : Inhabited Uuid := ⟨ofNat 0⟩

/-- The 32 digits of the identifier. -/
def digits (id : Uuid) : List Char :=
  let ds := Nat.toDigits 16 id.value
  List.replicate (32 - ds.length) '0' ++ ds

/-- The digits in groups of 8, 4, 4, 4 and 12. -/
def hyphenate (ds : List Char) : List Char :=
  ds.take 8 ++ '-' :: (ds.drop 8).take 4 ++ '-' :: (ds.drop 12).take 4 ++
    '-' :: (ds.drop 16).take 4 ++ '-' :: ds.drop 20

/-- The canonical text of `id`. -/
protected def toString (id : Uuid) : String :=
  String.ofList (hyphenate id.digits)

instance : ToString Uuid := ⟨Uuid.toString⟩

/-- The identifier that the 32 digits `ds` write. -/
def ofDigits? (ds : List Char) : Option Uuid :=
  if ds.length = 32 then
    (ds.mapM Json.hexDigit?).map fun values => ofNat (values.foldl (fun n d => 16 * n + d) 0)
  else none

/-- The identifier that the grouped digits `cs` write. -/
def ofHyphenated? (cs : List Char) : Option Uuid :=
  let ds := cs.filter (· != '-')
  if hyphenate ds = cs then ofDigits? ds else none

/-- The identifier that `text` writes. -/
def ofString? (text : String) : Option Uuid :=
  let cs := text.toList
  match cs.length with
  | 32 => ofDigits? cs
  | 36 => ofHyphenated? cs
  | 38 =>
    if cs.head? = some '\x7b' ∧ cs.getLast? = some '\x7d' then ofHyphenated? (cs.drop 1).dropLast
    else none
  | 45 => if cs.take 9 = "urn:uuid:".toList then ofHyphenated? (cs.drop 9) else none
  | _ => none

end Uuid

/-- Names a gate. -/
structure GateId where
  /-- The identifier. -/
  uuid : Uuid
deriving DecidableEq, Repr, Inhabited

/-- Names a subscription. -/
structure SubscriptionId where
  /-- The identifier. -/
  uuid : Uuid
deriving DecidableEq, Repr, Inhabited

/-- By number. -/
instance : Ord Uuid := ⟨compareOn Uuid.value⟩

instance : Std.TransOrd Uuid := inferInstanceAs (Std.TransCmp (compareOn Uuid.value))

instance : Std.LawfulEqOrd Uuid where
  eq_of_compare {a b} h := by
    have hv : a.value = b.value := Std.compare_eq_iff_eq.1 h
    cases a; cases b
    exact Uuid.mk.injEq .. ▸ hv

/-- By number. -/
instance : Ord GateId := ⟨compareOn GateId.uuid⟩

instance : Std.TransOrd GateId := inferInstanceAs (Std.TransCmp (compareOn GateId.uuid))

instance : Std.LawfulEqOrd GateId where
  eq_of_compare {a b} h := by
    cases a; cases b
    exact congrArg GateId.mk (Std.compare_eq_iff_eq.1 h)

/-- By number. -/
instance : Ord SubscriptionId := ⟨compareOn SubscriptionId.uuid⟩

instance : Std.TransOrd SubscriptionId :=
  inferInstanceAs (Std.TransCmp (compareOn SubscriptionId.uuid))

instance : Std.LawfulEqOrd SubscriptionId where
  eq_of_compare {a b} h := by
    cases a; cases b
    exact congrArg SubscriptionId.mk (Std.compare_eq_iff_eq.1 h)

instance : ToString GateId := ⟨fun id => id.uuid.toString⟩

instance : ToString SubscriptionId := ⟨fun id => id.uuid.toString⟩

/-- The identifier as JSON. -/
def GateId.toJson (id : GateId) : Json :=
  .text (toString id)

/-- The name as JSON. -/
def SubscriptionId.toJson (id : SubscriptionId) : Json :=
  .text id.uuid.toString

/-- The identifier that a JSON value spells. -/
def SubscriptionId.ofJson? (json : Json) : Option SubscriptionId := do
  return ⟨← Uuid.ofString? (← json.text?)⟩

end GraphBroker
