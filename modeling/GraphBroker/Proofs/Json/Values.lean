import GraphBroker.Json.Basic
import Mathlib.Data.List.Basic
import Mathlib.Tactic.Common

/-!
# Values taken apart again

What a decoder finds in a value whose members are known: items one by one, the members of a
record, the kind of a value that names it. A value that is kept whole must not be nested too
deep, which is counted from the inside.

## Main definitions

* `Nested`: how deep a value is nested that denotes something throughout.

## Main statements

* `mapM_map_eq_some`: items that are read one by one as they were written.
* `fields?_object`: the members of a record.
* `variant?_object`: a value that names its kind in front.
-/

namespace GraphBroker.Json

variable {α β : Type} {encode : α → β} {decode : β → Option α} {n m level : Nat}
  {json : Json} {items : List Json} {members : List (String × Json)}

/-! ### Items -/

theorem isSome_of_mapM_eq_some {f : α → Option β} {l : List α} {values : List β}
    (given : l.mapM f = some values) : ∀ a ∈ l, (f a).isSome := by
  induction l generalizing values with
  | nil => exact nofun
  | cons a l ih =>
    rw [List.mapM_cons] at given
    obtain ⟨b, first, given⟩ := Option.bind_eq_some_iff.1 given
    obtain ⟨bs, others, -⟩ := Option.bind_eq_some_iff.1 given
    exact List.forall_mem_cons.2 ⟨by rw [first]; rfl, ih others⟩

/-- Items of `l` that are read by `decode` as they were written by `encode`. -/
theorem mapM_map_eq_some {l : List α} (read : ∀ a ∈ l, decode (encode a) = some a) :
    (l.map encode).mapM decode = some l := by
  induction l with
  | nil => rfl
  | cons a l ih =>
    obtain ⟨first, others⟩ := List.forall_mem_cons.1 read
    rw [List.map_cons, List.mapM_cons, first, ih others]
    rfl

theorem list?_ofTexts (texts : List String) : list? text? (ofTexts texts) = some texts :=
  mapM_map_eq_some fun _ _ => rfl

/-- The number `n` fits its word of so many `bits`. -/
theorem nat?_int {bits : Nat} (fits : n < Nat.pow 2 bits) : nat? bits (int n) = some n := by
  have bounds : 0 ≤ (n : Int) ∧ (n : Int) ≤ Nat.pow 2 bits - 1 := by
    have : (n : Int) < (Nat.pow 2 bits : Nat) := Int.ofNat_lt.2 fits
    exact ⟨Int.natCast_nonneg n, Int.le_sub_one_of_lt this⟩
  rw [nat?, intBetween?, if_pos bounds]
  rfl

/-! ### Values kept whole -/

/-- The value denotes something throughout, with at most `n` arrays and objects around its
innermost value. -/
def Nested (n : Nat) (json : Json) : Prop :=
  json.isReadable ∧ json.depth ≤ n

theorem Nested.mono (nested : Nested n json) (le : n ≤ m) : Nested m json :=
  ⟨nested.1, Nat.le_trans nested.2 le⟩

theorem nested_text (n : Nat) (value : String) : Nested n (text value) :=
  ⟨rfl, Nat.zero_le n⟩

theorem nested_int (n : Nat) (value : Int) : Nested n (int value) :=
  ⟨rfl, Nat.zero_le n⟩

theorem nested_array (each : ∀ item ∈ items, Nested n item) : Nested (n + 1) (array items) := by
  have whole : readableItems items ∧ depthItems items ≤ n := by
    induction items with
    | nil => exact ⟨rfl, Nat.zero_le n⟩
    | cons item rest ih =>
      obtain ⟨first, others⟩ := List.forall_mem_cons.1 each
      exact ⟨by rw [readableItems, first.1, (ih others).1]; rfl,
        Nat.max_le.2 ⟨first.2, (ih others).2⟩⟩
  exact ⟨whole.1, Nat.succ_le_succ whole.2⟩

theorem nested_object (each : ∀ member ∈ members, Nested n member.2) :
    Nested (n + 1) (object members) := by
  have whole : readableMembers members ∧ depthMembers members ≤ n := by
    induction members with
    | nil => exact ⟨rfl, Nat.zero_le n⟩
    | cons member rest ih =>
      obtain ⟨first, others⟩ := List.forall_mem_cons.1 each
      exact ⟨by rw [readableMembers, first.1, (ih others).1]; rfl,
        Nat.max_le.2 ⟨first.2, (ih others).2⟩⟩
  exact ⟨whole.1, Nat.succ_le_succ whole.2⟩

theorem nested_ofTexts (texts : List String) : Nested 1 (ofTexts texts) := by
  refine nested_array fun item listed => ?_
  obtain ⟨value, -, rfl⟩ := List.mem_map.1 listed
  exact nested_text 0 value

/-- A member `name` that may be left out. -/
theorem nested_member? {name : String} {value : Option Json}
    (nested : ∀ json ∈ value, Nested n json) :
    ∀ member ∈ member? name value, Nested n member.2 := by
  intro member listed
  obtain ⟨json, given, rfl⟩ := List.mem_map.1 listed
  exact nested json (Option.mem_toList.1 given)

theorem nested_text_of_mem_map {label : Option String} :
    ∀ json ∈ label.map text, Nested n json := by
  rintro json given
  obtain ⟨value, -, rfl⟩ := Option.map_eq_some_iff.1 given
  exact nested_text n value

theorem Nested.within? (nested : Nested n json) (shallow : level + n ≤ maxDepth) :
    json.within? level = some json := by
  have low : level + json.depth ≤ maxDepth :=
    Nat.le_trans (Nat.add_le_add_left nested.2 level) shallow
  rw [Json.within?, nested.1, decide_eq_true low]
  rfl

/-- A value that is not nested too deep is kept at the place where it stands alone. -/
theorem Nested.keep? (nested : Nested n json) (shallow : n ≤ maxDepth) :
    Place.outermost.keep? json = some json :=
  nested.within? (by omega)

/-! ### Records -/

theorem sublist_member? {name : String} {value : Option Json} :
    ((member? name value).map Prod.fst).Sublist [name] := by
  cases value with
  | none => exact List.nil_sublist _
  | some json => exact List.Sublist.refl _

/-- A record of some members, whose names are known (`names`) and come in the order in which they
are known. -/
theorem fields?_object {names : List String} (listed : (members.map Prod.fst).Sublist names)
    (once : names.Nodup) : fields? names (object members) = some ⟨members, false⟩ := by
  have all : members.filter (fun member => names.contains member.1) = members :=
    List.filter_eq_self.2 fun member given =>
      List.contains_iff_mem.2 (listed.subset (List.mem_map_of_mem given))
  rw [fields?, all, if_pos (once.sublist listed)]

/-! ### Members by name -/

theorem lookup_cons {name key : String} :
    ((name, json) :: members).lookup key =
      if key = name then some json else members.lookup key := by
  by_cases same : key = name
  · rw [if_pos same, same, List.lookup_cons_self]
  · rw [if_neg same, List.lookup_cons, beq_false_of_ne same]

theorem lookup_member? {name key : String} {value : Option Json} :
    (member? name value).lookup key = if key = name then value else none := by
  cases value with
  | none => exact (ite_self none).symm
  | some json => exact lookup_cons

namespace Fields

variable {fields : Fields} {name : String} {read : Json → Option α}

theorem required?_of_get? (given : fields.get? name = some json) :
    fields.required? name read = read json := by
  rw [required?, given]
  rfl

theorem defaulted?_of_get? {default : α} (given : fields.get? name = some json) :
    fields.defaulted? name default read = read json := by
  rw [defaulted?, given]

theorem defaulted?_of_none {default : α} (missing : fields.get? name = none) :
    fields.defaulted? name default read = some default := by
  rw [defaulted?, missing]

/-- The text `value`, which may be left out. -/
theorem defaulted?_text (value : Option String) (given : fields.get? name = value.map text) :
    fields.defaulted? name none (nullable? text?) = some value := by
  cases value with
  | none => exact defaulted?_of_none given
  | some value => exact defaulted?_of_get? given

end Fields

/-! ### Kinds -/

/-- A value that names its `kind` in front, and only there. -/
theorem variant?_object {place : Place} {kind : String} {numbered : List String}
    (names : List String) (kept : place.keep? (object (("type", text kind) :: members)) =
      some (object (("type", text kind) :: members)))
    (listed : (members.map Prod.fst).Sublist names) (other : "type" ∉ names) :
    variant? place (object (("type", text kind) :: members)) numbered =
      some (kind, object members) := by
  have others : ∀ member ∈ members, member.1 ≠ "type" := fun member given same =>
    other (same ▸ listed.subset (List.mem_map_of_mem given))
  have parted : (("type", text kind) :: members).partition (fun member => member.1 == "type") =
      ([("type", text kind)], members) := by
    have none : members.filter (fun member => member.1 == "type") = [] :=
      List.filter_eq_nil_iff.2 fun member listed => by simpa using others member listed
    have all : members.filter (fun member => !(member.1 == "type")) = members :=
      List.filter_eq_self.2 fun member listed => by simpa using others member listed
    rw [List.partition_eq_filter_filter, List.filter_cons_of_pos (by rfl), none,
      List.filter_cons_of_neg (by simp)]
    exact congrArg _ all
  have named : place.kind? numbered (text kind) = some kind := by
    cases place <;> rfl
  rw [variant?, kept]
  simp only [Option.bind_eq_bind, Option.bind_some, parted, named, Option.pure_def]

end GraphBroker.Json
