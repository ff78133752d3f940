import GraphBroker.Access.Header
import GraphBroker.Proofs.Text.Base64
import Mathlib.Data.List.TakeWhile

/-!
# Authorization headers there and back

A header for a name and a secret is read as this pair if there is no colon in the name. If there
is one, the header names another client, since the name ends at the first colon. A header for a
token is read as this token if it has no blanks.

## Main statements

* `basic_ofPair`, `basic_ofPair_of_colon`: how a header for a name and a secret is read.
* `bearer_append`: how a header for a token is read.
-/

namespace GraphBroker

namespace Text

/-- A `text` without blanks is not trimmed. -/
theorem trim_of_not_blank {text : String} (solid : ∀ c ∈ text.toList, isBlank c = false) :
    trim text = text := by
  have kept {cs : List Char} (solid : ∀ c ∈ cs, isBlank c = false) :
      cs.dropWhile isBlank = cs := by
    cases cs with
    | nil => rfl
    | cons c cs => rw [List.dropWhile_cons_of_neg (by simp [solid c])]
  rw [trim, kept solid, kept (by simpa using solid), List.reverse_reverse, String.ofList_toList]

end Text

namespace Header

variable {c : Char} {name secret rest scheme token : String}

/-- A text is cut at the first `c`, here between `name` and `rest`. -/
theorem cut?_append (free : c ∉ name.toList) :
    cut? c (name ++ String.singleton c ++ rest) = some (name, rest) := by
  have before : ∀ d ∈ name.toList, (d != c) = true := fun d listed => by
    simpa using ne_of_mem_of_not_mem listed free
  have chars : (name ++ String.singleton c ++ rest).toList = name.toList ++ c :: rest.toList := by
    simp
  rw [cut?, chars, List.dropWhile_append_of_pos before, List.takeWhile_append_of_pos before]
  simp

/-- Wherever `text` is cut, no `c` comes before. -/
theorem not_mem_of_cut? {text : String} (cut : cut? c text = some (name, rest)) :
    c ∉ name.toList := by
  unfold cut? at cut
  split at cut
  · cases cut
  · obtain ⟨rfl, -⟩ := Prod.mk.inj (Option.some.inj cut)
    rw [String.toList_ofList]
    exact fun listed => by simpa using List.mem_takeWhile_imp listed

theorem isSome_cut? {text : String} (listed : c ∈ text.toList) : (cut? c text).isSome := by
  unfold cut?
  split
  · rename_i none
    have free := List.dropWhile_eq_nil_iff.1 none c listed
    simp at free
  · rfl

/-- What follows the name of `scheme` and a space is `rest`. -/
theorem afterScheme?_append (scheme : String) (spaceless : ' ' ∉ scheme.toList)
    (start : scheme.toList.head?.any (!Text.isBlank ·)) :
    afterScheme? scheme (scheme ++ " " ++ rest) = some rest := by
  -- A scheme starts with no blank, so that nothing is trimmed.
  have kept : Text.trimStart (scheme ++ " " ++ rest) = scheme ++ " " ++ rest := by
    cases chars : scheme.toList with
    | nil => simp [chars] at start
    | cons d ds =>
      have solid : Text.isBlank d = false := by simpa [chars] using start
      have first : (scheme ++ " " ++ rest).toList = d :: (ds ++ ' ' :: rest.toList) := by
        simp [chars]
      rw [Text.trimStart, first, List.dropWhile_cons_of_neg (by simp [solid]), ← first,
        String.ofList_toList]
  have cut : cut? ' ' (scheme ++ " " ++ rest) = some (scheme, rest) := cut?_append spaceless
  rw [afterScheme?, kept, cut]
  simp

/-! ### Names and secrets -/

theorem solid_encodePadded {bytes : List UInt8} :
    ∀ c ∈ (String.ofList (Base64.encodePadded .standard bytes)).toList, Text.isBlank c = false := by
  rw [String.toList_ofList, Base64.encodePadded, List.forall_mem_append]
  refine ⟨Base64.forall_mem_encode (by decide), fun c listed => ?_⟩
  rw [(List.mem_replicate.1 listed).2]
  rfl

/-- A header of `name` and `secret` is read as the `pair` of what comes before and after the first
colon. -/
theorem basic_ofPair_eq_ok {pair : String × String}
    (cut : cut? ':' (name ++ ":" ++ secret) = some pair) :
    basic (ofPair name secret) = .ok pair := by
  have written : afterScheme? "Basic" (ofPair name secret) = some (String.ofList
      (Base64.encodePadded .standard (Utf8.encode (name ++ ":" ++ secret)))) :=
    afterScheme?_append "Basic" (by decide) (by decide)
  have read : decoded (String.ofList (Base64.encodePadded .standard
      (Utf8.encode (name ++ ":" ++ secret)))) = .ok (name ++ ":" ++ secret) := by
    rw [decoded, String.toList_ofList, Base64.decodePadded?_encodePadded]
    dsimp only
    rw [Utf8.decode_encode]
  rw [basic, written]
  dsimp only
  rw [Text.trim_of_not_blank solid_encodePadded, read]
  dsimp only [bind, Except.bind]
  rw [cut]
  rfl

/-- A header for `name` and `secret` is read as these, if there is no colon in `name`. -/
theorem basic_ofPair (free : ':' ∉ name.toList) :
    basic (ofPair name secret) = .ok (name, secret) :=
  basic_ofPair_eq_ok (cut?_append free)

/-- A header for a `name` with a colon is read as one for `other`. -/
theorem basic_ofPair_of_colon (colon : ':' ∈ name.toList) :
    ∃ other rest, basic (ofPair name secret) = .ok (other, rest) ∧ other ≠ name := by
  have listed : ':' ∈ (name ++ ":" ++ secret).toList := by simp
  obtain ⟨⟨other, rest⟩, cut⟩ := Option.isSome_iff_exists.1 (isSome_cut? listed)
  refine ⟨other, rest, basic_ofPair_eq_ok cut, ?_⟩
  -- The name that is read has no colon, and the given one has.
  rintro rfl
  exact not_mem_of_cut? cut colon

/-! ### Tokens -/

/-- A header for `token` is read as the token, if it is not empty and has no blanks. -/
theorem bearer_append (solid : ∀ c ∈ token.toList, Text.isBlank c = false) (given : token ≠ "") :
    bearer ("Bearer " ++ token) = .ok token := by
  have written : afterScheme? "Bearer" ("Bearer " ++ token) = some token :=
    afterScheme?_append "Bearer" (by decide) (by decide)
  rw [bearer, written, Option.map_some]
  dsimp only
  rw [Text.trim_of_not_blank solid, if_neg (by simpa using given)]

end Header

end GraphBroker
