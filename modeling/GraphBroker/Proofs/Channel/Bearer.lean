import GraphBroker.Channel.Request
import GraphBroker.Proofs.Access.Headers
import GraphBroker.Proofs.Sparql.Spelling
import Mathlib.Data.List.DropRight

/-!
# The token of a request

The authorization of a request on the channel is a header, or a token alone. A token alone is read
as it is, and a header is read as it is read elsewhere, unless there is a blank before its scheme.
Blanks at the start of a header are passed over when it is read, but not when it is looked whether
there is a scheme at all, so that such a header is taken for a token alone.

## Main definitions

* `Text.startsBlank`: a text starts with a blank.

## Main statements

* `afterScheme?_eq_some_iff`, `namesBearer_append`: what has a scheme, for a header and for an
  authorization.
* `withScheme_of_not_startsBlank`, `bearer_withScheme_of_startsBlank`: what becomes of an
  authorization that is a header.
* `token_of_request`: the token of a request beside that of a header.
-/

namespace GraphBroker

namespace Text

variable {lead text : String}

/-- Whether `text` starts with a blank. -/
def startsBlank (text : String) : Bool :=
  text.toList.head?.any isBlank

theorem trimStart_of_not_startsBlank (solid : startsBlank text = false) :
    trimStart text = text := by
  have kept : text.toList.dropWhile isBlank = text.toList := by
    rw [startsBlank] at solid
    cases chars : text.toList with
    | nil => rfl
    | cons c cs =>
      rw [chars] at solid
      rw [List.dropWhile_cons_of_neg (by simpa using solid)]
  rw [trimStart, kept, String.ofList_toList]

theorem startsBlank_trimStart : startsBlank (trimStart text) = false := by
  have stops := List.head?_dropWhile_not isBlank text.toList
  rw [startsBlank, trimStart, String.toList_ofList]
  cases kept : text.toList.dropWhile isBlank with
  | nil => rfl
  | cons c cs =>
    rw [kept] at stops
    simpa using stops

/-- The blanks at both ends of `text` are cut off at the start and then at the end. -/
theorem trim_eq_rdropWhile :
    trim text = String.ofList ((trimStart text).toList.rdropWhile isBlank) := by
  rw [trimStart, String.toList_ofList]
  rfl

theorem trim_trimStart : trim (trimStart text) = trim text := by
  rw [trim_eq_rdropWhile, trimStart_of_not_startsBlank startsBlank_trimStart, ← trim_eq_rdropWhile]

/-- Where something is left of `l`, nothing of `start` is cut off at the end. -/
theorem rdropWhile_append {α : Type} {p : α → Bool} {l : List α} (kept : l.rdropWhile p ≠ [])
    (start : List α) : (start ++ l).rdropWhile p = start ++ l.rdropWhile p := by
  have left : (l.reverse.dropWhile p).isEmpty = false := by simpa [List.rdropWhile] using kept
  rw [List.rdropWhile, List.reverse_append, List.dropWhile_append, left]
  simp [List.rdropWhile]

/-- If `text` is not all blank, then after `lead` it keeps the blanks at its start and loses those
at its end. -/
theorem exists_trim_append (lead : String) (solid : startsBlank (lead ++ text) = false)
    (kept : trim text ≠ "") : ∃ blanks, trim (lead ++ text) = lead ++ blanks ++ trim text := by
  refine ⟨String.ofList (text.toList.takeWhile isBlank), ?_⟩
  rw [trim_eq_rdropWhile, trimStart, String.toList_ofList] at kept
  have parts : (lead ++ text).toList = (lead.toList ++ text.toList.takeWhile isBlank) ++
      text.toList.dropWhile isBlank := by
    rw [String.toList_append, List.append_assoc, List.takeWhile_append_dropWhile]
  rw [trim_eq_rdropWhile, trimStart_of_not_startsBlank solid, parts,
    rdropWhile_append fun none => kept (by rw [none]), trim_eq_rdropWhile, trimStart,
    String.toList_ofList]
  simp [String.append_assoc]

end Text

namespace Header

variable {c : Char} {text head rest scheme header token : String}

/-- The `text` is cut at the first character `c`, and only there. -/
theorem cut?_eq_some_iff : cut? c text = some (head, rest) ↔
    c ∉ head.toList ∧ text = head ++ String.singleton c ++ rest := by
  refine ⟨fun cut => ⟨not_mem_of_cut? cut, ?_⟩, fun ⟨free, parts⟩ => parts ▸ cut?_append free⟩
  have parts := List.takeWhile_append_dropWhile (p := (· != c)) (l := text.toList)
  have stops := List.head?_dropWhile_not (· != c) text.toList
  unfold cut? at cut
  split at cut
  · cases cut
  · rename_i d others found
    rw [found] at stops parts
    obtain rfl : d = c := by simpa using stops
    cases cut
    rw [← String.toList_inj]
    simpa using parts.symm

/-- The `header` has a `scheme` if this stands before the first space, after blanks. -/
theorem afterScheme?_eq_some_iff : afterScheme? scheme header = some rest ↔
    ∃ head, ' ' ∉ head.toList ∧ head.toLower = scheme.toLower ∧
      Text.trimStart header = head ++ " " ++ rest := by
  rw [afterScheme?]
  constructor
  · intro found
    split at found
    · rename_i head others cut
      obtain ⟨free, parts⟩ := cut?_eq_some_iff.1 cut
      split at found
      · rename_i same
        cases found
        exact ⟨head, free, same, parts⟩
      · cases found
    · cases found
  · rintro ⟨head, free, same, parts⟩
    rw [cut?_eq_some_iff.2 ⟨free, parts⟩]
    exact if_pos same

theorem bearer_eq_ok_iff : bearer header = .ok token ↔
    ∃ rest, afterScheme? "Bearer" header = some rest ∧ Text.trim rest = token ∧ token ≠ "" := by
  rw [bearer]
  cases afterScheme? "Bearer" header with
  | none => simp
  | some rest =>
    rw [Option.map_some]
    dsimp only
    by_cases nothing : Text.trim rest = ""
    · simp [nothing]
    · simp only [String.isEmpty_iff, nothing, if_false, Except.ok.injEq, Option.some.injEq,
        exists_eq_left', iff_self_and]
      rintro rfl
      exact nothing

/-- What comes after the scheme, here `rest`, is read as a token, whatever it is. -/
theorem bearer_append_eq_ok (kept : Text.trim rest ≠ "") :
    bearer ("Bearer " ++ rest) = .ok (Text.trim rest) :=
  bearer_eq_ok_iff.2 ⟨rest, afterScheme?_append "Bearer" (by decide) (by decide), rfl, kept⟩

end Header

namespace Request

open Header (bearer)

variable {head rest given token : String}

/-- The scheme of an authorization is what stands before the first space, which is `head`. -/
theorem namesBearer_append (free : ' ' ∉ head.toList) :
    namesBearer (head ++ " " ++ rest) = (head.toLower == "bearer") := by
  have before : ∀ c ∈ head.toList, (c != ' ') = true := fun c listed => by
    simpa using ne_of_mem_of_not_mem listed free
  have chars : (head ++ " " ++ rest).toList = head.toList ++ ' ' :: rest.toList := by simp
  rw [namesBearer, chars]
  simp [List.takeWhile_append_of_pos before]

/-- A text that begins with a word which is `bearer`, but for the case of its letters, does not
start with a blank. -/
theorem startsBlank_of_toLower (same : head.toLower = "bearer") :
    Text.startsBlank (head ++ rest) = false := by
  have letters : head.toList.map Char.toLower = ['b', 'e', 'a', 'r', 'e', 'r'] := by
    rw [← String.toList_map]
    exact congrArg String.toList same
  cases chars : head.toList with
  | nil =>
    rw [chars] at letters
    exact absurd letters (by decide)
  | cons c cs =>
    rw [chars, List.map_cons] at letters
    obtain ⟨first, -⟩ := List.cons_eq_cons.1 letters
    -- A first letter that is `b` in lower case is not a blank.
    have solid : Text.isBlank c = false :=
      Sparql.not_isBlank_of_class (p := (·.toLower == 'b')) (by simpa using first) (by decide)
    simp [Text.startsBlank, chars, solid]

/-- A blank before the scheme of `given` hides it. -/
theorem namesBearer_of_startsBlank (blank : Text.startsBlank given) :
    namesBearer given = false := by
  rw [Bool.eq_false_iff]
  intro named
  have space : ' ' ∈ given.toList := by
    simp only [namesBearer, Bool.and_eq_true, List.contains_iff_mem] at named
    exact named.1
  obtain ⟨⟨head, rest⟩, cut⟩ := Option.isSome_iff_exists.1 (Header.isSome_cut? space)
  obtain ⟨free, rfl⟩ := Header.cut?_eq_some_iff.1 cut
  have same : head.toLower = "bearer" := by simpa using (namesBearer_append free).symm.trans named
  rw [String.append_assoc, startsBlank_of_toLower same] at blank
  cases blank

/-- If `given` has no blanks, it has no scheme. -/
theorem namesBearer_of_solid (solid : ∀ c ∈ given.toList, Text.isBlank c = false) :
    namesBearer given = false := by
  have free : given.toList.contains ' ' = false := by
    rw [Bool.eq_false_iff, ne_eq, List.contains_iff_mem]
    exact fun listed => absurd (solid ' ' listed) (by decide)
  rw [namesBearer, free, Bool.false_and]

/-! ### Authorizations as headers -/

/-- A header `given` that does not start with a blank is left as it is. -/
theorem withScheme_of_not_startsBlank (read : bearer given = .ok token)
    (solid : Text.startsBlank given = false) : withScheme given = given := by
  obtain ⟨rest, found, -, -⟩ := Header.bearer_eq_ok_iff.1 read
  obtain ⟨head, free, same, parts⟩ := Header.afterScheme?_eq_some_iff.1 found
  rw [Text.trimStart_of_not_startsBlank solid] at parts
  have named : namesBearer given := by
    rw [parts, namesBearer_append free, same]
    decide +kernel
  rw [withScheme, if_pos named]

/-- A header `given` that starts with a blank is read as if it were a token, its scheme included. -/
theorem bearer_withScheme_of_startsBlank (read : bearer given = .ok token)
    (blank : Text.startsBlank given) :
    bearer (withScheme given) = .ok (Text.trim given) ∧ Text.trim given ≠ token := by
  obtain ⟨rest, found, rfl, kept⟩ := Header.bearer_eq_ok_iff.1 read
  obtain ⟨head, free, same, parts⟩ := Header.afterScheme?_eq_some_iff.1 found
  obtain ⟨blanks, trimmed⟩ := Text.exists_trim_append (head ++ " ")
    (by rw [← parts, Text.startsBlank_trimStart]) kept
  rw [← parts, Text.trim_trimStart] at trimmed
  -- What is read keeps the space after the scheme, so that it is longer than the token.
  have longer : Text.trim given ≠ Text.trim rest := by
    intro whole
    have lengths := congrArg String.length (trimmed.symm.trans whole)
    simp only [String.length_append] at lengths
    have space : " ".length = 1 := rfl
    omega
  have hidden := namesBearer_of_startsBlank blank
  rw [withScheme, if_neg (by simp [hidden])]
  refine ⟨Header.bearer_append_eq_ok fun nothing => ?_, longer⟩
  have lengths := congrArg String.length (nothing.symm.trans trimmed)
  simp only [String.length_append, String.length_empty] at lengths
  have space : " ".length = 1 := rfl
  omega

/-- The header of `request` is read as the token that its authorization `given` is read as, if this
is a header and does not start with a blank. If it starts with a blank, it is taken for a token as a
whole, and so it is read as another one. An authorization without blanks is read as itself. -/
theorem token_of_request {raw : String} {request : Request}
    (given : request.authorization? = some raw) :
    ∃ header, request.bearer? = some header ∧
      (∀ token, bearer raw = .ok token →
        if Text.startsBlank raw then
          bearer header = .ok (Text.trim raw) ∧ Text.trim raw ≠ token
        else bearer header = .ok token) ∧
      (raw ≠ "" → (∀ c ∈ raw.toList, Text.isBlank c = false) → bearer header = .ok raw) := by
  refine ⟨withScheme raw, by rw [bearer?, given, Option.map_some], fun token read => ?_,
    fun inhabited solid => ?_⟩
  · cases blank : Text.startsBlank raw with
    | true => exact bearer_withScheme_of_startsBlank read blank
    | false =>
      rw [withScheme_of_not_startsBlank read blank]
      exact read
  · rw [withScheme, if_neg (by simp [namesBearer_of_solid solid])]
    exact Header.bearer_append solid inhabited

/-- A header with more spaces than it needs, and a token alone. -/
theorem token_of_request_spaced :
    (∃ header, (update "CLEAR ALL" (some "Bearer  abc ")).bearer? = some header ∧
      bearer header = .ok "abc") ∧
    ∃ header, (update "CLEAR ALL" (some "abc")).bearer? = some header ∧
      bearer header = .ok "abc" := by
  obtain ⟨first, shown, headers, -⟩ :=
    @token_of_request "Bearer  abc " (update "CLEAR ALL" (some "Bearer  abc ")) rfl
  obtain ⟨second, alone, -, tokens⟩ :=
    @token_of_request "abc" (update "CLEAR ALL" (some "abc")) rfl
  have read := headers "abc" (by decide +kernel)
  rw [if_neg (by decide +kernel)] at read
  have solid : "abc".toList.all (!Text.isBlank ·) := by decide +kernel
  exact ⟨⟨first, shown, read⟩, ⟨second, alone, tokens (by decide) (by simpa using solid)⟩⟩

/-- The header `" Bearer abc"`, with a blank before its scheme, is read as the token that it holds.
The same text as the authorization of a request is read as a token to which the scheme belongs. -/
theorem blank_hides_scheme :
    bearer " Bearer abc" = .ok "abc" ∧
      (update "CLEAR ALL" (some " Bearer abc")).bearer?.map bearer = some (.ok "Bearer abc") := by
  decide +kernel

end Request

end GraphBroker
