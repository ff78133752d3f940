import GraphBroker.Proofs.Sparql.ForcedTokens

/-!
# Dropping forced variables before the first brace

Before its first brace a query asks for variables between keywords. A forced variable is dropped
there, and if none is left to ask for, an asterisk takes the place of the first. What is read is the
query that asks for the others.

## Main definitions

* `Sparql.dropForced`: the tokens before the first brace without forced variables.
* `Sparql.starTokens`: the asterisk, if there has to be one.

## Main statements

* `tokensIn_forceHeader`: dropping segments is dropping their tokens.
* `dropForced_header`: what becomes of the tokens before the first brace.
-/

namespace GraphBroker.Sparql

variable {prefixes declared : Prefixes} {ts us : List Token} {t : Token} {b : Binding}
  {names : List String} {projection : Option (List String)}

/-- The tokens without forced variables, with `star` in the place of the first. -/
def dropForced (b : Binding) : List Token → List Token → List Token
  | _, [] => []
  | star, t :: ts =>
    if t.drops b then star ++ dropForced b [] ts else t :: dropForced b star ts

/-- An asterisk, if nothing is left of `ts` to ask for. -/
def starTokens (b : Binding) (ts : List Token) : List Token :=
  if ts.any fun t => t.asks && !t.drops b then [] else [.star]

/-- Dropping segments of `header` is dropping their tokens. -/
theorem tokensIn_forceHeader {star header : List Segment} :
    tokensIn (forceHeader b star header) = dropForced b (tokensIn star) (tokensIn header) := by
  induction header generalizing star with
  | nil => rfl
  | cons s header ih =>
    obtain ⟨us, l⟩ := s
    cases l with
    | gap => exact ih
    | token t =>
      have drops : (Segment.mk us (.token t)).drops b = t.drops b := rfl
      change _ = dropForced b (tokensIn star) (t :: tokensIn header)
      rw [forceHeader, dropForced, drops]
      split
      · rw [tokensIn_append, ih]
        rfl
      · rw [← ih]
        rfl

theorem tokensIn_starFor {header : List Segment} :
    tokensIn (starFor b header) = starTokens b (tokensIn header) := by
  have same : (header.any fun s => s.asks && !s.drops b) =
      (tokensIn header).any fun t => t.asks && !t.drops b := by
    induction header with
    | nil => rfl
    | cons s header ih =>
      obtain ⟨us, l⟩ := s
      cases l with
      | gap => exact ih
      | token t =>
        rw [List.any_cons, ih]
        rfl
  rw [starFor, starTokens, same]
  split <;> rfl

/-- Whether the token is none of those that are asked for, and no brace. -/
def Token.stands : Token → Bool
  | var _ | star | lbrace => false
  | _ => true

theorem Declares.stands (declares : Declares prefixes us declared) : ∀ t ∈ us, t.stands := by
  induction declares with
  | nil => exact nofun
  | cons _ _ ih => simpa [Token.stands] using ih

theorem stands_words {words : List String} : ∀ t ∈ words.map Token.word, t.stands := by
  simp [Token.stands]

theorem dropForced_of_stands {star : List Token} (stands : ∀ t ∈ us, t.stands) :
    dropForced b star (us ++ ts) = us ++ dropForced b star ts := by
  induction us with
  | nil => rfl
  | cons t us ih =>
    obtain ⟨first, others⟩ := List.forall_mem_cons.1 stands
    have keeps : t.drops b = false := by cases t <;> first | rfl | cases first
    rw [List.cons_append, dropForced, keeps, if_neg Bool.false_ne_true, ih others, List.cons_append]

theorem any_asks_of_stands (stands : ∀ t ∈ us, t.stands) :
    (us.any fun t => t.asks && !t.drops b) = false := by
  rw [List.any_eq_false]
  intro t listed
  have first := stands t listed
  have idle : t.asks = false := by cases t <;> first | rfl | cases first
  rw [idle]
  exact nofun

theorem dropForced_vars : dropForced b [] (names.map .var ++ ts) =
    (names.filter (isFree b)).map .var ++ dropForced b [] ts := by
  induction names with
  | nil => rfl
  | cons name names ih =>
    rw [List.map_cons, List.cons_append, dropForced, ih, Token.drops]
    cases free : isFree b name <;> simp [free]

/-- What is asked for by `projection` without forced variables, or an asterisk if nothing else is
left. -/
theorem dropForced_projection (someAsked : projection ≠ some [])
    (before : ∀ t ∈ us, t.stands) (after : ∀ t ∈ ts, t.stands) :
    dropForced b (starTokens b (us ++ (projectionTokens projection ++ ts)))
        (us ++ (projectionTokens projection ++ ts)) =
      us ++ (projectionTokens (forceProjection b projection) ++ ts) := by
  have rest (star : List Token) : dropForced b star ts = ts := by
    have kept : dropForced b star (ts ++ []) = ts ++ dropForced b star [] :=
      dropForced_of_stands after
    rwa [List.append_nil, dropForced, List.append_nil] at kept
  -- Only the variables and the asterisk count: nothing else is dropped or asked for.
  rw [dropForced_of_stands before, starTokens, List.any_append, List.any_append,
    any_asks_of_stands before, any_asks_of_stands after, Bool.false_or, Bool.or_false]
  match projection, someAsked with
  | none, _ =>
    change us ++ Token.star :: dropForced b [] ts = us ++ Token.star :: ts
    rw [rest]
  | some [], someAsked => exact absurd rfl someAsked
  | some (name :: names), _ =>
    have left : ((projectionTokens (some (name :: names))).any fun t => t.asks && !t.drops b) =
        (name :: names).any (isFree b) := by
      rw [projectionTokens, List.any_map]
      exact congrArg _ (funext fun name => by simp [Token.asks, Token.drops])
    rw [left]
    cases free : (name :: names).any (isFree b) with
    | true =>
      rw [if_pos rfl, forceProjection_of_any free, projectionTokens, projectionTokens,
        dropForced_vars, rest]
    | false =>
      -- The asterisk stands for the first, and nothing for the others.
      obtain ⟨first, others⟩ := by simpa using free
      have noneFree : names.filter (isFree b) = [] := by simpa using others
      rw [if_neg Bool.false_ne_true, forceProjection_of_not_any free, projectionTokens,
        projectionTokens, List.map_cons, List.cons_append, dropForced, Token.drops, first,
        dropForced_vars, rest, noneFree]
      rfl

theorem Wording.stands_modifiers (wording : Wording) (declares : Declares prefixes us declared) :
    ∀ t ∈ us ++ .word wording.select :: wording.modifier.toList.map .word, t.stands :=
  List.forall_mem_append.2
    ⟨declares.stands, List.forall_mem_cons.2 ⟨rfl, stands_words⟩⟩

theorem append_header (us : List Token) (wording : Wording) (projection : Option (List String)) :
    us ++ wording.header projection =
      us ++ .word wording.select :: wording.modifier.toList.map .word ++
        (projectionTokens projection ++ wording.condition.toList.map .word) := by
  rw [Wording.header, List.append_assoc, List.cons_append]

/-- What becomes of the tokens before the first brace, which are the `wording` of the header after
the declarations `us`. -/
theorem dropForced_header (wording : Wording) (declares : Declares prefixes us declared)
    (someAsked : projection ≠ some []) :
    dropForced b (starTokens b (us ++ wording.header projection))
        (us ++ wording.header projection) =
      us ++ wording.header (forceProjection b projection) := by
  rw [append_header, append_header]
  exact dropForced_projection someAsked (wording.stands_modifiers declares) stands_words

/-- A brace is none of the tokens of the header. -/
theorem ne_lbrace_of_mem_header (wording : Wording) (declares : Declares prefixes us declared)
    (listed : t ∈ us ++ wording.header projection) : t ≠ .lbrace := by
  rw [append_header] at listed
  rcases List.mem_append.1 listed with before | listed
  · rintro rfl
    cases wording.stands_modifiers declares _ before
  rcases List.mem_append.1 listed with asked | after
  · rintro rfl
    cases projection <;> simp [projectionTokens] at asked
  · rintro rfl
    cases stands_words _ after

/-- Once variables are asked for, only variables and words follow, in every `wording` of the
header. -/
theorem pairwise_precedes_header (wording : Wording) (declares : Declares prefixes us declared) :
    (us ++ wording.header projection).Pairwise Token.precedes := by
  have others {t t' : Token} (stands : t.stands) : t.precedes t' := by
    rintro ⟨name, rfl⟩
    cases stands
  rw [append_header, List.pairwise_append]
  refine ⟨?_, ?_, fun t before _ _ => others (wording.stands_modifiers declares t before)⟩
  · exact List.pairwise_of_forall_mem_list fun t before _ _ =>
      others (wording.stands_modifiers declares t before)
  · refine List.pairwise_of_forall_mem_list fun t first t' second => ?_
    rintro ⟨name, rfl⟩
    -- Where a variable is asked for, no asterisk is.
    cases projection with
    | none => simp [projectionTokens] at first
    | some names =>
      rcases List.mem_append.1 second with asked | word
      · obtain ⟨other, -, rfl⟩ := List.mem_map.1 asked
        exact .inl ⟨other, rfl⟩
      · obtain ⟨w, -, rfl⟩ := List.mem_map.1 word
        exact .inr ⟨w, rfl⟩

end GraphBroker.Sparql
