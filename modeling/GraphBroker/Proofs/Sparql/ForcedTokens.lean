import GraphBroker.Proofs.Sparql.Accepted
import GraphBroker.Proofs.Sparql.Replacing

/-!
# Reading tokens with forced variables

Where a variable is read, an IRI is read as well. So if the tokens of a pattern are read, they are
read with forced variables replaced by IRIs, too, and what is read is the pattern with the
variables replaced.

## Main definitions

* `Token.force`, `Sparql.forceTokens`: tokens with forced variables replaced.

## Main statements

* `term_force`, `blocks_force` and their like: what is read of the parts.
-/

namespace GraphBroker.Sparql

variable {prefixes : Prefixes} {ts us rest : List Token} {t : Token} {b : Binding}
  {place s p o : PatternTerm} {patterns : List TriplePattern}

/-- The token with a variable of `b` replaced. -/
def Token.force (b : Binding) : Token → Token
  | .var name =>
    match b.get? name with
    | some t => .iri t.value
    | none => .var name
  | t => t

/-- The tokens `ts` with the variables of `b` replaced. -/
def forceTokens (b : Binding) (ts : List Token) : List Token :=
  ts.map (Token.force b)

@[simp] theorem forceTokens_cons : forceTokens b (t :: ts) = t.force b :: forceTokens b ts := rfl

theorem force_of_isBare (bare : t.isBare) : t.force b = t := by
  cases t with
  | iri _ | string _ | var _ => cases bare
  | _ => rfl

/-- Only a variable is replaced, and only by an IRI. So a `t'` that is neither has not been
replaced. -/
theorem eq_of_force_eq {t' : Token} (bare : t'.isBare) (same : t.force b = t') : t = t' := by
  cases t with
  | var name =>
    unfold Token.force at same
    dsimp only at same
    split at same <;> subst same <;> cases bare
  | _ => exact same

/-- A token `t` that is no variable comes first if and only if it came first before. -/
theorem forceTokens_ne_cons (bare : t.isBare) (other : ∀ rest, ts ≠ t :: rest) (rest : List Token) :
    forceTokens b ts ≠ t :: rest := by
  intro same
  cases ts with
  | nil => cases same
  | cons first ts =>
    obtain ⟨head, -⟩ := List.cons.inj same
    exact other ts (by rw [eq_of_force_eq bare head])

theorem keyword?_forceTokens (keyword : String) (ts : List Token) :
    keyword? keyword (forceTokens b ts) = (keyword? keyword ts).map (forceTokens b) := by
  cases ts with
  | nil => rfl
  | cons t ts =>
    cases t with
    | word w =>
      change keyword? keyword (.word w :: forceTokens b ts) = _
      unfold keyword?
      dsimp only
      split <;> rfl
    | var name =>
      rw [forceTokens_cons, Token.force]
      split <;> rfl
    | _ => rfl

/-! ### Terms -/

/-- A literal ends where it ended, in `ts`: an IRI is neither a language tag nor a marker. -/
theorem endsTerm_forceTokens (ends : endsTerm ts) : endsTerm (forceTokens b ts) := by
  cases ts with
  | nil => rfl
  | cons t ts =>
    cases t with
    | langTag _ | datatypeMarker => cases ends
    | var name =>
      rw [forceTokens_cons, Token.force]
      split <;> rfl
    | _ => rfl

theorem literal_force {value : String} {s : Term}
    (read : literal prefixes value ts = .ok (s, rest)) :
    literal prefixes value (forceTokens b ts) = .ok (s, forceTokens b rest) := by
  unfold literal at read
  split at read
  · cases read
    rfl
  · cases read
    rfl
  · obtain ⟨iri, expanded, same⟩ := map_eq_ok_iff.1 read
    cases same
    change (prefixes.expand _ _).map _ = _
    rw [expanded]
    rfl
  · cases read
  · rename_i noTag _ _ noMarker
    cases read
    -- Nothing belonged to the text in quotes, and nothing does now.
    refine literal_plain (endsTerm_forceTokens ?_)
    unfold endsTerm
    split
    · exact (noMarker _ rfl).elim
    · exact (noTag _ _ rfl).elim
    · rfl

theorem startsPattern_forceTokens (starts : startsPattern ts) :
    startsPattern (forceTokens b ts) := by
  simp only [startsPattern, Bool.and_eq_true, Option.isNone_iff_eq_none] at starts ⊢
  obtain ⟨⟨opens, noFilter⟩, noOptional⟩ := starts
  refine ⟨⟨?_, ?_⟩, ?_⟩
  · cases ts with
    | nil => cases opens
    | cons t ts =>
      have closes : t.force b ≠ .rbrace := fun same => by
        rw [eq_of_force_eq rfl same] at opens
        cases opens
      simpa using closes
  · rw [keyword?_forceTokens, noFilter, Option.map_none]
  · rw [keyword?_forceTokens, noOptional, Option.map_none]

theorem endsBlock_forceTokens : endsBlock (forceTokens b ts) = endsBlock ts := by
  cases ts with
  | nil => rfl
  | cons t ts =>
    cases t with
    | var name =>
      rw [forceTokens_cons, Token.force]
      split <;> rfl
    | _ => rfl

theorem limit_force {bound : Option Nat} (read : limit ts = .ok (bound, rest)) :
    limit (forceTokens b ts) = .ok (bound, forceTokens b rest) := by
  unfold limit at read ⊢
  rw [keyword?_forceTokens]
  split at read
  · rename_i noLimit
    cases read
    rw [noLimit, Option.map_none]
  · rename_i found
    rw [found, Option.map_some]
    split at read <;> cases read
    rename_i small
    dsimp only [forceTokens_cons, Token.force]
    rw [small]
  · cases read

section Iris

variable (iris : ForcesIris b)
include iris

theorem term_force (read : term true prefixes ts = .ok (place, rest)) :
    term true prefixes (forceTokens b ts) = .ok (place.force b, forceTokens b rest) := by
  unfold term at read
  split at read
  · cases read
  · rename_i name rest
    cases read
    rw [forceTokens_cons, Token.force, PatternTerm.force]
    cases given : b.get? name with
    | none => rfl
    | some t =>
      obtain ⟨iri, rfl, -⟩ := iris name t given
      rfl
  · cases read
    rfl
  · obtain ⟨iri, expanded, same⟩ := map_eq_ok_iff.1 read
    cases same
    change (prefixes.expand _ _).map _ = _
    rw [expanded]
    rfl
  · cases read
    rfl
  · cases read
    rfl
  · cases read
    rfl
  · rename_i w rest
    split at read <;> cases read
    rename_i boolean
    exact if_pos boolean
  · obtain ⟨⟨s, rest⟩, inner, same⟩ := map_eq_ok_iff.1 read
    cases same
    change (literal prefixes _ (forceTokens b _)).map _ = _
    rw [literal_force inner]
    rfl
  · cases read

/-! ### Groups -/

theorem predicate_force (read : predicate true prefixes ts = .ok (place, rest)) :
    predicate true prefixes (forceTokens b ts) = .ok (place.force b, forceTokens b rest) := by
  unfold predicate at read
  split at read
  · cases read
    rfl
  · rename_i other
    rw [← term_force iris read]
    unfold predicate
    split
    · rename_i same
      -- No variable gives way to the word for types.
      exact (forceTokens_ne_cons rfl (fun rest same => other rest same) _ same).elim
    · rfl

theorem objects_force (read : objects true prefixes s p ts = .ok (patterns, rest)) :
    objects true prefixes (s.force b) (p.force b) (forceTokens b ts) =
      .ok (patterns.map (·.force b), forceTokens b rest) := by
  fun_induction objects true prefixes s p ts generalizing patterns rest with
  | case1 => cases read
  | case2 ts o next first _ ih =>
    obtain ⟨⟨others, left⟩, readOthers, same⟩ := map_eq_ok_iff.1 read
    cases same
    have object : term true prefixes (forceTokens b ts) =
        .ok (o.force b, .comma :: forceTokens b next) := term_force iris first
    rw [objects_comma object, ih readOthers]
    rfl
  | case3 ts o next last first =>
    cases read
    -- The list ends where it ended, since no variable gives way to a comma.
    exact objects_last (term_force iris first) (forceTokens_ne_cons rfl last)

theorem predicates_force (read : predicates true prefixes s ts = .ok (patterns, rest)) :
    predicates true prefixes (s.force b) (forceTokens b ts) =
      .ok (patterns.map (·.force b), forceTokens b rest) := by
  fun_induction predicates true prefixes s ts generalizing patterns rest with
  | case1 | case2 => cases read
  | case3 ts p us first found next readObjects _ ends =>
    cases read
    have forced : objects true prefixes (s.force b) (p.force b) (forceTokens b us) =
        .ok (found.map (·.force b), .semicolon :: forceTokens b next) :=
      objects_force iris readObjects
    rw [predicates_semicolon (predicate_force iris first) forced, endsBlock_forceTokens,
      if_pos ends]
  | case4 ts p us first found next readObjects _ ends ih =>
    obtain ⟨⟨others, left⟩, readOthers, same⟩ := map_eq_ok_iff.1 read
    cases same
    have forced : objects true prefixes (s.force b) (p.force b) (forceTokens b us) =
        .ok (found.map (·.force b), .semicolon :: forceTokens b next) :=
      objects_force iris readObjects
    rw [predicates_semicolon (predicate_force iris first) forced, endsBlock_forceTokens,
      if_neg ends, ih readOthers, List.map_append]
    rfl
  | case5 ts p us first found next last readObjects =>
    cases read
    exact predicates_last (predicate_force iris first) (objects_force iris readObjects)
      (forceTokens_ne_cons rfl last)

theorem block_force (read : block true prefixes ts = .ok (patterns, rest)) :
    block true prefixes (forceTokens b ts) =
      .ok (patterns.map (·.force b), forceTokens b rest) := by
  unfold block at read ⊢
  split at read
  · cases read
  · rename_i s us subject
    rw [term_force iris subject]
    exact predicates_force iris read

theorem blocks_force (read : blocks true prefixes ts = .ok (patterns, rest)) :
    blocks true prefixes (forceTokens b ts) =
      .ok (patterns.map (·.force b), forceTokens b rest) := by
  fun_induction blocks true prefixes ts generalizing patterns rest with
  | case1 | case3 | case4 | case7 => cases read
  | case2 =>
    cases read
    rw [forceTokens_cons, force_of_isBare rfl, blocks]
    rfl
  | case5 t us opens keyword found next first _ ih =>
    obtain ⟨⟨others, left⟩, readOthers, same⟩ := map_eq_ok_iff.1 read
    cases same
    have starts : startsPattern (t :: us) := by simp_all [startsPattern]
    rw [blocks_of_startsPattern (startsPattern_forceTokens starts), block_force iris first]
    dsimp only [forceTokens_cons, Token.force]
    rw [ih readOthers, List.map_append]
    rfl
  | case6 t us opens keyword found next first =>
    cases read
    have starts : startsPattern (t :: us) := by simp_all [startsPattern]
    rw [blocks_of_startsPattern (startsPattern_forceTokens starts), block_force iris first]
    rfl

end Iris

end GraphBroker.Sparql
