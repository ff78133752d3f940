import GraphBroker.Proofs.Json.Numbers

/-!
# What decoders find

A decoder is followed from the left: it finds a value at the start of the input and stops before
what is left, or it fails at a flaw. Texts and numbers are found as they were written, and the
members of an object one after another.

## Main definitions

* `Decoder.Finds`, `Decoder.Fails`: what a decoder does at the start of an input.

## Main statements

* `finds_text`, `finds_int64`, `fails_int64`: texts and numbers.
* `finds_named`, `finds_unnamed`: the members of an object.
* `finds_record`, `fails_record`: an object.
-/

namespace GraphBroker.Json

theorem seen_toString (n : Int) : seen (toString n) = (toString n).toList := by
  refine seen_of_ascii ?_
  rw [toList_toString, List.forall_mem_append]
  refine ⟨fun c listed => ?_, fun c listed => ?_⟩
  · split at listed
    · rw [List.mem_singleton.1 listed]
      decide
    · cases listed
  · have digit := isDigit_of_mem listed
    simp only [Char.isDigit, Bool.and_eq_true, decide_eq_true_eq, UInt32.le_iff_toNat_le] at digit
    have bound : c.toNat ≤ 57 := digit.2
    omega

/-- The whole number `n` starts with a minus sign or a digit. -/
theorem toString_cons (n : Int) : ∃ c cs, (toString n).toList = c :: cs ∧
    (c = '-' ∨ c.isDigit) := by
  rw [toList_toString]
  split
  · exact ⟨_, _, rfl, .inl rfl⟩
  · cases digits : Nat.toDigits 10 n.natAbs with
    | nil => exact absurd digits Nat.toDigits_ne_nil
    | cons d ds => exact ⟨d, ds, rfl, .inr (isDigit_of_mem (digits ▸ List.mem_cons_self))⟩

theorem skipBlanks_number {c : Char} {rest : List Char} (start : c = '-' ∨ c.isDigit) :
    skipBlanks (c :: rest) = c :: rest := by
  have solid : c ≠ ' ' ∧ c ≠ '\n' ∧ c ≠ '\t' ∧ c ≠ '\r' := by
    refine ⟨?_, ?_, ?_, ?_⟩ <;> rintro rfl <;> revert start <;> decide
  simp [skipBlanks, solid]

namespace Decoder

variable {α β σ : Type} {d : Decoder α} {f : α → Decoder β} {g : α → β} {a : α} {b : β}
  {input middle rest : List Char} {c : Char} {text : String} {n : Int}

/-- The decoder `d` finds the value `a` at the start of `input` and stops before `rest`. -/
def Finds (d : Decoder α) (input : List Char) (a : α) (rest : List Char) : Prop :=
  EStateM.run d input = .ok a rest

/-- The decoder `d` stops at a flaw of `input`. -/
def Fails (d : Decoder α) (input : List Char) : Prop :=
  ∃ flaw rest, EStateM.run d input = .error flaw rest

/-! ### Steps -/

theorem finds_pure : Finds (pure a) input a input := rfl

theorem Finds.bind (first : Finds d input a middle) (second : Finds (f a) middle b rest) :
    Finds (d >>= f) input b rest := by
  rw [Finds, EStateM.run_bind, first]
  exact second

theorem Finds.map (found : Finds d input a rest) : Finds (g <$> d) input (g a) rest := by
  have same : d input = .ok a rest := found
  rw [Finds]
  change EStateM.map g d input = _
  rw [EStateM.map, same]

theorem Fails.bind (first : Fails d input) : Fails (d >>= f) input := by
  obtain ⟨flaw, rest, stops⟩ := first
  exact ⟨flaw, rest, by rw [EStateM.run_bind, stops]⟩

theorem Finds.bind_fails (first : Finds d input a middle) (second : Fails (f a) middle) :
    Fails (d >>= f) input := by
  obtain ⟨flaw, rest, stops⟩ := second
  exact ⟨flaw, rest, by rw [EStateM.run_bind, first]; exact stops⟩

theorem Finds.caught (found : Finds d input a rest) (handler : Flaw → Decoder α) :
    Finds (tryCatch d handler) input a rest := by
  have same : d input = .ok a rest := found
  rw [Finds]
  change EStateM.tryCatch d handler input = _
  rw [EStateM.tryCatch, same]

theorem run_map_error {flaw : Flaw} (stops : EStateM.run d input = .error flaw rest) :
    EStateM.run (g <$> d) input = .error flaw rest := by
  have same : d input = .error flaw rest := stops
  change EStateM.map g d input = _
  rw [EStateM.map, same]

/-- After a `flaw` one goes on where the decoder has stopped, which is `middle`. -/
theorem finds_caught {flaw : Flaw} {handler : Flaw → Decoder α}
    (stops : EStateM.run d input = .error flaw middle) (goes : Finds (handler flaw) middle a rest) :
    Finds (tryCatch d handler) input a rest := by
  have same : d input = .error flaw middle := stops
  rw [Finds]
  change EStateM.tryCatch d handler input = _
  rw [EStateM.tryCatch, same]
  exact goes

theorem Finds.attempt (found : Finds d input a rest) : Finds (attempt d) input (some a) rest :=
  found.map.caught _

/-- One can always go on after a flaw of `d`. -/
theorem exists_finds_attempt (d : Decoder α) (input : List Char) :
    ∃ result rest, Finds (Decoder.attempt d) input result rest := by
  cases outcome : EStateM.run d input with
  | ok a rest => exact ⟨_, _, Finds.attempt outcome⟩
  | error flaw rest => exact ⟨_, _, finds_caught (run_map_error outcome) finds_pure⟩

/-- A character `c` other than a blank stays where it is. -/
theorem finds_peek (solid : skipBlanks (c :: input) = c :: input) :
    Finds peek (c :: input) c (c :: input) := by
  rw [Finds, peek]
  simp only [EStateM.run_bind, EStateM.run_get, solid]
  rfl

theorem finds_skip : Finds skip (c :: input) () input := rfl

theorem finds_spelled {read : List Char → Option (α × List Char)}
    (found : read input = some (a, rest)) : Finds (spelled read) input a rest := by
  rw [Finds, spelled]
  simp only [EStateM.run_bind, EStateM.run_get, found]
  rfl

theorem finds_bound : Finds bound input input.length input := rfl

/-! ### Texts -/

theorem finds_quoted (text : String) (rest : List Char) :
    Finds quoted (content text ++ '"' :: rest) text rest := by
  obtain ⟨pieces, read, spell⟩ := pieces?_content text
  refine .bind (finds_spelled (read rest)) ?_
  rw [bytesOf?] at spell
  rw [List.reverse_reverse, spell]
  dsimp only
  rw [Utf8.decode_encode]
  exact finds_pure

theorem seen_quote_append : seen (quote text) ++ rest = '"' :: (content text ++ '"' :: rest) := by
  rw [seen_quote]
  simp

theorem finds_text : Finds Decoder.text (seen (quote text) ++ rest) text rest := by
  rw [seen_quote_append]
  refine .bind (finds_peek rfl) ?_
  rw [if_pos rfl]
  exact .bind finds_skip (finds_quoted text rest)

/-! ### Numbers -/

theorem finds_number (fits : Fits n) (stops : Stops c) :
    Finds number (seen (toString n) ++ c :: rest) (.int n) (c :: rest) := by
  rw [seen_toString]
  refine .bind (finds_spelled (numeral?_toString n stops)) ?_
  rw [isHuge_numeralOf fits, toJson_numeralOf fits]
  exact finds_pure

/-- What starts like the number `n` is looked at as one. -/
theorem finds_peek_number (n : Int) (rest : List Char) : ∃ c,
    Finds peek (seen (toString n) ++ rest) c (seen (toString n) ++ rest) ∧
      (c = '-' || c.isDigit) := by
  obtain ⟨c, cs, chars, start⟩ := toString_cons n
  rw [seen_toString, chars]
  exact ⟨c, finds_peek (skipBlanks_number start), by simpa using start⟩

theorem finds_int64 (fits : Fits n) (stops : Stops c) :
    Finds int64 (seen (toString n) ++ c :: rest) n (c :: rest) := by
  obtain ⟨first, peeked, start⟩ := finds_peek_number n (c :: rest)
  refine .bind peeked ?_
  rw [if_pos start]
  refine .bind (finds_number fits stops) ?_
  rw [int64?_int fits]
  exact finds_pure

theorem fails_int64 (other : ¬Fits n) (stops : Stops c) :
    Fails int64 (seen (toString n) ++ c :: rest) := by
  obtain ⟨first, peeked, start⟩ := finds_peek_number n (c :: rest)
  have read : numeral? (seen (toString n) ++ c :: rest) = some (numeralOf n, c :: rest) := by
    rw [seen_toString, numeral?_toString n stops]
  refine peeked.bind_fails ?_
  rw [if_pos start]
  -- A number that is larger than any double is a flaw by itself, before its value is looked at.
  by_cases huge : (numeralOf n).isHuge
  · refine Fails.bind ((finds_spelled read).bind_fails ?_)
    rw [if_pos huge]
    split
    · exact ⟨_, _, rfl⟩
    · exact ⟨_, _, rfl⟩
  · have found :
        Finds number (seen (toString n) ++ c :: rest) (numeralOf n).toJson (c :: rest) := by
      refine .bind (finds_spelled read) ?_
      rw [if_neg huge]
      exact finds_pure
    refine found.bind_fails ?_
    rw [int64?_numeralOf other]
    exact ⟨_, _, rfl⟩

/-! ### Values of any shape -/

theorem finds_bare_int (fits : Fits n) (stops : Stops c) :
    Finds bare (seen (toString n) ++ c :: rest) (.int n) (c :: rest) := by
  obtain ⟨first, peeked, start⟩ := finds_peek_number n (c :: rest)
  refine .bind peeked ?_
  rw [if_pos start]
  exact finds_number fits stops

theorem finds_plain_int (fits : Fits n) (stops : Stops c) :
    Finds plain (seen (toString n) ++ c :: rest) (.int n) (c :: rest) := by
  obtain ⟨first, peeked, start⟩ := finds_peek_number n (c :: rest)
  refine .bind peeked ?_
  split
  · cases start
  · cases start
  · cases start
  · exact finds_bare_int fits stops

theorem finds_value_text (depth : Nat) :
    Finds (value (depth + 1)) (seen (quote text) ++ rest) (.text text) rest := by
  refine .bind finds_bound ?_
  have peeked : Finds peek (seen (quote text) ++ rest) '"' (seen (quote text) ++ rest) := by
    rw [seen_quote_append]
    exact finds_peek rfl
  exact .bind peeked (.map finds_text)

/-- A value that does not start like `null` is decoded. -/
theorem Finds.nullable (found : Finds d input a rest) (peeked : Finds peek input c input)
    (other : c ≠ 'n') : Finds (nullable d) input (some a) rest := by
  refine .bind peeked ?_
  rw [if_neg other]
  exact found.map

/-! ### Values that are passed over -/

theorem finds_ignored {json : Json} {tail : Rest input} (read : value? input = some (json, tail))
    (same : tail.1 = rest) : Finds ignored input () rest :=
  finds_spelled (by rw [read, ← same]; rfl)

theorem finds_ignored_text : Finds ignored (seen (quote text) ++ rest) () rest := by
  obtain ⟨pieces, read, -⟩ := pieces?_content text
  rw [seen_quote_append]
  -- What is passed over is read by the reader of values, which keeps with the rest that it is
  -- shorter. Only the rest itself matters here.
  have quoted : ∃ found tail, quoted? (content text ++ '"' :: rest) = some (found, tail) ∧
      tail.1 = rest := by
    unfold quoted?
    split
    · rename_i other tail found
      obtain ⟨rfl, rfl⟩ := Prod.mk.inj (Option.some.inj ((read rest).symm.trans found))
      exact ⟨_, _, rfl, rfl⟩
    · rename_i none
      rw [read] at none
      cases none
  obtain ⟨found, tail, quoted, same⟩ := quoted
  have value : ∃ json tail, value? ('"' :: (content text ++ '"' :: rest)) = some (json, tail) ∧
      tail.1 = rest := by
    rw [value?.eq_def]
    split
    · rename_i none
      cases none
    · rename_i first others start
      obtain ⟨rfl, rfl⟩ := List.cons.inj start
      rw [if_pos rfl, quoted]
      cases found <;> exact ⟨_, _, rfl, same⟩
  obtain ⟨json, tail, read, same⟩ := value
  exact finds_ignored read same

theorem finds_ignored_int (stops : Stops c) :
    Finds ignored (seen (toString n) ++ c :: rest) () (c :: rest) := by
  obtain ⟨first, cs, chars, start⟩ := toString_cons n
  have number : numeral? ((toString n).toList ++ c :: rest) = some (numeralOf n, c :: rest) :=
    numeral?_toString n stops
  rw [seen_toString, chars]
  rw [chars] at number
  -- A number is tried last, after everything that is known by its first character.
  have other : first ≠ 'n' ∧ first ≠ 't' ∧ first ≠ 'f' ∧ first ≠ '"' ∧ first ≠ '[' ∧
      first ≠ '\x7b' := by
    refine ⟨?_, ?_, ?_, ?_, ?_, ?_⟩ <;> rintro rfl <;> revert start <;> decide
  have bare : bare? (first :: (cs ++ c :: rest)) = some ((numeralOf n).toJson, c :: rest) := by
    rw [bare?.eq_4 _ (fun _ same => other.1 (List.cons.inj same).1)
      (fun _ same => other.2.1 (List.cons.inj same).1)
      (fun _ same => other.2.2.1 (List.cons.inj same).1)]
    exact congrArg (Option.map _) number
  have value : ∃ json tail, value? (first :: (cs ++ c :: rest)) = some (json, tail) ∧
      tail.1 = c :: rest := by
    rw [value?.eq_def]
    split
    · rename_i none
      rw [skipBlanks_number start] at none
      cases none
    · rename_i d others found
      rw [skipBlanks_number start] at found
      obtain ⟨rfl, rfl⟩ := List.cons.inj found
      rw [if_neg other.2.2.2.1, if_neg other.2.2.2.2.1, if_neg other.2.2.2.2.2, bare]
      dsimp only
      rw [dif_pos (by simp only [List.length_cons, List.length_append]; omega)]
      exact ⟨_, _, rfl, rfl⟩
  obtain ⟨json, tail, read, same⟩ := value
  exact finds_ignored read same

/-! ### Objects -/

/-- What stands before a name: a comma, unless it is the first one. -/
def lead (atStart : Bool) : List Char :=
  if atStart then [] else [',']

/-- The `name` with its colon. -/
def label (atStart : Bool) (name : String) : List Char :=
  lead atStart ++ seen (quote name) ++ [':']

theorem finds_nextName (atStart : Bool) (name : String) (rest : List Char) :
    Finds (nextName atStart) (lead atStart ++ seen (quote name) ++ rest) (some name) rest := by
  have named : Finds (some <$> quoted) (content name ++ '"' :: rest) (some name) rest :=
    (finds_quoted name rest).map
  rw [List.append_assoc, seen_quote_append]
  -- The first name stands at once, each later one after a comma.
  cases atStart with
  | true =>
    refine .bind (finds_peek rfl) ?_
    rw [if_neg (by decide)]
    dsimp only
    rw [if_neg (by decide)]
    refine .bind (finds_peek rfl) ?_
    rw [if_neg (by decide)]
    exact .bind finds_skip named
  | false =>
    refine .bind (finds_peek rfl) ?_
    rw [if_neg (by decide)]
    dsimp only
    rw [if_pos (by decide), if_neg (by decide)]
    refine .bind finds_skip (.bind (finds_peek rfl) ?_)
    rw [if_neg (by decide)]
    exact .bind finds_skip named

theorem finds_nextName_end (atStart : Bool) :
    Finds (nextName atStart) ('\x7d' :: rest) none ('\x7d' :: rest) :=
  .bind (finds_peek rfl) finds_pure

theorem finds_colon : Finds colon (':' :: rest) () rest :=
  .bind (finds_peek rfl) finds_skip

theorem finds_objectEnd : Finds objectEnd ('\x7d' :: rest) () rest :=
  .bind (finds_peek rfl) finds_skip

theorem Finds.enclosed {close : Decoder Unit} (content : Finds d input a middle)
    (closes : Finds close middle () rest) : Finds (enclosed d close) (c :: input) a rest := by
  refine .bind finds_skip (.bind (content.map.caught _) ?_)
  exact .bind closes finds_pure

theorem Fails.enclosed {close : Decoder Unit} (content : Fails d input) :
    Fails (enclosed d close) (c :: input) := by
  obtain ⟨flaw, rest, stops⟩ := content
  have told : Finds (tryCatch (Except.ok <$> d) fun flaw => return Except.error flaw) input
      (.error flaw) rest :=
    finds_caught (run_map_error stops) finds_pure
  -- The end is looked for in any case, but the flaw that came first is the one that is told.
  obtain ⟨result, later, closed⟩ := exists_finds_attempt close rest
  exact finds_skip.bind_fails (told.bind_fails (closed.bind_fails ⟨flaw, later, rfl⟩))

section Members

variable {names : List String} {step : σ → String → Decoder σ} {k : Nat} {atStart : Bool}
  {seenNames : List String} {state next final : σ} {name : String} {value : List Char}

theorem finds_label (atStart : Bool) (name : String) (rest : List Char) :
    Finds (nextName atStart) (label atStart name ++ rest) (some name) (':' :: rest) := by
  rw [label, List.append_assoc]
  exact finds_nextName atStart name (':' :: rest)

/-- A member of a known `name`, of which `value` is found. -/
theorem finds_named (next : σ) (known : names.contains name)
    (fresh : seenNames.contains name = false)
    (first : Finds (step state name) (value ++ rest) next rest)
    (others : Finds (named names step k false (name :: seenNames) next) rest final middle) :
    Finds (named names step (k + 1) atStart seenNames state)
      (label atStart name ++ (value ++ rest)) final middle := by
  refine .bind (finds_label atStart name (value ++ rest)) ?_
  dsimp only
  rw [if_pos known, fresh, if_neg (by decide)]
  exact .bind finds_colon (.bind first others)

/-- A member of a known `name`, of which `value` is not found. -/
theorem fails_named (known : names.contains name) (fresh : seenNames.contains name = false)
    (first : Fails (step state name) (value ++ rest)) :
    Fails (named names step (k + 1) atStart seenNames state)
      (label atStart name ++ (value ++ rest)) := by
  refine (finds_label atStart name (value ++ rest)).bind_fails ?_
  dsimp only
  rw [if_pos known, fresh, if_neg (by decide)]
  exact finds_colon.bind_fails first.bind

/-- A flaw after the member `name` is a flaw. -/
theorem Fails.named (known : names.contains name) (fresh : seenNames.contains name = false)
    (first : Finds (step state name) (value ++ rest) next rest)
    (others : Fails (named names step k false (name :: seenNames) next) rest) :
    Fails (named names step (k + 1) atStart seenNames state)
      (label atStart name ++ (value ++ rest)) := by
  refine (finds_label atStart name (value ++ rest)).bind_fails ?_
  dsimp only
  rw [if_pos known, fresh, if_neg (by decide)]
  exact finds_colon.bind_fails (first.bind_fails others)

/-- A member of a `name` that is not known is passed over. -/
theorem finds_unnamed (unknown : names.contains name = false)
    (first : Finds ignored (value ++ rest) () rest)
    (others : Finds (named names step k false seenNames state) rest final middle) :
    Finds (named names step (k + 1) atStart seenNames state)
      (label atStart name ++ (value ++ rest)) final middle := by
  refine .bind (finds_label atStart name (value ++ rest)) ?_
  dsimp only
  rw [unknown, if_neg (by decide)]
  exact .bind finds_colon (.bind first others)

theorem finds_named_end : Finds (named names step (k + 1) atStart seenNames state)
    ('\x7d' :: rest) state ('\x7d' :: rest) :=
  .bind (finds_nextName_end atStart) finds_pure

/-- An object whose members are found is read as `a`. -/
theorem finds_record {start : σ} {finish : σ → Option α} (final : σ)
    (members : Finds (named names step ('\x7b' :: input).length true [] start) input final
      ('\x7d' :: rest)) (finished : finish final = some a) :
    Finds (record names step start finish) ('\x7b' :: input) a rest := by
  refine .bind finds_bound (.bind (finds_peek rfl) ?_)
  refine .enclosed (.bind members ?_) finds_objectEnd
  rw [finished]
  exact finds_pure

/-- An object with a member that is not found. -/
theorem fails_record {start : σ} {finish : σ → Option α}
    (members : Fails (named names step ('\x7b' :: input).length true [] start) input) :
    Fails (record names step start finish) ('\x7b' :: input) :=
  finds_bound.bind_fails ((finds_peek rfl).bind_fails members.bind.enclosed)

end Members

/-! ### All of a text -/

theorem run_of_finds (found : Finds d (seen text) a []) : d.run (Utf8.encode text) = .ok a := by
  have same : EStateM.run d ((Utf8.encode text).map fun b => Char.ofNat b.toNat) = .ok a [] := found
  rw [run, same]
  rfl

theorem run_of_fails (fails : Fails d (seen text)) :
    ∃ flaw, d.run (Utf8.encode text) = .error flaw := by
  obtain ⟨flaw, rest, stops⟩ := fails
  have same : EStateM.run d ((Utf8.encode text).map fun b => Char.ofNat b.toNat) =
    .error flaw rest := stops
  exact ⟨flaw, by rw [run, same]⟩

end Decoder

end GraphBroker.Json
