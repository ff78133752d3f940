import GraphBroker.Proofs.Sparql.Reading

/-!
# Reading a printed update back

An update is written and read like a query: its operations consist of keywords and groups, with
semicolons between them.

## Main definitions

* `Operation.wellFormed`, `Operation.listWellFormed`: updates that can be written.
* `Operation.words`, `Operation.tokens`: the words and tokens of an operation.

## Main statements

* `line_updateWords`: the text of an update consists of its words.
* `insertion_eq_ok_iff`, `deletion_eq_ok_iff`, `operation_eq_ok_iff`: what an operation is read
  from.
* `operation_tokens`, `operations_tokens`: what is read of the parts.
* `parseList_printList`: a well-formed update is read back.
-/

namespace GraphBroker.Sparql

variable {prefixes declared : Prefixes} {ts us rest : List Token} {triples : List Triple}
  {patterns : List TriplePattern} {op : Operation} {ops : List Operation} {keyword : String}

/-! ### What can be written -/

namespace Operation

/-- Operations that can be written. -/
def wellFormed : Operation → Bool
  | insertData triples | deleteData triples =>
    (triples.map TriplePattern.ofTriple).all TriplePattern.wellFormed
  | deleteWhere pattern => pattern.all TriplePattern.wellFormed
  | modify delete insert pattern =>
    delete.all TriplePattern.wellFormed && insert.all TriplePattern.wellFormed &&
      pattern.all TriplePattern.wellFormed
  | clear => true

/-- Updates that can be written: they have an operation, and each of `ops` can be written. -/
def listWellFormed (ops : List Operation) : Bool :=
  !ops.isEmpty && ops.all wellFormed

/-! ### Words and tokens -/

/-- The words of an operation. -/
def words : Operation → List (List Char)
  | insertData triples =>
    "INSERT".toList :: "DATA".toList :: groupWords (triples.map TriplePattern.ofTriple)
  | deleteData triples =>
    "DELETE".toList :: "DATA".toList :: groupWords (triples.map TriplePattern.ofTriple)
  | deleteWhere pattern => "DELETE".toList :: "WHERE".toList :: groupWords pattern
  | modify delete insert pattern =>
    "DELETE".toList :: (groupWords delete ++ "INSERT".toList :: (groupWords insert ++
      "WHERE".toList :: groupWords pattern))
  | clear => ["CLEAR".toList, "ALL".toList]

/-- The tokens of an operation. -/
def tokens : Operation → List Token
  | insertData triples =>
    .word "INSERT" :: .word "DATA" :: groupTokens (triples.map TriplePattern.ofTriple)
  | deleteData triples =>
    .word "DELETE" :: .word "DATA" :: groupTokens (triples.map TriplePattern.ofTriple)
  | deleteWhere pattern => .word "DELETE" :: .word "WHERE" :: groupTokens pattern
  | modify delete insert pattern =>
    .word "DELETE" :: (groupTokens delete ++ .word "INSERT" :: (groupTokens insert ++
      .word "WHERE" :: groupTokens pattern))
  | clear => [.word "CLEAR", .word "ALL"]

end Operation

theorem line_words_operation : line op.words = ' ' :: op.chars := by
  unfold Operation.words Operation.chars
  cases op <;> simp [line_groupWords]

/-- The text of an update `ops` consists of its words. -/
theorem line_updateWords (inhabited : ops ≠ []) :
    line ([[';']].intercalate (ops.map Operation.words)) =
      ' ' :: " ; ".toList.intercalate (ops.map Operation.chars) := by
  obtain ⟨first, others, rfl⟩ := List.exists_cons_of_ne_nil inhabited
  have each : line ∘ Operation.words = fun op => ' ' :: op.chars :=
    funext fun op => line_words_operation
  have blanks := intercalate_blank [' ', ';'] first.chars (others.map Operation.chars)
  rw [← List.map_cons, List.map_map] at blanks
  rw [line_intercalate, List.map_map, each]
  exact blanks

theorem lexes_operation (wf : op.wellFormed) : Lexes (line op.words) op.tokens := by
  have insert : Lexes "INSERT".toList [.word "INSERT"] := lexes_word (by decide) (by decide)
  have delete : Lexes "DELETE".toList [.word "DELETE"] := lexes_word (by decide) (by decide)
  have data : Lexes "DATA".toList [.word "DATA"] := lexes_word (by decide) (by decide)
  have clear : Lexes "CLEAR".toList [.word "CLEAR"] := lexes_word (by decide) (by decide)
  have all : Lexes "ALL".toList [.word "ALL"] := lexes_word (by decide) (by decide)
  cases op with
  | insertData triples => exact insert.cons (data.cons (lexes_group wf))
  | deleteData triples => exact delete.cons (data.cons (lexes_group wf))
  | deleteWhere pattern => exact delete.cons (lexes_where.cons (lexes_group wf))
  | modify deleted inserted pattern =>
    simp only [Operation.wellFormed, Bool.and_eq_true] at wf
    obtain ⟨⟨wfDeleted, wfInserted⟩, wfPattern⟩ := wf
    exact delete.cons ((lexes_group wfDeleted).append (insert.cons
      ((lexes_group wfInserted).append (lexes_where.cons (lexes_group wfPattern)))))
  | clear => exact clear.cons all.one

/-- An update `ops` is read as its tokens. -/
theorem lexes_update (wf : ops.all Operation.wellFormed) :
    Lexes (line ([[';']].intercalate (ops.map Operation.words)))
      ([.semicolon].intercalate (ops.map Operation.tokens)) :=
  .intercalate (lexes_sign rfl) fun op listed =>
    lexes_operation (List.all_eq_true.1 wf op listed)

/-! ### Operations -/

theorem ground?_eq_some_iff {p : TriplePattern} {triple : Triple} :
    p.ground? = some triple ↔ p = .ofTriple triple := by
  obtain ⟨s, r, o⟩ := p
  obtain ⟨s', r', o'⟩ := triple
  cases s <;> cases r <;> cases o <;>
    simp [TriplePattern.ground?, TriplePattern.ofTriple, PatternTerm.term?]

/-- The `patterns` are triples if all of them are without variables. -/
theorem mapM_ground?_eq_some_iff :
    patterns.mapM TriplePattern.ground? = some triples ↔
      patterns = triples.map TriplePattern.ofTriple := by
  induction patterns generalizing triples with
  | nil => cases triples <;> simp
  | cons p patterns ih =>
    rw [List.mapM_cons]
    cases triples with
    | nil => simp [Option.bind_eq_some_iff]
    | cons triple triples =>
      simp only [bind, pure, Option.bind_eq_some_iff, ground?_eq_some_iff, ih, Option.some.injEq,
        List.cons.injEq, List.map_cons]
      constructor
      · rintro ⟨_, rfl, _, rfl, rfl, rfl⟩
        exact ⟨rfl, rfl⟩
      · rintro ⟨rfl, rfl⟩
        exact ⟨triple, rfl, triples, rfl, rfl, rfl⟩

/-- The `triples` of a group are its patterns, none of which has a variable. -/
theorem groundGroup_eq_ok_iff : groundGroup prefixes ts = .ok (triples, rest) ↔
    group false prefixes ts = .ok (triples.map TriplePattern.ofTriple, rest) := by
  constructor
  · intro read
    obtain ⟨⟨patterns, after⟩, grouped, read⟩ := bind_eq_ok_iff.1 read
    dsimp only at read
    split at read <;> cases read
    rename_i ground
    obtain rfl := mapM_ground?_eq_some_iff.1 ground
    exact grouped
  · intro grouped
    refine bind_eq_ok_iff.2 ⟨_, grouped, ?_⟩
    dsimp only
    rw [mapM_ground?_eq_some_iff.2 rfl]
    rfl

theorem wherePart_eq_ok_iff : wherePart prefixes ts = .ok (patterns, rest) ↔
    ∃ after, keyword? "WHERE" ts = some after ∧
      group true prefixes after = .ok (patterns, rest) := by
  unfold wherePart
  rw [bind_eq_ok_iff]
  exact exists_congr fun after => and_congr_left' expectKeyword_eq_ok_iff

/-- There may be no template. -/
theorem insertPart_eq_ok_iff : insertPart prefixes ts = .ok (patterns, rest) ↔
    (∃ after, keyword? "INSERT" ts = some after ∧
      group true prefixes after = .ok (patterns, rest)) ∨
    (keyword? "INSERT" ts = none ∧ patterns = [] ∧ rest = ts) := by
  unfold insertPart
  cases found : keyword? "INSERT" ts with
  | some after => simp
  | none => simp [eq_comm]

/-- An insertion `op` is of data, or it has a template and a condition. -/
theorem insertion_eq_ok_iff : insertion prefixes ts = .ok (op, rest) ↔
    (∃ after triples, keyword? "DATA" ts = some after ∧
      groundGroup prefixes after = .ok (triples, rest) ∧ op = .insertData triples) ∨
    (∃ insert pattern after, keyword? "DATA" ts = none ∧
      group true prefixes ts = .ok (insert, after) ∧
      wherePart prefixes after = .ok (pattern, rest) ∧ op = .modify [] insert pattern) := by
  constructor
  · intro read
    unfold insertion at read
    split at read
    case h_1 after data =>
      obtain ⟨⟨triples, left⟩, grouped, same⟩ := map_eq_ok_iff.1 read
      cases same
      exact .inl ⟨after, triples, data, grouped, rfl⟩
    case h_2 noData =>
      obtain ⟨⟨insert, after⟩, template, read⟩ := bind_eq_ok_iff.1 read
      obtain ⟨⟨pattern, left⟩, condition, same⟩ := bind_eq_ok_iff.1 read
      cases same
      exact .inr ⟨insert, pattern, after, noData, template, condition, rfl⟩
  · rintro (⟨after, triples, data, grouped, rfl⟩ |
      ⟨insert, pattern, after, noData, template, condition, rfl⟩)
    · rw [insertion, data]
      exact map_eq_ok_iff.2 ⟨_, grouped, rfl⟩
    · rw [insertion, noData]
      exact bind_eq_ok_iff.2 ⟨_, template, bind_eq_ok_iff.2 ⟨_, condition, rfl⟩⟩

/-- A deletion `op` is of data, of what a condition says, or it has a template and a condition with
another template between them. -/
theorem deletion_eq_ok_iff : deletion prefixes ts = .ok (op, rest) ↔
    (∃ after triples, keyword? "DATA" ts = some after ∧
      groundGroup prefixes after = .ok (triples, rest) ∧ op = .deleteData triples) ∨
    (∃ after pattern, keyword? "DATA" ts = none ∧ keyword? "WHERE" ts = some after ∧
      group true prefixes after = .ok (pattern, rest) ∧ op = .deleteWhere pattern) ∨
    (∃ delete insert pattern afterDelete afterInsert,
      keyword? "DATA" ts = none ∧ keyword? "WHERE" ts = none ∧
      group true prefixes ts = .ok (delete, afterDelete) ∧
      insertPart prefixes afterDelete = .ok (insert, afterInsert) ∧
      wherePart prefixes afterInsert = .ok (pattern, rest) ∧
      op = .modify delete insert pattern) := by
  constructor
  · intro read
    unfold deletion at read
    split at read
    case h_1 after data =>
      obtain ⟨⟨triples, left⟩, grouped, same⟩ := map_eq_ok_iff.1 read
      cases same
      exact .inl ⟨after, triples, data, grouped, rfl⟩
    case h_2 after noData condition =>
      obtain ⟨⟨pattern, left⟩, grouped, same⟩ := map_eq_ok_iff.1 read
      cases same
      exact .inr (.inl ⟨after, pattern, noData, condition, grouped, rfl⟩)
    case h_3 noData noCondition =>
      obtain ⟨⟨delete, afterDelete⟩, template, read⟩ := bind_eq_ok_iff.1 read
      obtain ⟨⟨insert, afterInsert⟩, addition, read⟩ := bind_eq_ok_iff.1 read
      obtain ⟨⟨pattern, left⟩, condition, same⟩ := bind_eq_ok_iff.1 read
      cases same
      exact .inr (.inr ⟨delete, insert, pattern, afterDelete, afterInsert, noData, noCondition,
        template, addition, condition, rfl⟩)
  · rintro (⟨after, triples, data, grouped, rfl⟩ |
      ⟨after, pattern, noData, condition, grouped, rfl⟩ |
      ⟨delete, insert, pattern, afterDelete, afterInsert, noData, noCondition, template, addition,
        condition, rfl⟩)
    · rw [deletion, data]
      exact map_eq_ok_iff.2 ⟨_, grouped, rfl⟩
    · rw [deletion, noData, condition]
      exact map_eq_ok_iff.2 ⟨_, grouped, rfl⟩
    · rw [deletion, noData, noCondition]
      exact bind_eq_ok_iff.2 ⟨_, template,
        bind_eq_ok_iff.2 ⟨_, addition, bind_eq_ok_iff.2 ⟨_, condition, rfl⟩⟩⟩

/-- No word is two keywords, `keyword` and `other`. -/
theorem keyword?_eq_none_of_other {other : String} (found : keyword? other ts = some rest)
    (different : keyword ≠ other) : keyword? keyword ts = none := by
  obtain ⟨w, is, rfl⟩ := keyword?_eq_some_iff.1 found
  exact keyword?_other is different rest

/-- What is cleared is said by one of two keywords, and another may stand before it. -/
theorem clearing_eq_ok_iff : clearing ts = .ok (op, rest) ↔
    op = .clear ∧ (keyword? "ALL" (skipKeyword "SILENT" ts) = some rest ∨
      keyword? "DEFAULT" (skipKeyword "SILENT" ts) = some rest) := by
  dsimp only [clearing]
  constructor
  · intro read
    split at read
    case h_1 all =>
      cases read
      exact ⟨rfl, .inl all⟩
    case h_2 default =>
      cases read
      exact ⟨rfl, .inr default⟩
    case h_3 => cases read
  · rintro ⟨rfl, all | default⟩
    · rw [all]
    · rw [keyword?_eq_none_of_other default (by decide), default]

/-- An operation `op` starts with one of three keywords. -/
theorem operation_eq_ok_iff : operation prefixes ts = .ok (op, rest) ↔
    ∃ after, (keyword? "INSERT" ts = some after ∧ insertion prefixes after = .ok (op, rest)) ∨
      (keyword? "DELETE" ts = some after ∧ deletion prefixes after = .ok (op, rest)) ∨
      (keyword? "CLEAR" ts = some after ∧ clearing after = .ok (op, rest)) := by
  constructor
  · intro read
    unfold operation at read
    split at read
    case h_1 after insert => exact ⟨after, .inl ⟨insert, read⟩⟩
    case h_2 after _ delete => exact ⟨after, .inr (.inl ⟨delete, read⟩)⟩
    case h_3 after _ _ clear => exact ⟨after, .inr (.inr ⟨clear, read⟩)⟩
    case h_4 => cases read
  · rintro ⟨after, ⟨insert, read⟩ | ⟨delete, read⟩ | ⟨clear, read⟩⟩
    · rw [operation, insert]
      exact read
    · rw [operation, keyword?_eq_none_of_other delete (by decide), delete]
      exact read
    · rw [operation, keyword?_eq_none_of_other clear (by decide),
        keyword?_eq_none_of_other clear (by decide), clear]
      exact read

theorem groundGroup_tokens
    (wf : (triples.map TriplePattern.ofTriple).all TriplePattern.wellFormed) :
    groundGroup prefixes (groupTokens (triples.map TriplePattern.ofTriple) ++ rest) =
      .ok (triples, rest) := by
  have allowed : ∀ p ∈ triples.map TriplePattern.ofTriple, p.Allowed false := by
    intro p listed place inside
    obtain ⟨triple, -, rfl⟩ := List.mem_map.1 listed
    simp only [TriplePattern.places, TriplePattern.ofTriple, List.mem_cons, List.not_mem_nil,
      or_false] at inside
    rcases inside with rfl | rfl | rfl <;> exact .inr rfl
  exact groundGroup_eq_ok_iff.2 (group_tokens (List.all_eq_true.1 wf) allowed)

theorem wherePart_tokens (wf : patterns.all TriplePattern.wellFormed) :
    wherePart prefixes (.word "WHERE" :: (groupTokens patterns ++ rest)) =
      .ok (patterns, rest) :=
  wherePart_eq_ok_iff.2 ⟨_, rfl, group_tokens (List.all_eq_true.1 wf) fun _ _ _ _ => .inl rfl⟩

theorem deletion_tokens {delete insert pattern : List TriplePattern}
    (wfDelete : delete.all TriplePattern.wellFormed)
    (wfInsert : insert.all TriplePattern.wellFormed)
    (wfPattern : pattern.all TriplePattern.wellFormed) :
    deletion prefixes (groupTokens delete ++ .word "INSERT" :: (groupTokens insert ++
      .word "WHERE" :: (groupTokens pattern ++ rest))) =
        .ok (.modify delete insert pattern, rest) := by
  have group {patterns : List TriplePattern} (wf : patterns.all TriplePattern.wellFormed)
      (rest : List Token) : group true prefixes (groupTokens patterns ++ rest) =
        .ok (patterns, rest) :=
    group_tokens (List.all_eq_true.1 wf) fun _ _ _ _ => .inl rfl
  have addition (rest : List Token) : insertPart prefixes
      (.word "INSERT" :: (groupTokens insert ++ rest)) = .ok (insert, rest) :=
    insertPart_eq_ok_iff.2 (.inl ⟨_, rfl, group wfInsert rest⟩)
  exact deletion_eq_ok_iff.2 (.inr (.inr ⟨delete, insert, pattern, _, _, rfl, rfl,
    group wfDelete _, addition _, wherePart_tokens wfPattern, rfl⟩))

/-- An operation `op` is read back, whatever follows. -/
theorem operation_tokens (wf : op.wellFormed) :
    operation prefixes (op.tokens ++ rest) = .ok (op, rest) := by
  cases op with
  | insertData triples =>
    change (groundGroup prefixes (groupTokens _ ++ rest)).map _ = _
    rw [groundGroup_tokens wf]
    rfl
  | deleteData triples =>
    change (groundGroup prefixes (groupTokens _ ++ rest)).map _ = _
    rw [groundGroup_tokens wf]
    rfl
  | deleteWhere pattern =>
    change (group true prefixes (groupTokens pattern ++ rest)).map _ = _
    rw [group_tokens (List.all_eq_true.1 wf) fun _ _ _ _ => .inl rfl]
    rfl
  | modify delete insert pattern =>
    simp only [Operation.wellFormed, Bool.and_eq_true] at wf
    obtain ⟨⟨wfDelete, wfInsert⟩, wfPattern⟩ := wf
    rw [Operation.tokens]
    simp only [List.cons_append, List.append_assoc]
    exact deletion_tokens wfDelete wfInsert wfPattern
  | clear => rfl

/-! ### Updates -/

/-- An operation `op` starts with a keyword that declares no prefix. -/
theorem prologue_tokens :
    prologue prefixes (op.tokens ++ rest) = .ok (prefixes, op.tokens ++ rest) :=
  prologue_of_keyword?_eq_none (by cases op <;> rfl)

theorem inhabited_of_operation (read : operation prefixes ts = .ok (op, rest)) : ts ≠ [] :=
  List.ne_nil_of_length_pos (Nat.zero_lt_of_lt (length_of_operation read))

/-- What follows declarations and the operation `op` with a semicolon after it. -/
theorem operations_semicolon (start : prologue prefixes ts = .ok (declared, us))
    (first : operation declared us = .ok (op, .semicolon :: rest)) :
    operations prefixes ts = (operations declared rest).map (op :: ·) := by
  rw [operations]
  split <;> rename_i found <;> rw [start] at found <;> cases found
  · exact absurd rfl (inhabited_of_operation first)
  · split <;> rename_i read <;> rw [first] at read <;> cases read
    · rfl
    · rename_i noSemicolon
      exact absurd rfl (noSemicolon rest)

theorem operations_last (start : prologue prefixes ts = .ok (declared, us))
    (first : operation declared us = .ok (op, [])) : operations prefixes ts = .ok [op] := by
  rw [operations]
  split <;> rename_i found <;> rw [start] at found <;> cases found
  · exact absurd rfl (inhabited_of_operation first)
  · split <;> rename_i read <;> rw [first] at read <;> cases read
    rfl

theorem operations_nil (start : prologue prefixes ts = .ok (declared, [])) :
    operations prefixes ts = .ok [] := by
  rw [operations]
  split <;> rename_i found <;> rw [start] at found <;> cases found

/-- The operations `ops` of an update are read one after the other. -/
theorem operations_tokens (wf : ops.all Operation.wellFormed) :
    operations prefixes ([.semicolon].intercalate (ops.map Operation.tokens)) = .ok ops := by
  induction ops with
  | nil => exact operations_nil (prologue_of_keyword?_eq_none rfl)
  | cons op ops ih =>
    rw [List.all_cons, Bool.and_eq_true] at wf
    obtain ⟨wfFirst, wfOthers⟩ := wf
    -- A semicolon stands between operations only, not after the last.
    cases ops with
    | nil =>
      have last : operations prefixes (op.tokens ++ []) = .ok [op] :=
        operations_last prologue_tokens (operation_tokens wfFirst)
      rw [List.append_nil] at last
      rwa [List.map_singleton, List.intercalate_singleton]
    | cons next ops =>
      rw [List.map_cons, List.map_cons, List.intercalate_cons_cons, ← List.map_cons,
        List.append_assoc, List.singleton_append,
        operations_semicolon prologue_tokens (operation_tokens wfFirst), ih wfOthers]
      rfl

/-- A well-formed update `ops` is read back from its text. -/
theorem parseList_printList (wf : Operation.listWellFormed ops) :
    Operation.parseList (Operation.printList ops) = .ok ops := by
  simp only [Operation.listWellFormed, Bool.and_eq_true, Bool.not_eq_true',
    List.isEmpty_eq_false_iff] at wf
  obtain ⟨inhabited, wf⟩ := wf
  have tokens := (lexes_update wf).tokensOf_eq
  rw [line_updateWords inhabited, tokensOf_blank] at tokens
  rw [Operation.parseList, tokenize, Operation.printList, String.toList_ofList, tokens]
  change Operation.listOfTokens _ = _
  rw [Operation.listOfTokens, operations_tokens wf]
  cases ops with
  | nil => exact absurd rfl inhabited
  | cons op ops => rfl

end GraphBroker.Sparql
