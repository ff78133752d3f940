import GraphBroker.Proofs.Engine.InMemory
import GraphBroker.Proofs.Sparql.Accepted
import GraphBroker.Proofs.Sparql.Grammar
import GraphBroker.Proofs.Sparql.Lines

/-!
# Updates in one text

Two updates may be sent as one text, with a semicolon on a line of its own between them. The second
is then read with the prefixes of the first still declared. This changes nothing, since it was read
without them, so that each of its names finds a declaration of its own first.

## Main definitions

* `Sparql.Takes`: a reader takes some tokens, whatever follows them and whatever was declared
  earlier.
* `Sparql.LeavesOff`: tokens that end with a semicolon, or with declarations after one.

## Main statements

* `takes_of_operation`: the reader of operations does so.
* `DerivesUpdate.append`, `DerivesUpdate.append_right`: operations with others after a semicolon,
  and with more declared before them.
* `batch_reads_as_parts`: what is read of two updates in one text, and what it does.
-/

namespace GraphBroker.Sparql

variable {α : Type} {allowVars : Bool} {prefixes earlier declared : Prefixes}
  {ts us rest : List Token} {op : Operation} {ops others : List Operation}
  {patterns : List TriplePattern} {triples : List Triple}
  {reader : Prefixes → List Token → Parsed α} {a : α}

/-! ### Operations -/

/-- The `reader` takes the tokens `us` for `a`, whatever follows them and whatever was declared
earlier. -/
def Takes (reader : Prefixes → List Token → Parsed α) (prefixes : Prefixes) (us : List Token)
    (a : α) : Prop :=
  ∀ earlier more, reader (prefixes ++ earlier) (us ++ more) = .ok (a, more)

theorem Takes.read (takes : Takes reader prefixes us a) (rest : List Token) :
    reader prefixes (us ++ rest) = .ok (a, rest) := by
  have read := takes [] rest
  rwa [List.append_nil] at read

theorem Takes.append_right (takes : Takes reader prefixes us a) :
    Takes reader (prefixes ++ earlier) us a := by
  intro others more
  rw [List.append_assoc]
  exact takes _ more

theorem takes_of_group (read : group allowVars prefixes ts = .ok (patterns, rest)) :
    ∃ us, ts = .lbrace :: us ++ rest ∧
      Takes (group allowVars) prefixes (.lbrace :: us) patterns := by
  obtain ⟨us, rfl, derives⟩ := group_eq_ok_iff.1 read
  have takes : Takes (group allowVars) prefixes us patterns := fun earlier more =>
    group_eq_ok_iff.2 ⟨us, rfl, derives.append_right⟩
  cases derives with
  | empty => exact ⟨_, rfl, takes⟩
  | blocks => exact ⟨_, rfl, takes⟩

theorem takes_of_groundGroup (read : groundGroup prefixes ts = .ok (triples, rest)) :
    ∃ us, ts = us ++ rest ∧ Takes groundGroup prefixes us triples := by
  obtain ⟨us, rfl, takes⟩ := takes_of_group (groundGroup_eq_ok_iff.1 read)
  exact ⟨_, rfl, fun earlier more => groundGroup_eq_ok_iff.2 (takes earlier more)⟩

theorem takes_of_wherePart (read : wherePart prefixes ts = .ok (patterns, rest)) :
    ∃ w us, isKeyword "WHERE" w ∧ ts = .word w :: us ++ rest ∧
      Takes wherePart prefixes (.word w :: us) patterns := by
  obtain ⟨after, found, grouped⟩ := wherePart_eq_ok_iff.1 read
  obtain ⟨w, is, rfl⟩ := keyword?_eq_some_iff.1 found
  obtain ⟨us, rfl, takes⟩ := takes_of_group grouped
  exact ⟨w, _, is, rfl, fun earlier more =>
    wherePart_eq_ok_iff.2 ⟨_, keyword?_word is _, takes earlier more⟩⟩

theorem takes_of_insertion (read : insertion prefixes ts = .ok (op, rest)) :
    ∃ us, ts = us ++ rest ∧ Takes insertion prefixes us op := by
  rcases insertion_eq_ok_iff.1 read with ⟨after, triples, data, grouped, rfl⟩ |
    ⟨insert, pattern, after, -, grouped, conditioned, rfl⟩
  · obtain ⟨w, is, rfl⟩ := keyword?_eq_some_iff.1 data
    obtain ⟨us, rfl, takes⟩ := takes_of_groundGroup grouped
    exact ⟨.word w :: us, rfl, fun earlier more => insertion_eq_ok_iff.2
      (.inl ⟨_, triples, keyword?_word is _, takes earlier more, rfl⟩)⟩
  · obtain ⟨us, rfl, template⟩ := takes_of_group grouped
    obtain ⟨w, vs, -, rfl, condition⟩ := takes_of_wherePart conditioned
    refine ⟨.lbrace :: us ++ (.word w :: vs), (List.append_assoc ..).symm, fun earlier more => ?_⟩
    rw [List.append_assoc]
    -- A brace is no keyword, so that the template is read.
    exact insertion_eq_ok_iff.2 (.inr ⟨insert, pattern, _, rfl, template earlier _,
      condition earlier more, rfl⟩)

/-- The template may be missing. Then the keyword `w` of the condition stands in its place. -/
theorem takes_of_insertPart {w : String} (isWhere : isKeyword "WHERE" w)
    (read : insertPart prefixes ts = .ok (patterns, .word w :: rest)) :
    ∃ us, ts = us ++ .word w :: rest ∧ ∀ earlier more,
      insertPart (prefixes ++ earlier) (us ++ .word w :: more) =
        .ok (patterns, .word w :: more) := by
  rcases insertPart_eq_ok_iff.1 read with ⟨after, insert, grouped⟩ | ⟨-, rfl, rfl⟩
  · obtain ⟨i, isInsert, rfl⟩ := keyword?_eq_some_iff.1 insert
    obtain ⟨us, rfl, takes⟩ := takes_of_group grouped
    exact ⟨.word i :: .lbrace :: us, rfl, fun earlier more =>
      insertPart_eq_ok_iff.2 (.inl ⟨_, keyword?_word isInsert _, takes earlier _⟩)⟩
  · have other (more : List Token) : keyword? "INSERT" (.word w :: more) = none :=
      keyword?_other isWhere (by decide) more
    exact ⟨[], rfl, fun earlier more => insertPart_eq_ok_iff.2 (.inr ⟨other more, rfl, rfl⟩)⟩

theorem takes_of_deletion (read : deletion prefixes ts = .ok (op, rest)) :
    ∃ us, ts = us ++ rest ∧ Takes deletion prefixes us op := by
  rcases deletion_eq_ok_iff.1 read with ⟨after, triples, data, grouped, rfl⟩ |
    ⟨after, pattern, -, condition, grouped, rfl⟩ |
    ⟨delete, insert, pattern, _, _, -, -, grouped, inserted, conditioned, rfl⟩
  · obtain ⟨w, is, rfl⟩ := keyword?_eq_some_iff.1 data
    obtain ⟨us, rfl, takes⟩ := takes_of_groundGroup grouped
    exact ⟨.word w :: us, rfl, fun earlier more => deletion_eq_ok_iff.2
      (.inl ⟨_, triples, keyword?_word is _, takes earlier more, rfl⟩)⟩
  · obtain ⟨w, is, rfl⟩ := keyword?_eq_some_iff.1 condition
    obtain ⟨us, rfl, takes⟩ := takes_of_group grouped
    exact ⟨.word w :: .lbrace :: us, rfl, fun earlier more => deletion_eq_ok_iff.2
      (.inr (.inl ⟨_, pattern, keyword?_other is (by decide) _, keyword?_word is _,
        takes earlier more, rfl⟩))⟩
  · obtain ⟨us, rfl, template⟩ := takes_of_group grouped
    obtain ⟨w, ws, isWhere, rfl, condition⟩ := takes_of_wherePart conditioned
    obtain ⟨vs, rfl, addition⟩ := takes_of_insertPart isWhere inserted
    refine ⟨.lbrace :: us ++ (vs ++ .word w :: ws), by simp, fun earlier more => ?_⟩
    have whole : .lbrace :: us ++ (vs ++ .word w :: ws) ++ more =
        .lbrace :: us ++ (vs ++ .word w :: (ws ++ more)) := by simp
    rw [whole]
    exact deletion_eq_ok_iff.2 (.inr (.inr ⟨delete, insert, pattern, _, _, rfl, rfl,
      template earlier _, addition earlier _, condition earlier more, rfl⟩))

theorem takes_of_clearing (read : clearing ts = .ok (op, rest)) :
    ∃ us, ts = us ++ rest ∧ ∀ more, clearing (us ++ more) = .ok (op, more) := by
  obtain ⟨silent, isSilent, parts⟩ := exists_skipKeyword "SILENT" ts
  obtain ⟨rfl, target⟩ := clearing_eq_ok_iff.1 read
  simp only [keyword?_eq_some_iff, ← exists_or, ← or_and_right] at target
  obtain ⟨w, is, same⟩ := target
  rw [same] at parts
  refine ⟨silent.toList.map .word ++ [.word w], by rw [parts]; simp, fun more => ?_⟩
  -- What is cleared is said by one keyword, which is not the one that may stand before it.
  have other : keyword? "SILENT" (.word w :: more) = none := by
    rcases is with is | is <;> exact keyword?_other is (by decide) more
  rw [List.append_assoc, List.singleton_append]
  refine clearing_eq_ok_iff.2 ⟨rfl, ?_⟩
  rw [skipKeyword_append isSilent other]
  exact is.imp (keyword?_word · more) (keyword?_word · more)

theorem takes_of_operation (read : operation prefixes ts = .ok (op, rest)) :
    ∃ us, ts = us ++ rest ∧ Takes operation prefixes us op := by
  obtain ⟨after, ⟨insert, inserted⟩ | ⟨delete, deleted⟩ | ⟨clear, cleared⟩⟩ :=
    operation_eq_ok_iff.1 read
  · obtain ⟨w, is, rfl⟩ := keyword?_eq_some_iff.1 insert
    obtain ⟨us, rfl, takes⟩ := takes_of_insertion inserted
    exact ⟨.word w :: us, rfl, fun earlier more => operation_eq_ok_iff.2
      ⟨_, .inl ⟨keyword?_word is _, takes earlier more⟩⟩⟩
  · obtain ⟨w, is, rfl⟩ := keyword?_eq_some_iff.1 delete
    obtain ⟨us, rfl, takes⟩ := takes_of_deletion deleted
    exact ⟨.word w :: us, rfl, fun earlier more => operation_eq_ok_iff.2
      ⟨_, .inr (.inl ⟨keyword?_word is _, takes earlier more⟩)⟩⟩
  · obtain ⟨w, is, rfl⟩ := keyword?_eq_some_iff.1 clear
    obtain ⟨us, rfl, takes⟩ := takes_of_clearing cleared
    exact ⟨.word w :: us, rfl, fun _ more => operation_eq_ok_iff.2
      ⟨_, .inr (.inr ⟨keyword?_word is _, takes more⟩)⟩⟩

/-! ### Updates -/

theorem Declares.append_right (declares : Declares prefixes us declared) :
    Declares (prefixes ++ earlier) us (declared ++ earlier) := by
  induction declares with
  | nil => exact .nil
  | cons keyword _ ih => exact .cons keyword ih

/-- An operation starts with a keyword that declares no prefix, which is not `PREFIX`. -/
theorem keyword?_of_operation (read : operation prefixes ts = .ok (op, rest)) :
    keyword? "PREFIX" ts = none := by
  obtain ⟨after, ⟨insert, -⟩ | ⟨delete, -⟩ | ⟨clear, -⟩⟩ := operation_eq_ok_iff.1 read
  · exact keyword?_eq_none_of_other insert (by decide)
  · exact keyword?_eq_none_of_other delete (by decide)
  · exact keyword?_eq_none_of_other clear (by decide)

/-- The tokens spell the operations: declarations, an operation after them, and others after a
semicolon. The prefixes are those that are declared at the end. -/
inductive DerivesUpdate : Prefixes → List Token → List Operation → Prefixes → Prop where
  /-- The declarations `us` only. -/
  | nil {prefixes declared : Prefixes} {us : List Token}
      (declares : Declares prefixes us declared) : DerivesUpdate prefixes us [] declared
  /-- One operation `op`, or the last of them. -/
  | last {prefixes declared : Prefixes} {us vs : List Token} {op : Operation}
      (declares : Declares prefixes us declared) (takes : Takes operation declared vs op) :
      DerivesUpdate prefixes (us ++ vs) [op] declared
  /-- An operation `op`, and what follows the semicolon after it. -/
  | more {prefixes declared last : Prefixes} {us vs ws : List Token} {op : Operation}
      {ops : List Operation} (declares : Declares prefixes us declared)
      (takes : Takes operation declared vs op) (rest : DerivesUpdate declared ws ops last) :
      DerivesUpdate prefixes (us ++ (vs ++ .semicolon :: ws)) (op :: ops) last

theorem derives_of_operations (read : operations prefixes ts = .ok ops) :
    ∃ declared, DerivesUpdate prefixes ts ops declared := by
  fun_induction operations prefixes ts generalizing ops with
  | case1 | case3 => cases read
  | case2 prefixes ts declared start =>
    cases read
    obtain ⟨us, rfl, declares, -⟩ := prologue_eq_ok_iff.1 start
    rw [List.append_nil]
    exact ⟨declared, .nil declares⟩
  | case4 prefixes ts declared t after start op rest first _ ih =>
    obtain ⟨others, later, rfl⟩ := map_eq_ok_iff.1 read
    obtain ⟨us, rfl, declares, -⟩ := prologue_eq_ok_iff.1 start
    obtain ⟨vs, same, takes⟩ := takes_of_operation first
    obtain ⟨last, derives⟩ := ih later
    rw [same]
    exact ⟨last, .more declares takes derives⟩
  | case5 prefixes ts declared t after start op rest _ first =>
    unfold atEnd at read
    split at read <;> cases read
    rename_i ends
    cases ends
    obtain ⟨us, rfl, declares, -⟩ := prologue_eq_ok_iff.1 start
    obtain ⟨vs, same, takes⟩ := takes_of_operation first
    rw [same, List.append_nil]
    exact ⟨declared, .last declares takes⟩

namespace DerivesUpdate

theorem operations_eq (derives : DerivesUpdate prefixes ts ops declared) :
    operations prefixes ts = .ok ops := by
  induction derives with
  | nil declares =>
    exact operations_nil (prologue_eq_ok_iff.2 ⟨_, (List.append_nil _).symm, declares, rfl⟩)
  | @last prefixes declared us vs op declares takes =>
    have read : operation declared vs = .ok (op, []) := by simpa using takes.read []
    have start : prologue prefixes (us ++ vs) = .ok (declared, vs) :=
      prologue_eq_ok_iff.2 ⟨us, rfl, declares, keyword?_of_operation read⟩
    exact operations_last start read
  | @more prefixes declared last us vs ws op ops declares takes _ ih =>
    have read : operation declared (vs ++ .semicolon :: ws) = .ok (op, .semicolon :: ws) :=
      takes.read _
    have start : prologue prefixes (us ++ (vs ++ .semicolon :: ws)) =
        .ok (declared, vs ++ .semicolon :: ws) :=
      prologue_eq_ok_iff.2 ⟨us, rfl, declares, keyword?_of_operation read⟩
    rw [operations_semicolon start read, ih]
    rfl

/-- What was declared `earlier` is of no consequence. -/
theorem append_right (derives : DerivesUpdate prefixes ts ops declared) :
    DerivesUpdate (prefixes ++ earlier) ts ops (declared ++ earlier) := by
  induction derives with
  | nil declares => exact .nil declares.append_right
  | last declares takes => exact .last declares.append_right takes.append_right
  | more declares takes _ ih => exact .more declares.append_right takes.append_right ih

end DerivesUpdate

/-- The tokens `ts` end with a semicolon, or with declarations after one. -/
def LeavesOff (ts : List Token) : Prop :=
  ∃ us vs before after, ts = us ++ .semicolon :: vs ∧ Declares before vs after

/-- The operations `others` may follow a semicolon after the last of `ops`, and what has been
declared is still declared for them. -/
theorem DerivesUpdate.append {last : Prefixes} (derives : DerivesUpdate prefixes ts ops declared)
    (inhabited : ops ≠ []) (ends : ¬LeavesOff ts) (next : DerivesUpdate declared us others last) :
    DerivesUpdate prefixes (ts ++ .semicolon :: us) (ops ++ others) last := by
  induction derives with
  | nil => exact absurd rfl inhabited
  | last declares takes =>
    rw [List.append_assoc]
    exact .more declares takes next
  | @more prefixes declared last us vs ws op ops declares takes rest ih =>
    have inhabitedRest : ops ≠ [] := by
      rintro rfl
      cases rest with
      | nil others => exact ends ⟨us ++ vs, ws, _, _, (List.append_assoc ..).symm, others⟩
    have endsRest : ¬LeavesOff ws := by
      rintro ⟨vs', ws', before, after, rfl, others⟩
      exact ends ⟨us ++ (vs ++ .semicolon :: vs'), ws', before, after, by simp, others⟩
    rw [List.append_assoc, List.append_assoc]
    exact .more declares takes (ih inhabitedRest endsRest next)

/-- Declarations `us` end with an IRI. -/
theorem Declares.eq_nil_or_getLast? (declares : Declares prefixes us declared) :
    us = [] ∨ ∃ iri, us.getLast? = some (.iri iri) := by
  induction declares with
  | nil => exact .inl rfl
  | @cons _ _ _ _ iri us _ _ ih =>
    rcases ih with rfl | ⟨last, ends⟩
    · exact .inr ⟨iri, rfl⟩
    · exact .inr ⟨last, by simp [List.getLast?_cons, ends]⟩

/-- If the tokens `ts` leave off, they end with a semicolon or an IRI, as no operation does. -/
theorem LeavesOff.getLast? (leaves : LeavesOff ts) :
    ts.getLast? = some .semicolon ∨ ∃ iri, ts.getLast? = some (.iri iri) := by
  obtain ⟨us, vs, _, _, rfl, declares⟩ := leaves
  rcases declares.eq_nil_or_getLast? with rfl | ⟨iri, ends⟩
  · exact .inl List.getLast?_concat
  · exact .inr ⟨iri, by simp [List.getLast?_append, List.getLast?_cons, ends]⟩

/-! ### Texts -/

theorem parseList_eq_ok_iff {text : String} : Operation.parseList text = .ok ops ↔
    ops ≠ [] ∧ ∃ ts declared, tokenize text = .ok ts ∧ DerivesUpdate [] ts ops declared := by
  constructor
  · intro read
    obtain ⟨ts, tokens, read⟩ := bind_eq_ok_iff.1 read
    unfold Operation.listOfTokens at read
    split at read
    case h_1 => cases read
    case h_2 inhabited =>
      refine ⟨?_, ts, ?_⟩
      · rintro rfl
        exact inhabited read
      · obtain ⟨declared, derives⟩ := derives_of_operations read
        exact ⟨declared, tokens, derives⟩
  · rintro ⟨inhabited, ts, declared, tokens, derives⟩
    refine bind_eq_ok_iff.2 ⟨ts, tokens, ?_⟩
    rw [Operation.listOfTokens, derives.operations_eq]
    split
    case h_1 none => exact absurd (Except.ok.inj none) inhabited
    case h_2 => rfl

/-- A semicolon on a line of its own stands between the tokens of `a` and `b`. -/
theorem tokenize_joined {a b : String} (first : tokenize a = .ok ts)
    (second : tokenize b = .ok us) :
    tokenize (a ++ "\n;\n" ++ b) = .ok (ts ++ .semicolon :: us) := by
  have chars : (a ++ "\n;\n" ++ b).toList = a.toList ++ '\n' :: ';' :: '\n' :: b.toList := by simp
  have semicolon : lexeme ';' ('\n' :: b.toList) = .ok (.token .semicolon, '\n' :: b.toList) := rfl
  unfold tokenize at first second ⊢
  rw [chars, tokensOf_append_line first, tokensOf_of_lexeme semicolon, tokensOf_line, second]
  rfl

/-- Two updates that can be read are read in one text with a semicolon on a line of its own between
them, unless the first leaves off. The engine in memory does the same for the one text as for the
two, one after the other. It is of no consequence which prefixes they declare, and whether they end
with a comment. -/
theorem batch_reads_as_parts {a b : String} (first : Operation.parseList a = .ok ops)
    (second : Operation.parseList b = .ok others)
    (ends : ∀ ts, tokenize a = .ok ts → ¬LeavesOff ts) :
    Operation.parseList (a ++ "\n;\n" ++ b) = .ok (ops ++ others) ∧
    ∀ g : Graph, ∃ between after : Memory,
      QueryEngine.update a (Memory.mk g) = (.given (.ok ()), between) ∧
      QueryEngine.update b between = (.given (.ok ()), after) ∧
      QueryEngine.update (a ++ "\n;\n" ++ b) (Memory.mk g) = (.given (.ok ()), after) := by
  have joined : Operation.parseList (a ++ "\n;\n" ++ b) = .ok (ops ++ others) := by
    obtain ⟨inhabited, ts, declared, tokens, derives⟩ := parseList_eq_ok_iff.1 first
    obtain ⟨-, us, last, tokens', derives'⟩ := parseList_eq_ok_iff.1 second
    -- The second text is read where the declarations of the first are in force.
    have next : DerivesUpdate declared us others (last ++ declared) := derives'.append_right
    refine parseList_eq_ok_iff.2 ⟨?_, _, _, tokenize_joined tokens tokens',
      derives.append inhabited (ends ts tokens) next⟩
    exact List.append_ne_nil_of_left_ne_nil inhabited others
  refine ⟨joined, fun g => ⟨_, _, Memory.update_of_parse first, Memory.update_of_parse second, ?_⟩⟩
  have composed : applyAll (applyAll g ops) others = applyAll g (ops ++ others) :=
    List.foldl_append.symm
  rw [composed]
  exact Memory.update_of_parse joined

/-- Adds a triple, and ends with a comment. -/
def addsOne : String :=
  "PREFIX ex: <http://one/> INSERT DATA \x7b ex:a ex:p ex:b \x7d # ; and no more"

/-- Replaces it by another one, and gives the prefix another meaning. -/
def replacesOne : String :=
  "DELETE DATA \x7b <http://one/a> <http://one/p> <http://one/b> \x7d ;
  PREFIX ex: <http://two/> INSERT DATA \x7b ex:a ex:p ex:b \x7d ;"

/-- The first meaning of the prefix is gone when `replacesOne` uses it. -/
theorem batch_reads_as_parts_replacement :
    ∃ after : Memory, QueryEngine.update (addsOne ++ "\n;\n" ++ replacesOne) (Memory.mk ∅) =
        (.given (.ok ()), after) ∧
      after.graph.triples = [⟨.iri "http://two/a", .iri "http://two/p", .iri "http://two/b"⟩] := by
  have first : Operation.parseList addsOne =
      .ok [.insertData [⟨.iri "http://one/a", .iri "http://one/p", .iri "http://one/b"⟩]] :=
    ok_of_toOption (by decide +kernel)
  have second : Operation.parseList replacesOne =
      .ok [.deleteData [⟨.iri "http://one/a", .iri "http://one/p", .iri "http://one/b"⟩],
        .insertData [⟨.iri "http://two/a", .iri "http://two/p", .iri "http://two/b"⟩]] :=
    ok_of_toOption (by decide +kernel)
  have ends : ∀ ts, tokenize addsOne = .ok ts → ¬LeavesOff ts := by
    intro ts read leaves
    have last : (tokenize addsOne).toOption.bind List.getLast? = some .rbrace := by decide +kernel
    rw [read] at last
    change ts.getLast? = some .rbrace at last
    rcases leaves.getLast? with ends | ⟨iri, ends⟩ <;> rw [last] at ends <;> cases ends
  obtain ⟨joined, -⟩ := batch_reads_as_parts first second ends
  exact ⟨_, Memory.update_of_parse joined, by decide +kernel⟩

end GraphBroker.Sparql
