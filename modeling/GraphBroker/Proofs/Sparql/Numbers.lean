import GraphBroker.Proofs.Sparql.Batches
import GraphBroker.Proofs.Sparql.Forms

/-!
# Numbers in queries and updates

A number without quotes stands for a literal of XML Schema. The readers lose none: each number in a
query or an update is in a place of its patterns as that literal, the number of rows that a query
is limited to apart. So what the lexer takes for a number is what the graph stores, be it written
as its datatype asks or not.

## Main definitions

* `Term.IsNumber`: an integer or a decimal of XML Schema.
* `Token.numeral?`: the literal that a number stands for.
* `Sparql.NumbersIn`: the numbers among tokens are in places of patterns.
* `Sparql.Passes`: a reader goes over tokens and keeps their numbers.

## Main statements

* `DerivesGroup.numbersIn`: what the grammar derives has all numbers of its tokens.
* `passes_of_operation`, `DerivesUpdate.numbersIn`, `exists_numbersIn_of_ofTokens`: the readers
  keep all numbers.
* `tokens_have_form`: which tokens and numbers are written as they should be.
-/

namespace GraphBroker

/-- The literal is an integer or a decimal of XML Schema, and is written as its datatype asks. -/
def Term.IsNumber : Term → Prop
  | .literal value (some datatype) none =>
    (datatype = Sparql.xsd "integer" ∧ value.toList ∈ Form.integer.matches') ∨
      (datatype = Sparql.xsd "decimal" ∧ value.toList ∈ Form.xsdDecimal.matches')
  | _ => False

namespace Sparql

/-- The literal that a number stands for, and `none` for any other token. -/
def Token.numeral? : Token → Option Term
  | .integer digits => some (.typed digits (xsd "integer"))
  | .decimal digits => some (.typed digits (xsd "decimal"))
  | _ => none

/-- The places of `patterns`. -/
def placesOf (patterns : List TriplePattern) : List PatternTerm :=
  patterns.flatMap TriplePattern.places

/-- The patterns of an operation. Triples are patterns without variables. -/
def Operation.patterns : Operation → List TriplePattern
  | insertData triples | deleteData triples => triples.map TriplePattern.ofTriple
  | deleteWhere pattern => pattern
  | modify delete insert pattern => delete ++ (insert ++ pattern)
  | clear => []

/-- Each number among the tokens `ts` is in one of the `places` as its literal. -/
def NumbersIn (ts : List Token) (places : List PatternTerm) : Prop :=
  ∀ t ∈ ts, ∀ s ∈ t.numeral?, .term s ∈ places

/-- The tokens of a limit, or none. -/
inductive Limits : List Token → Option Nat → Prop where
  /-- There is no limit. -/
  | unlimited : Limits [] none
  /-- The keyword and the number `n`. -/
  | atMost {w digits : String} {n : Nat} (keyword : isKeyword "LIMIT" w)
      (fits : limitOf? digits = some n) : Limits [.word w, .integer digits] (some n)

variable {α : Type} {allowVars : Bool} {prefixes declared : Prefixes}
  {ts us rest after : List Token} {t separator : Token} {s p : PatternTerm} {a : α}
  {others : List α} {os places morePlaces : List PatternTerm} {item : List Token → α → Prop}
  {patterns : List TriplePattern} {triples : List Triple} {op : Operation} {ops : List Operation}
  {keyword : String} {q : Query} {bound : Option Nat}

/-! ### Lexical forms -/

/-- The literal `s` of a number `t` is written as its datatype asks unless `t` points twice. -/
theorem isNumber_iff {s : Term} (form : t.HasForm ↔ ¬t.PointsTwice) (is : t.numeral? = some s) :
    s.IsNumber ↔ ¬t.PointsTwice := by
  cases t with
  | integer digits =>
    cases is
    have written : (Token.integer digits).HasForm := form.2 id
    exact ⟨fun _ => id, fun _ => .inl ⟨rfl, written⟩⟩
  | decimal digits =>
    cases is
    constructor
    · rintro (⟨other, -⟩ | ⟨-, written⟩) twice
      · exact absurd other (by decide)
      · have once := Form.count_of_mem_xsdDecimal written
        rw [Form.count_of_mem_twoPoints twice] at once
        exact absurd once (by decide)
    · intro once
      exact .inr ⟨rfl, Form.mem_xsdDecimal_of_mem_decimal (form.2 once).1⟩
  | _ => cases is

/-! ### Numbers among tokens -/

theorem mem_placesOf : p ∈ placesOf patterns ↔
    ∃ pattern ∈ patterns, p = pattern.subject ∨ p = pattern.predicate ∨ p = pattern.object := by
  simp [placesOf, TriplePattern.places]

theorem placesOf_subset {more : List TriplePattern} (subset : patterns ⊆ more) :
    placesOf patterns ⊆ placesOf more := by
  intro place listed
  obtain ⟨pattern, among, is⟩ := mem_placesOf.1 listed
  exact mem_placesOf.2 ⟨pattern, subset among, is⟩

namespace NumbersIn

theorem nil : NumbersIn [] places := nofun

theorem cons (plain : t.numeral? = none) (others : NumbersIn ts places) :
    NumbersIn (t :: ts) places := by
  refine List.forall_mem_cons.2 ⟨fun s is => ?_, others⟩
  rw [plain] at is
  cases is

theorem append (first : NumbersIn ts places) (second : NumbersIn us places) :
    NumbersIn (ts ++ us) places :=
  List.forall_mem_append.2 ⟨first, second⟩

theorem mono (subset : places ⊆ morePlaces) (numbers : NumbersIn ts places) :
    NumbersIn ts morePlaces :=
  fun t listed s is => subset (numbers t listed s is)

theorem of_mem (numbers : NumbersIn ts [p]) (listed : p ∈ places) : NumbersIn ts places :=
  numbers.mono fun _ only => List.mem_singleton.1 only ▸ listed

/-- Words `ws` are no numbers. -/
theorem words (ws : List String) : NumbersIn (ws.map .word) places := by
  induction ws with
  | nil => exact .nil
  | cons w ws ih => exact .cons rfl ih

end NumbersIn

/-! ### What the grammar derives -/

theorem Names.numeral? {iri : String} (names : Names prefixes t iri) : t.numeral? = none := by
  cases names <;> rfl

theorem DerivesTerm.numbersIn (derives : DerivesTerm allowVars prefixes us p) :
    NumbersIn us [p] := by
  cases derives with
  | var | blankNode | boolean | plain => exact .cons rfl .nil
  | iri names => exact .cons names.numeral? .nil
  | integer | decimal =>
    refine List.forall_mem_singleton.2 ?_
    rintro _ ⟨⟩
    exact List.mem_singleton_self _
  | tagged => exact .cons rfl (.cons rfl .nil)
  | typed names => exact .cons rfl (.cons rfl (.cons names.numeral? .nil))

theorem DerivesPredicate.numbersIn (derives : DerivesPredicate allowVars prefixes us p) :
    NumbersIn us [p] := by
  cases derives with
  | type => exact .cons rfl .nil
  | term derives => exact derives.numbersIn

/-- If each `item` keeps its numbers, so do items with separators between them. -/
theorem Separated.numbersIn {f : α → List PatternTerm} (plain : separator.numeral? = none)
    (each : ∀ ts a, item ts a → NumbersIn ts (f a))
    (derives : Separated separator item us others) : NumbersIn us (others.flatMap f) := by
  induction derives with
  | one only =>
    rw [List.flatMap_singleton]
    exact each _ _ only
  | more first _ ih =>
    rw [List.flatMap_cons]
    refine .append ?_ (.cons plain ?_)
    · exact (each _ _ first).mono (List.subset_append_left _ _)
    · exact ih.mono (List.subset_append_right _ _)

theorem Ended.numbersIn {rule : List Token → α → Prop} (plain : separator.numeral? = none)
    (each : ∀ ts, rule ts a → NumbersIn ts places) (derives : Ended separator rule us a) :
    NumbersIn us places := by
  cases derives with
  | plain derives => exact each _ derives
  | ended derives => exact .append (each _ derives) (.cons plain .nil)

theorem Separated.exists_item (derives : Separated separator item us others) :
    ∃ a ∈ others, ∃ ts, item ts a := by
  cases derives with
  | one only => exact ⟨_, List.mem_cons_self, _, only⟩
  | more first => exact ⟨_, List.mem_cons_self, _, first⟩

theorem Ended.exists_rule {rule : List Token → α → Prop} (derives : Ended separator rule us a) :
    ∃ ts, rule ts a := by
  cases derives with
  | plain derives | ended derives => exact ⟨_, derives⟩

/-- There is an object among `os`, and with it a pattern that has the subject `s` and the predicate
`p`. -/
theorem DerivesStatement.mem_placesOf (derives : DerivesStatement allowVars prefixes us (p, os)) :
    s ∈ placesOf (patternsOf s [(p, os)]) ∧ p ∈ placesOf (patternsOf s [(p, os)]) := by
  cases derives with
  | mk _ objects =>
    obtain ⟨o, among, -⟩ := objects.exists_item
    rw [patternsOf_singleton]
    have pattern := List.mem_map_of_mem (f := fun o => TriplePattern.mk s p o) among
    exact ⟨Sparql.mem_placesOf.2 ⟨_, pattern, .inl rfl⟩,
      Sparql.mem_placesOf.2 ⟨_, pattern, .inr (.inl rfl)⟩⟩

theorem DerivesStatement.numbersIn (derives : DerivesStatement allowVars prefixes us (p, os)) :
    NumbersIn us (placesOf (patternsOf s [(p, os)])) := by
  have hasPredicate := (derives.mem_placesOf (s := s)).2
  cases derives with
  | mk predicate objects =>
    refine .append (predicate.numbersIn.of_mem hasPredicate) ?_
    have each := objects.numbersIn rfl fun _ _ object => object.numbersIn
    refine each.mono fun place listed => ?_
    rw [List.flatMap_singleton'] at listed
    rw [patternsOf_singleton]
    exact Sparql.mem_placesOf.2 ⟨_, List.mem_map_of_mem listed, .inr (.inr rfl)⟩

/-- The places of what is said of a subject `s` are those of each statement. -/
theorem placesOf_patternsOf (s : PatternTerm) (statements : List (PatternTerm × List PatternTerm)) :
    placesOf (patternsOf s statements) =
      statements.flatMap fun statement => placesOf (patternsOf s [statement]) := by
  have single : (fun statement => patternsOf s [statement]) =
      fun statement => statement.2.map fun o => ⟨s, statement.1, o⟩ :=
    funext fun _ => patternsOf_singleton
  unfold placesOf
  rw [← List.flatMap_assoc, single]
  rfl

theorem DerivesBlock.numbersIn (derives : DerivesBlock allowVars prefixes us patterns) :
    NumbersIn us (placesOf patterns) := by
  cases derives with
  | @mk ts us s statements subject said =>
    rw [placesOf_patternsOf]
    have hasSubject :
        s ∈ statements.flatMap fun statement => placesOf (patternsOf s [statement]) := by
      obtain ⟨_, separated⟩ := said.exists_rule
      obtain ⟨statement, among, _, derives⟩ := separated.exists_item
      exact List.mem_flatMap.2 ⟨statement, among, derives.mem_placesOf.1⟩
    refine .append (subject.numbersIn.of_mem hasSubject) ?_
    exact said.numbersIn rfl fun _ separated =>
      separated.numbersIn rfl fun _ _ statement => statement.numbersIn

/-- What the grammar derives has all numbers of its tokens `us`. -/
theorem DerivesGroup.numbersIn (derives : DerivesGroup allowVars prefixes us patterns) :
    NumbersIn us (placesOf patterns) := by
  cases derives with
  | empty => exact .cons rfl (.cons rfl .nil)
  | @blocks ts found derives =>
    refine .cons rfl (.append ?_ (.cons rfl .nil))
    have each : NumbersIn ts (found.flatMap placesOf) :=
      derives.numbersIn rfl fun _ separated =>
        separated.numbersIn rfl fun _ _ block => block.numbersIn
    refine each.mono fun place listed => ?_
    obtain ⟨block, among, inside⟩ := List.mem_flatMap.1 listed
    exact placesOf_subset (fun _ => List.mem_flatten_of_mem among) inside

/-! ### What the readers keep -/

/-- A reader goes over the tokens of `ts` before `rest`, and their numbers are in the `places`. -/
def Passes (ts rest : List Token) (places : List PatternTerm) : Prop :=
  ∃ us, ts = us ++ rest ∧ NumbersIn us places

namespace Passes

theorem refl : Passes ts ts places := ⟨[], rfl, .nil⟩

theorem trans (first : Passes ts after places) (second : Passes after rest places) :
    Passes ts rest places := by
  obtain ⟨us, rfl, numbers⟩ := first
  obtain ⟨vs, rfl, others⟩ := second
  exact ⟨us ++ vs, (List.append_assoc ..).symm, numbers.append others⟩

theorem mono (subset : places ⊆ morePlaces) (passes : Passes ts rest places) :
    Passes ts rest morePlaces := by
  obtain ⟨us, same, numbers⟩ := passes
  exact ⟨us, same, numbers.mono subset⟩

theorem numbersIn (passes : Passes ts [] places) : NumbersIn ts places := by
  obtain ⟨us, rfl, numbers⟩ := passes
  rwa [List.append_nil]

theorem of_keyword? (found : keyword? keyword ts = some rest) : Passes ts rest places := by
  obtain ⟨w, -, rfl⟩ := keyword?_eq_some_iff.1 found
  exact ⟨[.word w], rfl, .words [w]⟩

theorem skipKeyword (keyword : String) (ts : List Token) :
    Passes ts (skipKeyword keyword ts) places := by
  obtain ⟨skipped, -, parts⟩ := exists_skipKeyword keyword ts
  exact ⟨_, parts, .words _⟩

end Passes

theorem Declares.numbersIn (declares : Declares prefixes us declared) : NumbersIn us places := by
  induction declares with
  | nil => exact .nil
  | cons _ _ ih => exact .cons rfl (.cons rfl (.cons rfl ih))

theorem passes_of_group (read : group allowVars prefixes ts = .ok (patterns, rest)) :
    Passes ts rest (placesOf patterns) := by
  obtain ⟨us, rfl, derives⟩ := group_eq_ok_iff.1 read
  exact ⟨us, rfl, derives.numbersIn⟩

theorem passes_of_groundGroup (read : groundGroup prefixes ts = .ok (triples, rest)) :
    Passes ts rest (placesOf (triples.map TriplePattern.ofTriple)) :=
  passes_of_group (groundGroup_eq_ok_iff.1 read)

theorem passes_of_wherePart (read : wherePart prefixes ts = .ok (patterns, rest)) :
    Passes ts rest (placesOf patterns) := by
  obtain ⟨after, found, grouped⟩ := wherePart_eq_ok_iff.1 read
  exact (Passes.of_keyword? found).trans (passes_of_group grouped)

theorem passes_of_insertPart (read : insertPart prefixes ts = .ok (patterns, rest)) :
    Passes ts rest (placesOf patterns) := by
  rcases insertPart_eq_ok_iff.1 read with ⟨after, insert, grouped⟩ | ⟨-, rfl, rfl⟩
  · exact (Passes.of_keyword? insert).trans (passes_of_group grouped)
  · exact .refl

theorem passes_of_insertion (read : insertion prefixes ts = .ok (op, rest)) :
    Passes ts rest (placesOf op.patterns) := by
  rcases insertion_eq_ok_iff.1 read with ⟨after, triples, data, grouped, rfl⟩ |
    ⟨insert, pattern, after, -, template, condition, rfl⟩
  · exact (Passes.of_keyword? data).trans (passes_of_groundGroup grouped)
  · have inFirst : insert ⊆ insert ++ pattern := List.subset_append_left _ _
    have inSecond : pattern ⊆ insert ++ pattern := List.subset_append_right _ _
    exact ((passes_of_group template).mono (placesOf_subset inFirst)).trans
      ((passes_of_wherePart condition).mono (placesOf_subset inSecond))

theorem passes_of_deletion (read : deletion prefixes ts = .ok (op, rest)) :
    Passes ts rest (placesOf op.patterns) := by
  rcases deletion_eq_ok_iff.1 read with ⟨after, triples, data, grouped, rfl⟩ |
    ⟨after, pattern, -, condition, grouped, rfl⟩ |
    ⟨delete, insert, pattern, _, _, -, -, template, addition, condition, rfl⟩
  · exact (Passes.of_keyword? data).trans (passes_of_groundGroup grouped)
  · exact (Passes.of_keyword? condition).trans (passes_of_group grouped)
  · have inFirst : delete ⊆ delete ++ (insert ++ pattern) := List.subset_append_left _ _
    have inSecond : insert ⊆ delete ++ (insert ++ pattern) := by simp
    have inThird : pattern ⊆ delete ++ (insert ++ pattern) := by simp
    exact ((passes_of_group template).mono (placesOf_subset inFirst)).trans
      (((passes_of_insertPart addition).mono (placesOf_subset inSecond)).trans
        ((passes_of_wherePart condition).mono (placesOf_subset inThird)))

theorem passes_of_clearing (read : clearing ts = .ok (op, rest)) : Passes ts rest places := by
  obtain ⟨-, target⟩ := clearing_eq_ok_iff.1 read
  exact (Passes.skipKeyword "SILENT" ts).trans (target.elim .of_keyword? .of_keyword?)

/-- Whatever the operation `op`, its numbers are in its patterns. -/
theorem passes_of_operation (read : operation prefixes ts = .ok (op, rest)) :
    Passes ts rest (placesOf op.patterns) := by
  obtain ⟨after, ⟨insert, inserted⟩ | ⟨delete, deleted⟩ | ⟨clear, cleared⟩⟩ :=
    operation_eq_ok_iff.1 read
  · exact (Passes.of_keyword? insert).trans (passes_of_insertion inserted)
  · exact (Passes.of_keyword? delete).trans (passes_of_deletion deleted)
  · exact (Passes.of_keyword? clear).trans (passes_of_clearing cleared)

theorem Takes.numbersIn (takes : Takes operation prefixes us op) :
    NumbersIn us (placesOf op.patterns) := by
  have passes := passes_of_operation (takes.read [])
  rw [List.append_nil] at passes
  exact passes.numbersIn

/-- The numbers of an update are in the patterns of its operations `ops`. -/
theorem DerivesUpdate.numbersIn (derives : DerivesUpdate prefixes ts ops declared) :
    NumbersIn ts (placesOf (ops.flatMap Operation.patterns)) := by
  induction derives with
  | nil declares => exact declares.numbersIn
  | last declares takes =>
    rw [List.flatMap_singleton]
    exact declares.numbersIn.append takes.numbersIn
  | more declares takes _ ih =>
    rw [List.flatMap_cons]
    refine declares.numbersIn.append (.append (takes.numbersIn.mono ?_) (.cons rfl (ih.mono ?_)))
    · exact placesOf_subset (List.subset_append_left _ _)
    · exact placesOf_subset (List.subset_append_right _ _)

theorem numbersIn_of_parseList {text : String} (tokens : tokenize text = .ok ts)
    (read : Operation.parseList text = .ok ops) :
    NumbersIn ts (placesOf (ops.flatMap Operation.patterns)) := by
  obtain ⟨-, ts', declared, tokens', derives⟩ := parseList_eq_ok_iff.1 read
  obtain rfl : ts = ts' := Except.ok.inj (tokens.symm.trans tokens')
  exact derives.numbersIn

/-! ### Queries -/

theorem limits_of_limit (read : limit ts = .ok (bound, [])) : Limits ts bound := by
  unfold limit at read
  split at read
  case h_1 =>
    cases read
    exact .unlimited
  case h_2 found =>
    obtain ⟨w, is, rfl⟩ := keyword?_eq_some_iff.1 found
    split at read <;> cases read
    rename_i fits
    exact .atMost is fits
  case h_3 => cases read

/-- What is asked for has no numbers in it. -/
theorem numbersIn_header (wording : Wording) (projection : Option (List String)) :
    NumbersIn (wording.header projection) places := by
  have asked : NumbersIn (projectionTokens projection) places := by
    cases projection with
    | none => exact .cons rfl .nil
    | some names =>
      intro t listed s is
      obtain ⟨name, -, rfl⟩ := List.mem_map.1 listed
      cases is
  exact .cons rfl (.append (.words _) (asked.append (.words _)))

/-- The numbers of `q` are in its patterns, but for that of a limit at its end. -/
theorem exists_numbersIn_of_ofTokens (read : Query.ofTokens ts = .ok q) :
    ∃ body tail, ts = body ++ tail ∧ NumbersIn body (placesOf q.pattern) ∧
      Limits tail q.limit := by
  obtain ⟨us, declared, wording, body, after, rfl, declares, -, grouped, limited⟩ :=
    ofTokens_eq_ok_iff.1 read
  have grouped : group true declared (.lbrace :: body) = .ok (q.pattern, after) := grouped
  obtain ⟨vs, same, numbers⟩ := passes_of_group grouped
  refine ⟨us ++ (wording.header q.projection ++ vs), after, by simp [same], ?_,
    limits_of_limit limited⟩
  exact declares.numbersIn.append ((numbersIn_header wording _).append numbers)

/-! ### What tokens and numbers look like -/

/-- Each token of a `text` that can be read has the form of its kind (`Token.HasForm`), unless it is
a number that begins with its point and goes on with another (`Token.PointsTwice`). All tokens have
their forms exactly if none of the lexemes of the text is written like that (`Form.twoPoints`). Each
number in a query or an update that is read is in its patterns as a literal of XML Schema
(`NumbersIn`), but for the number of rows at the end of a query, and the literal is written as its
datatype asks exactly if the number does not point twice. -/
theorem tokens_have_form {text : String} (read : tokenize text = .ok ts) :
    (∀ t ∈ ts, t.HasForm ↔ ¬t.PointsTwice) ∧
    (∃ segments, segmentsOf text.toList = .ok segments ∧ charsOf segments = text.toList ∧
      tokensIn segments = ts ∧
      ((∀ t ∈ ts, t.HasForm) ↔ ∀ s ∈ segments, s.chars ∉ Form.twoPoints.matches')) ∧
    (∀ t ∈ ts, ∀ s ∈ t.numeral?, s.IsNumber ↔ ¬t.PointsTwice) ∧
    (∀ q, Query.parse text = .ok q → ∃ body tail, ts = body ++ tail ∧
      NumbersIn body (placesOf q.pattern) ∧ Limits tail q.limit) ∧
    ∀ ops, Operation.parseList text = .ok ops →
      NumbersIn ts (placesOf (ops.flatMap Operation.patterns)) := by
  obtain ⟨segments, found, tokens⟩ := exists_segmentsOf read
  obtain ⟨cut, chars⟩ := cut_of_segmentsOf found
  have form : ∀ t ∈ ts, t.HasForm ↔ ¬t.PointsTwice := fun t listed =>
    cut.hasForm_iff (tokens ▸ listed)
  refine ⟨form, ⟨segments, found, chars, tokens, ?_⟩, fun t listed s is => ?_, fun q parsed => ?_,
    fun ops parsed => numbersIn_of_parseList read parsed⟩
  · rw [← tokens]
    exact cut.forall_hasForm_iff
  · exact isNumber_iff (form t listed) is
  · obtain ⟨ts', tokens', parsed⟩ := bind_eq_ok_iff.1 parsed
    obtain rfl : ts = ts' := Except.ok.inj (read.symm.trans tokens')
    exact exists_numbersIn_of_ofTokens parsed

/-- A query for readings, with numbers that have a sign, or no digit before the point. -/
def readingsQuery : String :=
  "SELECT ?s WHERE \x7b ?s <urn:p> .5 , -1.25 ; <urn:q> +7 \x7d LIMIT 3"

/-- What the query asks for. -/
def readings : Query where
  projection := some ["s"]
  pattern := [⟨.var "s", .term (.iri "urn:p"), .term (.typed ".5" (xsd "decimal"))⟩,
    ⟨.var "s", .term (.iri "urn:p"), .term (.typed "-1.25" (xsd "decimal"))⟩,
    ⟨.var "s", .term (.iri "urn:q"), .term (.typed "+7" (xsd "integer"))⟩]
  limit := some 3

/-- All tokens of `readingsQuery` have their forms, and its numbers are read as such. -/
theorem tokens_have_form_readings :
    Query.parse readingsQuery = .ok readings ∧
    ∃ ts, tokenize readingsQuery = .ok ts ∧ (∀ t ∈ ts, t.HasForm) ∧
      (∀ t ∈ ts, ∀ s ∈ t.numeral?, s.IsNumber) ∧
      ∃ body tail, ts = body ++ tail ∧ NumbersIn body (placesOf readings.pattern) ∧
        Limits tail (some 3) := by
  have parsed : Query.parse readingsQuery = .ok readings := ok_of_toOption (by decide +kernel)
  obtain ⟨ts, tokens, -⟩ := bind_eq_ok_iff.1 parsed
  have once : ∀ t ∈ ts, ¬t.PointsTwice := by
    have all : (tokenize readingsQuery).toOption.all fun ts => ts.all (¬·.PointsTwice) := by
      decide +kernel
    rw [tokens] at all
    exact fun t listed => of_decide_eq_true (List.all_eq_true.1 all t listed)
  obtain ⟨form, -, numbers, inQuery, -⟩ := tokens_have_form tokens
  exact ⟨parsed, ts, tokens, fun t listed => (form t listed).2 (once t listed),
    fun t listed s is => (numbers t listed s is).2 (once t listed), inQuery readings parsed⟩

/-- Of the points of `1.5.6`, which begins with a digit, only one is taken. In `.5.6`, which begins
with its point, another one is taken, and so a literal is stored that is no decimal. -/
theorem number_with_two_points :
    tokenize "1.5.6" = .ok [.decimal "1.5", .decimal ".6"] ∧
    tokenize ".5.6" = .ok [.decimal ".5.6"] ∧ ¬(Token.decimal ".5.6").HasForm ∧
    Operation.parseList "INSERT DATA \x7b <urn:a> <urn:p> .5.6 \x7d" =
      .ok [.insertData [⟨.iri "urn:a", .iri "urn:p", .typed ".5.6" (xsd "decimal")⟩]] ∧
    ¬(Term.typed ".5.6" (xsd "decimal")).IsNumber := by
  have twice : (Token.decimal ".5.6").PointsTwice := by decide +kernel
  have form := iff_of_false twice.not_hasForm (not_not_intro twice)
  exact ⟨by decide +kernel, by decide +kernel, twice.not_hasForm,
    ok_of_toOption (by decide +kernel), fun isNumber => (isNumber_iff form rfl).1 isNumber twice⟩

end Sparql

end GraphBroker
