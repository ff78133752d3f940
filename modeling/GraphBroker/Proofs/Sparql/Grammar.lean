import GraphBroker.Proofs.Engine.InMemory
import GraphBroker.Proofs.Sparql.Reading

/-!
# The grammar of groups

A group stands between braces. It consists of blocks with full stops between them, a block of a
subject and what is said of it with semicolons between, and what is said of it of a predicate and
objects with commas between them. A full stop or a semicolon may also stand after the last:

    group      ::= "{" (block ("." block)* "."?)? "}"
    block      ::= term statement (";" statement)* ";"?
    statement  ::= predicate term ("," term)*

The reader accepts exactly the tokens that this grammar derives, and what follows them decides
nothing.

## Main definitions

* `Sparql.Separated`, `Sparql.Ended`: items with separators between them, and one more at the end.
* `Sparql.DerivesTerm`, `Sparql.DerivesGroup` and those between: which tokens spell what.

## Main statements

* `group_eq_ok_iff`: what the reader takes is what the grammar derives.
* `DerivesGroup.append_right`: it derives the same where more has been declared before.
* `group_accepts_grammar`: and in all other cases it fails.
-/

namespace GraphBroker.Sparql

/-! ### The grammar -/

/-- An IRI, or a name whose prefix is declared in `prefixes`, and the IRI that it stands for. -/
inductive Names (prefixes : Prefixes) : Token → String → Prop where
  /-- An IRI in angle brackets. -/
  | iri {value : String} : Names prefixes (.iri value) value
  /-- A name whose prefix `label` is declared to be `base`. -/
  | prefixedName {label suffix base : String} (declared : prefixes.lookup label = some base) :
      Names prefixes (.prefixedName label suffix) (base ++ suffix)

/-- The tokens spell a term, or a variable where `allowVars` says that they are allowed. -/
inductive DerivesTerm (allowVars : Bool) (prefixes : Prefixes) :
    List Token → PatternTerm → Prop where
  /-- A variable `name`. -/
  | var {name : String} (allowed : allowVars = true) :
      DerivesTerm allowVars prefixes [.var name] (.var name)
  /-- An IRI, which `t` names. -/
  | iri {t : Token} {value : String} (names : Names prefixes t value) :
      DerivesTerm allowVars prefixes [t] (.term (.iri value))
  /-- A blank node `label`. -/
  | blankNode {label : String} :
      DerivesTerm allowVars prefixes [.blankNode label] (.term (.blank label))
  /-- A number without a point. -/
  | integer {digits : String} :
      DerivesTerm allowVars prefixes [.integer digits] (.term (.typed digits (xsd "integer")))
  /-- A number with a point. -/
  | decimal {digits : String} :
      DerivesTerm allowVars prefixes [.decimal digits] (.term (.typed digits (xsd "decimal")))
  /-- A truth value. -/
  | boolean {w : String} (truth : w = "true" ∨ w = "false") :
      DerivesTerm allowVars prefixes [.word w] (.term (.typed w (xsd "boolean")))
  /-- A text `value` in quotes. -/
  | plain {value : String} : DerivesTerm allowVars prefixes [.string value] (.term (.plain value))
  /-- A text `value` with its language `tag`. -/
  | tagged {value tag : String} :
      DerivesTerm allowVars prefixes [.string value, .langTag tag] (.term (.tagged value tag))
  /-- A text `value` with its `datatype`. -/
  | typed {t : Token} {value datatype : String} (names : Names prefixes t datatype) :
      DerivesTerm allowVars prefixes [.string value, .datatypeMarker, t]
        (.term (.typed value datatype))

/-- The tokens spell a predicate: the word `a`, or a term. -/
inductive DerivesPredicate (allowVars : Bool) (prefixes : Prefixes) :
    List Token → PatternTerm → Prop where
  /-- The word for types. -/
  | type : DerivesPredicate allowVars prefixes [.word "a"] (.term (.iri rdfType))
  /-- A term, spelt by `ts`. -/
  | term {ts : List Token} {p : PatternTerm} (derives : DerivesTerm allowVars prefixes ts p) :
      DerivesPredicate allowVars prefixes ts p

/-- One or more items with `separator` between them. -/
inductive Separated {α : Type} (separator : Token) (item : List Token → α → Prop) :
    List Token → List α → Prop where
  /-- One item. -/
  | one {ts : List Token} {a : α} (only : item ts a) : Separated separator item ts [a]
  /-- An item, and others after a separator. -/
  | more {ts us : List Token} {a : α} {others : List α} (first : item ts a)
      (rest : Separated separator item us others) :
      Separated separator item (ts ++ separator :: us) (a :: others)

/-- Tokens of `rule`, after which one more `separator` may stand. -/
inductive Ended {α : Type} (separator : Token) (rule : List Token → α → Prop) :
    List Token → α → Prop where
  /-- None stands there. -/
  | plain {ts : List Token} {a : α} (derives : rule ts a) : Ended separator rule ts a
  /-- One stands there. -/
  | ended {ts : List Token} {a : α} (derives : rule ts a) :
      Ended separator rule (ts ++ [separator]) a

/-- What is said of a subject: a predicate, and one or more objects. -/
inductive DerivesStatement (allowVars : Bool) (prefixes : Prefixes) :
    List Token → PatternTerm × List PatternTerm → Prop where
  /-- A predicate `p`, and one or more objects `os`. -/
  | mk {ts us : List Token} {p : PatternTerm} {os : List PatternTerm}
      (predicate : DerivesPredicate allowVars prefixes ts p)
      (objects : Separated .comma (DerivesTerm allowVars prefixes) us os) :
      DerivesStatement allowVars prefixes (ts ++ us) (p, os)

/-- One pattern for each object, with its predicate and the subject `s`. -/
def patternsOf (s : PatternTerm) (statements : List (PatternTerm × List PatternTerm)) :
    List TriplePattern :=
  statements.flatMap fun (p, os) => os.map fun o => ⟨s, p, o⟩

/-- A subject, and what is said of it. -/
inductive DerivesBlock (allowVars : Bool) (prefixes : Prefixes) :
    List Token → List TriplePattern → Prop where
  /-- A subject `s`, and the `statements` about it. -/
  | mk {ts us : List Token} {s : PatternTerm} {statements : List (PatternTerm × List PatternTerm)}
      (subject : DerivesTerm allowVars prefixes ts s)
      (said : Ended .semicolon (Separated .semicolon (DerivesStatement allowVars prefixes))
        us statements) :
      DerivesBlock allowVars prefixes (ts ++ us) (patternsOf s statements)

/-- Blocks between braces. -/
inductive DerivesGroup (allowVars : Bool) (prefixes : Prefixes) :
    List Token → List TriplePattern → Prop where
  /-- No block. -/
  | empty : DerivesGroup allowVars prefixes [.lbrace, .rbrace] []
  /-- One or more `blocks`. -/
  | blocks {ts : List Token} {blocks : List (List TriplePattern)}
      (derives : Ended .dot (Separated .dot (DerivesBlock allowVars prefixes)) ts blocks) :
      DerivesGroup allowVars prefixes (.lbrace :: (ts ++ [.rbrace])) blocks.flatten

variable {α : Type} {allowVars : Bool} {prefixes : Prefixes} {ts us rest tail : List Token}
  {t separator : Token} {s p : PatternTerm} {os : List PatternTerm} {a : α} {others : List α}
  {item : List Token → α → Prop} {patterns : List TriplePattern}
  {statements : List (PatternTerm × List PatternTerm)} {found : List (List TriplePattern)}
  {name label suffix value iri : String}

/-- One more item in front, which is `a`. -/
theorem Ended.more (first : item ts a)
    (rest : Ended separator (Separated separator item) us others) :
    Ended separator (Separated separator item) (ts ++ separator :: us) (a :: others) := by
  cases rest with
  | plain derives => exact .plain (.more first derives)
  | ended derives =>
    rw [← List.cons_append, ← List.append_assoc]
    exact .ended (.more first derives)

/-- How the items `others` begin is how the first of them begins. -/
theorem Separated.opens (begins : List Token → Prop)
    (first : ∀ ts a rest, item ts a → begins (ts ++ rest))
    (derives : Separated separator item us others) : begins (us ++ rest) := by
  cases derives with
  | one only => exact first _ _ _ only
  | more head =>
    rw [List.append_assoc]
    exact first _ _ _ head

theorem Ended.exists_append {rule : List Token → α → Prop} (derives : Ended separator rule us a)
    (rest : List Token) : ∃ vs tail, rule vs a ∧ us ++ rest = vs ++ tail ∧
      (tail = rest ∨ tail = separator :: rest) := by
  cases derives with
  | plain derives => exact ⟨us, rest, derives, rfl, .inl rfl⟩
  | ended derives => exact ⟨_, _, derives, (List.append_cons ..).symm, .inr rfl⟩

/-! ### Names and terms -/

theorem names_prefixedName_iff :
    prefixes.expand label suffix = .ok iri ↔ Names prefixes (.prefixedName label suffix) iri := by
  constructor
  · intro expanded
    unfold Prefixes.expand at expanded
    split at expanded <;> cases expanded
    rename_i declared
    exact .prefixedName declared
  · rintro (_ | declared)
    simp only [Prefixes.expand, declared]

theorem derives_of_literal {t : Term} (read : literal prefixes value ts = .ok (t, rest)) :
    ∃ us, ts = us ++ rest ∧ DerivesTerm allowVars prefixes (.string value :: us) (.term t) := by
  unfold literal at read
  split at read
  · cases read
    exact ⟨[_], rfl, .tagged⟩
  · cases read
    exact ⟨[_, _], rfl, .typed .iri⟩
  · obtain ⟨iri, expanded, read⟩ := map_eq_ok_iff.1 read
    cases read
    exact ⟨[_, _], rfl, .typed (names_prefixedName_iff.1 expanded)⟩
  · cases read
  · cases read
    exact ⟨[], rfl, .plain⟩

/-- What is read as a term `p` spells it. -/
theorem derives_of_term (read : term allowVars prefixes ts = .ok (p, rest)) :
    ∃ us, ts = us ++ rest ∧ DerivesTerm allowVars prefixes us p := by
  unfold term at read
  -- The branches of the reader, in its order.
  split at read
  case h_1 => cases read
  case h_2 =>
    split at read <;> cases read
    rename_i allowed
    exact ⟨[_], rfl, .var allowed⟩
  case h_3 =>
    cases read
    exact ⟨[_], rfl, .iri .iri⟩
  case h_4 =>
    obtain ⟨iri, expanded, read⟩ := map_eq_ok_iff.1 read
    cases read
    exact ⟨[_], rfl, .iri (names_prefixedName_iff.1 expanded)⟩
  case h_5 =>
    cases read
    exact ⟨[_], rfl, .blankNode⟩
  case h_6 =>
    cases read
    exact ⟨[_], rfl, .integer⟩
  case h_7 =>
    cases read
    exact ⟨[_], rfl, .decimal⟩
  case h_8 =>
    split at read <;> cases read
    rename_i truth
    exact ⟨[_], rfl, .boolean truth⟩
  case h_9 =>
    obtain ⟨⟨t, left⟩, suffixed, read⟩ := map_eq_ok_iff.1 read
    cases read
    obtain ⟨us, rfl, derives⟩ := derives_of_literal suffixed
    exact ⟨_ :: us, rfl, derives⟩
  case h_10 => cases read

/-- What spells a term `p` is read as one, unless it goes on with a language or a datatype. -/
theorem DerivesTerm.term_eq (derives : DerivesTerm allowVars prefixes us p)
    (ends : endsTerm rest) : term allowVars prefixes (us ++ rest) = .ok (p, rest) := by
  cases derives with
  | var allowed => exact if_pos allowed
  | iri names =>
    cases names with
    | iri => rfl
    | prefixedName declared =>
      exact map_eq_ok_iff.2 ⟨_, names_prefixedName_iff.2 (.prefixedName declared), rfl⟩
  | blankNode | integer | decimal | tagged => rfl
  | boolean truth => exact if_pos truth
  | plain => exact map_eq_ok_iff.2 ⟨_, literal_plain ends, rfl⟩
  | typed names =>
    cases names with
    | iri => rfl
    | prefixedName declared =>
      refine map_eq_ok_iff.2 ⟨_, map_eq_ok_iff.2 ⟨_, ?_, rfl⟩, rfl⟩
      exact names_prefixedName_iff.2 (.prefixedName declared)

/-- A term begins with a token that goes on with nothing that stood before, and ends nothing: of its
tokens `us`, `startsPattern` and `endsTerm` hold, and `endsBlock` does not. -/
theorem DerivesTerm.opens (derives : DerivesTerm allowVars prefixes us p) :
    startsPattern (us ++ rest) ∧ endsTerm (us ++ rest) ∧ endsBlock (us ++ rest) = false := by
  cases derives with
  | var | blankNode | integer | decimal | tagged | plain | typed => exact ⟨rfl, rfl, rfl⟩
  | iri names => cases names <;> exact ⟨rfl, rfl, rfl⟩
  | boolean truth => rcases truth with rfl | rfl <;> exact ⟨rfl, rfl, rfl⟩

/-! ### Predicates and objects -/

theorem derives_of_predicate (read : predicate allowVars prefixes ts = .ok (p, rest)) :
    ∃ us, ts = us ++ rest ∧ DerivesPredicate allowVars prefixes us p := by
  unfold predicate at read
  split at read
  · cases read
    exact ⟨[_], rfl, .type⟩
  · obtain ⟨us, rfl, derives⟩ := derives_of_term read
    exact ⟨us, rfl, .term derives⟩

theorem DerivesPredicate.predicate_eq (derives : DerivesPredicate allowVars prefixes us p)
    (ends : endsTerm rest) : predicate allowVars prefixes (us ++ rest) = .ok (p, rest) := by
  cases derives with
  | type => rfl
  | term derives =>
    rw [← derives.term_eq ends]
    -- The word for types is no term.
    unfold predicate
    split
    case h_1 same =>
      cases derives <;> cases same
      case iri names => cases names
      case boolean truth => exact absurd truth (by decide)
    case h_2 => rfl

theorem DerivesPredicate.opens (derives : DerivesPredicate allowVars prefixes us p) :
    endsTerm (us ++ rest) ∧ endsBlock (us ++ rest) = false := by
  cases derives with
  | type => exact ⟨rfl, rfl⟩
  | term derives => exact derives.opens.2

theorem derives_of_objects (read : objects allowVars prefixes s p ts = .ok (patterns, rest)) :
    ∃ us os, ts = us ++ rest ∧ Separated .comma (DerivesTerm allowVars prefixes) us os ∧
      patterns = os.map fun o => ⟨s, p, o⟩ := by
  -- The reader goes on after a comma, where the rule has another object.
  fun_induction objects allowVars prefixes s p ts generalizing patterns rest with
  | case1 => cases read
  | case2 ts o next first _ ih =>
    obtain ⟨⟨others, left⟩, later, read⟩ := map_eq_ok_iff.1 read
    cases read
    obtain ⟨us, rfl, derives⟩ := derives_of_term first
    obtain ⟨vs, os, rfl, separated, rfl⟩ := ih later
    exact ⟨us ++ .comma :: vs, o :: os, by simp, .more derives separated, rfl⟩
  | case3 ts o next _ first =>
    cases read
    obtain ⟨us, rfl, derives⟩ := derives_of_term first
    exact ⟨us, [o], rfl, .one derives, rfl⟩

/-- The tokens `ts` go on with a semicolon, a point or a closing brace. -/
def EndsStatement (ts : List Token) : Prop :=
  (∃ rest, ts = .semicolon :: rest) ∨ EndsPattern ts

theorem EndsStatement.endsTerm (ends : EndsStatement ts) : endsTerm ts := by
  obtain ⟨rest, rfl⟩ | ends := ends
  · rfl
  · exact ends.endsTerm

theorem objects_of_separated (derives : Separated .comma (DerivesTerm allowVars prefixes) us os)
    (ends : EndsStatement rest) :
    objects allowVars prefixes s p (us ++ rest) = .ok (os.map fun o => ⟨s, p, o⟩, rest) := by
  induction derives with
  | one only =>
    refine objects_last (only.term_eq ends.endsTerm) ?_
    obtain ⟨_, rfl⟩ | ⟨_, rfl | rfl⟩ := ends <;> exact nofun
  | more first _ ih =>
    rw [List.append_assoc, List.cons_append, objects_comma (first.term_eq rfl), ih]
    rfl

/-! ### Statements and blocks -/

theorem patternsOf_cons : patternsOf s ((p, os) :: statements) =
    os.map (fun o => ⟨s, p, o⟩) ++ patternsOf s statements := List.flatMap_cons

theorem patternsOf_singleton : patternsOf s [(p, os)] = os.map fun o => ⟨s, p, o⟩ := by
  rw [patternsOf_cons]
  exact List.append_nil _

theorem derives_of_statement {after : List Token}
    (first : predicate allowVars prefixes ts = .ok (p, after))
    (read : objects allowVars prefixes s p after = .ok (patterns, rest)) :
    ∃ us os, ts = us ++ rest ∧ DerivesStatement allowVars prefixes us (p, os) ∧
      patterns = os.map fun o => ⟨s, p, o⟩ := by
  obtain ⟨us, rfl, predicate⟩ := derives_of_predicate first
  obtain ⟨vs, os, rfl, separated, rfl⟩ := derives_of_objects read
  exact ⟨us ++ vs, os, (List.append_assoc ..).symm, .mk predicate separated, rfl⟩

theorem derives_of_predicates (read : predicates allowVars prefixes s ts = .ok (patterns, rest)) :
    ∃ us statements, ts = us ++ rest ∧
      Ended .semicolon (Separated .semicolon (DerivesStatement allowVars prefixes)) us statements ∧
      patterns = patternsOf s statements := by
  -- After a semicolon the reader looks whether the block ends, where the rule allows for one more.
  fun_induction predicates allowVars prefixes s ts generalizing patterns rest with
  | case1 | case2 => cases read
  | case3 ts p after first found next read' _ _ =>
    cases read
    obtain ⟨us, os, rfl, statement, rfl⟩ := derives_of_statement first read'
    exact ⟨us ++ [.semicolon], [(p, os)], by simp, .ended (.one statement),
      patternsOf_singleton.symm⟩
  | case4 ts p after first found next read' _ _ ih =>
    obtain ⟨⟨others, left⟩, later, read⟩ := map_eq_ok_iff.1 read
    cases read
    obtain ⟨us, os, rfl, statement, rfl⟩ := derives_of_statement first read'
    obtain ⟨vs, statements, rfl, said, rfl⟩ := ih later
    exact ⟨us ++ .semicolon :: vs, (p, os) :: statements, by simp, .more statement said,
      patternsOf_cons.symm⟩
  | case5 ts p after first found next _ read' =>
    cases read
    obtain ⟨us, os, rfl, statement, rfl⟩ := derives_of_statement first read'
    exact ⟨us, [(p, os)], rfl, .plain (.one statement), patternsOf_singleton.symm⟩

theorem DerivesStatement.exists_read (derives : DerivesStatement allowVars prefixes us (p, os))
    (ends : EndsStatement rest) (s : PatternTerm) :
    ∃ after, predicate allowVars prefixes (us ++ rest) = .ok (p, after) ∧
      objects allowVars prefixes s p after = .ok (os.map fun o => ⟨s, p, o⟩, rest) := by
  cases derives with
  | mk predicate objects =>
    refine ⟨_, ?_, objects_of_separated objects ends⟩
    rw [List.append_assoc]
    exact predicate.predicate_eq (objects.opens (endsTerm ·) fun _ _ _ object => object.opens.2.1)

theorem DerivesStatement.opens {statement : PatternTerm × List PatternTerm}
    (derives : DerivesStatement allowVars prefixes us statement) :
    endsTerm (us ++ rest) ∧ endsBlock (us ++ rest) = false := by
  cases derives with
  | mk predicate =>
    rw [List.append_assoc]
    exact predicate.opens

/-- A semicolon may stand after the last of the `statements`, and is then taken with it. -/
theorem predicates_of_separated
    (derives : Separated .semicolon (DerivesStatement allowVars prefixes) us statements)
    (ends : EndsPattern rest) (last : tail = rest ∨ tail = .semicolon :: rest) :
    predicates allowVars prefixes s (us ++ tail) = .ok (patternsOf s statements, rest) := by
  induction derives with
  | @one us statement only =>
    obtain ⟨p, os⟩ := statement
    rw [patternsOf_singleton]
    rcases last with rfl | rfl
    · obtain ⟨after, first, read⟩ := only.exists_read (.inr ends) s
      refine predicates_last first read ?_
      obtain ⟨_, rfl | rfl⟩ := ends <;> exact nofun
    · obtain ⟨after, first, read⟩ := only.exists_read (.inl ⟨rest, rfl⟩) s
      rw [predicates_semicolon first read, if_pos]
      obtain ⟨_, rfl | rfl⟩ := ends <;> rfl
  | @more us vs statement statements only others ih =>
    obtain ⟨p, os⟩ := statement
    obtain ⟨after, first, read⟩ := only.exists_read (.inl ⟨vs ++ tail, rfl⟩) s
    -- What follows the semicolon is another statement and not the end of the block.
    have goes : endsBlock (vs ++ tail) = false :=
      others.opens (endsBlock · = false) fun _ _ _ next => next.opens.2
    rw [List.append_assoc, List.cons_append, predicates_semicolon first read, goes, ih,
      patternsOf_cons]
    rfl

theorem derives_of_block (read : block allowVars prefixes ts = .ok (patterns, rest)) :
    ∃ us, ts = us ++ rest ∧ DerivesBlock allowVars prefixes us patterns := by
  unfold block at read
  split at read
  · cases read
  · rename_i first
    obtain ⟨us, rfl, subject⟩ := derives_of_term first
    obtain ⟨vs, statements, rfl, said, rfl⟩ := derives_of_predicates read
    exact ⟨us ++ vs, (List.append_assoc ..).symm, .mk subject said⟩

theorem DerivesBlock.block_eq (derives : DerivesBlock allowVars prefixes us patterns)
    (ends : EndsPattern rest) : block allowVars prefixes (us ++ rest) = .ok (patterns, rest) := by
  cases derives with
  | @mk ts us s statements subject said =>
    obtain ⟨vs, tail, separated, same, last⟩ := said.exists_append rest
    have after : endsTerm (us ++ rest) := by
      rw [same]
      exact separated.opens (endsTerm ·) fun _ _ _ statement => statement.opens.1
    have first : term allowVars prefixes (ts ++ (us ++ rest)) = .ok (s, us ++ rest) :=
      subject.term_eq after
    rw [List.append_assoc, block, first, same]
    exact predicates_of_separated separated ends last

theorem DerivesBlock.startsPattern (derives : DerivesBlock allowVars prefixes us patterns) :
    startsPattern (us ++ rest) := by
  cases derives with
  | mk subject said =>
    rw [List.append_assoc]
    exact subject.opens.1

/-! ### Groups -/

theorem derives_of_blocks (read : blocks allowVars prefixes ts = .ok (patterns, rest)) :
    (ts = .rbrace :: rest ∧ patterns = []) ∨ ∃ us found, ts = us ++ .rbrace :: rest ∧
      Ended .dot (Separated .dot (DerivesBlock allowVars prefixes)) us found ∧
      patterns = found.flatten := by
  -- After a point the reader starts again, so that a point may also stand before the brace.
  fun_induction blocks allowVars prefixes ts generalizing patterns rest with
  | case1 | case3 | case4 | case7 => cases read
  | case2 =>
    cases read
    exact .inl ⟨rfl, rfl⟩
  | case5 t after _ _ here next read' _ ih =>
    obtain ⟨⟨others, left⟩, later, read⟩ := map_eq_ok_iff.1 read
    cases read
    obtain ⟨us, same, derives⟩ := derives_of_block read'
    rw [same]
    obtain ⟨rfl, rfl⟩ | ⟨vs, found, rfl, blocks, rfl⟩ := ih later
    · exact .inr ⟨us ++ [.dot], [here], by simp, .ended (.one derives), by simp⟩
    · exact .inr ⟨us ++ .dot :: vs, here :: found, by simp, .more derives blocks, rfl⟩
  | case6 t after _ _ here next read' =>
    cases read
    obtain ⟨us, same, derives⟩ := derives_of_block read'
    rw [same]
    exact .inr ⟨us, [here], rfl, .plain (.one derives), by simp⟩

/-- A point may stand after the last of the blocks that are `found`. -/
theorem blocks_of_separated
    (derives : Separated .dot (DerivesBlock allowVars prefixes) us found)
    (last : tail = .rbrace :: rest ∨ tail = .dot :: .rbrace :: rest) :
    blocks allowVars prefixes (us ++ tail) = .ok (found.flatten, rest) := by
  have closes : blocks allowVars prefixes (.rbrace :: rest) = .ok ([], rest) := by rw [blocks]
  induction derives with
  | one only =>
    rw [blocks_of_startsPattern only.startsPattern]
    rcases last with rfl | rfl
    · rw [only.block_eq ⟨rest, .inr rfl⟩, List.flatten_singleton]
    · rw [only.block_eq ⟨_, .inl rfl⟩]
      dsimp only
      rw [closes]
      rfl
  | more first _ ih =>
    rw [List.append_assoc, List.cons_append, blocks_of_startsPattern first.startsPattern,
      first.block_eq ⟨_, .inl rfl⟩]
    dsimp only
    rw [ih]
    rfl

/-- What the reader of groups takes is what `DerivesGroup` derives. -/
theorem group_eq_ok_iff : group allowVars prefixes ts = .ok (patterns, rest) ↔
    ∃ us, ts = us ++ rest ∧ DerivesGroup allowVars prefixes us patterns := by
  constructor
  · intro read
    unfold group at read
    split at read
    · obtain ⟨rfl, rfl⟩ | ⟨us, found, rfl, blocks, rfl⟩ := derives_of_blocks read
      · exact ⟨_, rfl, .empty⟩
      · exact ⟨.lbrace :: (us ++ [.rbrace]), by simp, .blocks blocks⟩
    · cases read
  · rintro ⟨us, rfl, derives⟩
    cases derives with
    | empty =>
      change blocks allowVars prefixes (.rbrace :: rest) = _
      rw [blocks]
    | @blocks us found derives =>
      obtain ⟨vs, tail, separated, same, last⟩ := derives.exists_append (.rbrace :: rest)
      change blocks allowVars prefixes (us ++ [.rbrace] ++ rest) = _
      rw [List.append_assoc, List.singleton_append, same]
      exact blocks_of_separated separated last

/-! ### More declarations -/

theorem Separated.imp {item' : List Token → α → Prop} (more : ∀ ts a, item ts a → item' ts a)
    (derives : Separated separator item us others) : Separated separator item' us others := by
  induction derives with
  | one only => exact .one (more _ _ only)
  | more first _ ih => exact .more (more _ _ first) ih

theorem Ended.imp {rule rule' : List Token → α → Prop} (more : ∀ ts a, rule ts a → rule' ts a)
    (derives : Ended separator rule us a) : Ended separator rule' us a := by
  cases derives with
  | plain derives => exact .plain (more _ _ derives)
  | ended derives => exact .ended (more _ _ derives)

variable {earlier : Prefixes}

/-- A prefix stands for what it was declared for last, whatever was declared `earlier`. -/
theorem Names.append_right (names : Names prefixes t iri) : Names (prefixes ++ earlier) t iri := by
  cases names with
  | iri => exact .iri
  | prefixedName declared =>
    refine .prefixedName ?_
    rw [List.lookup_append, declared, Option.some_or]

theorem DerivesTerm.append_right (derives : DerivesTerm allowVars prefixes us p) :
    DerivesTerm allowVars (prefixes ++ earlier) us p := by
  cases derives with
  | var allowed => exact .var allowed
  | iri names => exact .iri names.append_right
  | blankNode => exact .blankNode
  | integer => exact .integer
  | decimal => exact .decimal
  | boolean truth => exact .boolean truth
  | plain => exact .plain
  | tagged => exact .tagged
  | typed names => exact .typed names.append_right

theorem DerivesPredicate.append_right (derives : DerivesPredicate allowVars prefixes us p) :
    DerivesPredicate allowVars (prefixes ++ earlier) us p := by
  cases derives with
  | type => exact .type
  | term derives => exact .term derives.append_right

theorem DerivesStatement.append_right {statement : PatternTerm × List PatternTerm}
    (derives : DerivesStatement allowVars prefixes us statement) :
    DerivesStatement allowVars (prefixes ++ earlier) us statement := by
  cases derives with
  | mk predicate objects =>
    exact .mk predicate.append_right (objects.imp fun _ _ object => object.append_right)

theorem DerivesBlock.append_right (derives : DerivesBlock allowVars prefixes us patterns) :
    DerivesBlock allowVars (prefixes ++ earlier) us patterns := by
  cases derives with
  | mk subject said =>
    refine .mk subject.append_right (said.imp fun _ _ separated => ?_)
    exact separated.imp fun _ _ statement => statement.append_right

theorem DerivesGroup.append_right (derives : DerivesGroup allowVars prefixes us patterns) :
    DerivesGroup allowVars (prefixes ++ earlier) us patterns := by
  cases derives with
  | empty => exact .empty
  | blocks derives =>
    refine .blocks (derives.imp fun _ _ separated => ?_)
    exact separated.imp fun _ _ block => block.append_right

/-! ### What groups are made of -/

/-- The reader of groups takes what the grammar derives (`DerivesGroup`) and nothing else, whatever
follows it, and gives one pattern for each object in the order of the text. Where the tokens `ts` do
not begin with a group it fails, and so where they end within one. -/
theorem group_accepts_grammar (allowVars : Bool) (prefixes : Prefixes) :
    (∀ ts patterns rest, group allowVars prefixes ts = .ok (patterns, rest) ↔
      ∃ us, ts = us ++ rest ∧ DerivesGroup allowVars prefixes us patterns) ∧
    (∀ ts, (∃ e, group allowVars prefixes ts = .error e) ↔
      ∀ us rest patterns, ts = us ++ rest → ¬DerivesGroup allowVars prefixes us patterns) ∧
    ∀ us missing patterns, DerivesGroup allowVars prefixes (us ++ missing) patterns →
      missing ≠ [] → ∃ e, group allowVars prefixes us = .error e := by
  refine ⟨fun ts patterns rest => group_eq_ok_iff, fun ts => ⟨?_, fun none => ?_⟩, ?_⟩
  · rintro ⟨e, failed⟩ us rest patterns same derives
    rw [group_eq_ok_iff.2 ⟨us, same, derives⟩] at failed
    cases failed
  · cases read : group allowVars prefixes ts with
    | error e => exact ⟨e, rfl⟩
    | ok found =>
      obtain ⟨us, same, derives⟩ := group_eq_ok_iff.1 read
      exact absurd derives (none us _ _ same)
  · intro us missing patterns derives cut
    cases read : group allowVars prefixes us with
    | error e => exact ⟨e, rfl⟩
    | ok found =>
      -- What is read of a part would be read of the whole group, which leaves nothing.
      obtain ⟨vs, rfl, part⟩ := group_eq_ok_iff.1 read
      have whole := group_eq_ok_iff.2 ⟨_, (List.append_nil _).symm, derives⟩
      rw [group_eq_ok_iff.2 ⟨vs, List.append_assoc .., part⟩] at whole
      have left : found.2 ++ missing = [] := congrArg Prod.snd (Except.ok.inj whole)
      exact absurd (List.append_eq_nil_iff.1 left).2 cut

/-- A group in which every separator stands at an end as well. -/
def labelled : List Token :=
  [.lbrace, .var "s", .word "a", .prefixedName "ex" "Sensor", .comma, .iri "urn:thing", .semicolon,
    .prefixedName "ex" "label", .string "Kessel", .langTag "de", .semicolon, .dot,
    .blankNode "b", .iri "urn:reads", .decimal "1.5", .dot, .rbrace]

/-- What the group spells. -/
def labelledPatterns : List TriplePattern :=
  [⟨.var "s", .term (.iri rdfType), .term (.iri "http://ex/Sensor")⟩,
    ⟨.var "s", .term (.iri rdfType), .term (.iri "urn:thing")⟩,
    ⟨.var "s", .term (.iri "http://ex/label"), .term (.tagged "Kessel" "de")⟩,
    ⟨.term (.blank "b"), .term (.iri "urn:reads"), .term (.typed "1.5" (xsd "decimal"))⟩]

/-- The group `labelled` is read up to its brace, and not at all if it is cut off anywhere. -/
theorem group_accepts_grammar_labelled :
    DerivesGroup true [("ex", "http://ex/")] labelled labelledPatterns ∧
      group true [("ex", "http://ex/")] (labelled ++ [.rbrace]) =
        .ok (labelledPatterns, [.rbrace]) ∧
      ∀ n < 17, ∃ e, group true [("ex", "http://ex/")] (labelled.take n) = .error e := by
  obtain ⟨accepts, -, cut⟩ := group_accepts_grammar true [("ex", "http://ex/")]
  have read : group true [("ex", "http://ex/")] labelled = .ok (labelledPatterns, []) :=
    ok_of_toOption (by decide +kernel)
  obtain ⟨us, same, derives⟩ := (accepts _ _ _).1 read
  rw [List.append_nil] at same
  subst same
  refine ⟨derives, (accepts _ _ _).2 ⟨labelled, rfl, derives⟩, fun n less => ?_⟩
  rw [← List.take_append_drop n labelled] at derives
  refine cut _ _ _ derives fun none => ?_
  have short := List.drop_eq_nil_iff.1 none
  exact absurd less (Nat.not_lt.2 short)

end GraphBroker.Sparql
