import GraphBroker.Proofs.Sparql.Replacing

/-!
# Texts line by line

No lexeme goes on over the end of a line that follows it, a comment included. So what has been read
of a text is read again if a line end and any other text follow, and the tokens of the other text
come after its tokens. A text in triple quotes may have line ends inside, but then it has been read
to its end.

## Main statements

* `lexeme_append_line`: a lexeme before a line end.
* `tokensOf_append_line`: a text before a line end.
* `tokens_line_by_line`: two texts with a line end between them.
-/

namespace GraphBroker.Sparql

variable {c : Char} {cs rest more : List Char} {l : Lexeme} {ts : List Token}

/-- Where the text `rest` ends, a line may end. -/
theorem Alike.append_line : Alike rest (rest ++ '\n' :: more) := by
  have alike : Alike (rest ++ []) (rest ++ '\n' :: more) := Alike.line.append rest
  rwa [List.append_nil] at alike

theorem lexeme_append_line (read : lexeme c cs = .ok (l, rest)) :
    lexeme c (cs ++ '\n' :: more) = .ok (l, rest ++ '\n' :: more) := by
  obtain ⟨us, rfl, spells⟩ := spells_of_lexeme read
  obtain ⟨_, _, same, again⟩ := lexeme_of_spells (spells.alike .append_line)
  cases same
  rw [List.append_assoc]
  exact again

theorem tokensOf_line : tokensOf ('\n' :: cs) = tokensOf cs := by
  have gap : lexeme '\n' cs = .ok (.gap, cs) := rfl
  rw [tokensOf_cons, gap]

/-- What has been read of the text `cs` stays, and the rest is read as if it stood alone. -/
theorem tokensOf_append_line (read : tokensOf cs = .ok ts) :
    tokensOf (cs ++ '\n' :: more) = (tokensOf more).map (ts ++ ·) := by
  fun_induction tokensOf cs generalizing ts with
  | case1 =>
    cases read
    rw [List.nil_append, tokensOf_line]
    cases tokensOf more <;> rfl
  | case2 => cases read
  | case3 c cs rest gap ih =>
    rw [List.cons_append, tokensOf_cons, lexeme_append_line gap]
    exact ih read
  | case4 c cs t rest found ih =>
    obtain ⟨others, later, rfl⟩ := map_eq_ok_iff.1 read
    rw [List.cons_append, tokensOf_of_lexeme (lexeme_append_line found), ih later]
    cases tokensOf more <;> rfl

/-- If the text `a` can be read and `b` comes after a line end, the tokens are those of `a` and then
those of `b`. If `b` cannot be read, the error is the one that it gives by itself. -/
theorem tokens_line_by_line {a : String} (read : tokenize a = .ok ts) (b : String) :
    (∀ us, tokenize b = .ok us → tokenize (a ++ "\n" ++ b) = .ok (ts ++ us)) ∧
      ∀ e, tokenize b = .error e → tokenize (a ++ "\n" ++ b) = .error e := by
  have chars : (a ++ "\n" ++ b).toList = a.toList ++ '\n' :: b.toList := by simp
  have whole : tokenize (a ++ "\n" ++ b) = (tokenize b).map (ts ++ ·) := by
    rw [tokenize, chars]
    exact tokensOf_append_line read
  rw [whole]
  refine ⟨fun us later => ?_, fun e later => ?_⟩ <;> rw [later] <;> rfl

/-- A name that ends in a dot and a comment are at the end of the first text, and the second one
begins with digits, or is not closed. -/
theorem tokens_line_by_line_dotted :
    tokenize ("p:a. # it's" ++ "\n" ++ "5") =
        .ok [.prefixedName "p" "a", .dot, .integer "5"] ∧
      tokenize ("p:a. # it's" ++ "\n" ++ "5 'b") = .error .unterminatedString := by
  have read : tokenize "p:a. # it's" = .ok [.prefixedName "p" "a", .dot] := by decide +kernel
  exact ⟨(tokens_line_by_line read "5").1 [.integer "5"] (by decide +kernel),
    (tokens_line_by_line read "5 'b").2 _ (by decide +kernel)⟩

end GraphBroker.Sparql
