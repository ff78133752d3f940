import GraphBroker.Json.Reader

/-!
# Plain values of a TOML document

Texts in one or several lines, with or without escapes; whole and decimal
numbers, which may be grouped by underscores; truth values; dates and times.

## Main definitions

* `Toml.quoted?`: a text in quotes.
* `Toml.word?`: any other plain value.
-/

namespace GraphBroker.Toml

/-! ### Texts -/

/-- Whether a character may stand for itself in a comment, and in a text on one line. -/
def isPlain (c : Char) : Bool :=
  c == '\t' || (' ' ≤ c && c != '\x7f')

/-- The character that a letter after a backslash writes. -/
def escape? : Char → Option Char
  | '"' => some '"'
  | '\\' => some '\\'
  | 'b' => some '\x08'
  | 'e' => some '\x1b'
  | 'f' => some '\x0c'
  | 'n' => some '\n'
  | 'r' => some '\r'
  | 't' => some '\t'
  | _ => none

/-- The character whose number hexadecimal digits write. -/
def codePoint? (ds : List Char) : Option Char := do
  let n := (← ds.mapM Json.hexDigit?).foldl (fun n d => 16 * n + d) 0
  if n < 0xD800 ∨ (0xDFFF < n ∧ n < 0x110000) then some (Char.ofNat n) else none

/-- What follows a line break at the start. -/
def afterBreak? : List Char → Option (List Char)
  | '\n' :: rest => some rest
  | '\r' :: '\n' :: rest => some rest
  | _ => none

/-- Blanks and line breaks at the start are passed over. -/
def skipSpace : List Char → List Char
  | ' ' :: rest | '\t' :: rest | '\n' :: rest | '\r' :: '\n' :: rest => skipSpace rest
  | input => input

/-- The end of a text over several lines: up to two more quotes belong to the text. -/
def closing? (quote : Char) (input : List Char) : Option (List Char × List Char) :=
  let run := input.takeWhile (· == quote)
  if run.length < 3 then none
  else
    let kept := min (run.length - 3) 2
    some (run.take kept, input.drop (kept + 3))

/-- How many digits follow a letter after which a character is written by its number. -/
def digitCount? : Char → Option Nat
  | 'x' => some 2
  | 'u' => some 4
  | 'U' => some 8
  | _ => none

/-- One character of a text in double quotes, written in one or several characters; or none, if
a backslash joins two lines. -/
def escaped? (multiline : Bool) : List Char → Option (List Char × List Char)
  | c :: rest =>
    match digitCount? c, escape? c with
    | some n, _ => do
      if rest.length < n then none
      return ([← codePoint? (rest.take n)], rest.drop n)
    | none, some e => some ([e], rest)
    | none, none =>
      let afterBlanks := (c :: rest).dropWhile fun c => c == ' ' || c == '\t'
      if multiline && (afterBreak? afterBlanks).isSome then
        some ([], skipSpace (c :: rest))
      else none
  | [] => none

/-- A text on one line up to its closing quote. At most so many characters are read. -/
def line? (quote : Char) : Nat → List Char → Option (List Char × List Char)
  | 0, _ | _, [] => none
  | n + 1, c :: rest =>
    if c == quote then some ([], rest)
    else if c == '\\' && quote == '"' then do
      let (found, rest) ← escaped? false rest
      let (more, rest) ← line? quote n rest
      return (found ++ more, rest)
    else if isPlain c then do
      let (more, rest) ← line? quote n rest
      return (c :: more, rest)
    else none

/-- A text over several lines up to its three closing quotes. -/
def lines? (quote : Char) : Nat → List Char → Option (List Char × List Char)
  | 0, _ | _, [] => none
  | n + 1, c :: rest =>
    match closing? quote (c :: rest) with
    | some (kept, rest) => some (kept, rest)
    | none =>
      if c == '\\' && quote == '"' then do
        let (found, rest) ← escaped? true rest
        let (more, rest) ← lines? quote n rest
        return (found ++ more, rest)
      else
        match afterBreak? (c :: rest) with
        | some after => do
          let lineBreak := (c :: rest).take (rest.length + 1 - after.length)
          let (more, rest) ← lines? quote n after
          return (lineBreak ++ more, rest)
        | none =>
          if isPlain c then do
            let (more, rest) ← lines? quote n rest
            return (c :: more, rest)
          else none

/-- A text on one line, with its quotes. -/
def quotedLine? : List Char → Option (String × List Char)
  | c :: rest =>
    if c == '"' || c == '\'' then
      (line? c (rest.length + 1) rest).map fun found => (String.ofList found.1, found.2)
    else none
  | [] => none

/-- A text in quotes, on one line or after three quotes over several. -/
def quoted? : List Char → Option (String × List Char)
  | a :: b :: c :: rest =>
    if (a == '"' || a == '\'') && a == b && b == c then
      let body := (afterBreak? rest).getD rest
      (lines? a (body.length + 1) body).map fun found => (String.ofList found.1, found.2)
    else quotedLine? (a :: b :: c :: rest)
  | input => quotedLine? input

/-! ### Numbers -/

/-- The digits of a number without the underscores, each of which stands between two digits. -/
def ungroup? (isDigit : Char → Bool) : List Char → Option (List Char)
  | [] => none
  | [d] => if isDigit d then some [d] else none
  | d :: '_' :: e :: rest =>
    if isDigit d && isDigit e then (ungroup? isDigit (e :: rest)).map (d :: ·) else none
  | d :: rest => if isDigit d then (ungroup? isDigit rest).map (d :: ·) else none

/-- A whole number, if it fits a signed 64-bit word. -/
def fitting (n : Int) : Option Json :=
  if -0x8000000000000000 ≤ n ∧ n ≤ 0x7FFFFFFFFFFFFFFF then some (.int n) else none

/-- The whole number that digits write to a base after `0x`, `0o` or `0b`. -/
def based? (base : Nat) (ds : List Char) : Option Json := do
  let digit? (c : Char) : Option Nat := (Json.hexDigit? c).filter (· < base)
  let ds ← ungroup? (fun c => (digit? c).isSome) ds
  fitting ((← ds.mapM digit?).foldl (fun n d => base * n + d) 0 : Nat)

/-- The digits before the point: zero, or digits that do not start with one. -/
def whole? (cs : List Char) : Option (List Char) :=
  (ungroup? Char.isDigit cs).filter fun ds => ds.length = 1 || ds.head? != some '0'

/-- An exponent with its sign. -/
def exponent? (cs : List Char) : Option (List Char) :=
  match cs with
  | '+' :: ds => ungroup? Char.isDigit ds
  | '-' :: ds => (ungroup? Char.isDigit ds).map ('-' :: ·)
  | ds => ungroup? Char.isDigit ds

/-- A decimal number without its sign. -/
def decimal? (cs : List Char) : Option (List Char) := do
  let isMark := fun c : Char => c == 'e' || c == 'E'
  let mantissa := cs.takeWhile (!isMark ·)
  let exponent ← match cs.dropWhile (!isMark ·) with
    | [] => some []
    | _ :: ds => (exponent? ds).map ('e' :: ·)
  let whole ← whole? (mantissa.takeWhile (· != '.'))
  match mantissa.dropWhile (· != '.') with
  | [] => return whole ++ exponent
  | _ :: fraction => return whole ++ '.' :: (← ungroup? Char.isDigit fraction) ++ exponent

/-- A decimal number that is not beyond every number. -/
def fittingReal (spelling : String) : Option Json :=
  match Double.ofText? spelling with
  | some (.finite ..) => some (.real spelling)
  | _ => none

/-- A number without its sign. -/
def unsigned? (negative : Bool) (cs : List Char) : Option Json :=
  let sign := if negative then "-" else ""
  if cs == ['i', 'n', 'f'] then some (.real (sign ++ "inf"))
  else if cs == ['n', 'a', 'n'] then some (.real "NaN")
  else
    match whole? cs with
    | some ds => fitting (if negative then -(Text.ofDigits ds : Int) else Text.ofDigits ds)
    | none => (decimal? cs).bind fun ds => fittingReal (sign ++ String.ofList ds)

/-- A number. Only whole numbers to the base ten and decimal numbers have a sign. -/
def number? : List Char → Option Json
  | '0' :: 'x' :: ds => based? 16 ds
  | '0' :: 'o' :: ds => based? 8 ds
  | '0' :: 'b' :: ds => based? 2 ds
  | '+' :: cs => unsigned? false cs
  | '-' :: cs => unsigned? true cs
  | cs => unsigned? false cs

/-! ### Dates and times -/

/-- A number of two digits, if it lies between bounds. -/
def isPair (low high : Nat) (cs : List Char) : Bool :=
  cs.length == 2 && cs.all Char.isDigit && low ≤ Text.ofDigits cs && Text.ofDigits cs ≤ high

/-- The days of a month. -/
def daysOf (year month : Nat) : Nat :=
  if month = 2 then
    if (year % 4 = 0 ∧ year % 100 ≠ 0) ∨ year % 400 = 0 then 29 else 28
  else if [4, 6, 9, 11].contains month then 30
  else 31

/-- Whether these ten characters are a date. -/
def isDate : List Char → Bool
  | [a, b, c, d, '-', e, f, '-', g, h] =>
    [a, b, c, d].all Char.isDigit && isPair 1 12 [e, f] &&
      isPair 1 (daysOf (Text.ofDigits [a, b, c, d]) (Text.ofDigits [e, f])) [g, h]
  | _ => false

/-- The parts of a second with at most nine digits, and without zeros at the end. -/
def fraction (ds : List Char) : List Char :=
  match ((ds.take 9).reverse.dropWhile (· == '0')).reverse with
  | [] => ['.', '0']
  | kept => '.' :: kept

/-- A time at the start, in the form in which it is shown, and what follows it. The seconds may
be missing. -/
def time? : List Char → Option (List Char × List Char)
  | a :: b :: ':' :: c :: d :: rest =>
    if isPair 0 23 [a, b] && isPair 0 59 [c, d] then
      let minutes := [a, b, ':', c, d]
      match rest with
      | ':' :: e :: f :: rest =>
        if isPair 0 60 [e, f] then
          let seconds := minutes ++ [':', e, f]
          match rest with
          | '.' :: rest =>
            match rest.takeWhile Char.isDigit with
            | [] => none
            | ds => some (seconds ++ fraction ds, rest.dropWhile Char.isDigit)
          | _ => some (seconds, rest)
        else none
      | _ => some (minutes, rest)
    else none
  | _ => none

/-- The distance of a time from the standard time, in the form in which it is shown. -/
def offset? : List Char → Option (List Char)
  | [] => some []
  | ['Z'] | ['z'] => some ['Z']
  | [s, a, b, ':', c, d] =>
    if (s == '+' || s == '-') && isPair 0 23 [a, b] && isPair 0 59 [c, d] then
      let isZero := [a, b, c, d].all (· == '0')
      some ((if isZero then '+' else s) :: [a, b, ':', c, d])
    else none
  | _ => none

/-- A date, a time, or both with a letter or a blank between, in the form in which it is
shown. -/
def moment? (cs : List Char) : Option String :=
  let date := cs.take 10
  if isDate date then
    match cs.drop 10 with
    | [] => some (String.ofList date)
    | c :: rest =>
      if ['T', 't', ' '].contains c then do
        let (time, rest) ← time? rest
        return String.ofList (date ++ 'T' :: time ++ (← offset? rest))
      else none
  else
    match time? cs with
    | some (time, []) => some (String.ofList time)
    | _ => none

/-! ### Words -/

/-- The characters of a plain value without quotes. -/
def inWord (c : Char) : Bool :=
  c.isAlphanum || "+-_.:".toList.contains c

/-- A plain value without quotes: a truth value, a number, a date or a time. The time may follow
its date after a blank. -/
def word? (input : List Char) : Option (Json × List Char) :=
  let first := input.takeWhile inWord
  let rest := input.dropWhile inWord
  let (cs, rest) := match rest with
    | ' ' :: d :: more =>
      if isDate first && d.isDigit then
        (first ++ ' ' :: (d :: more).takeWhile inWord, (d :: more).dropWhile inWord)
      else (first, rest)
    | _ => (first, rest)
  if cs == "true".toList then some (.bool true, rest)
  else if cs == "false".toList then some (.bool false, rest)
  else
    match moment? cs with
    | some shown => some (.text shown, rest)
    | none => (number? cs).map fun found => (found, rest)

end GraphBroker.Toml
