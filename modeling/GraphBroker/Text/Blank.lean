/-!
# Blank characters

The characters with the Unicode property `White_Space`, and the two ways to cut
them off a text.

## Main definitions

* `isBlank`: the property itself.
* `trim`, `trimStart`: a text without the blanks at its ends, or at its start.
-/

namespace GraphBroker.Text

/-- The property `White_Space`: tab to carriage return, the next-line control,
and the space separators, line separators and paragraph separators. -/
def isBlank (c : Char) : Bool :=
  c == ' ' || ('\x09' ≤ c && c ≤ '\x0d') || c == '\x85' || c == '\u00a0' || c == '\u1680' ||
    ('\u2000' ≤ c && c ≤ '\u200a') || c == '\u2028' || c == '\u2029' || c == '\u202f' ||
    c == '\u205f' || c == '\u3000'

/-- The text without the blanks at its start. -/
def trimStart (text : String) : String :=
  String.ofList (text.toList.dropWhile isBlank)

/-- The text without the blanks at either end. -/
def trim (text : String) : String :=
  String.ofList ((text.toList.dropWhile isBlank).reverse.dropWhile isBlank).reverse

end GraphBroker.Text
