import MetricRing.Text.Printable
import MetricRing.Text.GraphemeExtend
/-!
# Quoted text

`quote` writes a text between double quotes so that every character stays visible and the
quotes stay unambiguous: a backslash escapes the quote, the backslash, the tab, the carriage
return, the line feed and the NUL character; a grapheme extender or a character that is not
printable becomes `\u{hex}` with lowercase hexadecimal digits; everything else, the single
quote included, stands for itself.

`quoteChar` writes one character between single quotes the same way, except that the single
quote is escaped and the double quote stands for itself.

* `quote_toList` gives the quoted characters;
* `escapeChar_ne_nil` says no character disappears.
-/

namespace MetricRing.Text

/-- The escape `\u{hex}` of a character, with lowercase hexadecimal digits. -/
def hexEscape (c : Char) : List Char :=
  ['\\', 'u', '\x7b'] ++ Nat.toDigits 16 c.toNat ++ ['\x7d']

/-- How one character is written inside quotes. -/
def escapeChar (c : Char) : List Char :=
  match c with
  | '\x00' => ['\\', '0']
  | '\t' => ['\\', 't']
  | '\r' => ['\\', 'r']
  | '\n' => ['\\', 'n']
  | '\\' => ['\\', '\\']
  | '"' => ['\\', '"']
  | c => if isGraphemeExtend c || !isPrintable c then hexEscape c else [c]

/-- The text between double quotes, each character written by `escapeChar`. -/
def quote (s : String) : String :=
  String.ofList ('"' :: s.toList.flatMap escapeChar ++ ['"'])

/-- How one character is written between single quotes. -/
def escapeCharSingle (c : Char) : List Char :=
  match c with
  | '\'' => ['\\', '\'']
  | '"' => ['"']
  | c => escapeChar c

/-- One character between single quotes, written by `escapeCharSingle`. -/
def quoteChar (c : Char) : String :=
  String.ofList ('\'' :: escapeCharSingle c ++ ['\''])

theorem quote_toList (s : String) :
    (quote s).toList = '"' :: s.toList.flatMap escapeChar ++ ['"'] := by
  simp [quote]

theorem escapeChar_ne_nil (c : Char) : escapeChar c ≠ [] := by
  unfold escapeChar
  split <;> try simp
  split <;> simp [hexEscape]

example : quote "a\"b\\'" = "\"a\\\"b\\\\'\"" := by decide +kernel

end MetricRing.Text
