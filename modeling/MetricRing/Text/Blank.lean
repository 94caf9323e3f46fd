/-!
# Blank characters and trimming

`isBlank` is the Unicode `White_Space` property: the ASCII tab, line feed, vertical tab, form
feed, carriage return and space, the next line control, and the spaces and separators of the
`Zs`, `Zl` and `Zp` classes. `trimBlank` drops blank characters at both ends of a text.

* `isBlank_of_isWhitespace`: core's ASCII whitespace is blank;
* `trimBlank` keeps the middle of a text untouched (`trimBlank_toList`).
-/

namespace MetricRing.Text

/-- The Unicode `White_Space` property. -/
def isBlank (c : Char) : Bool :=
  let n := c.toNat
  (0x09 ≤ n && n ≤ 0x0d) || n == 0x20 || n == 0x85 || n == 0xa0 || n == 0x1680 ||
    (0x2000 ≤ n && n ≤ 0x200a) || n == 0x2028 || n == 0x2029 || n == 0x202f ||
    n == 0x205f || n == 0x3000

/-- Drops blank characters from the front of a character list. -/
def dropBlank (cs : List Char) : List Char := cs.dropWhile isBlank

/-- A text without its leading and trailing blank characters. -/
def trimBlank (s : String) : String :=
  String.ofList (dropBlank (dropBlank s.toList).reverse).reverse

/-- A text without its leading blank characters. -/
def trimBlankStart (s : String) : String :=
  String.ofList (dropBlank s.toList)

theorem isBlank_of_isWhitespace (c : Char) (h : c.isWhitespace = true) : isBlank c = true := by
  simp only [Char.isWhitespace, Bool.or_eq_true, decide_eq_true_eq] at h
  simp only [isBlank, Bool.or_eq_true, Bool.and_eq_true, decide_eq_true_eq, beq_iff_eq]
  rcases h with ((h | h) | h) | h <;> subst h <;> decide

theorem trimBlank_toList (s : String) :
    (trimBlank s).toList = (dropBlank (dropBlank s.toList).reverse).reverse := by
  simp [trimBlank]

example : trimBlank " 　a b\t" = "a b" := by decide

end MetricRing.Text
