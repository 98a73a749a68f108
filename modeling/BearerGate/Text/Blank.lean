/-!
# Blank Characters

Trimming and word splitting follow the `White_Space` property of Unicode: the ASCII
controls from tab to carriage return, the space, and nineteen further characters such as
the no-break space and the ideographic space. The zero-width characters are not blank.

* `isBlank` — the property as a test;
* `trim` — a text without the blank characters at its ends;
* `isBlankText` — whether a text has nothing else in it;
* `squeeze` — a text without any of them.
-/

namespace BearerGate.Text

/-- Whether a character has the `White_Space` property. -/
def isBlank (c : Char) : Bool :=
  let n := c.toNat
  (9 ≤ n && n ≤ 13) || n == 0x20 || n == 0x85 || n == 0xA0 || n == 0x1680 ||
    (0x2000 ≤ n && n ≤ 0x200A) || n == 0x2028 || n == 0x2029 || n == 0x202F ||
    n == 0x205F || n == 0x3000

/-- A text without its leading blank characters. -/
def trimStart (cs : List Char) : List Char :=
  cs.dropWhile isBlank

/-- A text without its trailing blank characters. -/
def trimEnd (cs : List Char) : List Char :=
  (cs.reverse.dropWhile isBlank).reverse

/-- A text without the blank characters at both ends. -/
def trim (cs : List Char) : List Char :=
  trimEnd (trimStart cs)

/-- Whether a text holds blank characters only; the empty text does. -/
def isBlankText (cs : List Char) : Bool :=
  cs.all isBlank

/-- A text without any blank character. -/
def squeeze (cs : List Char) : List Char :=
  cs.filter fun c => !isBlank c

end BearerGate.Text
