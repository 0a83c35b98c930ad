import MetricQuery.Text.CharSet

/-!
# Blank characters

Names and literals are read with the blank characters around them dropped.  Blank are the white
space of the character database and the four information separators `U+001C` to `U+001F`.

## Main definitions

* `isBlank` : whether a character is blank.
* `trim` : a text without the blank characters at its two ends.
-/

namespace MetricQuery.Text

/-- The blank characters. -/
def blanks : CharSet :=
  [(0x9, 0xD), (0x1C, 0x20), (0x85, 0x85), (0xA0, 0xA0), (0x1680, 0x1680), (0x2000, 0x200A),
   (0x2028, 0x2029), (0x202F, 0x202F), (0x205F, 0x205F), (0x3000, 0x3000)]

/-- Whether `c` is blank. -/
def isBlank (c : Char) : Bool :=
  blanks.contains c

/-- The text without the characters at its two ends that satisfy `p`. -/
def trimBy (p : Char → Bool) (s : List Char) : List Char :=
  ((s.dropWhile p).reverse.dropWhile p).reverse

/-- The text without the blank characters at its two ends. -/
def trim (s : List Char) : List Char :=
  trimBy isBlank s

end MetricQuery.Text
