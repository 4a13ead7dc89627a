/-!
Contract: the white space that may surround a word in a model or a settings
text.

Owns: the Unicode property White_Space and trimming by it.

Does not own: the four blank characters that separate the parts of a tag,
which belong to the markup.
-/

namespace EntityGen.Text

/-- The Unicode property White_Space. The zero width space and the byte order
mark do not have it. -/
def isBlank (c : Char) : Bool :=
  let code := c.toNat
  (0x09 ≤ code && code ≤ 0x0D) || code == 0x20 || code == 0x85 || code == 0xA0 ||
    code == 0x1680 || (0x2000 ≤ code && code ≤ 0x200A) || code == 0x2028 ||
    code == 0x2029 || code == 0x202F || code == 0x205F || code == 0x3000

/-- `text` without white space at its start. -/
def trimStart (text : List Char) : List Char :=
  text.dropWhile isBlank

/-- `text` without white space at its end. -/
def trimEnd (text : List Char) : List Char :=
  (text.reverse.dropWhile isBlank).reverse

/-- `text` without white space at either end. -/
def trim (text : List Char) : List Char :=
  trimEnd (trimStart text)

end EntityGen.Text
