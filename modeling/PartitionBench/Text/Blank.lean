/-!
Contract: the characters that count as blank around a value typed by a person.

Owns:
- the blank class: the ASCII layout controls, the no-break space, the byte order
  mark, the two Unicode line separators and the space separators;
- removal of blanks at both ends of a list of characters.

Does not own: line splitting (`Text.Lines`) and the narrower notions of space
that the configuration formats have.
-/

namespace PartitionBench.Text

/-- A character is blank when it is a tab, a line break of any kind, a byte order
mark or a Unicode space separator. The next-line control U+0085, the Mongolian
vowel separator and the zero-width space are not blank. -/
def isBlank (c : Char) : Bool :=
  let code := c.toNat
  (0x09 ≤ code && code ≤ 0x0D) || code == 0x20 || code == 0xA0 || code == 0x1680
    || (0x2000 ≤ code && code ≤ 0x200A) || code == 0x2028 || code == 0x2029
    || code == 0x202F || code == 0x205F || code == 0x3000 || code == 0xFEFF

/-- The characters that remain when the blanks at both ends are dropped. -/
def trimChars (chars : List Char) : List Char :=
  ((chars.dropWhile isBlank).reverse.dropWhile isBlank).reverse

end PartitionBench.Text
