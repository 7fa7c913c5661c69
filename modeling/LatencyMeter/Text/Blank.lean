/-!
# Blank characters

The characters that carry no meaning around a value: those with the Unicode
property White_Space. Trimming removes them at both ends of a text and leaves
those in its middle alone.
-/

namespace LatencyMeter
namespace Text

/-- Whether a character has the Unicode property White_Space. -/
def isBlank (character : Char) : Bool :=
  let code := character.toNat
  (0x09 ≤ code && code ≤ 0x0d) || code == 0x20 || code == 0x85 || code == 0xa0 ||
    code == 0x1680 || (0x2000 ≤ code && code ≤ 0x200a) || code == 0x2028 ||
    code == 0x2029 || code == 0x202f || code == 0x205f || code == 0x3000

example : isBlank ' ' && isBlank '\u00a0' && isBlank '\u3000' = true := by decide

example : isBlank '\u200b' || isBlank '\x1c' || isBlank 'a' = false := by decide

/-- The text without the blanks in front of it. -/
def trimStart (text : List Char) : List Char :=
  text.dropWhile isBlank

/-- The text without the blanks behind it. -/
def trimEnd (text : List Char) : List Char :=
  (text.reverse.dropWhile isBlank).reverse

/-- The text without the blanks at its two ends. -/
def trim (text : List Char) : List Char :=
  trimEnd (trimStart text)

@[simp] theorem trimStart_nil : trimStart [] = [] := rfl

theorem trimStart_cons_of_blank {first : Char} {rest : List Char}
    (blank : isBlank first = true) :
    trimStart (first :: rest) = trimStart rest := by
  simp [trimStart, blank]

theorem trimStart_cons_of_not_blank {first : Char} {rest : List Char}
    (solid : isBlank first = false) :
    trimStart (first :: rest) = first :: rest := by
  simp [trimStart, solid]

end Text
end LatencyMeter
