/-!
# Quoted text in diagnostics

A text inside a diagnostic value stands between double quotes. The quote, the
backslash and the control characters are written as escapes, the others as they
are.
-/

namespace LatencyMeter
namespace Text

/-- A character of a quoted text. -/
def quotedChar (character : Char) : List Char :=
  match character with
  | '"' => ['\\', '"']
  | '\\' => ['\\', '\\']
  | '\n' => ['\\', 'n']
  | '\r' => ['\\', 'r']
  | '\t' => ['\\', 't']
  | _ =>
      if character.toNat = 0 then
        ['\\', '0']
      else if character.toNat < 0x20 ∨ (0x7f ≤ character.toNat ∧ character.toNat < 0xa0) then
        '\\' :: 'u' :: '\x7b' :: (Nat.toDigits 16 character.toNat ++ ['\x7d'])
      else
        [character]

/-- A text between double quotes. -/
def quoted (text : String) : String :=
  String.ofList ('"' :: text.toList.flatMap quotedChar ++ ['"'])

example : quoted "a\"b\\\x01" = "\"a\\\"b\\\\\\u\x7b1\x7d\"" := by decide +kernel

end Text
end LatencyMeter
