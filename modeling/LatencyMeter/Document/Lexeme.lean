import LatencyMeter.Decimal.Natural
import LatencyMeter.Document
import LatencyMeter.Word

/-!
# Words, numbers and texts of documents

The smallest parts of a document, each read from the front of a text. Reading goes
from left to right and stops at the first fault: the notation is broken, or the
text ends early. What is skipped is read by rules of its own: a text that is
skipped may hold half of a surrogate pair, and a number that ends early is a broken
one there.
-/

namespace LatencyMeter
namespace Document

/-- Whether a character may stand between the parts of a document. -/
def isSpace (character : Char) : Bool :=
  character == ' ' || character == '\n' || character == '\t' || character == '\r'

/-- The text without the blanks in front of it. -/
def skipSpace (text : List Char) : List Char :=
  text.dropWhile isSpace

/-- Read a given sequence of characters. -/
def expect : List Char -> List Char -> Except DocumentFault (Unit × List Char)
  | [], text => .ok ((), text)
  | _ :: _, [] => .error .endsEarly
  | expected :: rest, character :: text =>
      if character = expected then expect rest text else .error .malformed

/-! ## Texts -/

/-- The value of a hexadecimal digit. -/
def hexDigit? (character : Char) : Option Nat :=
  if '0' ≤ character ∧ character ≤ '9' then some (character.toNat - '0'.toNat)
  else if 'a' ≤ character ∧ character ≤ 'f' then some (character.toNat - 'a'.toNat + 10)
  else if 'A' ≤ character ∧ character ≤ 'F' then some (character.toNat - 'A'.toNat + 10)
  else none

/-- Whether fewer than four bytes are left of a text. -/
def fewBytesLeft (text : List Char) : Bool :=
  (String.ofList (text.take 4)).utf8ByteSize < 4

/-- Read the four digits of an escaped code unit. -/
def hexEscape : List Char -> Except DocumentFault (Nat × List Char)
  | first :: second :: third :: fourth :: rest =>
      match hexDigit? first, hexDigit? second, hexDigit? third, hexDigit? fourth with
      | some first, some second, some third, some fourth =>
          .ok (((first * 16 + second) * 16 + third) * 16 + fourth, rest)
      | _, _, _, _ => .error .malformed
  | text => if fewBytesLeft text then .error .endsEarly else .error .malformed

/-- The character that a one-letter escape stands for. -/
def simpleEscape? : Char -> Option Char
  | '"' => some '"'
  | '\\' => some '\\'
  | '/' => some '/'
  | 'b' => some '\x08'
  | 'f' => some '\x0c'
  | 'n' => some '\n'
  | 'r' => some '\r'
  | 't' => some '\t'
  | _ => none

/-- Read the second half of a surrogate pair. -/
def lowSurrogate (high : Nat) : List Char -> Except DocumentFault (Char × List Char)
  | [] => .error .endsEarly
  | '\\' :: [] => .error .endsEarly
  | '\\' :: 'u' :: rest => do
      let (low, rest) <- hexEscape rest
      if 0xdc00 ≤ low ∧ low ≤ 0xdfff then
        return (Char.ofNat (0x10000 + (high - 0xd800) * 0x400 + (low - 0xdc00)), rest)
      else
        throw .malformed
  | _ => .error .malformed

/-- Read the character that an escape stands for, behind its backslash. -/
def escape : List Char -> Except DocumentFault (Char × List Char)
  | [] => .error .endsEarly
  | 'u' :: rest => do
      let (unit, rest) <- hexEscape rest
      if 0xdc00 ≤ unit ∧ unit ≤ 0xdfff then
        throw .malformed
      else if 0xd800 ≤ unit ∧ unit ≤ 0xdbff then
        lowSurrogate unit rest
      else
        return (Char.ofNat unit, rest)
  | letter :: rest =>
      match simpleEscape? letter with
      | some character => .ok (character, rest)
      | none => .error .malformed

/-- Read the rest of a text behind its opening quote. -/
def stringFrom : Nat -> List Char -> Except DocumentFault (List Char × List Char)
  | _, [] => .error .endsEarly
  | 0, _ => .error .endsEarly
  | _ + 1, '"' :: rest => .ok ([], rest)
  | bound + 1, '\\' :: rest => do
      let (character, rest) <- escape rest
      let (characters, rest) <- stringFrom bound rest
      return (character :: characters, rest)
  | bound + 1, character :: rest =>
      if character.toNat < 0x20 then
        .error .malformed
      else do
        let (characters, rest) <- stringFrom bound rest
        return (character :: characters, rest)

/-- Read the rest of a text behind its opening quote. -/
def stringRest (text : List Char) : Except DocumentFault (List Char × List Char) :=
  stringFrom (text.length + 1) text

/-- Skip the rest of a text behind its opening quote. -/
def skipStringFrom : Nat -> List Char -> Except DocumentFault (Unit × List Char)
  | _, [] => .error .endsEarly
  | 0, _ => .error .endsEarly
  | _ + 1, '"' :: rest => .ok ((), rest)
  | _ + 1, ['\\'] => .error .endsEarly
  | bound + 1, '\\' :: 'u' :: rest => do
      let (_, rest) <- hexEscape rest
      skipStringFrom bound rest
  | bound + 1, '\\' :: letter :: rest =>
      if (simpleEscape? letter).isSome then skipStringFrom bound rest else .error .malformed
  | bound + 1, character :: rest =>
      if character.toNat < 0x20 then .error .malformed else skipStringFrom bound rest

/-- Skip the rest of a text behind its opening quote. -/
def skipString (text : List Char) : Except DocumentFault (Unit × List Char) :=
  skipStringFrom (text.length + 1) text

/-! ## Numbers -/

/-- A number as it is written: its digits that fit into a word, and where its point is. -/
structure Numeral where
  negative : Bool
  significand : Nat
  exponent : Int
  /-- Whether the number has a fraction, an exponent or more digits than fit. -/
  inexact : Bool
  deriving DecidableEq, Repr

/-- What the digits of a number add up to, and how many did not fit. -/
structure DigitsRead where
  value : Nat
  kept : Nat
  dropped : Nat
  rest : List Char

/-- Read the digits before the point; from the first that does not fit, they only count. -/
def wholeDigits : DigitsRead -> List Char -> DigitsRead
  | read, [] => { read with rest := [] }
  | read, character :: rest =>
      match Decimal.digit? character with
      | none => { read with rest := character :: rest }
      | some digit =>
          if read.dropped = 0 ∧ read.value * 10 + digit ≤ Word.limit then
            wholeDigits { read with value := read.value * 10 + digit, kept := read.kept + 1 } rest
          else
            wholeDigits { read with dropped := read.dropped + 1 } rest

/-- What follows the digits at the front of a text. -/
def skipDigits (text : List Char) : List Char :=
  text.dropWhile fun character => (Decimal.digit? character).isSome

/-- Read the exponent behind its mark; one that is out of any range decides the number. -/
def exponentRest (numeral : Numeral) (text : List Char) :
    Except DocumentFault (Numeral × List Char) :=
  let (negative, digits) :=
    match text with
    | '+' :: digits => (false, digits)
    | '-' :: digits => (true, digits)
    | digits => (false, digits)
  match digits with
  | [] => .error .endsEarly
  | first :: _ =>
      if (Decimal.digit? first).isNone then
        .error .malformed
      else
        let exponent :=
          (digits.takeWhile fun character => (Decimal.digit? character).isSome).foldl
            (fun value character => value * 10 + (Decimal.digit? character).getD 0) 0
        let shift : Int := if negative then -(exponent : Int) else exponent
        .ok ({ numeral with exponent := numeral.exponent + shift, inexact := true },
          skipDigits digits)

/-- Read what may follow the digits of a number: an exponent. -/
def numeralEnd (numeral : Numeral) : List Char -> Except DocumentFault (Numeral × List Char)
  | 'e' :: rest => exponentRest numeral rest
  | 'E' :: rest => exponentRest numeral rest
  | text => .ok (numeral, text)

/-- Read the rest of a number behind its first digits: a fraction and an exponent. -/
def numeralRest (numeral : Numeral) : List Char -> Except DocumentFault (Numeral × List Char)
  | '.' :: rest =>
      let read := wholeDigits ⟨numeral.significand, 0, 0, []⟩ rest
      if read.kept = 0 ∧ read.dropped = 0 then
        match rest with
        | [] => .error .endsEarly
        | _ => .error .malformed
      else
        numeralEnd
          { numeral with
            significand := read.value
            exponent := numeral.exponent - read.kept
            inexact := true }
          read.rest
  | text => numeralEnd numeral text

/-- Read a number behind its sign. -/
def numeral (negative : Bool) (text : List Char) : Except DocumentFault (Numeral × List Char) :=
  match text with
  | [] => .error .endsEarly
  | '0' :: rest =>
      if (rest.head?.bind Decimal.digit?).isSome then
        .error .malformed
      else
        numeralRest ⟨negative, 0, 0, false⟩ rest
  | first :: _ =>
      if (Decimal.digit? first).isSome then
        let read := wholeDigits ⟨0, 0, 0, []⟩ text
        numeralRest ⟨negative, read.value, read.dropped, read.dropped != 0⟩ read.rest
      else
        .error .malformed

/-- The value of a number: a whole number, or the double that its digits scale to. -/
inductive Quantity
  | whole (value : Int)
  | scaled (value : Float)

/-- Scale a double by a power of ten, dividing more than once when the power is too small. -/
def scale : Nat -> Int -> Float -> Except DocumentFault Float
  | 0, _, value => .ok value
  | bound + 1, exponent, value =>
      if exponent.natAbs ≤ 308 then
        let power := Binary.nearest (Nat.pow 10 exponent.natAbs) 1
        if 0 ≤ exponent then
          let scaled := value * power
          if Binary.isFinite scaled then .ok scaled else .error .malformed
        else
          .ok (value / power)
      else if value == 0.0 then
        .ok value
      else if 0 ≤ exponent then
        .error .malformed
      else
        scale bound (exponent + 308) (value / Binary.nearest (Nat.pow 10 308) 1)

/-- The value of a number as it is written; a negative zero is a double. -/
def Numeral.quantity (numeral : Numeral) : Except DocumentFault Quantity :=
  if numeral.inexact then do
    let value <- scale 8 numeral.exponent (UInt64.ofNat numeral.significand).toFloat
    return .scaled (if numeral.negative then -value else value)
  else if !numeral.negative then
    .ok (.whole numeral.significand)
  else if 0 < numeral.significand ∧ numeral.significand ≤ 9223372036854775808 then
    .ok (.whole (-(numeral.significand : Int)))
  else
    .ok (.scaled (-(UInt64.ofNat numeral.significand).toFloat))

/-- Read the value of a number behind its sign. -/
def quantity (negative : Bool) (text : List Char) :
    Except DocumentFault (Quantity × List Char) := do
  let (numeral, rest) <- numeral negative text
  let value <- numeral.quantity
  return (value, rest)

/-- Skip an exponent behind its mark. -/
def skipExponent (text : List Char) : Except DocumentFault (Unit × List Char) :=
  let digits :=
    match text with
    | '+' :: digits => digits
    | '-' :: digits => digits
    | digits => digits
  if (digits.head?.bind Decimal.digit?).isSome then .ok ((), skipDigits digits)
  else .error .malformed

/-- Skip an exponent, if there is one. -/
def skipNumberEnd : List Char -> Except DocumentFault (Unit × List Char)
  | 'e' :: rest => skipExponent rest
  | 'E' :: rest => skipExponent rest
  | text => .ok ((), text)

/-- Skip a fraction and an exponent, if there are any. -/
def skipNumberRest : List Char -> Except DocumentFault (Unit × List Char)
  | '.' :: rest =>
      if (rest.head?.bind Decimal.digit?).isSome then skipNumberEnd (skipDigits rest)
      else .error .malformed
  | text => skipNumberEnd text

/-- Skip a number behind its sign. -/
def skipNumber (text : List Char) : Except DocumentFault (Unit × List Char) :=
  match text with
  | '0' :: rest =>
      if (rest.head?.bind Decimal.digit?).isSome then .error .malformed else skipNumberRest rest
  | first :: _ =>
      if (Decimal.digit? first).isSome then skipNumberRest (skipDigits text) else .error .malformed
  | [] => .error .malformed

end Document
end LatencyMeter
