import LatencyMeter.Address

/-!
# Reading network addresses

Each reader takes a text and gives what it read and the rest of the text, or
nothing. A number is read greedily and fails when it has too many digits or is out
of range, so a shorter number is never taken in its place. In an address of eight
segments `::` stands for one or more zero segments, and the last two segments may
be written as an address of four bytes.
-/

namespace LatencyMeter
namespace Address

/-- A reader of the front of a text. -/
abbrev Reader (α : Type) := List Char -> Option (α × List Char)

/-- The value of a digit in a base of at most sixteen. -/
def digit? (base : Nat) (character : Char) : Option Nat :=
  let value :=
    if '0' ≤ character ∧ character ≤ '9' then character.toNat - '0'.toNat
    else if 'a' ≤ character ∧ character ≤ 'f' then character.toNat - 'a'.toNat + 10
    else if 'A' ≤ character ∧ character ≤ 'F' then character.toNat - 'A'.toNat + 10
    else base
  if value < base then some value else none

/-- Which numbers a reader of numbers accepts. -/
structure NumberRule where
  base : Nat
  /-- The largest count of digits, if there is one. -/
  width : Option Nat
  /-- Whether more than one digit may begin with a zero. -/
  leadingZero : Bool
  limit : Nat

/-- Read the remaining digits of a number, given the count and value of those read. -/
def digits (rule : NumberRule) : Nat -> Nat -> Reader Nat
  | count, value, [] => if count = 0 then none else some (value, [])
  | count, value, character :: rest =>
      match digit? rule.base character with
      | none => if count = 0 then none else some (value, character :: rest)
      | some digit =>
          let next := value * rule.base + digit
          if rule.limit < next ∨ rule.width.any (· < count + 1) then none
          else digits rule (count + 1) next rest

/-- Read a number. -/
def number (rule : NumberRule) : Reader Nat := fun text =>
  match text with
  | '0' :: next :: _ =>
      if !rule.leadingZero && (digit? rule.base next).isSome then none
      else digits rule 0 0 text
  | _ => digits rule 0 0 text

/-- Read one given character. -/
def given (expected : Char) : Reader Unit
  | [] => none
  | character :: rest => if character = expected then some ((), rest) else none

/-- The bytes of an address: at most three digits, no leading zero. -/
def byteRule : NumberRule := ⟨10, some 3, false, 255⟩

/-- The segments of an address: at most four hexadecimal digits. -/
def segmentRule : NumberRule := ⟨16, some 4, true, 65535⟩

/-- A port number, with any number of leading zeros. -/
def portRule : NumberRule := ⟨10, none, true, 65535⟩

/-- A scope number, with any number of leading zeros. -/
def scopeRule : NumberRule := ⟨10, none, true, 4294967295⟩

/-- Read an address of four bytes. -/
def ipv4 : Reader Ipv4 := fun text => do
  let (first, text) <- number byteRule text
  let (_, text) <- given '.' text
  let (second, text) <- number byteRule text
  let (_, text) <- given '.' text
  let (third, text) <- number byteRule text
  let (_, text) <- given '.' text
  let (fourth, text) <- number byteRule text
  return (⟨.ofNat first, .ofNat second, .ofNat third, .ofNat fourth⟩, text)

/-- Read what stands at a position of a sequence: behind a colon, unless it is first. -/
def atPosition (first : Bool) (inner : Reader α) : Reader α := fun text =>
  if first then
    inner text
  else
    match text with
    | ':' :: rest => inner rest
    | _ => none

/-- Segments at the front of a text, and whether they end in an address of four bytes. -/
structure Segments where
  values : List UInt16
  embedded : Bool
  rest : List Char

/-- Read as many segments as there are, at most `room`. -/
def segments : Nat -> Bool -> List Char -> Segments
  | 0, _, text => ⟨[], false, text⟩
  | room + 1, first, text =>
      let embedded := if 0 < room then atPosition first ipv4 text else none
      match embedded with
      | some (inner, rest) =>
          ⟨[.ofNat (inner.first.toNat * 256 + inner.second.toNat),
            .ofNat (inner.third.toNat * 256 + inner.fourth.toNat)], true, rest⟩
      | none =>
          match atPosition first (number segmentRule) text with
          | none => ⟨[], false, text⟩
          | some (value, rest) =>
              let tail := segments room false rest
              ⟨.ofNat value :: tail.values, tail.embedded, tail.rest⟩

/-- Eight segments from those before and behind a gap of zeros. -/
def joined (front back : List UInt16) : Option Ipv6 :=
  let all := front ++ List.replicate (8 - (front.length + back.length)) 0 ++ back
  if complete : all.length = 8 then some ⟨all, complete⟩ else none

/-- Read an address of eight segments. -/
def ipv6 : Reader Ipv6 := fun text =>
  let front := segments 8 true text
  if front.values.length = 8 then
    (joined front.values []).map (·, front.rest)
  else if front.embedded then
    none
  else
    match front.rest with
    | ':' :: ':' :: rest =>
        let back := segments (8 - (front.values.length + 1)) true rest
        (joined front.values back.values).map (·, back.rest)
    | _ => none

/-- Read a colon and a port. -/
def port : Reader UInt16 := fun text => do
  let (_, text) <- given ':' text
  let (value, text) <- number portRule text
  return (.ofNat value, text)

/-- Read a scope behind a percent sign; without one the scope is zero. -/
def scope (text : List Char) : UInt32 × List Char :=
  match text with
  | '%' :: rest =>
      match number scopeRule rest with
      | some (value, rest) => (.ofNat value, rest)
      | none => (0, text)
  | _ => (0, text)

/-- Read a socket address of the first kind. -/
def socketV4 : Reader SocketAddress := fun text => do
  let (address, text) <- ipv4 text
  let (port, text) <- port text
  return (.v4 address port, text)

/-- Read a socket address of the second kind. -/
def socketV6 : Reader SocketAddress := fun text => do
  let (_, text) <- given '[' text
  let (address, text) <- ipv6 text
  let (scope, text) := scope text
  let (_, text) <- given ']' text
  let (port, text) <- port text
  return (.v6 address port scope, text)

/-- What a reader makes of a whole text. -/
def whole (reader : Reader α) (text : List Char) : Option α :=
  match reader text with
  | some (value, []) => some value
  | _ => none

end Address

/-- The address of four bytes that a text denotes. -/
def Ipv4.parse? (text : List Char) : Option Ipv4 :=
  Address.whole Address.ipv4 text

/-- The socket address that a text denotes. -/
def SocketAddress.parse? (text : List Char) : Option SocketAddress :=
  Address.whole (fun text => (Address.socketV4 text).or (Address.socketV6 text)) text

example : (SocketAddress.parse? "127.0.0.1:012".toList).map SocketAddress.chars =
    some "127.0.0.1:12".toList := by decide +kernel

example : (SocketAddress.parse? "[1::0:0:5:192.168.0.1%7]:80".toList).map SocketAddress.chars =
    some "[1::5:c0a8:1%7]:80".toList := by decide +kernel

example : Ipv4.parse? "1.2.3.04".toList = none ∧ Ipv4.parse? "1.2.3.256".toList = none := by
  decide +kernel

end LatencyMeter
