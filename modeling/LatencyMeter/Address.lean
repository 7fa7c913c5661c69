/-!
# Network addresses

An address of four bytes, an address of eight 16-bit segments, and a socket
address, which adds a port and, in the second kind, a scope. Each has one printed
form: decimal bytes without leading zeros, and lower-case hexadecimal segments
where the first of the longest runs of at least two zero segments is left out. An
address that stands for one of the first kind shows that one behind `::ffff:`.
-/

namespace LatencyMeter

/-- A network address of four bytes. -/
structure Ipv4 where
  first : UInt8
  second : UInt8
  third : UInt8
  fourth : UInt8
  deriving DecidableEq, Repr

/-- A network address of eight segments. -/
structure Ipv6 where
  segments : List UInt16
  length_segments : segments.length = 8
  deriving DecidableEq

/-- An address and a port. -/
inductive SocketAddress
  | v4 (address : Ipv4) (port : UInt16)
  | v6 (address : Ipv6) (port : UInt16) (scope : UInt32)
  deriving DecidableEq

namespace Ipv4

/-- The address that stands for no particular interface. -/
def unspecified : Ipv4 := ⟨0, 0, 0, 0⟩

/-- The characters of an address. -/
def chars (address : Ipv4) : List Char :=
  Nat.toDigits 10 address.first.toNat ++ '.' ::
    (Nat.toDigits 10 address.second.toNat ++ '.' ::
      (Nat.toDigits 10 address.third.toNat ++ '.' ::
        Nat.toDigits 10 address.fourth.toNat))

/-- The text of an address. -/
def text (address : Ipv4) : String :=
  String.ofList address.chars

/-- Whether the address names a group of receivers. -/
def isMulticast (address : Ipv4) : Bool :=
  224 ≤ address.first && address.first ≤ 239

end Ipv4

namespace Ipv6

/-- The address of the first kind that an address stands for, if it stands for one. -/
def mapped? (address : Ipv6) : Option Ipv4 :=
  match address.segments with
  | [0, 0, 0, 0, 0, 0xffff, high, low] =>
      some ⟨(high / 256).toUInt8, (high % 256).toUInt8, (low / 256).toUInt8, (low % 256).toUInt8⟩
  | _ => none

/-- Segments in hexadecimal, separated by colons. -/
def segmentChars : List UInt16 -> List Char
  | [] => []
  | [only] => Nat.toDigits 16 only.toNat
  | segment :: rest => Nat.toDigits 16 segment.toNat ++ ':' :: segmentChars rest

/-- A run of zero segments. -/
structure ZeroRun where
  start : Nat
  length : Nat
  deriving DecidableEq, Repr

/-- The first of the longest runs, given the run that ends here and the longest so far. -/
def longestFrom : Nat -> ZeroRun -> ZeroRun -> List UInt16 -> ZeroRun
  | _, _, longest, [] => longest
  | index, current, longest, segment :: rest =>
      if segment = 0 then
        let grown : ZeroRun :=
          ⟨if current.length = 0 then index else current.start, current.length + 1⟩
        longestFrom (index + 1) grown
          (if longest.length < grown.length then grown else longest) rest
      else
        longestFrom (index + 1) ⟨0, 0⟩ longest rest

/-- The characters of an address. -/
def chars (address : Ipv6) : List Char :=
  match address.mapped? with
  | some inner => "::ffff:".toList ++ inner.chars
  | none =>
      let run := longestFrom 0 ⟨0, 0⟩ ⟨0, 0⟩ address.segments
      if 1 < run.length then
        segmentChars (address.segments.take run.start) ++ ':' :: ':' ::
          segmentChars (address.segments.drop (run.start + run.length))
      else
        segmentChars address.segments

end Ipv6

namespace SocketAddress

/-- The characters of a socket address. -/
def chars : SocketAddress -> List Char
  | .v4 address port => address.chars ++ ':' :: Nat.toDigits 10 port.toNat
  | .v6 address port scope =>
      '[' :: address.chars ++
        (if scope = 0 then [] else '%' :: Nat.toDigits 10 scope.toNat) ++
        ']' :: ':' :: Nat.toDigits 10 port.toNat

/-- The text of a socket address. -/
def text (address : SocketAddress) : String :=
  String.ofList address.chars

end SocketAddress
end LatencyMeter
