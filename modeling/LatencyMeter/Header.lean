import LatencyMeter.Error
import LatencyMeter.Payload

/-!
# Message headers

Every message begins with a header of twenty bytes: its number and its send time
in eight bytes each, then its flags in four. What follows the header is filler.
The send time can be overwritten in place, so that the clock is read as the very
last step before a message leaves.
-/

namespace LatencyMeter

/-- What a message says about itself. -/
structure Header where
  number : UInt64
  sentAt : UInt64
  flags : UInt32
  deriving DecidableEq, Repr

namespace Header

/-- The length of a header in bytes. -/
def size : Nat := 20

/-- Where the send time begins. -/
def stampOffset : Nat := 8

/-- The flag of a message whose round trip is to be recorded. -/
def timestampFlag : UInt32 := 1

/-- Whether the round trip of the message is to be recorded. -/
def isTimestamped (header : Header) : Bool :=
  header.flags &&& timestampFlag != 0

/-- The bytes of a header. -/
def bytes (header : Header) : Payload :=
  Payload.ofNumber 8 header.number.toNat ++
    (Payload.ofNumber 8 header.sentAt.toNat ++ Payload.ofNumber 4 header.flags.toNat)

@[simp] theorem length_bytes (header : Header) : header.bytes.length = size := by
  simp [bytes, size]

/-- The buffer with the header over its first bytes. -/
def atFront (header : Header) (buffer : Payload) : Payload :=
  header.bytes ++ buffer.drop size

/-- The buffer with a send time over the one in its header. -/
def stampOver (time : UInt64) (buffer : Payload) : Payload :=
  buffer.take stampOffset ++
    (Payload.ofNumber 8 time.toNat ++ buffer.drop (stampOffset + 8))

theorem length_atFront {header : Header} {buffer : Payload} (fits : size ≤ buffer.length) :
    (header.atFront buffer).length = buffer.length := by
  simp only [atFront, List.length_append, length_bytes, List.length_drop]
  omega

theorem length_stampOver {time : UInt64} {buffer : Payload}
    (fits : stampOffset + 8 ≤ buffer.length) :
    (stampOver time buffer).length = buffer.length := by
  simp only [stampOver, List.length_append, List.length_take, Payload.length_ofNumber,
    List.length_drop]
  omega

/-- Write the header over the front of a buffer, with the buffer as it is afterwards. -/
def writeOver (header : Header) (buffer : Payload) : Option HeaderFault × Payload :=
  if size ≤ buffer.length then
    (none, header.atFront buffer)
  else
    (some .bufferTooShort, buffer)

/-- The buffer with the header over its front. -/
def encodeInto (header : Header) (buffer : Payload) : Except HeaderFault Payload :=
  match header.writeOver buffer with
  | (none, written) => .ok written
  | (some fault, _) => .error fault

/-- Write a send time into the header at the front of a buffer that has room for it. -/
def stamp? (time : UInt64) (buffer : Payload) : Option Payload :=
  if stampOffset + 8 ≤ buffer.length then some (stampOver time buffer) else none

/-- Read the header at the front of a payload. -/
def decode (payload : Payload) : Except HeaderFault Header :=
  if size ≤ payload.length then
    .ok
      { number := UInt64.ofNat (Payload.toNumber (payload.take 8))
        sentAt := UInt64.ofNat (Payload.toNumber ((payload.drop 8).take 8))
        flags := UInt32.ofNat (Payload.toNumber ((payload.drop 16).take 4)) }
  else
    .error (.noHeader payload.length)

end Header

/-- A message buffer with room for a header. -/
structure Buffer where
  bytes : Payload
  fits : Header.size ≤ bytes.length

namespace Buffer

/-- A buffer of zero bytes. -/
def zeroed (length : Nat) (fits : Header.size ≤ length) : Buffer where
  bytes := List.replicate length 0
  fits := by simpa using fits

/-- Write a header at the front. -/
def write (buffer : Buffer) (header : Header) : Buffer where
  bytes := header.atFront buffer.bytes
  fits := by simpa [Header.length_atFront buffer.fits] using buffer.fits

/-- Write a send time into the header. -/
def stamp (buffer : Buffer) (time : UInt64) : Buffer where
  bytes := Header.stampOver time buffer.bytes
  fits := by
    have fits := buffer.fits
    have room : Header.stampOffset + 8 ≤ buffer.bytes.length := by
      unfold Header.size at fits
      unfold Header.stampOffset
      omega
    simpa [Header.length_stampOver room] using fits

@[simp] theorem bytes_write (buffer : Buffer) (header : Header) :
    (buffer.write header).bytes = header.atFront buffer.bytes := rfl

@[simp] theorem bytes_stamp (buffer : Buffer) (time : UInt64) :
    (buffer.stamp time).bytes = Header.stampOver time buffer.bytes := rfl

end Buffer
end LatencyMeter
