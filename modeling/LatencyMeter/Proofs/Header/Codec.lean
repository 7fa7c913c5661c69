import LatencyMeter.Proofs.Header
import Mathlib.Logic.Function.Basic

/-!
# Headers and the first bytes of a message

The first twenty bytes of a message and its header determine each other. What is written
can be read back, and what is read can be written back without changing a byte. A buffer
that is too short for a header is left alone by both.

A send time may be written with the rest of the header or over it afterwards; the bytes are
the same.
-/

namespace LatencyMeter
namespace Payload

/-- Eight bytes are the bytes of the word that they stand for. -/
theorem ofNumber_toNat_ofNat_eight
    {bytes : Payload}
    (length : bytes.length = 8) :
    ofNumber 8 (UInt64.ofNat (toNumber bytes)).toNat = bytes := by
  have bound : toNumber bytes < 2 ^ 64 := by
    have bound := toNumber_lt bytes
    rwa [length] at bound
  rw [UInt64.toNat_ofNat_of_lt' bound, ← length, ofNumber_toNumber]

/-- Four bytes are the bytes of the half word that they stand for. -/
theorem ofNumber_toNat_ofNat_four
    {bytes : Payload}
    (length : bytes.length = 4) :
    ofNumber 4 (UInt32.ofNat (toNumber bytes)).toNat = bytes := by
  have bound : toNumber bytes < 2 ^ 32 := by
    have bound := toNumber_lt bytes
    rwa [length] at bound
  rw [UInt32.toNat_ofNat_of_lt' bound, ← length, ofNumber_toNumber]

end Payload

namespace Header

variable {header : Header} {buffer payload : Payload}

/-- The bytes of a header, which are as many as a header has. -/
def front (header : Header) : { bytes : Payload // bytes.length = size } :=
  ⟨header.bytes, length_bytes header⟩

/-! ## Writing -/

theorem writeOver_of_fits (fits : size ≤ buffer.length) :
    header.writeOver buffer = (none, header.atFront buffer) := if_pos fits

/-- A buffer that is too short for a header is left as it was. -/
theorem writeOver_of_short (short : buffer.length < size) :
    header.writeOver buffer = (some .bufferTooShort, buffer) := if_neg (Nat.not_le.mpr short)

theorem encodeInto_of_fits (fits : size ≤ buffer.length) :
    header.encodeInto buffer = .ok (header.atFront buffer) := by
  rw [encodeInto, writeOver_of_fits fits]

/-- What stands behind a header is not touched. -/
theorem drop_atFront (header : Header) (buffer : Payload) :
    (header.atFront buffer).drop size = buffer.drop size :=
  List.drop_left' (length_bytes header)

theorem stamp?_of_fits {time : UInt64} (fits : size ≤ buffer.length) :
    stamp? time buffer = some (stampOver time buffer) :=
  if_pos (Nat.le_trans (by decide) fits)

/-! ## Reading -/

theorem decode_of_short (short : payload.length < size) :
    decode payload = .error (.noHeader payload.length) := if_neg (Nat.not_le.mpr short)

/-- The bytes of the header that is read are the first bytes of the payload. -/
theorem bytes_of_decode (decoded : decode payload = .ok header) :
    size ≤ payload.length ∧ header.bytes = payload.take size := by
  unfold decode at decoded
  split at decoded
  · next fits =>
    obtain rfl := Except.ok.inj decoded
    refine ⟨fits, ?_⟩
    unfold size at fits
    have number : (payload.take 8).length = 8 := by
      rw [List.length_take]
      omega
    have sentAt : ((payload.drop 8).take 8).length = 8 := by
      rw [List.length_take, List.length_drop]
      omega
    have flags : ((payload.drop 16).take 4).length = 4 := by
      rw [List.length_take, List.length_drop]
      omega
    -- The three fields lie side by side and fill the header.
    have split : payload.take size =
        payload.take 8 ++ ((payload.drop 8).take 8 ++ (payload.drop 16).take 4) := by
      change payload.take (8 + (8 + 4)) = _
      rw [List.take_add, List.take_add, List.drop_drop]
    unfold bytes
    dsimp only
    rw [Payload.ofNumber_toNat_ofNat_eight number, Payload.ofNumber_toNat_ofNat_eight sentAt,
      Payload.ofNumber_toNat_ofNat_four flags, split]
  · contradiction

/-- A payload begins with the bytes of a header exactly when that header is read from it. -/
theorem decode_eq_ok_iff : decode payload = .ok header ↔ payload.take size = header.bytes := by
  constructor
  · intro decoded
    exact (bytes_of_decode decoded).2.symm
  · intro begins
    have fits : size ≤ payload.length := by
      have length := congrArg List.length begins
      rw [length_bytes, List.length_take] at length
      omega
    have whole : header.atFront payload = payload := by
      rw [atFront, ← begins, List.take_append_drop]
    rw [← whole, decode_atFront header fits]

/-- A header that was read is written back without changing a byte. -/
theorem atFront_of_decode (decoded : decode payload = .ok header) :
    header.atFront payload = payload := by
  rw [atFront, ← decode_eq_ok_iff.mp decoded, List.take_append_drop]

/-- From a payload with room for a header one is read. -/
theorem exists_decode (fits : size ≤ payload.length) :
    exists header, decode payload = .ok header := ⟨_, if_pos fits⟩

/-- There is one header for each choice of its bytes. -/
theorem front_bijective : Function.Bijective front := by
  constructor
  · intro left right same
    have bytes : left.bytes = right.bytes := congrArg Subtype.val same
    have read (header : Header) : decode header.bytes = .ok header :=
      decode_eq_ok_iff.mpr (List.take_of_length_le (Nat.le_of_eq (length_bytes header)))
    have both := read left
    rw [bytes, read right] at both
    exact (Except.ok.inj both).symm
  · rintro ⟨bytes, length⟩
    obtain ⟨header, decoded⟩ := exists_decode (Nat.le_of_eq length.symm)
    have whole : bytes.take size = bytes := List.take_of_length_le (Nat.le_of_eq length)
    exact ⟨header, Subtype.ext ((bytes_of_decode decoded).2.trans whole)⟩

/-! ## Both -/

/-- In a buffer with room for it a header can be written, is read back and touches nothing
behind it, and stamping it afterwards is writing it with the stamp. A shorter buffer is
refused, stays as it is and yields no header. From every long enough buffer a header is read
that is written back without changing a byte, and headers correspond to the bytes that a
buffer can begin with. -/
theorem writing_and_reading_are_inverse
    (header : Header)
    (buffer : Payload)
    (time : UInt64) :
    (size ≤ buffer.length ->
      exists written stamped,
        header.writeOver buffer = (none, written) ∧
          decode written = .ok header ∧
          written.length = buffer.length ∧
          written.drop size = buffer.drop size ∧
          stamp? time written = some stamped ∧
          ({ header with sentAt := time } : Header).writeOver buffer = (none, stamped) ∧
          decode stamped = .ok { header with sentAt := time }) ∧
      (buffer.length < size ->
        header.writeOver buffer = (some .bufferTooShort, buffer) ∧
          decode buffer = .error (.noHeader buffer.length)) ∧
      (size ≤ buffer.length ->
        exists read, decode buffer = .ok read ∧ read.writeOver buffer = (none, buffer)) ∧
      (decode buffer = .ok header ↔ buffer.take size = header.bytes) ∧
      Function.Bijective front := by
  refine ⟨?_, ?_, ?_, decode_eq_ok_iff, front_bijective⟩
  · intro fits
    have room : size ≤ (header.atFront buffer).length := by
      rwa [length_atFront fits]
    refine ⟨header.atFront buffer, ({ header with sentAt := time } : Header).atFront buffer,
      writeOver_of_fits fits, decode_atFront header fits, length_atFront fits,
      drop_atFront header buffer, ?_, writeOver_of_fits fits, decode_atFront _ fits⟩
    rw [stamp?_of_fits room, stampOver_atFront]
  · intro short
    exact ⟨writeOver_of_short short, decode_of_short short⟩
  · intro fits
    obtain ⟨read, decoded⟩ := exists_decode fits
    refine ⟨read, decoded, ?_⟩
    rw [writeOver_of_fits fits, atFront_of_decode decoded]

/-- A header with all its bytes in use, a buffer with one byte of filler and one that is a
byte too short. -/
theorem writing_and_reading_at_the_limit :
    let header : Header := ⟨0x0102030405060708, 0x1112131415161718, 0x21222324⟩
    let longer : Payload := List.replicate 21 170
    let shorter : Payload := List.replicate 19 170
    size ≤ longer.length ∧ shorter.length < size ∧
      (exists written, header.writeOver longer = (none, written) ∧ decode written = .ok header ∧
        written = [8, 7, 6, 5, 4, 3, 2, 1, 24, 23, 22, 21, 20, 19, 18, 17, 36, 35, 34, 33, 170]) ∧
      header.writeOver shorter = (some .bufferTooShort, shorter) := by
  intro header longer shorter
  have fits : size ≤ longer.length := by decide
  have short : shorter.length < size := by decide
  obtain ⟨written, _, encoded, decoded, _⟩ :=
    (writing_and_reading_are_inverse header longer 7).1 fits
  refine ⟨fits, short, ⟨written, encoded, decoded, ?_⟩,
    ((writing_and_reading_are_inverse header shorter 7).2.1 short).1⟩
  rw [writeOver_of_fits fits] at encoded
  obtain rfl := congrArg Prod.snd encoded
  decide

end Header
end LatencyMeter
