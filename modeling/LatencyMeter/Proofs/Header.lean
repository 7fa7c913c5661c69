import LatencyMeter.Header

/-!
# Reading back what was written

A header written over the front of a buffer is read back as it was, and a send time
written over it afterwards changes its send time and nothing else.
-/

namespace LatencyMeter
namespace Header

/-- What stands in a buffer behind a header whose bytes are split at the send time. -/
theorem atFront_eq (header : Header) (buffer : Payload) :
    header.atFront buffer =
      Payload.ofNumber 8 header.number.toNat ++
        (Payload.ofNumber 8 header.sentAt.toNat ++
          (Payload.ofNumber 4 header.flags.toNat ++ buffer.drop size)) := by
  unfold atFront bytes
  simp only [List.append_assoc]

/-- A header is read back from the front of the buffer that it was written to. -/
theorem decode_atFront
    (header : Header)
    {buffer : Payload}
    (fits : size ≤ buffer.length) :
    decode (header.atFront buffer) = .ok header := by
  have long : size ≤ (header.atFront buffer).length := by
    rwa [length_atFront fits]
  unfold decode
  rw [if_pos long, atFront_eq]
  have number : (Payload.ofNumber 8 header.number.toNat).length = 8 :=
    Payload.length_ofNumber 8 header.number.toNat
  have sentAt : (Payload.ofNumber 8 header.sentAt.toNat).length = 8 :=
    Payload.length_ofNumber 8 header.sentAt.toNat
  have flags : (Payload.ofNumber 4 header.flags.toNat).length = 4 :=
    Payload.length_ofNumber 4 header.flags.toNat
  have behind (rest : Payload) :
      (Payload.ofNumber 8 header.number.toNat ++
          (Payload.ofNumber 8 header.sentAt.toNat ++ rest)).drop 16 = rest := by
    rw [← List.append_assoc]
    exact List.drop_left' (by rw [List.length_append, number, sentAt])
  rw [List.take_left' number, List.drop_left' number, List.take_left' sentAt, behind,
    List.take_left' flags]
  simp only [Payload.toNumber_ofNumber]
  have numberBound := header.number.toNat_lt
  have sentAtBound := header.sentAt.toNat_lt
  have flagsBound := header.flags.toNat_lt
  rw [Nat.mod_eq_of_lt numberBound, Nat.mod_eq_of_lt sentAtBound,
    Nat.mod_eq_of_lt flagsBound, UInt64.ofNat_toNat, UInt64.ofNat_toNat,
    UInt32.ofNat_toNat]

/-- Writing a send time over a header is writing the header with that send time. -/
theorem stampOver_atFront
    (time : UInt64)
    (header : Header)
    (buffer : Payload) :
    stampOver time (header.atFront buffer) =
      ({ header with sentAt := time } : Header).atFront buffer := by
  have number : (Payload.ofNumber 8 header.number.toNat).length = stampOffset :=
    Payload.length_ofNumber 8 header.number.toNat
  have sentAt : (Payload.ofNumber 8 header.sentAt.toNat).length = 8 :=
    Payload.length_ofNumber 8 header.sentAt.toNat
  unfold stampOver
  rw [atFront_eq, atFront_eq, List.take_left' number, ← List.drop_drop,
    List.drop_left' number, List.drop_left' sentAt]

end Header

namespace Buffer

/-- Stamping a message is writing its header with the stamp. -/
theorem stamp_write
    (time : UInt64)
    (header : Header)
    (buffer : Buffer) :
    (buffer.write header).stamp time = buffer.write { header with sentAt := time } := by
  have bytes := Header.stampOver_atFront time header buffer.bytes
  unfold write stamp
  congr 1

end Buffer
end LatencyMeter
