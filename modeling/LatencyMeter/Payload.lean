/-!
# Payloads

A payload is the sequence of bytes of one message. Numbers in it are written in a
fixed count of bytes, the least significant byte first.
-/

namespace LatencyMeter

/-- The bytes of one message. -/
abbrev Payload := List UInt8

namespace Payload

/-- The lowest `count` bytes of a number, the least significant first. -/
def ofNumber : Nat -> Nat -> Payload
  | 0, _ => []
  | count + 1, value => UInt8.ofNat (value % 256) :: ofNumber count (value / 256)

@[simp] theorem length_ofNumber (count value : Nat) :
    (ofNumber count value).length = count := by
  induction count generalizing value with
  | zero => rfl
  | succ count hypothesis => simp [ofNumber, hypothesis]

/-- The number that bytes stand for, the least significant first. -/
def toNumber : Payload -> Nat
  | [] => 0
  | byte :: rest => byte.toNat + 256 * toNumber rest

@[simp] theorem toNumber_ofNumber (count value : Nat) :
    toNumber (ofNumber count value) = value % Nat.pow 256 count := by
  induction count generalizing value with
  | zero => simp [ofNumber, toNumber, Nat.mod_one]
  | succ count hypothesis =>
      have byte : (UInt8.ofNat (value % 256)).toNat = value % 256 := by
        simp
      simp only [Nat.pow_eq] at hypothesis ⊢
      rw [ofNumber, toNumber, hypothesis, byte, Nat.pow_succ', Nat.mod_mul]

theorem toNumber_lt (bytes : Payload) : toNumber bytes < Nat.pow 256 bytes.length := by
  induction bytes with
  | nil => simp [toNumber]
  | cons byte rest hypothesis =>
      have bound := byte.toNat_lt
      simp only [toNumber, List.length_cons, Nat.pow_eq, Nat.pow_succ] at hypothesis ⊢
      omega

@[simp] theorem ofNumber_toNumber (bytes : Payload) :
    ofNumber bytes.length (toNumber bytes) = bytes := by
  induction bytes with
  | nil => rfl
  | cons byte rest hypothesis =>
      have bound := byte.toNat_lt
      have low : (byte.toNat + 256 * toNumber rest) % 256 = byte.toNat := by omega
      have high : (byte.toNat + 256 * toNumber rest) / 256 = toNumber rest := by omega
      simp [toNumber, ofNumber, low, high, hypothesis]

end Payload
end LatencyMeter
