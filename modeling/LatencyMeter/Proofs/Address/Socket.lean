import LatencyMeter.Proofs.Address.Gap
import LatencyMeter.Proofs.Text.Blank

/-!
# Socket addresses

A socket address is read back from what is written for it. The two kinds are told apart by
their first character, and a scope of zero is not written. No blank is written for an address.
-/

namespace LatencyMeter
namespace Address

/-- A port is read to the end of a text. -/
theorem port_toDigits (number : UInt16) :
    port (':' :: Nat.toDigits 10 number.toNat) = some (number, []) := by
  have read := number_toDigits (portRule_allows number) (noDigitFirst_nil 10)
  rw [List.append_nil] at read
  change Address.number portRule (Nat.toDigits 10 number.toNat) = _ at read
  simp [port, given, read]

/-- The scope of an address as it is written. -/
def scopeChars (scope : UInt32) : List Char :=
  if scope = 0 then [] else '%' :: Nat.toDigits 10 scope.toNat

/-- A scope is read up to the end of its address. -/
theorem scope_scopeChars (number : UInt32) (rest : List Char) :
    scope (scopeChars number ++ ']' :: rest) = (number, ']' :: rest) := by
  unfold scopeChars
  split
  · next zero => rw [zero]; rfl
  · have stops : NoDigitFirst 10 (']' :: rest) := (noDigitFirst_cons _ _ _).mpr (by decide)
    have read := number_toDigits (scopeRule_allows number) stops
    change Address.number scopeRule (Nat.toDigits 10 number.toNat ++ ']' :: rest) = _ at read
    simp [scope, read]

/-- Behind an address stand its scope, its end and a port. -/
theorem endsAddress_scopeChars (scope : UInt32) (port : UInt16) :
    EndsAddress (scopeChars scope ++ ']' :: ':' :: Nat.toDigits 10 port.toNat) := by
  have digits (number : Nat) : '.' ∉ Nat.toDigits 10 number := fun member =>
    absurd (Nat.isDigit_of_mem_toDigits (by decide) (by decide) member) (by decide)
  unfold scopeChars
  split
  · exact ⟨by simp [digits], ']', _, rfl, .inr rfl⟩
  · exact ⟨by simp [digits], '%', _, rfl, .inl rfl⟩

/-- A socket address of the first kind is read back. -/
theorem socketV4_chars (address : Ipv4) (number : UInt16) :
    socketV4 (SocketAddress.v4 address number).chars = some (.v4 address number, []) := by
  have read := ipv4_chars address (noDigitFirst_colon 10 (Nat.toDigits 10 number.toNat))
  simp [socketV4, SocketAddress.chars, read, port_toDigits]

/-- A socket address of the second kind is read back. -/
theorem socketV6_chars (address : Ipv6) (number : UInt16) (zone : UInt32) :
    socketV6 (SocketAddress.v6 address number zone).chars = some (.v6 address number zone, []) := by
  have read := ipv6_chars address (endsAddress_scopeChars zone number)
  have written : (SocketAddress.v6 address number zone).chars =
      '[' :: (address.chars ++
        (scopeChars zone ++ ']' :: ':' :: Nat.toDigits 10 number.toNat)) := by
    simp [SocketAddress.chars, scopeChars]
  rw [written]
  simp [socketV6, given, read, scope_scopeChars, port_toDigits]

/-- A bracket begins no socket address of the first kind. -/
theorem socketV4_eq_none (text : List Char) : socketV4 ('[' :: text) = none := by
  have unread : ipv4 ('[' :: text) = none :=
    ipv4_eq_none_of_noDigitFirst ((noDigitFirst_cons _ _ _).mpr (by decide))
  simp [socketV4, unread]

end Address

/-- What is written for a socket address is read as that address. -/
theorem SocketAddress.parse?_chars (address : SocketAddress) :
    SocketAddress.parse? address.chars = some address := by
  unfold parse? Address.whole
  dsimp only
  cases address with
  | v4 address port => rw [Address.socketV4_chars]; rfl
  | v6 address port scope =>
      have other : Address.socketV4 (SocketAddress.v6 address port scope).chars = none :=
        Address.socketV4_eq_none _
      rw [other, Address.socketV6_chars]
      rfl

/-! ## Blanks -/

/-- No digit is a blank. -/
theorem Address.noBlank_toDigits
    {base : Nat}
    (several : 1 < base)
    (few : base ≤ 16)
    (number : Nat) :
    Text.NoBlank (Nat.toDigits base number) := by
  intro character member
  obtain ⟨digit, small, rfl⟩ := Decimal.exists_of_mem_toDigits several member
  have table : forall digit, digit < 16 -> Text.isBlank digit.digitChar = false := by decide
  exact table digit (Nat.lt_of_lt_of_le small few)

@[simp] theorem Address.noBlank_decimal (number : Nat) : Text.NoBlank (Nat.toDigits 10 number) :=
  noBlank_toDigits (by decide) (by decide) number

@[simp] theorem Ipv4.noBlank_chars (address : Ipv4) : Text.NoBlank address.chars := by
  have point : Text.isBlank '.' = false := by decide
  simp [chars, point]

@[simp] theorem Ipv6.noBlank_segmentChars (segments : List UInt16) :
    Text.NoBlank (segmentChars segments) := by
  have colon : Text.isBlank ':' = false := by decide
  induction segments with
  | nil => exact Text.noBlank_nil
  | cons segment rest hypothesis =>
      have digits : Text.NoBlank (Nat.toDigits 16 segment.toNat) :=
        Address.noBlank_toDigits (by decide) (by decide) _
      rw [segmentChars_cons, Text.noBlank_append]
      refine ⟨digits, ?_⟩
      cases rest with
      | nil => exact Text.noBlank_nil
      | cons second others => exact (Text.noBlank_cons _ _).mpr ⟨colon, hypothesis⟩

@[simp] theorem Ipv6.noBlank_chars (address : Ipv6) : Text.NoBlank address.chars := by
  have colon : Text.isBlank ':' = false := by decide
  have letter : Text.isBlank 'f' = false := by decide
  have mark : Text.NoBlank "::ffff:".toList := by simp [colon, letter]
  unfold chars
  split
  · exact (Text.noBlank_append _ _).mpr ⟨mark, Ipv4.noBlank_chars _⟩
  · dsimp only
    split <;> simp [colon]

@[simp] theorem Address.noBlank_scopeChars (scope : UInt32) :
    Text.NoBlank (scopeChars scope) := by
  have percent : Text.isBlank '%' = false := by decide
  unfold scopeChars
  split <;> simp [percent]

/-- No blank is written for a socket address. -/
theorem SocketAddress.noBlank_chars (address : SocketAddress) : Text.NoBlank address.chars := by
  have colon : Text.isBlank ':' = false := by decide
  have opens : Text.isBlank '[' = false := by decide
  have closes : Text.isBlank ']' = false := by decide
  cases address with
  | v4 address port => simp [chars, colon]
  | v6 address port scope =>
      have zone := Address.noBlank_scopeChars scope
      unfold Address.scopeChars at zone
      simp [chars, colon, opens, closes, zone]

end LatencyMeter
