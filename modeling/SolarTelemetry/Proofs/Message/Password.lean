import SolarTelemetry.Message.Password

/-!
# Passwords as they are sent

A password is sent unless its octets are too many, and what is sent always has the same length.
Combined with the key once more, it is the password and zeros behind it.
-/

namespace SolarTelemetry.Password

variable {who : UserGroup} {password : String} {encoded : Bytes}

theorem length_octets (password : String) :
    password.toUTF8.toList.length = password.utf8ByteSize := by
  -- At any place the list is made of what has been read and of what is left.
  have walk (octets : ByteArray) (i : Nat) (read : Bytes) :
      (ByteArray.toList.loop octets i read).length = read.length + (octets.size - i) := by
    induction i, read using ByteArray.toList.loop.induct octets with
    | case1 i read more ih =>
      rw [ByteArray.toList.loop, if_pos more, ih, List.length_cons]
      omega
    | case2 i read done =>
      rw [ByteArray.toList.loop, if_neg done, List.length_reverse]
      omega
  exact (walk password.toUTF8 0 []).trans (Nat.zero_add _)

theorem encode_eq_ok_iff :
    encode who password = .ok encoded ↔
      password.toUTF8.toList.length ≤ length ∧
        encoded = password.toUTF8.toList.map (· ^^^ who.key) ++
          List.replicate (length - password.toUTF8.toList.length) who.key := by
  unfold encode
  simp only
  split
  · next long => exact iff_of_false nofun fun right => absurd right.1 (Nat.not_le.mpr long)
  · next short =>
    rw [Except.ok.injEq, eq_comm]
    exact (and_iff_right (Nat.not_lt.mp short)).symm

theorem length_of_encode (granted : encode who password = .ok encoded) :
    encoded.length = length := by
  obtain ⟨short, rfl⟩ := encode_eq_ok_iff.mp granted
  rw [List.length_append, List.length_map, List.length_replicate]
  omega

theorem exists_encode (who : UserGroup) (short : password.toUTF8.toList.length ≤ length) :
    ∃ encoded, encode who password = .ok encoded :=
  ⟨_, encode_eq_ok_iff.mpr ⟨short, rfl⟩⟩

theorem map_key_of_encode (granted : encode who password = .ok encoded) :
    encoded.map (· ^^^ who.key) =
      password.toUTF8.toList ++ List.replicate (length - password.utf8ByteSize) 0 := by
  obtain ⟨-, rfl⟩ := encode_eq_ok_iff.mp granted
  have twice : ((· ^^^ who.key) ∘ (· ^^^ who.key) : UInt8 → UInt8) = id := by
    funext b
    change b ^^^ who.key ^^^ who.key = b
    rw [UInt8.xor_assoc, UInt8.xor_self, UInt8.xor_zero]
  rw [List.map_append, List.map_map, twice, List.map_id, List.map_replicate, UInt8.xor_self,
    length_octets]

end SolarTelemetry.Password
