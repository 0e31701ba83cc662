import LineEditor.Text.Codec

/-!
# Encoding and decoding

Encoding and decoding are inverse to each other, whatever the code: bytes write
a text exactly if the text is encoded by them (`Text.Codec.decode?_eq_some_iff`).
-/

set_option autoImplicit false

namespace LineEditor.Text.Codec

variable {codec : Codec} {text : String} {bytes : ByteArray}

/-! ## One-byte codes -/

/-- The code points of a one-byte code are bytes. -/
theorem size_le (other : codec ≠ .utf8) : codec.size ≤ 256 := by
  cases codec with
  | utf8 => exact absurd rfl other
  | latin1 => exact Nat.le_refl 256
  | ascii => decide

/-- A character whose code point is a byte is found again from the byte. -/
theorem ofNat_toNat_byte {char : Char} (small : char.toNat < 256) :
    Char.ofNat (UInt8.ofNat char.toNat).toNat = char := by
  rw [UInt8.toNat_ofNat', Nat.mod_eq_of_lt small, Char.ofNat_toNat]

/-- A byte is the code point of the character it stands for. -/
theorem toNat_ofNat_byte (byte : UInt8) : (Char.ofNat byte.toNat).toNat = byte.toNat := by
  have valid : byte.toNat.isValidChar := by
    have small := byte.toNat_lt
    exact .inl (by omega)
  rw [Char.ofNat, dif_pos valid]
  rfl

/-- The bytes of characters that a code has are read as these characters. -/
theorem map_ofNat_bytes {chars : List Char} (bound : ∀ char ∈ chars, char.toNat < 256) :
    (chars.map fun char => UInt8.ofNat char.toNat).map (fun byte => Char.ofNat byte.toNat) =
      chars := by
  rw [List.map_map]
  have same := List.map_congr_left fun char member => ofNat_toNat_byte (bound char member)
  exact same.trans (List.map_id _)

/-- The characters that bytes stand for are written as these bytes. -/
theorem map_toNat_chars (bytes : List UInt8) :
    (bytes.map fun byte => Char.ofNat byte.toNat).map (fun char => UInt8.ofNat char.toNat) =
      bytes := by
  rw [List.map_map]
  have back : ∀ byte ∈ bytes, UInt8.ofNat (Char.ofNat byte.toNat).toNat = byte := by
    intro byte _
    rw [toNat_ofNat_byte, UInt8.ofNat_toNat]
  exact (List.map_congr_left back).trans (List.map_id _)

/-- What a one-byte code decodes, it encodes, and the other way round. -/
theorem decode?_iff_of_byte (other : codec ≠ .utf8) :
    codec.decode? bytes = some text ↔ codec.encode? text = some bytes := by
  have small := size_le other
  have decoded : codec.decode? bytes =
      if bytes.data.toList.all (·.toNat < codec.size) then
        some (String.ofList (bytes.data.toList.map fun byte => Char.ofNat byte.toNat))
      else none := by
    cases codec with
    | utf8 => exact absurd rfl other
    | latin1 => rfl
    | ascii => rfl
  have encoded : codec.encode? text =
      if text.toList.all (·.toNat < codec.size) then
        some ⟨(text.toList.map fun char => UInt8.ofNat char.toNat).toArray⟩
      else none := by
    cases codec with
    | utf8 => exact absurd rfl other
    | latin1 => rfl
    | ascii => rfl
  rw [decoded, encoded, Option.ite_none_right_eq_some, Option.ite_none_right_eq_some,
    List.all_eq_true, List.all_eq_true, Option.some.injEq, Option.some.injEq]
  constructor
  · rintro ⟨bound, rfl⟩
    rw [String.toList_ofList]
    refine ⟨?_, ?_⟩
    · intro char member
      obtain ⟨byte, within, rfl⟩ := List.mem_map.mp member
      rw [toNat_ofNat_byte]
      exact bound byte within
    · rw [map_toNat_chars]
  · rintro ⟨bound, rfl⟩
    simp only [decide_eq_true_eq] at bound
    refine ⟨?_, ?_⟩
    · intro byte member
      obtain ⟨char, within, rfl⟩ := List.mem_map.mp (by simpa using member)
      have here := bound char within
      simp only [decide_eq_true_eq, UInt8.toNat_ofNat']
      omega
    · rw [map_ofNat_bytes fun char member => Nat.lt_of_lt_of_le (bound char member) small,
        String.ofList_toList]

/-! ## All codes -/

/-- The name of a code does not hold the null character. -/
theorem contains_null_of_ofName? {name : String} (named : ofName? name = some codec) :
    name.toList.contains '\x00' = false := by
  cases held : name.toList.contains '\x00' with
  | false => rfl
  | true =>
      rw [ofName?, if_pos held] at named
      cases named

/-- **Bytes write a text exactly if the text is encoded by them.** -/
theorem decode?_eq_some_iff :
    codec.decode? bytes = some text ↔ codec.encode? text = some bytes := by
  by_cases wide : codec = .utf8
  · subst wide
    rw [decode?, encode?, String.fromUTF8?, String.toUTF8_eq_toByteArray, Option.some.injEq]
    constructor
    · intro decoded
      split at decoded
      · rw [← Option.some.inj decoded]
        rfl
      · cases decoded
    · rintro rfl
      rw [dif_pos text.isValidUTF8]
      rfl
  · exact decode?_iff_of_byte wide

end LineEditor.Text.Codec
