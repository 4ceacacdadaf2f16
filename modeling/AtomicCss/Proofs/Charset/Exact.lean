import AtomicCss.Charset.Basic
import Mathlib.Tactic.SplitIfs

/-! # Charsets that lose no byte

In UTF-8, Latin-1 and ASCII there is one way to write a text. So bytes that can be read are written
again when the text that they stand for is written. -/

namespace AtomicCss.Charset

/-! ## Bytes as characters -/

theorem toNat_ofNat_of_lt {n : Nat} (h : n < 0x100) : (Char.ofNat n).toNat = n := by
  have hvalid : n.isValidChar := Or.inl (by omega)
  rw [Char.ofNat, dif_pos hvalid]
  rfl

/-- Bytes below a bound stand for characters below it. -/
theorem toNat_lt_of_mem_map_ofNat {bytes : Bytes} {bound : Nat}
    (h : ∀ byte ∈ bytes, byte.toNat < bound) :
    ∀ c ∈ bytes.map fun byte => Char.ofNat byte.toNat, c.toNat < bound := by
  intro c hc
  obtain ⟨byte, hbyte, rfl⟩ := List.mem_map.1 hc
  rw [toNat_ofNat_of_lt byte.toNat_lt]
  exact h byte hbyte

theorem toNat_lt_of_all_lt {bytes : Bytes} (h : bytes.all (· < 0x80)) :
    ∀ byte ∈ bytes, byte.toNat < 0x80 := by
  intro byte hbyte
  exact UInt8.lt_iff_toNat_lt.1 (of_decide_eq_true (List.all_eq_true.1 h byte hbyte))

theorem map_toUInt8_map_ofNat (bytes : Bytes) :
    (bytes.map fun byte => Char.ofNat byte.toNat).map (fun c => c.toNat.toUInt8) = bytes := by
  rw [List.map_map]
  apply List.map_id''
  intro byte
  calc
    (Char.ofNat byte.toNat).toNat.toUInt8 = byte.toNat.toUInt8 := by
      rw [toNat_ofNat_of_lt byte.toNat_lt]
    _ = byte := UInt8.ofNat_toNat

/-! ## Writing what was read -/

/-- Writing a text that was read from bytes gives these bytes. -/
def IsExact (charset : Charset) : Prop :=
  ∀ bytes text, charset.decode bytes = some text → charset.encode text = some bytes

theorem utf8_isExact : IsExact utf8 := by
  intro bytes text hdecode
  obtain ⟨chars, hchars, rfl⟩ := Option.map_eq_some_iff.1 hdecode
  have hsome : (ByteArray.mk bytes.toArray).utf8Decode?.isSome := by rw [hchars]; rfl
  have hencode := ByteArray.utf8Encode_get_utf8Decode? (h := hsome)
  rw [Option.get_of_eq_some hsome hchars] at hencode
  have hbytes := congrArg (fun array => array.data.toList) hencode
  rw [List.utf8Encode, List.toList_data_toByteArray] at hbytes
  exact congrArg some hbytes

theorem latin1_isExact : IsExact latin1 := by
  intro bytes text hdecode
  obtain rfl := Option.some.inj hdecode
  have hlt := toNat_lt_of_mem_map_ofNat fun (byte : UInt8) (_ : byte ∈ bytes) => byte.toNat_lt
  have hall : (bytes.map fun byte => Char.ofNat byte.toNat).all (·.toNat < 0x100) :=
    List.all_eq_true.2 fun c hc => decide_eq_true (hlt c hc)
  rw [encode, if_pos hall, map_toUInt8_map_ofNat]

theorem ascii_isExact : IsExact ascii := by
  intro bytes text hdecode
  rw [decode] at hdecode
  split_ifs at hdecode with hascii
  obtain rfl := Option.some.inj hdecode
  have hlt := toNat_lt_of_mem_map_ofNat (toNat_lt_of_all_lt hascii)
  have hall : (bytes.map fun byte => Char.ofNat byte.toNat).all (·.toNat < 0x80) :=
    List.all_eq_true.2 fun c hc => decide_eq_true (hlt c hc)
  rw [encode, if_pos hall, map_toUInt8_map_ofNat]

end AtomicCss.Charset
