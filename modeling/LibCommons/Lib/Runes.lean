import LibCommons.Lib.Bytes

namespace LibCommons.Bytes

open List

theorem utf8_injective : Function.Injective utf8 := Function.LeftInverse.injective runes_utf8

theorem utf8_append (front back : List Char) : utf8 (front ++ back) = utf8 front ++ utf8 back := flatMap_append

-- A byte below 128 is a rune of its own.
theorem rune_of_byte {rune} {c : UInt8} (ascii : c.toNat < 128) (byte : c ∈ String.utf8EncodeChar rune) : rune.toNat = c.toNat := by
  simp only [String.utf8EncodeChar] at byte
  split_ifs at byte <;> simp only [mem_cons, not_mem_nil, or_false, ← UInt8.toNat_inj, UInt8.toNat_ofNat'] at byte
  · change rune.val.toNat = _
    omega
  all_goals simp at byte
  all_goals omega

theorem utf8_free (rune : Char) {text} (ascii : rune.toNat < 128) (free : rune ∉ text) : UInt8.ofNat rune.toNat ∉ utf8 text := by
  intro inside
  obtain ⟨other, found, byte⟩ := mem_flatMap.mp inside
  have small : (UInt8.ofNat rune.toNat).toNat = rune.toNat := UInt8.toNat_ofNat_of_lt' (by change _ < 256; omega)
  have same := rune_of_byte (by omega) byte
  rw [small] at same
  exact free (Char.toNat_inj.mp same ▸ found)

theorem utf8_length {text} (single : ∀ c ∈ text, c.utf8Size = 1) : (utf8 text).length = text.length := by
  induction text with
  | nil => rfl
  | cons c text ih =>
    have head := single c mem_cons_self
    have tail := ih fun other member => single other (mem_cons_of_mem c member)
    rw [utf8] at tail ⊢
    rw [flatMap_cons, length_append, String.length_utf8EncodeChar, head, tail, length_cons]
    omega

theorem utf8_runes_from (fuel : Nat) (bytes : Bytes) (enough : bytes.length ≤ fuel)
    (clean : '�' ∉ runesFrom fuel bytes) : utf8 (runesFrom fuel bytes) = bytes := by
  induction fuel generalizing bytes with
  | zero =>
    rw [length_eq_zero_iff.mp (Nat.le_zero.mp enough)]
    rfl
  | succ fuel ih =>
    cases bytes with
    | nil => rfl
    | cons byte rest =>
      cases read : (List.toByteArray (byte :: rest)).utf8DecodeChar? 0 with
      | none =>
        simp only [runesFrom, read, mem_cons, true_or, not_true_eq_false] at clean
      | some c =>
        simp only [runesFrom, read, mem_cons, not_or] at clean ⊢
        obtain ⟨more, whole⟩ := ByteArray.exists_of_utf8DecodeChar?_eq_some read
        have listed : byte :: rest = String.utf8EncodeChar c ++ more.data.toList := by
          have data := congrArg (fun bytes => bytes.data.toList) whole
          simpa using data
        have size := String.length_utf8EncodeChar c
        have positive := Char.utf8Size_pos c
        have cut : (byte :: rest).drop c.utf8Size = more.data.toList := by rw [listed, ← size, drop_left]
        have shorter : more.data.toList.length ≤ fuel := by
          have lengths := congrArg List.length listed
          rw [length_append, size] at lengths
          omega
        rw [cut] at clean ⊢
        have tail := ih more.data.toList shorter clean.2
        rw [utf8] at tail ⊢
        rw [flatMap_cons, tail, ← listed]

theorem utf8_runes {bytes} (clean : '�' ∉ runes bytes) : utf8 (runes bytes) = bytes := utf8_runes_from bytes.length bytes le_rfl clean

end LibCommons.Bytes
