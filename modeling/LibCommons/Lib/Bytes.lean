import Mathlib

namespace LibCommons

open List Option

-- A Go []byte. The nil slice and the empty one are both [].
abbrev Bytes := List UInt8

namespace Bytes

variable (text : List Char)

-- Bytes and the text Go reads from them: a byte that starts no valid sequence is one U+FFFD.
def utf8 : Bytes := text.flatMap String.utf8EncodeChar

def runesFrom : Nat → Bytes → List Char
  | 0, _ => []
  | _ + 1, [] => []
  | fuel + 1, byte :: rest =>
    match (List.toByteArray (byte :: rest)).utf8DecodeChar? 0 with
    | some c => c :: runesFrom fuel ((byte :: rest).drop c.utf8Size)
    | none => '�' :: runesFrom fuel rest

def runes (bytes : Bytes) : List Char := runesFrom bytes.length bytes

theorem runes_from_utf8 (fuel : Nat) (enough : (utf8 text).length ≤ fuel) : runesFrom fuel (utf8 text) = text := by
  induction text generalizing fuel with
  | nil => cases fuel <;> rfl
  | cons c text ih =>
    have split : utf8 (c :: text) = String.utf8EncodeChar c ++ utf8 text := by simp [utf8]
    have size := String.length_utf8EncodeChar c
    have positive := Char.utf8Size_pos c
    rw [split] at enough ⊢
    rw [length_append] at enough
    have decoded : (List.toByteArray (String.utf8EncodeChar c ++ utf8 text)).utf8DecodeChar? 0 = some c := by
      rw [toByteArray_append]
      exact ByteArray.utf8DecodeChar?_utf8EncodeChar_append
    obtain ⟨byte, bytes, encoded⟩ := exists_cons_of_ne_nil (String.utf8EncodeChar_ne_nil (c := c))
    obtain ⟨less, rfl⟩ := Nat.exists_eq_add_of_le' (by omega : 1 ≤ fuel)
    rw [encoded, cons_append] at decoded ⊢
    simp only [runesFrom, decoded]
    rw [← cons_append, ← encoded, ← size, drop_left, ih less (by omega)]

theorem runes_utf8 : runes (utf8 text) = text := runes_from_utf8 text _ le_rfl

-- base64.StdEncoding, with padding.
def sextet (n : Nat) : Char := "ABCDEFGHIJKLMNOPQRSTUVWXYZabcdefghijklmnopqrstuvwxyz0123456789+/".toList.getD n 'A'

def sextetValue (c : Char) : Option Nat := "ABCDEFGHIJKLMNOPQRSTUVWXYZabcdefghijklmnopqrstuvwxyz0123456789+/".toList.idxOf? c

def base64Encode : Bytes → List Char
  | [] => []
  | [a] => [sextet (a.toNat / 4), sextet (a.toNat % 4 * 16), '=', '=']
  | [a, b] => [sextet (a.toNat / 4), sextet (a.toNat % 4 * 16 + b.toNat / 16), sextet (b.toNat % 16 * 4), '=']
  | a :: b :: c :: rest =>
    sextet (a.toNat / 4) :: sextet (a.toNat % 4 * 16 + b.toNat / 16) ::
      sextet (b.toNat % 16 * 4 + c.toNat / 64) :: sextet (c.toNat % 64) :: base64Encode rest

-- Padding ends the text; the bits a short group leaves over are ignored.
def decodeQuads : List Char → Option Bytes
  | [] => some []
  | w :: x :: y :: z :: rest => do
      let w ← sextetValue w
      let x ← sextetValue x
      let first := UInt8.ofNat (w * 4 + x / 16)
      if z = '=' then
        if rest ≠ [] then none
        else if y = '=' then some [first]
        else do
          let y ← sextetValue y
          some [first, UInt8.ofNat (x % 16 * 16 + y / 4)]
      else do
        let y ← sextetValue y
        let z ← sextetValue z
        let bytes ← decodeQuads rest
        some (first :: UInt8.ofNat (x % 16 * 16 + y / 4) :: UInt8.ofNat (y % 4 * 64 + z) :: bytes)
  | _ => none

def base64Decode : Option Bytes := decodeQuads (text.filter fun c => c ≠ '\r' ∧ c ≠ '\n')

theorem sextet_value_sextet (n : Nat) (small : n < 64) : sextetValue (sextet n) = some n := by
  revert n
  decide

theorem sextet_plain (n : Nat) : sextet n ≠ '=' ∧ sextet n ≠ '\r' ∧ sextet n ≠ '\n' := by
  by_cases small : n < 64
  · revert n
    decide +kernel
  · rw [sextet, getD_eq_default _ _ (by simpa using small)]
    decide

theorem base64_text (bytes : Bytes) : ∀ c ∈ base64Encode bytes, c ≠ '\r' ∧ c ≠ '\n' := by
  induction bytes using base64Encode.induct with
  | case1 => simp [base64Encode]
  | case2 | case3 => simp [base64Encode, sextet_plain]
  | case4 _ _ _ _ ih => simpa [base64Encode, sextet_plain] using ih

theorem of_nat_eq (byte : UInt8) (n : Nat) (same : n = byte.toNat) : UInt8.ofNat n = byte := by
  rw [same, UInt8.ofNat_toNat]

theorem decode_quads_encode (bytes : Bytes) : decodeQuads (base64Encode bytes) = some bytes := by
  induction bytes using base64Encode.induct with
  | case1 => rfl
  | case2 a =>
    have bound := a.toNat_lt
    have w := sextet_value_sextet (a.toNat / 4) (by omega)
    have x := sextet_value_sextet (a.toNat % 4 * 16) (by omega)
    have first := of_nat_eq a (a.toNat / 4 * 4 + a.toNat % 4 * 16 / 16) (by omega)
    simp only [base64Encode, decodeQuads, w, x, first, bind_eq_bind, bind_some, ne_eq, not_true_eq_false, if_true, if_false]
  | case3 a b =>
    have boundA := a.toNat_lt
    have boundB := b.toNat_lt
    have w := sextet_value_sextet (a.toNat / 4) (by omega)
    have x := sextet_value_sextet (a.toNat % 4 * 16 + b.toNat / 16) (by omega)
    have y := sextet_value_sextet (b.toNat % 16 * 4) (by omega)
    have first := of_nat_eq a (a.toNat / 4 * 4 + (a.toNat % 4 * 16 + b.toNat / 16) / 16) (by omega)
    have second := of_nat_eq b ((a.toNat % 4 * 16 + b.toNat / 16) % 16 * 16 + b.toNat % 16 * 4 / 4) (by omega)
    have padded := (sextet_plain (b.toNat % 16 * 4)).1
    simp only [base64Encode, decodeQuads, w, x, y, first, second, padded, bind_eq_bind, bind_some, ne_eq, not_true_eq_false, if_true, if_false]
  | case4 a b c _ ih =>
    have boundA := a.toNat_lt
    have boundB := b.toNat_lt
    have boundC := c.toNat_lt
    have w := sextet_value_sextet (a.toNat / 4) (by omega)
    have x := sextet_value_sextet (a.toNat % 4 * 16 + b.toNat / 16) (by omega)
    have y := sextet_value_sextet (b.toNat % 16 * 4 + c.toNat / 64) (by omega)
    have z := sextet_value_sextet (c.toNat % 64) (by omega)
    have first := of_nat_eq a (a.toNat / 4 * 4 + (a.toNat % 4 * 16 + b.toNat / 16) / 16) (by omega)
    have second := of_nat_eq b ((a.toNat % 4 * 16 + b.toNat / 16) % 16 * 16 + (b.toNat % 16 * 4 + c.toNat / 64) / 4) (by omega)
    have third := of_nat_eq c ((b.toNat % 16 * 4 + c.toNat / 64) % 4 * 64 + c.toNat % 64) (by omega)
    have padded := (sextet_plain (c.toNat % 64)).1
    simp only [base64Encode, decodeQuads, w, x, y, z, first, second, third, padded, ih, bind_eq_bind, bind_some, if_false]

theorem base64_round_trip (bytes : Bytes) : base64Decode (base64Encode bytes) = some bytes := by
  have plain : (base64Encode bytes).filter (fun c => c ≠ '\r' ∧ c ≠ '\n') = base64Encode bytes := by
    rw [filter_eq_self]
    intro c present
    simpa using base64_text bytes c present
  rw [base64Decode, plain, decode_quads_encode]

end Bytes

end LibCommons
