import LibCommons.Lib.Runes

namespace LibCommons.Bytes

open Option

-- base64.RawURLEncoding: the URL alphabet, and a short last group is not padded.
def urlSextet (n : Nat) : Char := "ABCDEFGHIJKLMNOPQRSTUVWXYZabcdefghijklmnopqrstuvwxyz0123456789-_".toList.getD n 'A'

def urlSextetValue (c : Char) : Option Nat := "ABCDEFGHIJKLMNOPQRSTUVWXYZabcdefghijklmnopqrstuvwxyz0123456789-_".toList.idxOf? c

def rawUrlEncode : Bytes → List Char
  | [] => []
  | [a] => [urlSextet (a.toNat / 4), urlSextet (a.toNat % 4 * 16)]
  | [a, b] => [urlSextet (a.toNat / 4), urlSextet (a.toNat % 4 * 16 + b.toNat / 16), urlSextet (b.toNat % 16 * 4)]
  | a :: b :: c :: rest =>
    urlSextet (a.toNat / 4) :: urlSextet (a.toNat % 4 * 16 + b.toNat / 16) ::
      urlSextet (b.toNat % 16 * 4 + c.toNat / 64) :: urlSextet (c.toNat % 64) :: rawUrlEncode rest

-- One character left over is an error; the bits a short group leaves over are ignored.
def rawUrlQuads : List Char → Option Bytes
  | [] => some []
  | [_] => none
  | [w, x] => do
      let w ← urlSextetValue w
      let x ← urlSextetValue x
      some [UInt8.ofNat (w * 4 + x / 16)]
  | [w, x, y] => do
      let w ← urlSextetValue w
      let x ← urlSextetValue x
      let y ← urlSextetValue y
      some [UInt8.ofNat (w * 4 + x / 16), UInt8.ofNat (x % 16 * 16 + y / 4)]
  | w :: x :: y :: z :: rest => do
      let w ← urlSextetValue w
      let x ← urlSextetValue x
      let y ← urlSextetValue y
      let z ← urlSextetValue z
      let bytes ← rawUrlQuads rest
      some (UInt8.ofNat (w * 4 + x / 16) :: UInt8.ofNat (x % 16 * 16 + y / 4) :: UInt8.ofNat (y % 4 * 64 + z) :: bytes)

def rawUrlDecode (text : List Char) : Option Bytes := rawUrlQuads (text.filter fun c => c ≠ '\r' ∧ c ≠ '\n')

theorem url_value_sextet (n : Nat) (small : n < 64) : urlSextetValue (urlSextet n) = some n := by
  revert n
  decide

theorem url_sextet_plain (n : Nat) : urlSextet n ≠ '\r' ∧ urlSextet n ≠ '\n' ∧ (urlSextet n).utf8Size = 1 := by
  by_cases small : n < 64
  · revert n
    decide +kernel
  · rw [urlSextet, List.getD_eq_default _ _ (by simpa using small)]
    decide

variable (bytes : Bytes)

theorem raw_url_text : ∀ c ∈ rawUrlEncode bytes, c ≠ '\r' ∧ c ≠ '\n' ∧ c.utf8Size = 1 := by
  induction bytes using rawUrlEncode.induct with
  | case1 => simp [rawUrlEncode]
  | case2 | case3 => simp [rawUrlEncode, url_sextet_plain]
  | case4 _ _ _ _ ih => simpa [rawUrlEncode, url_sextet_plain] using ih

theorem raw_url_length : (rawUrlEncode bytes).length = (4 * bytes.length + 2) / 3 := by
  induction bytes using rawUrlEncode.induct with
  | case1 => rfl
  | case2 | case3 => simp [rawUrlEncode]
  | case4 _ _ _ _ ih =>
    simp only [rawUrlEncode, List.length_cons, ih]
    omega

theorem raw_url_quads : rawUrlQuads (rawUrlEncode bytes) = some bytes := by
  induction bytes using rawUrlEncode.induct with
  | case1 => rfl
  | case2 a =>
    have bound := a.toNat_lt
    have w := url_value_sextet (a.toNat / 4) (by omega)
    have x := url_value_sextet (a.toNat % 4 * 16) (by omega)
    have first := of_nat_eq a (a.toNat / 4 * 4 + a.toNat % 4 * 16 / 16) (by omega)
    simp only [rawUrlEncode, rawUrlQuads, w, x, first, bind_eq_bind, bind_some]
  | case3 a b =>
    have boundA := a.toNat_lt
    have boundB := b.toNat_lt
    have w := url_value_sextet (a.toNat / 4) (by omega)
    have x := url_value_sextet (a.toNat % 4 * 16 + b.toNat / 16) (by omega)
    have y := url_value_sextet (b.toNat % 16 * 4) (by omega)
    have first := of_nat_eq a (a.toNat / 4 * 4 + (a.toNat % 4 * 16 + b.toNat / 16) / 16) (by omega)
    have second := of_nat_eq b ((a.toNat % 4 * 16 + b.toNat / 16) % 16 * 16 + b.toNat % 16 * 4 / 4) (by omega)
    simp only [rawUrlEncode, rawUrlQuads, w, x, y, first, second, bind_eq_bind, bind_some]
  | case4 a b c _ ih =>
    have boundA := a.toNat_lt
    have boundB := b.toNat_lt
    have boundC := c.toNat_lt
    have w := url_value_sextet (a.toNat / 4) (by omega)
    have x := url_value_sextet (a.toNat % 4 * 16 + b.toNat / 16) (by omega)
    have y := url_value_sextet (b.toNat % 16 * 4 + c.toNat / 64) (by omega)
    have z := url_value_sextet (c.toNat % 64) (by omega)
    have first := of_nat_eq a (a.toNat / 4 * 4 + (a.toNat % 4 * 16 + b.toNat / 16) / 16) (by omega)
    have second := of_nat_eq b ((a.toNat % 4 * 16 + b.toNat / 16) % 16 * 16 + (b.toNat % 16 * 4 + c.toNat / 64) / 4) (by omega)
    have third := of_nat_eq c ((b.toNat % 16 * 4 + c.toNat / 64) % 4 * 64 + c.toNat % 64) (by omega)
    simp only [rawUrlEncode, rawUrlQuads, w, x, y, z, first, second, third, ih, bind_eq_bind, bind_some]

theorem raw_url_round_trip : rawUrlDecode (rawUrlEncode bytes) = some bytes := by
  have plain : (rawUrlEncode bytes).filter (fun c => c ≠ '\r' ∧ c ≠ '\n') = rawUrlEncode bytes := by
    rw [List.filter_eq_self]
    intro c present
    have other := raw_url_text bytes c present
    simp [other.1, other.2.1]
  rw [rawUrlDecode, plain, raw_url_quads]

theorem base64_length : (base64Encode bytes).length = (bytes.length + 2) / 3 * 4 := by
  induction bytes using base64Encode.induct with
  | case1 => rfl
  | case2 | case3 => simp [base64Encode]
  | case4 _ _ _ _ ih =>
    simp only [base64Encode, List.length_cons, ih]
    omega

end LibCommons.Bytes
