import Mathlib

namespace LibCommons.Go

open List

-- unicode.IsSpace: the White_Space characters, which is more than ASCII blanks.
def isSpace (c : Char) : Bool :=
  let n := c.toNat
  (9 ≤ n && n ≤ 13) || n == 0x20 || n == 0x85 || n == 0xA0 || n == 0x1680 ||
    (0x2000 ≤ n && n ≤ 0x200A) || n == 0x2028 || n == 0x2029 || n == 0x202F || n == 0x205F || n == 0x3000

def trimSpace (s : String) : String := String.ofList (((s.toList.dropWhile isSpace).reverse.dropWhile isSpace).reverse)

theorem trimmed_head (text : List Char) : ((text.dropWhile isSpace).rdropWhile isSpace).dropWhile isSpace =
      (text.dropWhile isSpace).rdropWhile isSpace := by
  apply dropWhile_eq_self_iff.mpr
  intro filled
  have front := rdropWhile_prefix isSpace (text.dropWhile isSpace)
  rw [front.getElem filled]
  exact dropWhile_eq_self_iff.mp (dropWhile_idempotent isSpace text) (lt_of_lt_of_le filled front.length_le)

theorem trim_idempotent (text : String) : trimSpace (trimSpace text) = trimSpace text := by
  have twice := congrArg (rdropWhile isSpace) (trimmed_head text.toList)
  rw [rdropWhile_idempotent] at twice
  rw [trimSpace, trimSpace, String.toList_ofList]
  exact congrArg String.ofList twice

def hexDigit (n : Nat) : Char := "0123456789abcdef".toList.getD n '0'

-- One character under fmt's %q.
def quoteChar (c : Char) : List Char :=
  match c.toNat with
  | 0x22 => ['\\', '"']
  | 0x5C => ['\\', '\\']
  | 0x07 => ['\\', 'a']
  | 0x08 => ['\\', 'b']
  | 0x0C => ['\\', 'f']
  | 0x0A => ['\\', 'n']
  | 0x0D => ['\\', 'r']
  | 0x09 => ['\\', 't']
  | 0x0B => ['\\', 'v']
  | n => if n < 0x20 || n == 0x7F then ['\\', 'x', hexDigit (n / 16), hexDigit (n % 16)] else [c]

def quote (s : String) : String := String.ofList ('"' :: (s.toList.flatMap quoteChar ++ ['"']))

end LibCommons.Go
