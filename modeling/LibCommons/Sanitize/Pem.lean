import LibCommons.Sanitize.Cards

namespace LibCommons.Sanitize

open Regex

-- Where a match starts and ends, and whether its keyword folds to END.
structure Armor where
  start : Nat
  stop : Nat
  isEnd : Bool
deriving DecidableEq, Repr

def foldsToEnd (keyword : Bytes) : Bool := (keyword.map fun b => if isLower b then b - 32 else b) == Bytes.utf8 "END".toList

def armorOf (found : Nat × Hit UInt8) : Armor := ⟨found.1, found.1 + found.2.text.length, foldsToEnd (found.2.group 1)⟩

def armorLines (s : Bytes) : List Armor := (pemArmorPattern.findAll s).map armorOf

def nextEnds : List Armor → List (Option Nat)
  | [] => []
  | line :: lines =>
    let later := nextEnds lines
    (if line.isEnd then some line.stop else later.head?.join) :: later

def headlessLength (s : Bytes) (stop : Nat) : Nat :=
  ((pemHeadlessBodyPattern.matchAt none (s.drop stop)).map fun hit => hit.text.length).getD 0

def redactBlocksFrom (s : Bytes) : List (Armor × Option Nat) → Nat → Bytes → Bytes
  | [], pos, out => out ++ s.drop pos
  | (line, nextEnd) :: lines, pos, out =>
    if line.start < pos ∨ line.isEnd then redactBlocksFrom s lines pos out
    else
      let stop :=
        match nextEnd with
        | some last => last
        | none => line.stop + headlessLength s line.stop
      redactBlocksFrom s lines stop (out ++ slice s pos line.start ++ marker)

def redactPemBlocks (s : Bytes) : Bytes :=
  let armor := armorLines s
  if armor = [] then s else redactBlocksFrom s (armor.zip (nextEnds armor)) 0 []

-- The one pattern it replaced, with the whitespace of the headless body.
def legacyPemBlockPattern : Pattern := all [lit "-----", foldLit "BEGIN", byte ' ', armorLabel, lit "-----",
    alt (all [lazy (one fun _ => true), lit "-----", foldLit "END", byte ' ', armorLabel, lit "-----"]) (star (one isBodyByte))]

def legacyRedactPemBlocks (s : Bytes) : Bytes := legacyPemBlockPattern.replaceAll (fun _ => marker) s

end LibCommons.Sanitize
