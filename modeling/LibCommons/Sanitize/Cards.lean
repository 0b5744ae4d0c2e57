import LibCommons.Sanitize.Patterns

namespace LibCommons.Sanitize

open Regex

def minCardDigits : Nat := 12
def maxCardDigits : Nat := 19

def slice (text : Bytes) (start stop : Nat) : Bytes := (text.drop start).take (stop - start)

theorem slice_shift (run : Bytes) (written start stop : Nat) :
    slice run (start + written) (stop + written) = slice (run.drop written) start stop := by
  rw [slice, slice, List.drop_drop, Nat.add_comm written, Nat.add_sub_add_right]

def cardSeparators (text : Bytes) : Bytes := text.filter fun b => !byteOf [' ', '.', '-'] b

-- Over the bytes from the last one on; the subtraction is a byte's.
def luhnFrom : Bool → Nat → Bytes → Bool
  | _, sum, [] => sum % 10 == 0
  | double, sum, b :: rest =>
    let digit := (b - 48).toNat
    if digit > 9 then false
    else
      let digit := if double then (if digit * 2 > 9 then digit * 2 - 9 else digit * 2) else digit
      luhnFrom (!double) (sum + digit) rest

def passesLuhn (number : Bytes) : Bool := luhnFrom false 0 number.reverse

def digitGroups (run : Bytes) : List (Nat × Nat) :=
  (digitGroupPattern.findAll run).map fun found => (found.1, found.1 + found.2.text.length)

def digitsBeforeFrom : Nat → List (Nat × Nat) → List Nat
  | sum, [] => [sum]
  | sum, g :: groups => sum :: digitsBeforeFrom (sum + (g.2 - g.1)) groups

def widths (widest : Nat) : List Nat := (List.range' 2 (widest - 1)).reverse

def starts (first count width : Nat) : List Nat := List.range' first (count + 1 - width - first)

def window (groups : List (Nat × Nat)) (i width : Nat) : Nat × Nat := ((groups.getD i (0, 0)).1, (groups.getD (i + width - 1) (0, 0)).2)

def findCardWindow (run : Bytes) (groups : List (Nat × Nat)) (digitsBefore : List Nat) (first : Nat) : Option (Nat × Nat × Nat) :=
  (widths (min (groups.length - first) maxCardDigits)).findSome? fun width => (starts first groups.length width).findSome? fun i =>
      let count := digitsBefore.getD (i + width) 0 - digitsBefore.getD i 0
      let (start, stop) := window groups i width
      if count < minCardDigits ∨ count > maxCardDigits then none
      else if passesLuhn (cardSeparators (slice run start stop)) then some (start, stop, i + width)
      else none

def insideRunFrom (run : Bytes) (groups : List (Nat × Nat)) (digitsBefore : List Nat) : Nat → Nat → Nat → Bytes → Nat × Bytes
  | 0, written, _, out => (written, out)
  | fuel + 1, written, first, out =>
    if first < groups.length then
      match findCardWindow run groups digitsBefore first with
      | none => (written, out)
      | some (start, stop, next) =>
        insideRunFrom run groups digitsBefore fuel stop next (out ++ slice run written start ++ marker)
    else (written, out)

def redactCardInsideRun (run : Bytes) : Bytes :=
  let groups := digitGroups run
  if groups.length < 2 then run
  else
    let digitsBefore := digitsBeforeFrom 0 groups
    let (written, out) := insideRunFrom run groups digitsBefore groups.length 0 0 []
    if written = 0 then run else out ++ run.drop written

def redactCardCandidate (candidate : Bytes) : Bytes :=
  let digits := cardSeparators candidate
  if digits.length > maxCardDigits then redactCardInsideRun candidate
  else if digits.length < minCardDigits ∨ !passesLuhn digits then
    match cardShortTailPattern.matchAt none candidate with
    | some head =>
      if passesLuhn (cardSeparators (head.group 1)) then marker ++ candidate.drop (head.group 1).length else candidate
    | none => candidate
  else marker

def cardRound (text : Bytes) : Bytes :=
  cardCandidatePatterns.foldl (fun text pattern => pattern.replaceAll (fun hit => redactCardCandidate hit.text) text) text

-- A round that changes something shortens the text.
def cardRounds : Nat → Bytes → Bytes
  | 0, text => text
  | fuel + 1, text => if cardRound text = text then text else cardRounds fuel (cardRound text)

def redactCardNumbers (text : Bytes) : Bytes := cardRounds text.length text

-- The redactor redactCardInsideRun replaced.
def legacyCardWindow (run : Bytes) (groups : List (Nat × Nat)) : Option (Nat × Nat) :=
  (widths (min groups.length maxCardDigits)).findSome? fun width => (starts 0 groups.length width).findSome? fun i =>
      let (start, stop) := window groups i width
      let digits := cardSeparators (slice run start stop)
      if digits.length < minCardDigits ∨ digits.length > maxCardDigits ∨ !passesLuhn digits then none
      else some (start, stop)

def legacyInsideRun : Nat → Bytes → Bytes
  | 0, run => run
  | fuel + 1, run =>
    match legacyCardWindow run (digitGroups run) with
    | none => run
    | some (start, stop) => run.take start ++ marker ++ legacyInsideRun fuel (run.drop stop)

def legacyRedactCardInsideRun (run : Bytes) : Bytes := legacyInsideRun (run.length + 1) run

end LibCommons.Sanitize
