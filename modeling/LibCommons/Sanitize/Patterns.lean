import LibCommons.Lib.Bytes
import LibCommons.Lib.Regex

namespace LibCommons.Sanitize

-- Over bytes: no pattern names a character outside ASCII but the two folds below.
abbrev Pattern := Regex UInt8

open Regex

def marker : Bytes := Bytes.utf8 "****".toList

section

def byteIn (low high : Char) (b : UInt8) : Bool := low.toUInt8 ≤ b && b ≤ high.toUInt8

def byteOf (set : List Char) (b : UInt8) : Bool := set.any fun c => b == c.toUInt8

def isLower (b : UInt8) : Bool := byteIn 'a' 'z' b

def isUpper (b : UInt8) : Bool := byteIn 'A' 'Z' b

def isLetter (b : UInt8) : Bool := isLower b || isUpper b

def isDigit (b : UInt8) : Bool := byteIn '0' '9' b

def isWord (b : UInt8) : Bool := isLetter b || isDigit b || b == '_'.toUInt8

-- [[:space:]], and \s, which lacks the vertical tab.
def isSpace (b : UInt8) : Bool := (9 ≤ b && b ≤ 13) || b == 32

def isPerlSpace (b : UInt8) : Bool := isSpace b && b != 11

-- \b, which is about ASCII words.
def wordEdge : Pattern := edge fun prev next => (prev.any isWord) != (next.any isWord)

-- Under (?i) s also folds to U+017F and k to U+212A.
def byte (c : Char) : Pattern := one fun b => b == c.toUInt8

def lit (text : String) : Pattern := all (text.toList.map byte)

def longS : Pattern := seq (one fun b => b == 0xC5) (one fun b => b == 0xBF)

def kelvin : Pattern := seq (one fun b => b == 0xE2) (seq (one fun b => b == 0x84) (one fun b => b == 0xAA))

def foldByte (c : Char) : Pattern :=
  let plain : Pattern := one fun b => b == c.toLower.toUInt8 || b == c.toUpper.toUInt8
  if c.toLower = 's' then alt plain longS
  else if c.toLower = 'k' then alt plain kelvin
  else plain

def foldLit (text : String) : Pattern := all (text.toList.map foldByte)

-- A class that holds every letter, under (?i).
def foldClass (accepts : UInt8 → Bool) : Pattern := any [one accepts, longS, kelvin]

theorem class_inside (small large : UInt8 → Bool)
    (all : (List.range 256).all (fun n => !small (UInt8.ofNat n) || large (UInt8.ofNat n)) = true) (b : UInt8)
    (member : small b = true) : large b = true := by
  have here := List.all_eq_true.mp all b.toNat (List.mem_range.mpr b.toNat_lt)
  rwa [UInt8.ofNat_toNat, member, Bool.not_true, Bool.false_or] at here

theorem class_apart (one other : UInt8 → Bool)
    (all : (List.range 256).all (fun n => !one (UInt8.ofNat n) || !other (UInt8.ofNat n)) = true) (b : UInt8)
    (member : one b = true) : other b = false := by
  have outside := class_inside one (fun b => !other b) all b member
  rwa [Bool.not_eq_true'] at outside

variable {b : Option UInt8}

theorem any_inside {small large} (inside : ∀ b, small b = true → large b = true) (member : b.any small = true) : b.any large = true := by
  cases b with
  | none => cases member
  | some b => exact inside b member

theorem any_apart {one other} (apart : ∀ b, one b = true → other b = false) (member : b.any one = true) : b.any other = false := by
  cases b with
  | none => cases member
  | some b => exact apart b member

end

def urlPattern : Pattern := all [one isLetter, star (one fun b => isLetter b || isDigit b || byteOf ['+', '.', '-'] b), lit "://",
    plus (one fun b => !isPerlSpace b)]

def queryValueTerminators : List UInt8 := [38, 9, 10, 11, 12, 13, 32, 44, 59, 34, 39, 35]

def isQueryValueByte (b : UInt8) : Bool := !queryValueTerminators.contains b

def queryParameterPattern : Pattern :=
  all [group 1 (one (byteOf ['?', '&'])), group 2 (plus (one fun b => isLetter b || isDigit b || byteOf ['_', '.', '-'] b)),
    byte '=', group 3 (plus (one isQueryValueByte))]

def keyValueSeparator : Pattern := all [star (one isSpace), byte '=', star (one isSpace)]

def isValueByte (b : UInt8) : Bool := !isSpace b && !byteOf [',', ';', '&'] b

def keyValueName : Pattern := seq (foldClass isLetter) (star (foldClass fun b => isLetter b || isDigit b || byteOf ['.', '_', '-'] b))

def keyValuePattern : Pattern := all [wordEdge, group 1 keyValueName, group 2 keyValueSeparator, group 3 (plus (one isValueByte))]

def nextPairPattern : Pattern := keyValuePattern

def bareValueAheadPattern : Pattern := all [star (one isSpace), group 1 (plus (one isValueByte))]

def nextPairSeparatorPattern : Pattern := keyValueSeparator

def keyPrefixPattern : Pattern := all [wordEdge, group 1 keyValueName, keyValueSeparator]

def quote : Pattern := seq (opt (byte '\\')) (byte '"')

def jsonKeyValuePattern : Pattern :=
  all [group 1 quote, group 2 (seq (one isLetter) (star (one fun b => isLetter b || isDigit b || byteOf ['.', '_', '-'] b))),
    group 3 quote, group 4 (all [star (one isSpace), byte ':', star (one isSpace)]), group 5 quote,
    group 6 (star (alt (one fun b => !byteOf ['"', '\\'] b) (seq (byte '\\') (one fun b => !byteOf ['"'] b)))),
    group 7 quote]

def authHeaderPattern : Pattern := all [wordEdge,
    group 1 (any [seq (opt (foldLit "proxy-")) (foldLit "authorization"), foldLit "auth", foldLit "cookie",
      seq (opt (foldLit "x-")) (foldLit "api-key")]),
    group 2 (all [opt (byte '\\'), opt (byte '"'), star (one isSpace), byte ':', star (one isSpace), opt (byte '\\'), opt (byte '"')]),
    opt (group 3 (seq (any [foldLit "bearer", foldLit "basic", foldLit "digest", foldLit "negotiate", foldLit "ntlm", foldLit "token",
        foldLit "apikey", foldLit "hmac", foldLit "aws4-hmac-sha256"])
      (plus (one isSpace)))),
    plus (one fun b => !byteOf ['\r', '\n', ',', '"', ']', '}', ';', '\\'] b)]

def bareSecretPatterns : List Pattern :=
  [all [wordEdge, alt (lit "AKIA") (lit "ASIA"), times (one fun b => isDigit b || isUpper b) 16, wordEdge],
    all [wordEdge, lit "AIza", times (one fun b => isDigit b || isLetter b || byteOf ['_', '-'] b) 35, wordEdge],
    all [wordEdge, lit "gh", one (byteOf ['p', 'o', 'u', 's', 'r']), byte '_', atLeast 36 (one fun b => isDigit b || isLetter b), wordEdge],
    all [wordEdge, lit "github_pat_", atLeast 20 (one fun b => isDigit b || isLetter b || b == '_'.toUInt8), wordEdge],
    all [wordEdge, alt (lit "sk") (lit "rk"), byte '_', alt (lit "live") (lit "test"), byte '_',
      atLeast 16 (one fun b => isDigit b || isLetter b), wordEdge],
    all [wordEdge, alt (seq (lit "xox") (one (byteOf ['b', 'a', 'p', 'r', 's', 'e']))) (lit "xapp"), byte '-',
      atLeast 10 (one fun b => isDigit b || isLetter b || b == '-'.toUInt8), wordEdge],
    all [wordEdge, lit "eyJ", plus (one fun b => isDigit b || isLetter b || byteOf ['_', '=', '-'] b), byte '.',
      plus (one fun b => isDigit b || isLetter b || byteOf ['_', '=', '-'] b), byte '.',
      star (one fun b => isDigit b || isLetter b || byteOf ['_', '=', '-'] b)],
    all [wordEdge, plus (foldClass fun b => isLetter b || isDigit b || byteOf ['.', '_', '%', '+', '-'] b), byte '@',
      plus (foldClass fun b => isLetter b || isDigit b || byteOf ['.', '-'] b), byte '.',
      atLeast 2 (foldClass isLetter), wordEdge]]

def groupSeparator : Pattern := one (byteOf [' ', '.', '-'])

def digits (n : Nat) : Pattern := times (one isDigit) n

def cardCandidatePatterns : List Pattern := [alt
      (all [wordEdge, digits 4, times (seq groupSeparator (digits 4)) 2, groupSeparator, between 1 3 (one isDigit), wordEdge])
      (all [wordEdge, digits 4, atLeast 2 (seq groupSeparator (digits 4)), wordEdge]),
    all [wordEdge, digits 4, groupSeparator, digits 6, groupSeparator, between 4 5 (one isDigit), wordEdge],
    all [wordEdge, between 12 19 (one isDigit), wordEdge]]

def digitGroupPattern : Pattern := plus (one isDigit)

def endOfText : Pattern := edge fun _ next => next.isNone

def cardShortTailPattern : Pattern := all [group 1 (all [digits 4, groupSeparator, digits 4, groupSeparator, digits 4]), groupSeparator,
    between 1 3 (one isDigit), endOfText]

def azureSASSignaturePattern : Pattern :=
  all [group 1 (seq (one (byteOf ['?', '&'])) (foldLit "sig=")), plus (one fun b => b != '&'.toUInt8 && !isPerlSpace b)]

def armorLabel : Pattern := plus (foldClass fun b => isLetter b || isDigit b || b == ' '.toUInt8)

def pemArmorPattern : Pattern := all [lit "-----", group 1 (alt (foldLit "BEGIN") (foldLit "END")), byte ' ', armorLabel, lit "-----"]

def isBodyByte (b : UInt8) : Bool := isSpace b || isLetter b || isDigit b || byteOf ['+', '/', '='] b

def pemHeadlessBodyPattern : Pattern := star (one isBodyByte)

end LibCommons.Sanitize
