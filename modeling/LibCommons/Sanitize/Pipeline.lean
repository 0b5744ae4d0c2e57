import LibCommons.Sanitize.KeyValue
import LibCommons.Sanitize.Pem

namespace LibCommons.Sanitize

open Regex

variable (isSensitiveFieldName : Bytes → Bool)

def maxInputLen : Nat := 65536
def maxSanitizeRounds : Nat := 4

def schemeSeparator : Bytes := [58, 47, 47]
def colon : UInt8 := 58
def atSign : UInt8 := 64

def isSchemeByte (b : UInt8) : Bool := isLetter b || isDigit b || byteOf ['+', '.', '-'] b

variable (token : Bytes)

-- Back over the bytes of a scheme, then forward to the first letter.
def schemeStart (i : Nat) : Nat :=
  let back := ((token.take i).reverse.takeWhile isSchemeByte).length
  let ahead := ((slice token (i - back) i).takeWhile fun b => !isLetter b).length
  i - back + ahead

def schemeStartsFrom (token : Bytes) : List Nat → List Nat → List Nat
  | [], found => found
  | i :: rest, found =>
    if slice token i (i + 3) ≠ schemeSeparator then schemeStartsFrom token rest found
    else
      let start := schemeStart token i
      if start = i then schemeStartsFrom token rest found
      else if found.getLast?.any fun last => decide (start ≤ last) then schemeStartsFrom token rest found
      else schemeStartsFrom token rest (found ++ [start])

def schemeStarts : List Nat := schemeStartsFrom token (List.range (token.length - 2)) []

def schemeSepIndex : Option Nat := (List.range (token.length - 2)).find? fun i => slice token i (i + 3) == schemeSeparator

def redactOneURL : Bytes :=
  match schemeSepIndex token with
  | none => token
  | some schemeSep =>
    let rest := token.drop (schemeSep + 3)
    let authority := rest.takeWhile fun b => !byteOf ['/', '?'] b
    -- strings.LastIndex of the at-sign: what stands in front of the last one
    match authority.reverse.dropWhile (fun b => b != atSign) with
    | [] => token
    | _ :: before =>
      let userinfo := before.reverse
      let tail := rest.drop userinfo.length
      if userinfo.contains colon then token.take (schemeSep + 3) ++ marker ++ [colon] ++ marker ++ tail
      else token.take (schemeSep + 3) ++ marker ++ tail

def redactURLsFrom (token : Bytes) : List Nat → Bytes
  | [] => []
  | [start] => redactOneURL (token.drop start)
  | start :: next :: rest => redactOneURL (slice token start next) ++ redactURLsFrom token (next :: rest)

def redactURLUserinfo : Bytes :=
  let starts := schemeStarts token
  if starts.length ≤ 1 then redactOneURL token
  else token.take (starts.headD 0) ++ redactURLsFrom token starts

variable (text : Bytes)

def allDigits : Bool := text.all isDigit && text ≠ []

def extendFrom (s : Bytes) : Nat → Nat → Nat
  | 0, stop => stop
  | fuel + 1, stop =>
    if s[stop]? = some 32 then
      let next := stop + 1 + ((s.drop (stop + 1)).takeWhile isDigit).length
      if next = stop + 1 ∨ (s[next]?).any isQueryValueByte then stop else extendFrom s fuel next
    else stop

def extendOverGroupedDigits (s : Bytes) (start stop : Nat) : Nat :=
  if !allDigits (slice s start stop) then stop else extendFrom s s.length stop

def redactQueryFrom (s : Bytes) : List (Nat × Hit UInt8) → Nat → Bytes → Nat × Bytes
  | [], written, out => (written, out)
  | (pos, hit) :: rest, written, out =>
    if pos < written then redactQueryFrom s rest written out
    else if !isSensitiveFieldName (hit.group 2) then redactQueryFrom s rest written out
    else
      let value := (hit.span 3).getD (0, 0)
      redactQueryFrom s rest (extendOverGroupedDigits s (pos + value.1) (pos + value.2)) (out ++ slice s written (pos + value.1) ++ marker)

def redactQueryParameters (s : Bytes) : Bytes :=
  let (written, out) := redactQueryFrom isSensitiveFieldName s (queryParameterPattern.findAll s) 0 []
  if written = 0 then s else out ++ s.drop written

def redactAzureSignature (s : Bytes) : Bytes := azureSASSignaturePattern.replaceAll (fun hit => hit.group 1 ++ marker) s

def redactAuthHeader : Bytes :=
  match authHeaderPattern.find text with
  | none => text
  | some (_, hit) => hit.group 1 ++ hit.group 2 ++ hit.group 3 ++ marker

def redactJSONPair : Bytes :=
  match jsonKeyValuePattern.find text with
  | none => text
  | some (_, hit) =>
    if !isSensitiveFieldName (hit.group 2) then text
    else hit.group 1 ++ hit.group 2 ++ hit.group 3 ++ hit.group 4 ++ hit.group 5 ++ marker ++ hit.group 7

def sanitizeOnce (s : Bytes) : Bytes :=
  let s := redactPemBlocks s
  let s := urlPattern.replaceAll (fun hit => redactURLUserinfo hit.text) s
  let s := redactQueryParameters isSensitiveFieldName s
  let s := redactAzureSignature s
  let s := authHeaderPattern.replaceAll (fun hit => redactAuthHeader hit.text) s
  let s := jsonKeyValuePattern.replaceAll (fun hit => redactJSONPair isSensitiveFieldName hit.text) s
  let s := redactCardNumbers s
  let s := redactKeyValuePairs isSensitiveFieldName s
  bareSecretPatterns.foldl (fun s pattern => pattern.replaceAll (fun _ => marker) s) s

def sanitizeRounds : Nat → Bytes → Bytes
  | 0, s => s
  | rounds + 1, s =>
    let next := sanitizeOnce isSensitiveFieldName s
    if next = s then s else sanitizeRounds rounds next

def refusal (length : Nat) : Bytes :=
  marker ++ Bytes.utf8 (" (input of " ++ toString length ++ " bytes exceeds the sanitizer bound; not scanned)").toList

def sanitizeString (s : Bytes) : Bytes :=
  if s = [] then []
  else if s.length > maxInputLen then refusal s.length
  else sanitizeRounds isSensitiveFieldName maxSanitizeRounds s

end LibCommons.Sanitize
