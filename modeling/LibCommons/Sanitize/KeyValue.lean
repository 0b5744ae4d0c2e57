import LibCommons.Sanitize.Cards

namespace LibCommons.Sanitize

open Regex

-- isSensitiveFieldName: the taxonomy is a parameter.
variable (isSensitiveFieldName : Bytes → Bool)

def equals : UInt8 := 61

structure Pair where
  key : Bytes
  valueStart : Nat
  valueEnd : Nat

variable (s : Bytes)

def findPair (pos : Nat) : Option Pair := (keyValuePattern.find (s.drop pos)).map fun found =>
    let value := (found.2.span 3).getD (0, 0)
    ⟨found.2.group 1, pos + found.1 + value.1, pos + found.1 + value.2⟩

def keyPrefix (valueStart valueEnd : Nat) : Option (Bytes × Nat) := (keyPrefixPattern.find (slice s valueStart valueEnd)).map fun found =>
    (found.2.group 1, found.1 + found.2.text.length)

def endsInSeparator (valueEnd : Nat) : Bool := s[valueEnd - 1]? == some equals

def prefixInsideValue (valueStart valueEnd : Nat) : Option (Bytes × Nat) :=
  if endsInSeparator s valueEnd then keyPrefix s valueStart valueEnd else none

def bareValueAhead (pos : Nat) : Option (Nat × Nat) :=
  (bareValueAheadPattern.matchAt none (s.drop pos)).map fun hit => (hit.span 1).getD (0, 0)

def bareValueFollows (valueEnd : Nat) : Bool :=
  match bareValueAhead s valueEnd with
  | none => false
  | some (start, _) => (nextPairPattern.matchAt none (s.drop (valueEnd + start))).isNone

def separatorAt (pos : Nat) : Option Nat := (nextPairSeparatorPattern.matchAt none (s.drop pos)).map fun hit => hit.text.length

def introducesAValue (start stop : Nat) (chained : Bool) : Option Nat :=
  let spaced := (separatorAt s stop).filter fun _ => isSensitiveFieldName (slice s start stop)
  let named := (prefixInsideValue s start stop).filter fun loc =>
    start + loc.2 == stop && isSensitiveFieldName loc.1 && (chained || bareValueFollows s stop)
  match spaced.filter fun sep => (bareValueAhead s (stop + sep)).isSome with
  | some sep => some (stop + sep)
  | none =>
    if named.isSome then some stop
    else if endsInSeparator s stop && isSensitiveFieldName (slice s start (stop - 1)) && (chained || bareValueFollows s stop) then some stop
    else spaced.map fun sep => stop + sep

-- Every step moves the end forward, so there are fewer of them than bytes.
def sensitiveValueEndFrom (s : Bytes) : Nat → Nat → Nat → Bool → Nat
  | 0, _, stop, _ => stop
  | fuel + 1, start, stop, chained =>
    match introducesAValue isSensitiveFieldName s start stop chained with
    | none => stop
    | some after =>
      match bareValueAhead s after with
      | none => stop
      | some (first, last) => sensitiveValueEndFrom s fuel (after + first) (after + last) true

def sensitiveValueEnd (valueStart valueEnd : Nat) : Nat := sensitiveValueEndFrom isSensitiveFieldName s s.length valueStart valueEnd false

inductive Resolved where
  | rewind (start : Nat)
  | redact (start stop : Nat) (sensitive : Bool)

def resolvePairFrom (s : Bytes) : Nat → Bytes → Nat → Nat → Resolved
  | 0, _, valueStart, valueEnd => .redact valueStart valueEnd false
  | fuel + 1, key, valueStart, valueEnd =>
    if isSensitiveFieldName key then
      .redact valueStart (sensitiveValueEnd isSensitiveFieldName s valueStart valueEnd) true
    else
      match prefixInsideValue s valueStart valueEnd with
      | some (inner, width) =>
        if valueStart + width < valueEnd then resolvePairFrom s fuel inner (valueStart + width) valueEnd
        else .rewind valueStart
      | none =>
        if (separatorAt s valueEnd).isSome then .rewind valueStart else .redact valueStart valueEnd false

def resolvePair (key : Bytes) (valueStart valueEnd : Nat) : Resolved :=
  resolvePairFrom isSensitiveFieldName s s.length key valueStart valueEnd

-- Where the value of the first sensitive nested key starts.
def nestedSensitive (text : Bytes) : Nat → Bytes → Nat → Nat → Option Nat
  | 0, _, _, _ => none
  | fuel + 1, key, valueStart, valueEnd =>
    if isSensitiveFieldName key then some valueStart
    else
      match keyPrefix text valueStart valueEnd with
      | none => none
      | some (inner, width) =>
        if valueStart + width ≥ valueEnd then none
        else nestedSensitive text fuel inner (valueStart + width) valueEnd

def redactKeyValuePair (text : Bytes) : Bytes :=
  match findPair text 0 with
  | none => text
  | some pair =>
    match nestedSensitive isSensitiveFieldName text text.length pair.key pair.valueStart pair.valueEnd with
    | none => text
    | some valueStart => text.take valueStart ++ marker ++ text.drop pair.valueEnd

def redactPairsInside (value : Bytes) : Bytes :=
  keyValuePattern.replaceAll (fun hit => redactKeyValuePair isSensitiveFieldName hit.text) value

def redactPairsFrom (s : Bytes) : Nat → Nat → Bytes → Bytes
  | 0, pos, out => out ++ s.drop pos
  | fuel + 1, pos, out =>
    match findPair s pos with
    | none => out ++ s.drop pos
    | some pair =>
      match resolvePair isSensitiveFieldName s pair.key pair.valueStart pair.valueEnd with
      | .rewind start => redactPairsFrom s fuel start (out ++ slice s pos start)
      | .redact start stop sensitive =>
        let replacement := if sensitive then marker else redactPairsInside isSensitiveFieldName (slice s start stop)
        redactPairsFrom s fuel stop (out ++ slice s pos start ++ replacement)

def redactKeyValuePairs : Bytes := redactPairsFrom isSensitiveFieldName s s.length 0 []

-- The redactor it replaced: rewind to the value, recurse with the whole pattern.
def legacyRedactKeyValuePair : Nat → Bytes → Bytes
  | 0, text => text
  | fuel + 1, text =>
    match findPair text 0 with
    | none => text
    | some pair =>
      let value := slice text pair.valueStart pair.valueEnd
      let replacement :=
        if isSensitiveFieldName pair.key then marker
        else keyValuePattern.replaceAll (fun hit => legacyRedactKeyValuePair fuel hit.text) value
      text.take pair.valueStart ++ replacement ++ text.drop pair.valueEnd

def legacyPairsInside (value : Bytes) : Bytes :=
  keyValuePattern.replaceAll (fun hit => legacyRedactKeyValuePair isSensitiveFieldName hit.text.length hit.text) value

def legacyRewinds (pair : Pair) : Bool := (endsInSeparator s pair.valueEnd && (keyPrefix s pair.valueStart pair.valueEnd).isSome) ||
    (separatorAt s pair.valueEnd).isSome

def legacyPairsFrom (s : Bytes) : Nat → Nat → Bytes → Bytes
  | 0, pos, out => out ++ s.drop pos
  | fuel + 1, pos, out =>
    match findPair s pos with
    | none => out ++ s.drop pos
    | some pair =>
      if !isSensitiveFieldName pair.key && legacyRewinds s pair then
        legacyPairsFrom s fuel pair.valueStart (out ++ slice s pos pair.valueStart)
      else if isSensitiveFieldName pair.key then
        legacyPairsFrom s fuel (sensitiveValueEnd isSensitiveFieldName s pair.valueStart pair.valueEnd)
          (out ++ slice s pos pair.valueStart ++ marker)
      else
        legacyPairsFrom s fuel pair.valueEnd (out ++ slice s pos pair.valueStart ++
          legacyPairsInside isSensitiveFieldName (slice s pair.valueStart pair.valueEnd))

def legacyRedactKeyValuePairs : Bytes := legacyPairsFrom isSensitiveFieldName s s.length 0 []

end LibCommons.Sanitize
