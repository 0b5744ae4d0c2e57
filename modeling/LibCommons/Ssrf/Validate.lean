import LibCommons.Ssrf.Addr
import LibCommons.Go.Strings

namespace LibCommons.Ssrf

abbrev Text := List Char

-- unicode.ToLower outside ASCII and IPv6 literals stay open; url.Parse is given by its result.
variable (unicodeLower : Char → Char) (parseIPv6 : Text → Option Addr)

def toLower (text : Text) : Text := text.map fun c => if c.toNat < 128 then c.toLower else unicodeLower c

inductive Context where
  | absent
  | done (cause : String)
  | live
deriving DecidableEq, Repr

structure URL where
  scheme : Text
  hostname : Text
deriving DecidableEq, Repr

inductive SsrfError where
  | errBlocked (detail : String)
  | errInvalidURL (detail : String)
deriving DecidableEq, Repr

-- lookupFunc is not read here: ValidateURL resolves nothing.
structure Config where
  httpsOnly : Bool := false
  allowPrivate : Bool := false
  allowedHostnames : List Text := []
deriving DecidableEq, Repr

inductive Opt where
  | absent
  | withHTTPSOnly
  | withAllowPrivateNetwork
  | withLookupFunc
  | withAllowHostname (hostname : Text)
deriving DecidableEq, Repr

def Opt.apply (cfg : Config) : Opt → Config
  | absent => cfg
  | withHTTPSOnly => { cfg with httpsOnly := true }
  | withAllowPrivateNetwork => { cfg with allowPrivate := true }
  | withLookupFunc => cfg
  | withAllowHostname hostname => { cfg with allowedHostnames := toLower unicodeLower hostname :: cfg.allowedHostnames }

def buildConfig (opts : List Opt) : Config := opts.foldl (Opt.apply unicodeLower) {}

def blockedHostnames : List Text :=
  ["localhost".toList, "metadata.google.internal".toList, "metadata.gcp.internal".toList, "169.254.169.254".toList,
    "metadata.azure.internal".toList]

def blockedSuffixes : List Text := [".local".toList, ".internal".toList, ".cluster.local".toList]

variable (hostname : Text)

def normalizeHostname : Text := (toLower unicodeLower hostname).rdropWhile fun c => c = '.'

def blockedName (lower : Text) : Bool := blockedHostnames.contains lower || blockedSuffixes.any fun suffix => suffix.isSuffixOf lower

def isBlockedHostname : Bool :=
  if hostname = [] then true
  else
    let lower := normalizeHostname unicodeLower hostname
    if lower = [] then true else blockedName lower

def isBlockedHostnameWithConfig (cfg : Config) : Bool :=
  if hostname = [] then true
  else
    let lower := normalizeHostname unicodeLower hostname
    if lower = [] then true
    else if cfg.allowedHostnames.contains lower then false
    else blockedName lower

-- One field of a dotted IPv4 literal: decimal, no leading zero, at most 255.
def parseOctet (field : Text) : Option (BitVec 8) :=
  if field ≠ [] ∧ field.all Char.isDigit ∧ (field.head? = some '0' → field = ['0']) ∧ Nat.ofDigitChars 10 field 0 ≤ 255 then
    some (BitVec.ofNat 8 (Nat.ofDigitChars 10 field 0))
  else none

def parseIPv4 (text : Text) : Option Addr :=
  match (text.splitOn '.').map parseOctet with
  | [some a, some b, some c, some d] => some (.four (ip4 a b c d))
  | _ => none

-- netip.ParseAddr goes by the first of the three characters.
def parseAddr (text : Text) : Option Addr :=
  match text.find? fun c => c = '.' ∨ c = ':' ∨ c = '%' with
  | some '.' => parseIPv4 text
  | some ':' => parseIPv6 text
  | _ => none

def validateContext : Context → Except SsrfError Unit
  | .absent => .error (.errInvalidURL "nil context")
  | .done cause => .error (.errInvalidURL cause)
  | .live => .ok ()

def quoted (text : Text) : String := Go.quote (String.ofList text)

def validateScheme (scheme : Text) (cfg : Config) : Except SsrfError Unit :=
  let s := toLower unicodeLower scheme
  if cfg.httpsOnly then
    if s ≠ "https".toList then .error (.errBlocked ("scheme " ++ quoted scheme ++ " not allowed (HTTPS only)")) else .ok ()
  else if s ≠ "http".toList ∧ s ≠ "https".toList then .error (.errBlocked ("scheme " ++ quoted scheme ++ " not allowed"))
  else .ok ()

-- The check of an IP literal, left out when private networks are allowed.
def validateLiteral (cfg : Config) : Except SsrfError Unit :=
  if !cfg.allowPrivate then
    match parseAddr parseIPv6 hostname with
    | some addr =>
      if isBlockedAddr addr then .error (.errBlocked ("IP " ++ String.ofList hostname ++ " is in a blocked range"))
      else .ok ()
    | none => .ok ()
  else .ok ()

def validateURL (ctx : Context) (parsed : Except String URL) (opts : List Opt) : Except SsrfError Unit := do
  validateContext ctx
  let cfg := buildConfig unicodeLower opts
  match parsed with
  | .error text => .error (.errInvalidURL text)
  | .ok u => do
      validateScheme unicodeLower u.scheme cfg
      if u.hostname = [] then .error (.errInvalidURL "empty hostname")
      else if isBlockedHostnameWithConfig unicodeLower u.hostname cfg then
        .error (.errBlocked ("hostname " ++ quoted u.hostname ++ " is blocked"))
      else validateLiteral parseIPv6 u.hostname cfg

end LibCommons.Ssrf
