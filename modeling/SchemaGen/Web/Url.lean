import SchemaGen.Text.Quoted
import SchemaGen.Text.Runs
import SchemaGen.Web.Address

/-!
# Addresses of documents on the web

Of a URL only the scheme and the authority are looked at. Controls and blanks in front of it do not
count, and neither do tabs and line ends anywhere. A host in square brackets has to be an address of
eight groups or one of a later version; an authority must not hold a character that a compatibility
mapping turns into one of the signs that end an authority or divide it.
-/

namespace SchemaGen.Web

/-- What is wrong with the authority of a URL. -/
inductive UrlError where
  | unbalancedBrackets
  | laterVersion
  | bracketedOctets
  | notAddress (host : String)
  | compatibilitySign (authority : String)
deriving DecidableEq, Repr

def UrlError.message : UrlError → String
  | unbalancedBrackets => "Invalid IPv6 URL"
  | laterVersion => "IPvFuture address is invalid"
  | bracketedOctets => "An IPv4 address cannot be in brackets"
  | notAddress host => s!"{Text.quoted host} does not appear to be an IPv4 or IPv6 address"
  | compatibilitySign authority =>
    s!"netloc '{authority}' contains invalid characters under NFKC normalization"

/-- The parts of a URL that are looked at; empty if they are missing. -/
structure UrlParts where
  scheme : List Char
  authority : List Char
deriving DecidableEq, Repr

namespace UrlParts

/-- The characters of a URL that count. -/
def significant (cs : List Char) : List Char :=
  (cs.dropWhile (·.toNat ≤ 0x20)).filter fun c => c ≠ '\t' && c ≠ '\r' && c ≠ '\n'

def isSchemeChar (c : Char) : Bool :=
  c.isAlphanum || c = '+' || c = '-' || c = '.'

/-- The scheme, and what follows its colon. -/
def splitScheme (cs : List Char) : List Char × List Char :=
  let scheme := cs.takeWhile (· ≠ ':')
  match cs.drop scheme.length with
  | _ :: rest =>
    if (scheme.head?.map Char.isAlpha).getD false && scheme.all isSchemeChar then (scheme, rest)
    else ([], cs)
  | [] => ([], cs)

/-- The authority, which stands between two slashes and the path. -/
def authorityOf : List Char → List Char
  | '/' :: '/' :: rest => rest.takeWhile fun c => c ≠ '/' && c ≠ '?' && c ≠ '#'
  | _ => []

/-- The text in the first square brackets. -/
def bracketed (authority : List Char) : List Char :=
  ((authority.dropWhile (· ≠ '[')).drop 1).takeWhile (· ≠ ']')

/-- An address of a later version: `v`, its number, a point and the rest. -/
def isLaterVersion (host : List Char) : Bool :=
  let digits := (host.drop 1).takeWhile Address.isHexDigit
  let rest := (host.drop 1).drop digits.length
  !digits.isEmpty && rest.head? == some '.' && decide (2 ≤ rest.length)

def checkBracketed (host : List Char) : Except UrlError Unit :=
  if host.head? = some 'v' then
    if isLaterVersion host then .ok () else .error .laterVersion
  else if Address.isFourOctets host then .error .bracketedOctets
  else if Address.isZoned host then .ok ()
  else .error (.notAddress (String.ofList host))

/-- The characters that compatibility maps to a text with one of the signs `/?#@:` in it. -/
def compatibilitySigns : List Nat :=
  [0x2047, 0x2048, 0x2049, 0x2100, 0x2101, 0x2105, 0x2106, 0x2A74, 0xFE13, 0xFE16, 0xFE55, 0xFE56,
   0xFE5F, 0xFE6B, 0xFF03, 0xFF0F, 0xFF1A, 0xFF1F, 0xFF20]

def checkAuthority (authority : List Char) : Except UrlError Unit := do
  if authority.contains '[' != authority.contains ']' then .error .unbalancedBrackets
  if authority.contains '[' then checkBracketed (bracketed authority)
  if authority.any fun c => compatibilitySigns.contains c.toNat then
    .error (.compatibilitySign (String.ofList authority))

/-- The parts of a URL. -/
def read (url : String) : Except UrlError UrlParts := do
  let (scheme, rest) := splitScheme (significant url.toList)
  let authority := authorityOf rest
  checkAuthority authority
  pure ⟨scheme, authority⟩

/-- Whether both parts are there. -/
def isComplete (p : UrlParts) : Bool := !p.scheme.isEmpty && !p.authority.isEmpty

end UrlParts

end SchemaGen.Web
