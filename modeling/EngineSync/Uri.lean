import EngineSync.Text.Split

/-!
# Resource identifiers

A document is known by a resource identifier, kept verbatim: two documents are the same exactly
when the texts are equal.  A text is accepted when it is a reference of the generic grammar, that
is `scheme:` followed by an authority and a path or by a path alone, or the same without a scheme,
each with an optional query and fragment.  All of it is ASCII.
-/
namespace EngineSync

/-- A resource identifier, by its text. -/
structure Uri where
  text : String
deriving DecidableEq, Repr, Inhabited

namespace Uri

/-- Letters, digits and the four marks that never need an escape. -/
def isUnreserved (c : Char) : Bool :=
  c.isAlphanum || c = '-' || c = '.' || c = '_' || c = '~'

/-- Marks that may delimit parts inside a component. -/
def isSubDelimiter (c : Char) : Bool :=
  "!$&'()*+,;=".contains c

/-- Characters of a registered name. -/
def isNameChar (c : Char) : Bool :=
  isUnreserved c || isSubDelimiter c

/-- Characters of the user part of an authority. -/
def isUserChar (c : Char) : Bool :=
  isNameChar c || c = ':'

/-- Characters of a path segment. -/
def isSegmentChar (c : Char) : Bool :=
  isUserChar c || c = '@'

/-- Characters of a path. -/
def isPathChar (c : Char) : Bool :=
  isSegmentChar c || c = '/'

/-- Characters of a query or a fragment. -/
def isQueryChar (c : Char) : Bool :=
  isPathChar c || c = '?'

/-- A hexadecimal digit. -/
def isHexDigit (c : Char) : Bool :=
  c.isDigit || ('a' ≤ c && c ≤ 'f') || ('A' ≤ c && c ≤ 'F')

/-- Every character is allowed or belongs to an escape of two hexadecimal digits. -/
def wellEscaped (allowed : Char → Bool) : List Char → Bool
  | [] => true
  | '%' :: a :: b :: rest => isHexDigit a && isHexDigit b && wellEscaped allowed rest
  | c :: rest => c ≠ '%' && allowed c && wellEscaped allowed rest

/-- A text cut at the first character of a kind: what stands before it, and what follows if there
is one. -/
def cutAt (mark : Char → Bool) : List Char → List Char × Option (List Char)
  | [] => ([], none)
  | c :: rest =>
    if mark c then ([], some rest)
    else ((c :: (cutAt mark rest).1), (cutAt mark rest).2)

/-- A scheme is a letter and then letters, digits, `+`, `-` or `.`. -/
def isScheme : List Char → Bool
  | [] => false
  | c :: rest => c.isAlpha && rest.all fun d => d.isAlphanum || d = '+' || d = '-' || d = '.'

/-- A decimal number below 256 without leading zeros. -/
def isOctet (text : List Char) : Bool :=
  text ≠ [] && text.length ≤ 3 && text.all Char.isDigit &&
    (text.length = 1 || text.head? ≠ some '0')
    && text.foldl (fun n c => n * 10 + (c.toNat - 48)) 0 < 256

/-- Four octets between dots. -/
def isDottedAddress (text : List Char) : Bool :=
  (Text.splitAt '.' text).length = 4 && (Text.splitAt '.' text).all isOctet

/-- One to four hexadecimal digits. -/
def isAddressGroup (text : List Char) : Bool :=
  text ≠ [] && text.length ≤ 4 && text.all isHexDigit

/-- How many groups of sixteen bits a run of groups covers; a dotted address may end the last run
and counts for two. -/
def groupCount? (mayEndDotted : Bool) : List (List Char) → Option Nat
  | [] => some 0
  | [last] =>
    if isAddressGroup last then some 1
    else if mayEndDotted && isDottedAddress last then some 2
    else none
  | group :: rest =>
    if isAddressGroup group then (groupCount? mayEndDotted rest).map (· + 1) else none

/-- A text cut at its first pair of colons. -/
def cutAtPair : List Char → List Char × Option (List Char)
  | [] => ([], none)
  | ':' :: ':' :: rest => ([], some rest)
  | c :: rest => ((c :: (cutAtPair rest).1), (cutAtPair rest).2)

/-- The groups of a run; an empty run has none. -/
def groupsOf (text : List Char) : List (List Char) :=
  if text = [] then [] else Text.splitAt ':' text

/-- An address of eight groups, of which one run may be left out. -/
def isSixteenByteAddress (text : List Char) : Bool :=
  match cutAtPair text with
  | (all, none) => groupCount? true (Text.splitAt ':' all) = some 8
  | (front, some back) =>
    match groupCount? false (groupsOf front), groupCount? true (groupsOf back) with
    | some m, some n => m + n ≤ 7
    | _, _ => false

/-- An endpoint: a name or, in brackets, an address of sixteen bytes, and digits after a colon. -/
def isEndpoint (text : List Char) : Bool :=
  match text with
  | '[' :: rest =>
    match cutAt (· = ']') rest with
    | (address, some after) =>
      isSixteenByteAddress address
        && (after = [] || (after.head? = some ':' && (after.drop 1).all Char.isDigit))
    | _ => false
  | _ =>
    match cutAt (· = ':') text with
    | (name, number) => wellEscaped isNameChar name && (number.getD []).all Char.isDigit

/-- An optional user part and an endpoint. -/
def isAuthority (text : List Char) : Bool :=
  match cutAt (· = '@') text with
  | (user, some host) => wellEscaped isUserChar user && isEndpoint host
  | (host, none) => isEndpoint host

/-- What follows the scheme, if any: an authority with a path, or a path. -/
def isHierarchical (text : List Char) : Bool :=
  match text with
  | '/' :: '/' :: rest =>
    match cutAt (· = '/') rest with
    | (authority, path) => isAuthority authority && wellEscaped isPathChar (path.getD [])
  | path => wellEscaped isPathChar path

/-- A reference without a scheme has no colon in the first segment of its path. -/
def isReference (text : List Char) : Bool :=
  let (body, fragment) := cutAt (· = '#') text
  let (path, query) := cutAt (· = '?') body
  let hierarchical :=
    match cutAt (fun c => c = ':' || c = '/') path with
    | (scheme, some rest) =>
      if path[scheme.length]? = some ':' then isScheme scheme && isHierarchical rest
      else isHierarchical path
    | (_, none) => isHierarchical path
  hierarchical && wellEscaped isQueryChar (query.getD []) &&
    wellEscaped isQueryChar (fragment.getD [])

/-- Accepts a reference. -/
def parse? (text : String) : Option Uri :=
  if isReference text.toList then some ⟨text⟩ else none

/-- The text of the identifier of a file at the root of the file system. -/
def fileText (name : String) : String :=
  "file:///" ++ name

/-- The identifier of a file at the root of the file system; the failure is its wording. -/
def ofFileName (name : String) : Except String Uri :=
  match parse? (fileText name) with
  | some uri => .ok uri
  | none => .error ("invalid test uri " ++ fileText name)

end Uri
end EngineSync
