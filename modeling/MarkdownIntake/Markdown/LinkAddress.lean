import MarkdownIntake.Markdown.Character
import MarkdownIntake.Text.Lines
import MarkdownIntake.Text.Utf8
import MarkdownIntake.Web.Percent
import MarkdownIntake.Web.Punycode

/-!
This module contains the addresses of links: the division into parts, the written form (host names
beyond ASCII in Punycode, other characters percent encoded), the shown form, and which addresses a
link may have at all.
-/

namespace MarkdownIntake.Markdown

open MarkdownIntake.Text MarkdownIntake.Web

structure LinkAddress where
  scheme : List Char := []
  slashes : Bool := false
  user : List Char := []
  host : List Char := []
  port : List Char := []
  path : List Char := []
deriving Repr

namespace LinkAddress

def slashedSchemes : List String := ["http:", "https:", "ftp:", "gopher:", "file:"]

def hostlessScheme : String := "javascript:"

def isSchemeChar (c : Char) : Bool :=
  c.isAlphanum || c = '.' || c = '+' || c = '-'

def splitScheme (cs : List Char) : List Char × List Char :=
  let name := cs.takeWhile isSchemeChar
  match cs.dropWhile isSchemeChar with
  | ':' :: rest => if name.isEmpty then ([], cs) else (name ++ [':'], rest)
  | _ => ([], cs)

def endsAuthority (c : Char) : Bool :=
  c = '/' || c = '?' || c = '#'

def endsHost (c : Char) : Bool :=
  "%/?;#'\x7b\x7d|\\^`<>\" \r\n\t".toList.contains c

def splitAtLast? (separator : Char) (cs : List Char) : Option (List Char × List Char) :=
  if cs.contains separator then
    let after := (cs.reverse.takeWhile (· ≠ separator)).reverse
    some (cs.take (cs.length - after.length - 1), after)
  else
    none

def splitUser (cs : List Char) : List Char × List Char :=
  let authority := cs.takeWhile (!endsAuthority ·)
  match splitAtLast? '@' authority with
  | some (user, host) => (user, host ++ cs.dropWhile (!endsAuthority ·))
  | none => ([], cs)

/-- Split a port off the end of a host; a colon without digits belongs to neither. -/
def splitPort (host : List Char) : List Char × List Char :=
  let digits := (host.reverse.takeWhile Char.isDigit).reverse
  match host.reverse.dropWhile Char.isDigit with
  | ':' :: before => (before.reverse, digits)
  | _ => (host, [])

def isHostPartChar (c : Char) : Bool :=
  c.isAlphanum || c = '+' || c = '_' || c = '-'

def maxHostPart : Nat := 63

def maxHost : Nat := 255

def isHostPart (part : List Char) : Bool :=
  part.length ≤ maxHostPart && part.all fun c => isHostPartChar c || 127 < c.toNat

/--
Cut a host name at the first character that no part may hold: the parts before it, and what is left
over, if anything is.
-/
def cutHost : List (List Char) → List (List Char) × Option (List (List Char))
  | [] => ([], none)
  | part :: parts =>
    if isHostPart part then
      let (kept, left) := cutHost parts
      (part :: kept, left)
    else
      let start := (part.takeWhile isHostPartChar).take maxHostPart
      ([start], some (part.drop start.length :: parts))

def isBracketed (host : List Char) : Bool :=
  host.head? == some '[' && host.getLast? == some ']'

def readAuthority (base : LinkAddress) (cs : List Char) : LinkAddress :=
  let (user, cs) := splitUser cs
  let stop := (cs.takeWhile (!endsHost ·)).length
  let stop := if stop != 0 && cs[stop - 1]? == some ':' then stop - 1 else stop
  let (host, port) := splitPort (cs.take stop)
  let rest := cs.drop stop
  let (host, rest) :=
    if isBracketed host then
      (host, rest)
    else
      match cutHost (splitAt '.' host) with
      | (kept, none) => (joinWith ['.'] kept, rest)
      | (kept, some left) => (joinWith ['.'] kept, joinWith ['.'] left ++ rest)
  let host := if maxHost < host.length then [] else host
  let host := if isBracketed host then (host.drop 1).dropLast else host
  { base with user, host, port, path := rest }

def parse (text : List Char) : LinkAddress :=
  let (scheme, rest) := splitScheme (trim text)
  let name := String.ofList scheme
  let slashes := rest.take 2 == ['/', '/']
  if name == hostlessScheme then
    { scheme, path := rest }
  else if slashes then
    readAuthority { scheme, slashes } (rest.drop 2)
  else if !scheme.isEmpty && !slashedSchemes.contains name then
    readAuthority { scheme } rest
  else
    { scheme, path := rest }

def hasBrackets (address : LinkAddress) : Bool :=
  address.host.contains ':'

def beforeHost (address : LinkAddress) : List Char :=
  address.scheme ++ (if address.slashes then ['/', '/'] else [])
    ++ (if address.user.isEmpty then [] else address.user ++ ['@'])

def afterHost (address : LinkAddress) : List Char :=
  (if address.port.isEmpty then [] else ':' :: address.port) ++ address.path

def hostText (address : LinkAddress) : List Char :=
  if address.hasBrackets then '[' :: (address.host ++ [']']) else address.host

def hasNamedHost (address : LinkAddress) : Bool :=
  !address.host.isEmpty
    && (address.scheme.isEmpty || ["http:", "https:", "mailto:"].contains (String.ofList address.scheme))

def isHostSeparator (c : Char) : Bool :=
  c = '.' || c = '\u3002' || c = '\uFF0E' || c = '\uFF61'

def hostParts (host : List Char) : List (List Char) :=
  splitAt '.' (host.map fun c => if isHostSeparator c then '.' else c)

/-- Change every part of a host name; what stands before an at sign is left as it is. -/
def mapHost (change : List Char → List Char) (host : List Char) : List Char :=
  match splitAt '@' host with
  | user :: name :: _ => user ++ '@' :: joinWith ['.'] ((hostParts name).map change)
  | _ => joinWith ['.'] ((hostParts host).map change)

def asciiHostPart (part : List Char) : List Char :=
  if part.any (126 < ·.toNat) then "xn--".toList ++ Punycode.encode part else part

def isAddressChar (c : Char) : Bool :=
  c.isAlphanum || ";/?:@&=+$,-_.!~*'()#".toList.contains c

def written (text : List Char) : List Char :=
  let address := parse text
  let address :=
    if address.hasNamedHost then { address with host := mapHost asciiHostPart address.host }
    else address
  if address.hasBrackets then
    percentEncode isAddressChar address.beforeHost
      ++ '[' :: percentEncode isAddressChar address.host
      ++ ']' :: percentEncode isAddressChar address.afterHost
  else
    percentEncode isAddressChar (address.beforeHost ++ address.host ++ address.afterHost)

def shownHostPart? (part : List Char) : Option (List Char) :=
  if "xn--".toList.isPrefixOf part then
    Punycode.decode? ((part.drop 4).map Char.toLower)
  else
    some part

def shownHost (host : List Char) : List Char :=
  match (hostParts host).mapM shownHostPart? with
  | some parts => joinWith ['.'] parts
  | none => host

def isKeptEncoded (byte : Nat) : Bool :=
  (";/?:@&=+$,#%".toList.map Char.toNat).contains byte

def percentRun : List Char → List Nat × List Char
  | '%' :: a :: b :: rest =>
    if isHexDigit a && isHexDigit b then
      let (bytes, rest) := percentRun rest
      ((hexDigitValue a * 16 + hexDigitValue b) :: bytes, rest)
    else
      ([], '%' :: a :: b :: rest)
  | rest => ([], rest)

def isContinuation (byte : Nat) : Bool :=
  byte / 64 == 2

def sequenceLength (byte : Nat) : Nat :=
  if byte / 32 == 6 then 2 else if byte / 16 == 14 then 3 else if byte / 8 == 30 then 4 else 1

def showBytes : (fuel : Nat) → List Nat → List Char
  | 0, _ => []
  | _, [] => []
  | fuel + 1, byte :: rest =>
    if byte < 0x80 then
      (if isKeptEncoded byte then percentByte byte else [Char.ofNat byte]) ++ showBytes fuel rest
    else
      let length := sequenceLength byte
      let following := rest.take (length - 1)
      if 1 < length && following.length + 1 == length && following.all isContinuation then
        (match decodeUtf8? (byte :: following) with
          | some shown => shown
          -- Bytes that only look like a character become one replacement each.
          | none => List.replicate length replacementChar) ++ showBytes fuel (rest.drop (length - 1))
      else
        replacementChar :: showBytes fuel rest

def percentDecode (cs : List Char) : List Char :=
  match cs with
  | [] => []
  | c :: rest =>
    if c = '%' then
      let (bytes, _) := percentRun cs
      if bytes.isEmpty then
        c :: percentDecode rest
      else
        showBytes bytes.length bytes ++ percentDecode (rest.drop (3 * bytes.length - 1))
    else
      c :: percentDecode rest
termination_by cs.length

def shown (text : List Char) : List Char :=
  let address := parse text
  let address :=
    if address.hasNamedHost then { address with host := shownHost address.host } else address
  percentDecode (address.beforeHost ++ address.hostText ++ address.afterHost)

def imageData : List String :=
  ["data:image/gif;", "data:image/png;", "data:image/jpeg;", "data:image/webp;"]

def harmfulSchemes : List String := ["vbscript:", "javascript:", "file:", "data:"]

def isAllowed (address : List Char) : Bool :=
  let address := (trim address).map Char.toLower
  if harmfulSchemes.any (·.toList.isPrefixOf address) then
    imageData.any (·.toList.isPrefixOf address)
  else
    true

end LinkAddress

end MarkdownIntake.Markdown
