import ControlPoint.Text.Case
import ControlPoint.Text.Decimal
import ControlPoint.Text.Split
import ControlPoint.Url.Percent

/-!
Hosts of addresses: domain names, and the two kinds of numeric addresses with their many spellings,
each written back in one.
-/

namespace ControlPoint.Url

open Text

/-- Why a text is no address. -/
inductive UrlFault
  | emptyHost
  | invalidDomain
  | invalidDomainCharacter
  | invalidPort
  | invalidIpv4
  | invalidIpv6
  | relativeWithoutBase
  | relativeToOpaque
  deriving DecidableEq, Repr

def UrlFault.message : UrlFault → String
  | .emptyHost => "empty host"
  | .invalidDomain => "invalid international domain name"
  | .invalidDomainCharacter => "invalid domain character"
  | .invalidPort => "invalid port number"
  | .invalidIpv4 => "invalid IPv4 address"
  | .invalidIpv6 => "invalid IPv6 address"
  | .relativeWithoutBase => "relative URL without a base"
  | .relativeToOpaque => "relative URL with a cannot-be-a-base base"

/-- A number in one of the spellings of numeric addresses: hexadecimal after `0x`, octal after `0`,
    else decimal. -/
def readNumber? (cs : List Char) : Option Nat :=
  let read (base : Nat) (cs : List Char) : Option Nat :=
    cs.foldlM (fun n c => do
      let d ← hexValue? c
      if d < base then some (n * base + d) else none) 0
  match cs with
  | [] => none
  | '0' :: 'x' :: rest => read 16 rest
  | '0' :: 'X' :: rest => read 16 rest
  | '0' :: rest => read 8 rest
  | _ => read 10 cs

/-- Whether the last part of a domain is a number, so that the domain must be a numeric address. An
    empty part at the end does not count. -/
def endsInNumber (domain : List Char) : Bool :=
  let parts := (splitWhere (· == '.') domain).reverse
  let last := match parts with
    | [] :: rest => rest.head?
    | part :: _ => some part
    | [] => none
  match last with
  | some part => (!part.isEmpty && part.all Char.isDigit) || (readNumber? part).isSome
  | none => false

/-- The four-byte address of at most four numbers, the last of which fills what the others leave. -/
def readIpv4 (domain : List Char) : Except UrlFault Nat :=
  let parts := splitWhere (· == '.') domain
  let parts := if parts.getLast? = some [] then parts.dropLast else parts
  match parts.mapM readNumber? with
  | none => .error .invalidIpv4
  | some numbers =>
    match numbers.reverse with
    | [] => .error .invalidIpv4
    | last :: others =>
      let others := others.reverse
      if 4 < numbers.length || others.any (255 < ·) || Nat.pow 256 (4 - others.length) ≤ last then
        .error .invalidIpv4
      else .ok (others.zipIdx.foldl (fun sum (n, i) => sum + n * Nat.pow 256 (3 - i)) last)

/-- A four-byte address in decimal. -/
def ipv4Text (address : Nat) : String :=
  String.intercalate "." ([3, 2, 1, 0].map fun i => toString (address / Nat.pow 256 i % 256))

/-- The number of up to four hexadecimal digits at the beginning of a text, with what follows. -/
def takeHex : (fuel : Nat) → Nat → List Char → Nat × Nat × List Char
  | 0, n, cs => (0, n, cs)
  | fuel + 1, n, cs =>
    match cs with
    | [] => (0, n, [])
    | c :: rest =>
      match hexValue? c with
      | some d =>
        let (count, value, after) := takeHex fuel (n * 16 + d) rest
        (count + 1, value, after)
      | none => (0, n, cs)

/-- A decimal number below 256 without needless zeros, with what follows it. -/
def takeByte? (cs : List Char) : Option (Nat × List Char) :=
  let digits := cs.takeWhile Char.isDigit
  match digits? digits with
  | some n =>
    if n < 256 && (digits.length == 1 || digits.head? != some '0') then
      some (n, cs.drop digits.length)
    else none
  | none => none

/-- The two pieces written by a four-byte address in decimal at the end of a text. -/
def embeddedIpv4? (cs : List Char) : Option (List Nat) := do
  let (a, cs) ← takeByte? cs
  let cs ← afterStart ['.'] cs
  let (b, cs) ← takeByte? cs
  let cs ← afterStart ['.'] cs
  let (c, cs) ← takeByte? cs
  let cs ← afterStart ['.'] cs
  let (d, cs) ← takeByte? cs
  if cs.isEmpty then some [a * 256 + b, c * 256 + d] else none

/-- Reads the pieces of an address from a place where a piece must stand: those before and those
    after the gap, if there has been one. -/
def ipv6Pieces : (fuel : Nat) → (before : List Nat) → (after : Option (List Nat)) → List Char →
    Option (List Nat × Option (List Nat))
  | 0, _, _, _ => none
  | fuel + 1, before, after, cs =>
    let add (ns : List Nat) : List Nat × Option (List Nat) :=
      match after with
      | some a => (before, some (a ++ ns))
      | none => (before ++ ns, none)
    let (count, value, rest) := takeHex 4 0 cs
    match rest with
    | [] => if count = 0 then none else some (add [value])
    | '.' :: _ => if count = 0 then none else (embeddedIpv4? cs).map add
    | ':' :: ':' :: rest =>
      if count = 0 || after.isSome then none
      else if rest.isEmpty then some (before ++ [value], some [])
      else ipv6Pieces fuel (before ++ [value]) (some []) rest
    | ':' :: rest =>
      if count = 0 || rest.isEmpty then none
      else
        let (before, after) := add [value]
        ipv6Pieces fuel before after rest
    | _ => none

/-- The eight pieces of an address of sixteen bytes. A gap of two colons stands for at least one
    piece of zero. -/
def readIpv6 (cs : List Char) : Except UrlFault (List Nat) :=
  let pieces := match cs with
    | ':' :: ':' :: rest =>
      if rest.isEmpty then some ([], some []) else ipv6Pieces 10 [] (some []) rest
    | _ => ipv6Pieces 10 [] none cs
  match pieces with
  | some (before, none) => if before.length = 8 then .ok before else .error .invalidIpv6
  | some (before, some after) =>
    let count := before.length + after.length
    if count < 8 then .ok (before ++ List.replicate (8 - count) 0 ++ after)
    else .error .invalidIpv6
  | none => .error .invalidIpv6

/-- The length of the run of zeros at the beginning of a list. -/
def zeroRun (pieces : List Nat) : Nat := (pieces.takeWhile (· == 0)).length

/-- The longest run of zeros, the first of its length: its place and length, counted from `index`. -/
def longestZeros (index : Nat) : List Nat → Nat × Nat
  | [] => (index, 0)
  | n :: rest =>
    let (place, length) := longestZeros (index + 1) rest
    let here := zeroRun (n :: rest)
    if length ≤ here then (index, here) else (place, length)

/-- A number in hexadecimal, in lower case and without needless zeros. -/
def hexText (n : Nat) : String := String.ofList (Nat.toDigits 16 n)

/-- An address of sixteen bytes; the longest run of at least two zeros is left out. -/
def ipv6Text (pieces : List Nat) : String :=
  let join (ps : List Nat) : String := String.intercalate ":" (ps.map hexText)
  let (place, length) := longestZeros 0 pieces
  if 2 ≤ length then join (pieces.take place) ++ "::" ++ join (pieces.drop (place + length))
  else join pieces

/-- Characters that no domain name holds. -/
def isForbiddenInDomain (c : Char) : Bool :=
  isControl c || " %#/:<>?@[\\]^|".toList.contains c

/-- The address between square brackets, if a host starts with one. -/
def bracketed? (host : List Char) : Option (Except UrlFault String) :=
  match host with
  | '[' :: rest =>
    match rest.reverse with
    | ']' :: inside =>
      some ((readIpv6 inside.reverse).map fun pieces => "[" ++ ipv6Text pieces ++ "]")
    | _ => some (.error .invalidIpv6)
  | _ => none

/-- The text of a host in one of the special schemes. -/
def readHost (host : List Char) : Except UrlFault String :=
  match bracketed? host with
  | some address => address
  | none =>
    let domain := (lowerAscii (textOfBytes (percentDecode host))).toList
    if domain.any isForbiddenInDomain then .error .invalidDomain
    else if domain.isEmpty then .error .emptyHost
    else if endsInNumber domain then (readIpv4 domain).map ipv4Text
    else .ok (String.ofList domain)

/-- The text of a host in any other scheme, where it is not looked into. -/
def readOpaqueHost (host : List Char) : Except UrlFault String :=
  match bracketed? host with
  | some address => address
  | none =>
    if host.any "\x00\t\n\r #/:<>?@[\\]^|".toList.contains then .error .invalidDomainCharacter
    else .ok (String.ofList (percentEncode isControl host))

end ControlPoint.Url
