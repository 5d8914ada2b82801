import TypeAtlas.Url.Domain
import TypeAtlas.Url.PercentEncoding

/-!
# Hosts

A host is a domain, an IPv4 or an IPv6 address, each brought into one form: domains in ASCII and in
lower case, IPv4 addresses as four decimal numbers, IPv6 addresses with their longest run of zeros
left out.
-/

set_option autoImplicit false

namespace TypeAtlas.Url

/-- A cause for which a text is no URL. -/
inductive ParseError where
  | noScheme | emptyHost | badPort | badIpv4 | badIpv6 | badDomain | badHostChar
  deriving DecidableEq, Repr

/-- The wording of an error. -/
def ParseError.message : ParseError → String
  | .noScheme => "relative URL without a base"
  | .emptyHost => "empty host"
  | .badPort => "invalid port number"
  | .badIpv4 => "invalid IPv4 address"
  | .badIpv6 => "invalid IPv6 address"
  | .badDomain => "invalid international domain name"
  | .badHostChar => "invalid domain character"

/-- A host. -/
inductive Host where
  | domain (name : String)
  | ipv4 (address : Nat)
  | ipv6 (pieces : List Nat)
  deriving DecidableEq, Repr

/-- The number of a digit in a base up to sixteen. -/
def digitValue? (base : Nat) (c : Char) : Option Nat :=
  if c.toNat < 128 then
    (hexValue? (UInt8.ofNat c.toNat)).bind fun n => if n < base then some n else none
  else none

/-- The number that digits in a base spell. -/
def digitsValue? (base : Nat) (digits : List Char) : Option Nat :=
  digits.foldlM (fun n c => (digitValue? base c).map (n * base + ·)) 0

/-! ## IPv4 -/

/-- A part of an IPv4 address: octal after a zero, hexadecimal after `0x`, and zero if nothing is
left after those. -/
def ipv4Number? : List Char → Option Nat
  | [] => none
  | '0' :: 'x' :: digits => digitsValue? 16 digits
  | '0' :: 'X' :: digits => digitsValue? 16 digits
  | '0' :: c :: digits => digitsValue? 8 (c :: digits)
  | digits => digitsValue? 10 digits

/-- Whether the last part of a domain, a final dot aside, is a number. -/
def endsInNumber (domain : List Char) : Bool :=
  match (Text.splitAt '.' domain).reverse with
  | [] :: last :: _ | last :: _ =>
    (!last.isEmpty && last.all Char.isDigit) || (ipv4Number? last).isSome
  | [] => false

/-- The address of one to four parts: each but the last is a byte, and the last one fills up the
rest. -/
def ipv4OfParts? (parts : List Nat) : Option Nat :=
  match parts.reverse with
  | [] => none
  | last :: before =>
    let room := Nat.pow 256 (5 - parts.length)
    if 4 < parts.length ∨ before.any (255 < ·) ∨ room ≤ last then none
    else some (before.reverse.foldl (fun n part => n * 256 + part) 0 * room + last)

/-- Reads an IPv4 address. -/
def ipv4? (domain : List Char) : Option Nat :=
  let parts := Text.splitAt '.' domain
  let parts := if parts.getLast? = some [] then parts.dropLast else parts
  (parts.mapM ipv4Number?).bind ipv4OfParts?

/-- The bytes of an IPv4 address in decimal. -/
def ipv4Text (address : Nat) : String :=
  String.intercalate "." ([24, 16, 8, 0].map fun shift => toString (address >>> shift % 256))

/-! ## IPv6 -/

/-- A piece of an IPv6 address: one to four hexadecimal digits. -/
def ipv6Piece? (digits : List Char) : Option Nat :=
  if digits.isEmpty ∨ 4 < digits.length then none else digitsValue? 16 digits

/-- A byte in decimal, without needless zeros. -/
def decimalByte? : List Char → Option Nat
  | [] => none
  | ['0'] => some 0
  | '0' :: _ => none
  | digits => (digitsValue? 10 digits).bind fun n => if n < 256 then some n else none

/-- The two pieces that four decimal bytes stand for. -/
def embeddedIpv4? (text : List Char) : Option (List Nat) :=
  match (Text.splitAt '.' text).mapM decimalByte? with
  | some [a, b, c, d] => some [a * 256 + b, c * 256 + d]
  | _ => none

/-- Pieces between colons. -/
def ipv6Pieces? (parts : List (List Char)) : Option (List Nat) := parts.mapM ipv6Piece?

/-- Pieces between colons, where four decimal bytes may take the place of the last two. -/
def ipv6Tail? (parts : List (List Char)) : Option (List Nat) :=
  match parts.reverse with
  | [] => some []
  | last :: before =>
    if last.contains '.' then do
      return (← ipv6Pieces? before.reverse) ++ (← embeddedIpv4? last)
    else ipv6Pieces? parts

/-- Splits a text at its first double colon. -/
def splitDoubleColon : List Char → Option (List Char × List Char)
  | ':' :: ':' :: rest => some ([], rest)
  | c :: rest => (splitDoubleColon rest).map fun (before, after) => (c :: before, after)
  | [] => none

/-- The parts between colons; an empty text has none. -/
def colonParts (text : List Char) : List (List Char) :=
  if text.isEmpty then [] else Text.splitAt ':' text

/-- Reads an IPv6 address. A double colon stands for one or more pieces that are zero. -/
def ipv6? (text : List Char) : Option (List Nat) :=
  match splitDoubleColon text with
  | none => do
    let pieces ← ipv6Tail? (colonParts text)
    if pieces.length = 8 then some pieces else none
  | some (before, after) => do
    let front ← ipv6Pieces? (colonParts before)
    let back ← ipv6Tail? (colonParts after)
    let given := front.length + back.length
    if given < 8 then some (front ++ List.replicate (8 - given) 0 ++ back) else none

/-- The lengths of the runs of zeros that begin at each piece. -/
def zeroRuns (pieces : List Nat) : List Nat :=
  (List.range pieces.length).map fun i => ((pieces.drop i).takeWhile (· = 0)).length

/-- Pieces in hexadecimal, between colons. -/
def piecesText (pieces : List Nat) : String :=
  String.intercalate ":" (pieces.map fun n => String.ofList (Nat.toDigits 16 n))

/-- The text of an IPv6 address. The first of the longest runs of two or more zeros is left out. -/
def ipv6Text (pieces : List Nat) : String :=
  let runs := zeroRuns pieces
  let longest := runs.foldl max 0
  if longest < 2 then piecesText pieces
  else
    let start := runs.idxOf longest
    piecesText (pieces.take start) ++ "::" ++ piecesText (pieces.drop (start + longest))

/-! ## Domains -/

/-- Characters that no host holds, also one that is not read as a domain. -/
def forbiddenInHost (c : Char) : Bool :=
  ['\x00', '\t', '\n', '\r', ' '].contains c || "#/:<>?@[\\]^|".toList.contains c

/-- Reads a domain, or an IPv4 address, from the bytes that the host's text stands for. -/
def Host.ofDomain (bytes : Bytes) : Except ParseError Host :=
  match readDomain? bytes with
  | none => .error .badDomain
  | some name =>
    if name.isEmpty then .error .emptyHost
    else if endsInNumber name then
      match ipv4? name with
      | some address => .ok (.ipv4 address)
      | none => .error .badIpv4
    else .ok (.domain (String.ofList name))

/-- Reads an IPv6 address between brackets, after the first of them. -/
def Host.ofBracketed (text : List Char) : Except ParseError Host :=
  match text.reverse with
  | ']' :: inner =>
    match ipv6? inner.reverse with
    | some pieces => .ok (.ipv6 pieces)
    | none => .error .badIpv6
  | _ => .error .badIpv6

/-- Reads the host of a URL, the scheme of which decides whether domains have a meaning. -/
def Host.parse (special : Bool) : List Char → Except ParseError Host
  | '[' :: rest => Host.ofBracketed rest
  | text =>
    if special then Host.ofDomain (percentDecode (String.ofList text))
    else if text.any forbiddenInHost then .error .badHostChar
    else .ok (.domain (String.ofList (percentEncode isControl text)))

/-- The text of a host. -/
def Host.text : Host → String
  | .domain name => name
  | .ipv4 address => ipv4Text address
  | .ipv6 pieces => "[" ++ ipv6Text pieces ++ "]"

end TypeAtlas.Url
