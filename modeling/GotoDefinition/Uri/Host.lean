import GotoDefinition.Decimal.Nearest
import GotoDefinition.DomainName.Ascii
import GotoDefinition.Uri.Basic
import GotoDefinition.Uri.Percent

/-!
# Hosts

The host of a URI with a special scheme is an IPv6 address in brackets, an IPv4
address in any of its spellings, or a domain name, which is written in ASCII.  Any other
scheme takes the host as it stands.
-/

namespace GotoDefinition.Host

open Decimal (isDigit)

/-! ## Numbers -/

/-- Whether a character is an ASCII letter. -/
def isLetter (c : Char) : Bool :=
  ('a' ≤ c && c ≤ 'z') || ('A' ≤ c && c ≤ 'Z')

/-- The number that digits spell in a base, if every character is a digit of it. -/
def number? (base : Nat) (digits : Text) : Option Nat :=
  let append (value : Option Nat) (c : Char) : Option Nat := do
    let value ← value
    let digit ← Percent.hexValue? c.toNat
    if digit < base then some (base * value + digit) else none
  digits.foldl append (some 0)

/-! ## IPv4 -/

/-- One part of an IPv4 address: hexadecimal after `0x`, octal after `0`, otherwise
decimal. -/
def ipv4Part? (part : Text) : Option Nat :=
  match part with
  | [] => none
  | '0' :: 'x' :: digits => number? 16 digits
  | '0' :: 'X' :: digits => number? 16 digits
  | '0' :: digits => number? 8 digits
  | digits => number? 10 digits

/-- The parts of a domain, a final empty one left out. -/
def labels (domain : Text) : List Text :=
  let parts := domain.splitWhere (· == '.')
  if 1 < parts.length && parts.getLast? == some [] then parts.dropLast else parts

/-- Whether a domain must be read as an IPv4 address. -/
def endsInNumber (domain : Text) : Bool :=
  match (labels domain).getLast? with
  | none => false
  | some last => (!last.isEmpty && last.all isDigit) || (ipv4Part? last).isSome

/-- The address that a domain spells: all parts but the last are single bytes, and the
last one fills the bytes that remain. -/
def ipv4? (domain : Text) : Option Nat := do
  let numbers ← (labels domain).mapM ipv4Part?
  let last ← numbers.getLast?
  let leading := numbers.dropLast
  let capacity := Nat.pow 256 (4 - leading.length)
  if 3 < leading.length || leading.any (255 < ·) || capacity ≤ last then none
  else
    let high := leading.foldl (fun value byte => 256 * value + byte) 0
    some (high * capacity + last)

/-- An IPv4 address as four decimal numbers. -/
def ipv4Text (address : Nat) : Text :=
  Text.joinWith ['.'] ([3, 2, 1, 0].map fun place => Text.ofNat (address / Nat.pow 256 place % 256))

/-! ## IPv6 -/

/-- One group of an IPv6 address. -/
def ipv6Group? (group : Text) : Option Nat :=
  if group.isEmpty || 4 < group.length then none else number? 16 group

/-- Four plain decimal bytes as the last two groups. -/
def embeddedIpv4? (text : Text) : Option (List Nat) := do
  let parts := text.splitWhere (· == '.')
  let bytes ← parts.mapM fun part =>
    if part.isEmpty || (1 < part.length && part.head? == some '0') || !part.all isDigit then none
    else (number? 10 part).filter (· ≤ 255)
  match bytes with
  | [a, b, c, d] => some [256 * a + b, 256 * c + d]
  | _ => none

/-- Groups divided by single colons; the last may be an embedded IPv4 address. -/
def ipv6Groups? (embedded : Bool) : List Text → Option (List Nat)
  | [] => some []
  | [last] =>
    if embedded && last.contains '.' then embeddedIpv4? last else (ipv6Group? last).map ([·])
  | group :: rest => do
    let value ← ipv6Group? group
    let values ← ipv6Groups? embedded rest
    return value :: values

/-- The text before and after the first double colon. -/
def splitDoubleColon : Text → Text × Option Text
  | ':' :: ':' :: rest => ([], some rest)
  | [] => ([], none)
  | c :: rest =>
    let (before, after) := splitDoubleColon rest
    (c :: before, after)

/-- The groups on one side of a double colon, none if that side is empty. -/
def ipv6Side? (embedded : Bool) (side : Text) : Option (List Nat) :=
  if side.isEmpty then some [] else ipv6Groups? embedded (side.splitWhere (· == ':'))

/-- The eight groups of an IPv6 address. -/
def ipv6? (text : Text) : Option (List Nat) :=
  match splitDoubleColon text with
  | (whole, none) => (ipv6Side? true whole).filter (·.length == 8)
  | (before, some after) => do
    let high ← ipv6Side? false before
    let low ← ipv6Side? true after
    if 7 < high.length + low.length then none
    else some (high ++ List.replicate (8 - high.length - low.length) 0 ++ low)

/-- The lower-case hexadecimal digits of a number. -/
def hexText (n : Nat) : Text :=
  Nat.toDigits 16 n

/-- Start and length of the first longest run of zeros, while a run of `length` zeros
that began at `start` is being read. -/
def longestZeroRun : List Nat → Nat → Nat → Nat × Nat → Nat × Nat
  | [], _, _, best => best
  | group :: rest, index, length, best =>
    if group = 0 then
      let run := (index - length, length + 1)
      longestZeroRun rest (index + 1) (length + 1) (if best.2 < run.2 then run else best)
    else longestZeroRun rest (index + 1) 0 best

/-- An IPv6 address in brackets; the first longest run of at least two zero groups
becomes a double colon. -/
def ipv6Text (groups : List Nat) : Text :=
  let (start, length) := longestZeroRun groups 0 0 (0, 0)
  let write (part : List Nat) := Text.joinWith [':'] (part.map hexText)
  let inner :=
    if length < 2 then write groups
    else write (groups.take start) ++ [':', ':'] ++ write (groups.drop (start + length))
  ['['] ++ inner ++ [']']

/-! ## Reading a host -/

/-- The normal form of a bracketed host. -/
def bracketed (host : Text) : Except UriError Text :=
  if host.getLast? != some ']' then .error .invalidIpv6Address
  else
    match ipv6? (host.drop 1).dropLast with
    | some groups => .ok (ipv6Text groups)
    | none => .error .invalidIpv6Address

/-- The normal form of the host of a URI with a special scheme. -/
def special (host : Text) : Except UriError Text :=
  if host.head? == some '[' then bracketed host
  else
    match (Text.ofUtf8? (Percent.decode host.utf8Bytes)).bind DomainName.toAscii? with
    | none => .error .invalidDomain
    | some [] => .error .emptyHost
    | some domain =>
      if endsInNumber domain then
        match ipv4? domain with
        | some address => .ok (ipv4Text address)
        | none => .error .invalidIpv4Address
      else .ok domain

/-- The normal form of the host of any other URI. -/
def opaqueHost (host : Text) : Except UriError Text :=
  if host.head? == some '[' then bracketed host
  else if host.any fun c => c.toNat == 0 ||
      ['\t', '\n', '\r', ' ', '#', '/', ':', '<', '>', '?', '@', '[', '\\', ']', '^', '|'].contains c
  then .error .invalidHostCharacter
  else .ok (Percent.encode Percent.isControl host)

end GotoDefinition.Host
