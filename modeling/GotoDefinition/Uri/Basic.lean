import GotoDefinition.Text.Units

/-!
# URIs

A URI is known by its normal form: two URIs are equal, and ordered, as their normal
texts are.  The parts of the normal form are read off that text.
-/

namespace GotoDefinition

/-- A URI in normal form. -/
structure Uri where
  text : Text
deriving DecidableEq, Repr

/-- Why a text is no URI. -/
inductive UriError where
  | emptyHost
  | invalidDomain
  | invalidPort
  | invalidIpv4Address
  | invalidIpv6Address
  | invalidHostCharacter
  | relativeWithoutBase
deriving DecidableEq, Repr

namespace UriError

/-- The wording of an error. -/
def message : UriError → String
  | .emptyHost => "empty host"
  | .invalidDomain => "invalid international domain name"
  | .invalidPort => "invalid port number"
  | .invalidIpv4Address => "invalid IPv4 address"
  | .invalidIpv6Address => "invalid IPv6 address"
  | .invalidHostCharacter => "invalid domain character"
  | .relativeWithoutBase => "relative URL without a base"

end UriError

namespace Uri

/-- Whether the normal form of `u` comes before that of `v`, character by character.
On code points this is also the order of their UTF-8 bytes. -/
def precedes (u v : Uri) : Bool :=
  decide (u.text < v.text)

/-- What follows the scheme and its colon. -/
def afterScheme (uri : Uri) : Text :=
  (uri.text.dropWhile (· != ':')).drop 1

/-- Whether a character ends the authority. -/
def endsAuthority (c : Char) : Bool :=
  c == '/' || c == '?' || c == '#'

/-- The authority, empty if the URI has none. -/
def authority (uri : Uri) : Text :=
  match uri.afterScheme with
  | '/' :: '/' :: rest => rest.takeWhile fun c => !endsAuthority c
  | _ => []

/-- The host without user information and port, empty if the URI has none. -/
def host (uri : Uri) : Text :=
  let authority := uri.authority
  let hostAndPort := if authority.contains '@' then (authority.dropWhile (· != '@')).drop 1 else authority
  match hostAndPort with
  | '[' :: _ => hostAndPort.takeWhile (· != ']') ++ [']']
  | _ => hostAndPort.takeWhile (· != ':')

/-- The path.  The dot segment that keeps a path apart from an authority is not part of it. -/
def path (uri : Uri) : Text :=
  let fromPath :=
    match uri.afterScheme with
    | '/' :: '/' :: rest => rest.dropWhile fun c => !endsAuthority c
    | '/' :: '.' :: '/' :: '/' :: rest => '/' :: '/' :: rest
    | rest => rest
  fromPath.takeWhile fun c => c != '?' && c != '#'

end Uri

end GotoDefinition
