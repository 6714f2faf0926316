import BracketQuery.Url.Domain
import BracketQuery.Url.Ipv4
import BracketQuery.Url.Ipv6

/-!
Hosts: addresses in brackets, domain names, IPv4 addresses, and, in URLs whose scheme gives hosts no
meaning, any text without separators.
-/

namespace BracketQuery.Url.Host

/-- The address between brackets, if a host is one. -/
def bracketed? (host : List Char) : Option (List Char) :=
  match host with
  | '[' :: rest => some rest
  | _ => none

/-- An address of which the opening bracket has been read. -/
def parseBracketed (rest : List Char) : Except Error String :=
  if rest.getLast? = some ']' then Ipv6.parse rest.dropLast else .error .invalidIpv6Address

/-- The characters that no host holds. -/
def forbidden : List Char :=
  ['\x00', '\t', '\n', '\r', ' ', '#', '/', ':', '<', '>', '?', '@', '[', '\\', ']', '^', '|']

/-- A host that has no meaning of its own. -/
def parseOpaque (host : List Char) : Except Error String :=
  match bracketed? host with
  | some rest => parseBracketed rest
  | none =>
    if host.any forbidden.contains then .error .invalidDomainCharacter
    else .ok (Part.opaquePath.encode host)

/-- A host that is a domain name or an address. -/
def parse (host : List Char) : Except Error String :=
  match bracketed? host with
  | some rest => parseBracketed rest
  | none =>
    match String.fromUTF8? ⟨(percentDecode host).toArray⟩ with
    | none => .error .invalidDomainName
    | some decoded =>
      match Domain.toAscii? decoded.toList with
      | none => .error .invalidDomainName
      | some [] => .error .emptyHost
      | some name => if Ipv4.isAddress name then Ipv4.parse name else .ok (String.ofList name)

end BracketQuery.Url.Host
