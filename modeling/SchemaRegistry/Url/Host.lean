import SchemaRegistry.Domain.Ascii
import SchemaRegistry.Url.Address

/-!
Hosts. The host of a web address is a domain name or a numeric address and is brought into a normal
form; under any other scheme a host is kept as it was written, apart from percent-encoding.
-/

namespace SchemaRegistry.Url

def bracketed (text : List Char) : Except UrlError String :=
  match text.getLast? with
  | some ']' =>
    match Ipv6.parse? text.dropLast with
    | some pieces => .ok ("[" ++ Ipv6.render pieces ++ "]")
    | none => .error .invalidIpv6
  | _ => .error .invalidIpv6

def webHost : List Char → Except UrlError String
  | '[' :: rest => bracketed rest
  | text =>
    match (Percent.decode? text).bind Domain.toAscii? with
    | none => .error .invalidDomainName
    | some domain =>
      if domain.isEmpty then .error .emptyHost
      else if Ipv4.endsInNumber domain then
        match Ipv4.parse? domain with
        | some address => .ok (Ipv4.render address)
        | none => .error .invalidIpv4
      else .ok (String.ofList domain)

/-- The characters that a host under another scheme must not contain. -/
def opaqueForbidden : List Char :=
  ['\x00', '\t', '\n', '\r', ' ', '#', '/', ':', '<', '>', '?', '@', '[', '\\', ']', '^', '|']

/-- The form in which a host is kept under a scheme that is not one of the web. -/
def opaqueHost : List Char → Except UrlError String
  | '[' :: rest => bracketed rest
  | text =>
    if text.any opaqueForbidden.contains then .error .invalidDomainCharacter
    else .ok (String.ofList (Percent.encode [] text))

end SchemaRegistry.Url
