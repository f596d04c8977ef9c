/-!
# Why a text is no URL
-/

namespace BearerAuth.Url

/-- Why a text is no URL. -/
inductive Error
  | emptyHost
  | invalidDomainName
  | invalidDomainCharacter
  | invalidPort
  | invalidIpv4
  | invalidIpv6
  | relativeWithoutBase
  | relativeToBareBase
  deriving DecidableEq, Repr

/-- What is wrong, in words. -/
def Error.message : Error → String
  | emptyHost => "empty host"
  | invalidDomainName => "invalid international domain name"
  | invalidDomainCharacter => "invalid domain character"
  | invalidPort => "invalid port number"
  | invalidIpv4 => "invalid IPv4 address"
  | invalidIpv6 => "invalid IPv6 address"
  | relativeWithoutBase => "relative URL without a base"
  | relativeToBareBase => "relative URL with a cannot-be-a-base base"

end BearerAuth.Url
