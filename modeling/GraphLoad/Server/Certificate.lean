import GraphLoad.Web.Ipv4

/-!
The names that the certificate of a server can be held to: host names, and numeric addresses of 32
bits in the strict form.
-/

namespace GraphLoad.Certificate

def isInLabel (c : Char) : Bool :=
  c.isAlphanum || c == '-' || c == '_'

def isLabel (s : List Char) : Bool :=
  s.length ≤ 63 && s.all isInLabel && s.head?.any (· != '-') && s.getLast?.any (· != '-')

/-- Whether the text is a host name. A dot may end it; the last label is not a number. -/
def isHostName (s : List Char) : Bool :=
  let labels := Text.splitClosed (· == '.') s
  s.length ≤ 253 && labels.all isLabel && labels.getLast?.any (!·.all Char.isDigit)

/-- Whether a certificate can be held to the text. -/
def isSubject (s : List Char) : Bool :=
  isHostName s || (Ipv4.ofOctets? s).isSome

end GraphLoad.Certificate
