import GraphLoad.Web.Domain.Name
import GraphLoad.Web.Ipv6
import GraphLoad.Web.Percent

/-!
Hosts of addresses. How a host is read depends on the scheme: for the well-known schemes a name is a
domain name or a numeric address in the lax form, for the others nearly any text serves as a name.
Numeric addresses of 128 bits stand in brackets for all of them.
-/

namespace GraphLoad

inductive Host where
  | name (text : String)
  | ipv4 (address : Nat)
  | ipv6 (numbers : List Nat)
deriving DecidableEq, Repr

namespace Host

inductive Problem where
  | empty
  | ipv4
  | ipv6
  | character
  | domain
deriving DecidableEq, Repr

def Problem.message : Problem → String
  | empty => "empty host"
  | ipv4 => "invalid IPv4 address"
  | ipv6 => "invalid IPv6 address"
  | character => "invalid domain character"
  | domain => "invalid international domain name"

/-- What stands in a name as it is, as far as it may stand there. -/
def isPlain (c : Char) : Bool :=
  0x20 ≤ c.toNat && c.toNat < 0x7f

/-- The host between brackets, the first of which was read. -/
def ofBrackets (s : List Char) : Except Problem Host :=
  if s.getLast? = some ']' then
    match Ipv6.ofText? s.dropLast with
    | some numbers => .ok (.ipv6 numbers)
    | none => .error .ipv6
  else .error .ipv6

/-- The host of any other scheme than the well-known ones. -/
def ofOther : List Char → Except Problem Host
  | '[' :: s => ofBrackets s
  | s =>
    if s.any Domain.endsHost then .error .character
    else .ok (.name (String.ofList (Percent.encode isPlain s)))

/-- The host that a domain name stands for: one that ends in a number is an address. -/
def ofDomain (name : List Char) : Except Problem Host :=
  if name.isEmpty then .error .empty
  else if Ipv4.endsInNumber name then
    match Ipv4.ofText? name with
    | some address => .ok (.ipv4 address)
    | none => .error .ipv4
  else .ok (.name (String.ofList name))

def ofText : List Char → Except Problem Host
  | '[' :: s => ofBrackets s
  | s =>
    match (Percent.decodeText? s).bind fun text => Domain.ofText? text.toList with
    | some text => ofDomain text
    | none => .error .domain

end Host
end GraphLoad
