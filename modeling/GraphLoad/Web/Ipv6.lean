import GraphLoad.Web.Ipv4

/-!
Numeric addresses of 128 bits: eight numbers of 16 bits between colons. A run of zeros may be left
out, which leaves two colons, and the last two numbers may be written as an address of 32 bits.
-/

namespace GraphLoad.Ipv6

def piece? (s : List Char) : Option Nat :=
  if s.isEmpty || 4 < s.length then none else Text.inBase? 16 s

/-- The numbers of the last piece, which may be an address of 32 bits. -/
def lastPiece? (s : List Char) : Option (List Nat) :=
  match piece? s with
  | some n => some [n]
  | none => (Ipv4.ofOctets? s).map fun a => [a / 65536, a % 65536]

/-- The numbers of the pieces up to the end of an address. -/
def pieces? : List (List Char) → Option (List Nat)
  | [] => some []
  | [s] => lastPiece? s
  | s :: rest => (piece? s).bind fun n => (pieces? rest).map (n :: ·)

/-- The pieces between colons; an empty text has none. -/
def fields (s : List Char) : List (List Char) :=
  if s.isEmpty then [] else Text.split (· == ':') s

/-- What stands before and behind the first two colons in a row. -/
def cutAtGap : List Char → Option (List Char × List Char)
  | ':' :: ':' :: r => some ([], r)
  | c :: r => (cutAtGap r).map fun (before, behind) => (c :: before, behind)
  | [] => none

/-- The eight numbers of an address. A gap stands for one zero at least. -/
def ofText? (s : List Char) : Option (List Nat) :=
  match cutAtGap s with
  | none => (pieces? (fields s)).filter (·.length == 8)
  | some (before, behind) =>
    ((fields before).mapM piece?).bind fun front =>
      (pieces? (fields behind)).bind fun back =>
        if front.length + back.length < 8 then
          some (front ++ List.replicate (8 - front.length - back.length) 0 ++ back)
        else none

end GraphLoad.Ipv6
