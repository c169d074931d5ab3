import GraphLoad.Web.Domain.Character
import GraphLoad.Web.Domain.Direction
import GraphLoad.Web.Punycode

/-!
Domain names: labels between dots. A label with characters outside of ASCII may be written in
Punycode, behind `xn--`; a name is kept as it is meant.
-/

namespace GraphLoad.Domain

/-- The most characters that a label outside of ASCII has. -/
def maxLabel : Nat := 1000

/-- The most characters that a label in Punycode has. -/
def maxCode : Nat := 2000

def isPlain (s : List Char) : Bool :=
  s.all fun c => c.toNat < 0x80

/-- Whether the text is as it would be looked up. -/
def isPrepared (s : List Char) : Bool :=
  (s.all fun c => fate c == .kept && !isForbidden c) && Text.Composed.ofText s == s

/-- The label that Punycode stands for, if it is as it would be looked up. -/
def labelOfCode? (code : List Char) : Option (List Char) :=
  if isPlain code && code.length ≤ maxCode && code.getLast?.any (· != '-') then
    (Punycode.decode code).filter isPrepared
  else none

/-- A label as it is meant. -/
def meaning? : List Char → Option (List Char)
  | 'x' :: 'n' :: '-' :: '-' :: code => labelOfCode? code
  | label => some label

/-- Whether the characters of a label stand where they may. -/
def isLabel (label : List Char) : Bool :=
  !label.head?.any isMark && joinersFit [] label && (isPlain label || label.length ≤ maxLabel)

def labels? (s : List Char) : Option (List (List Char)) := do
  let labels ← (Text.split (· == '.') (← prepare? s)).mapM meaning?
  if labels.all isLabel && (!labels.any goesBack || labels.all keepsDirection) then some labels
  else none

def ofText? (s : List Char) : Option (List Char) :=
  (labels? s).map ['.'].intercalate

end GraphLoad.Domain
