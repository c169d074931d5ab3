/-! White space and trimming. The characters are those with the Unicode property `White_Space`. -/

namespace GraphLoad.Text

/-- The characters with the Unicode property `White_Space`. -/
def isSpace (c : Char) : Bool :=
  let n := c.toNat
  (9 ≤ n && n ≤ 13) || n == 0x20 || n == 0x85 || n == 0xa0 || n == 0x1680 ||
    (0x2000 ≤ n && n ≤ 0x200a) || n == 0x2028 || n == 0x2029 || n == 0x202f || n == 0x205f ||
    n == 0x3000

def trimStart (s : List Char) : List Char :=
  s.dropWhile isSpace

def trim (s : List Char) : List Char :=
  (trimStart (trimStart s).reverse).reverse

/-- Nothing but white space, which includes the empty text. -/
def isVacant (s : String) : Bool :=
  s.toList.all isSpace

end GraphLoad.Text
