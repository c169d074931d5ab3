import GraphLoad.Text.Digits

/-! Percent encoding: bytes of UTF-8 written as a percent sign and two hexadecimal digits. -/

namespace GraphLoad.Percent

def encodeByte (b : UInt8) : List Char :=
  '%' :: (Text.padZero 2 (Text.hex b.toNat)).map Char.toUpper

/-- The text with the characters that are not plain encoded, byte for byte in UTF-8. -/
def encode (isPlain : Char → Bool) (s : List Char) : List Char :=
  s.flatMap fun c => if isPlain c then [c] else (String.utf8EncodeChar c).flatMap encodeByte

/-- The bytes that a text stands for. A percent sign without two digits behind it stands for
itself. -/
def decode : List Char → List UInt8
  | '%' :: a :: b :: r =>
    match Text.hexValue? a, Text.hexValue? b with
    | some high, some low => UInt8.ofNat (16 * high + low) :: decode r
    | _, _ => '%'.toUInt8 :: decode (a :: b :: r)
  | c :: r => String.utf8EncodeChar c ++ decode r
  | [] => []

/-- The text whose UTF-8 bytes were encoded, if that is what they are. -/
def decodeText? (s : List Char) : Option String :=
  String.fromUTF8? (ByteArray.mk (decode s).toArray)

theorem encode_of_plain {isPlain : Char → Bool} {s : List Char} (h : ∀ c ∈ s, isPlain c) :
    encode isPlain s = s := by
  induction s with
  | nil => rfl
  | cons c r ih =>
    have hr := ih fun d hd => h d (List.mem_cons_of_mem _ hd)
    simp only [encode, List.flatMap_cons, h c List.mem_cons_self, if_true] at hr ⊢
    rw [hr]
    rfl

end GraphLoad.Percent
