import GatewayRouting.Text.Ascii

/-!
Percent-decoding: `%` and two hexadecimal digits stand for one byte. A `%` that starts no escape
stands for itself and so does `+`; a text whose bytes are no UTF-8 is left as it was.
-/

namespace GatewayRouting.Text

/-- The byte of an escape whose two digits are given. -/
def escapedByte (high low : Char) : Option UInt8 := do
  return UInt8.ofNat (16 * (← hexValue high) + (← hexValue low))

def percentBytes : List Char → List UInt8
  | [] => []
  | '%' :: high :: low :: rest =>
    match escapedByte high low with
    | some byte => byte :: percentBytes rest
    | none => 0x25 :: percentBytes (high :: low :: rest)
  | c :: rest => String.utf8EncodeChar c ++ percentBytes rest

/-- The text that an escaped text stands for, if its bytes are UTF-8. -/
def percentText? (cs : List Char) : Option String := String.fromUTF8? ⟨(percentBytes cs).toArray⟩

def percentDecoded (s : String) : String := (percentText? s.toList).getD s

end GatewayRouting.Text
