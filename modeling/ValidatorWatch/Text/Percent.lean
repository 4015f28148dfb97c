import ValidatorWatch.Text.Blank
/-!
# Bytes written with percent signs

Paths and queries may have any byte written as a percent sign and two hexadecimal digits. A percent
sign without two such digits stands for itself. The bytes have to be text in the end.
-/

namespace ValidatorWatch.Text

/-- The bytes that a text with percent signs stands for. -/
def percentBytes : List Char → List UInt8
  | [] => []
  | '%' :: a :: b :: rest =>
    match hexValue? a, hexValue? b with
    | some x, some y => UInt8.ofNat (x * 16 + y) :: percentBytes rest
    | _, _ => String.utf8EncodeChar '%' ++ percentBytes (a :: b :: rest)
  | c :: rest => String.utf8EncodeChar c ++ percentBytes rest

/-- The text that a text with percent signs stands for. -/
def decodePercent? (cs : List Char) : Option String :=
  String.fromUTF8? (ByteArray.mk (percentBytes cs).toArray)

end ValidatorWatch.Text
