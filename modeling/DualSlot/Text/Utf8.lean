/-!
# UTF-8

The bytes of a text, and the text that a byte string spells, if it spells one. Main statement: a text
is read back from its bytes (`decode?_encode`).
-/

namespace DualSlot.Utf8

/-- The bytes of a text. -/
def encode (text : List Char) : List UInt8 := text.flatMap String.utf8EncodeChar

/-- The text of a byte string, if the bytes are UTF-8. -/
def decode? (bs : List UInt8) : Option String := String.fromUTF8? bs.toByteArray

theorem toByteArray_encode (text : List Char) : (encode text).toByteArray = text.utf8Encode := rfl

theorem encode_append (as bs : List Char) : encode (as ++ bs) = encode as ++ encode bs :=
  List.flatMap_append

theorem decode?_encode (text : List Char) : decode? (encode text) = some (String.ofList text) := by
  have hvalid : text.utf8Encode.IsValidUTF8 := ByteArray.isValidUTF8_utf8Encode
  rw [decode?, toByteArray_encode, String.fromUTF8?, dif_pos hvalid]
  rfl

end DualSlot.Utf8
