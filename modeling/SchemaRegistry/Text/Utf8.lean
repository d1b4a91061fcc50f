/-!
Text as UTF-8 bytes and back. Decoding accepts exactly the encodings of texts, so that decoding what
was encoded gives the text again.
-/

namespace SchemaRegistry.Utf8

def encode (text : List Char) : List UInt8 :=
  text.flatMap String.utf8EncodeChar

/-- The text with the given bytes, if they are well-formed. -/
def decode? (bytes : List UInt8) : Option (List Char) :=
  bytes.toByteArray.utf8Decode?.map Array.toList

theorem toByteArray_encode (text : List Char) : (encode text).toByteArray = text.utf8Encode :=
  rfl

theorem decode?_encode (text : List Char) : decode? (encode text) = some text := by
  simp [decode?, toByteArray_encode]

theorem encode_append (left right : List Char) :
    encode (left ++ right) = encode left ++ encode right := by
  simp [encode]

end SchemaRegistry.Utf8
