/-!
# UTF-8

Text as bytes and back. Reading accepts exactly the well-formed sequences.
-/

namespace KeyRenewal.Text.Utf8

def encode (text : String) : List UInt8 := text.toUTF8.data.toList

def decode (bytes : List UInt8) : Option String := String.fromUTF8? ⟨bytes.toArray⟩

theorem decode_encode (text : String) : decode (encode text) = some text := by
  have whole : (⟨(encode text).toArray⟩ : ByteArray) = text.toByteArray := by cases text; rfl
  unfold decode
  rw [whole, String.fromUTF8?, dif_pos text.isValidUTF8]
  rfl

end KeyRenewal.Text.Utf8
