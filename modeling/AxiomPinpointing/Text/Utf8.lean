/-!
# Text as bytes

Files hold bytes.  Text is stored as UTF-8, and bytes that are not UTF-8 have no text.

* `encodeUtf8` — the bytes of a text.
* `decodeUtf8?` — the text of some bytes.
* `decodeUtf8?_encodeUtf8`, `encodeUtf8_of_decodeUtf8?` — bytes that have a text are the bytes of
  that text, and of no other.
-/

namespace AxiomPinpointing.Text

def encodeUtf8 (text : String) : List UInt8 :=
  text.toUTF8.data.toList

/-- The text that the bytes encode, if they are valid UTF-8. -/
def decodeUtf8? (bytes : List UInt8) : Option String :=
  String.fromUTF8? ⟨bytes.toArray⟩

theorem decodeUtf8?_encodeUtf8 (text : String) : decodeUtf8? (encodeUtf8 text) = some text :=
  dif_pos text.isValidUTF8

theorem encodeUtf8_of_decodeUtf8? {bytes : List UInt8} {text : String}
    (h : decodeUtf8? bytes = some text) : encodeUtf8 text = bytes := by
  unfold decodeUtf8? String.fromUTF8? at h
  split at h
  · cases h
    rfl
  · contradiction

end AxiomPinpointing.Text
