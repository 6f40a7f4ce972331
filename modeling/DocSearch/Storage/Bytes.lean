/-!
# Bytes

The content of files and of database entries, and text in UTF-8.
-/

namespace DocSearch

/-- A sequence of bytes. -/
abbrev Bytes := List UInt8

namespace Bytes

/-- The bytes of a text in UTF-8. -/
def ofText (s : String) : Bytes := s.toByteArray.data.toList

/-- The text that bytes in UTF-8 stand for. -/
def text? (b : Bytes) : Option String := String.fromUTF8? b.toByteArray

theorem toByteArray_ofText (s : String) : (ofText s).toByteArray = s.toByteArray := by
  apply ByteArray.ext
  simp [ofText, List.data_toByteArray]

theorem text?_ofText (s : String) : text? (ofText s) = some s := by
  rw [text?, toByteArray_ofText, String.fromUTF8?, dif_pos s.isValidUTF8]
  rfl

end Bytes

end DocSearch
