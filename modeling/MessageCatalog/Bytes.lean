import MessageCatalog.Text.Basic

/-!
# Bytes

The contents of files are lists of bytes. A text is stored in UTF-8, and only well-formed UTF-8 is
read back as a text.
-/

namespace MessageCatalog

/-- The contents of a file. -/
abbrev Bytes : Type := List UInt8

/-- The text in UTF-8. -/
def Text.utf8 (t : Text) : Bytes :=
  (String.ofList t).toUTF8.toList

/-- The text that the bytes are the UTF-8 form of, if they are. -/
def Bytes.utf8? (bytes : Bytes) : Option Text :=
  (String.fromUTF8? bytes.toByteArray).map String.toList

end MessageCatalog
