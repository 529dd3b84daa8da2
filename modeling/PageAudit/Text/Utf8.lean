import PageAudit.Text.Basic

/-!
# Text in files

Files hold bytes; a text file holds its characters in UTF-8.
-/
namespace PageAudit.Text

/-- The text that bytes encode, if they encode one. -/
def ofUtf8 (bytes : ByteArray) : Option Text := bytes.utf8Decode?.map Array.toList

/-- The number of bytes that encode a text. -/
def utf8Size (t : Text) : Nat := t.foldr (fun c n => c.utf8Size + n) 0

end PageAudit.Text
