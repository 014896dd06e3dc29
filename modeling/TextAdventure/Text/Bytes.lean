/-!
# Bytes as texts

Reading bytes as a text: in ASCII, where every byte is a character, and in UTF-8.
-/

namespace TextAdventure.Text

/-- The text that bytes write in ASCII, if all of them are characters there. -/
def ofAscii? (bytes : List UInt8) : Option String :=
  if bytes.all (· < 0x80) then some (String.ofList (bytes.map fun b => Char.ofNat b.toNat)) else none

/-- The text that bytes write in UTF-8, if they write one. -/
def ofUtf8? (bytes : List UInt8) : Option String := String.fromUTF8? bytes.toByteArray

/-- No bytes write the empty text. -/
@[simp] theorem ofAscii?_nil : ofAscii? [] = some "" := rfl

end TextAdventure.Text
