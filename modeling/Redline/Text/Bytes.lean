import Redline.Text.Basic

/-!
# Texts as bytes

A text is written in bytes as UTF-8.  `ofUtf8` reads such bytes back and puts
the replacement character for every byte that belongs to no character.
-/

namespace Redline.Text

/-- The bytes of a text in UTF-8. -/
def utf8 (s : String) : List UInt8 := s.toUTF8.toList

/-- The character that bytes start with, and the number of its bytes. -/
def firstChar? (bytes : List UInt8) : Option (Char × Nat) :=
  [1, 2, 3, 4].findSome? fun n =>
    match (String.fromUTF8? ⟨(bytes.take n).toArray⟩).map String.toList with
    | some [c] => some (c, n)
    | _ => none

/-- `ofUtf8` for bytes of which the first `skip` belong to a character that is
already read. -/
def ofUtf8From : (skip : Nat) → List UInt8 → Text
  | _, [] => []
  | skip + 1, _ :: bytes => ofUtf8From skip bytes
  | 0, b :: bytes =>
      match firstChar? (b :: bytes) with
      | some (c, n) => c :: ofUtf8From (n - 1) bytes
      | none => '�' :: ofUtf8From 0 bytes

/-- The text that bytes write in UTF-8. -/
def ofUtf8 (bytes : List UInt8) : Text := ofUtf8From 0 bytes

end Redline.Text
