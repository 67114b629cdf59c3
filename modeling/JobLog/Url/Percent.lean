import JobLog.Text.Digit
import JobLog.Text.Utf8

/-!
# Percent encoding

A character that may not stand in a part of a url is written as the bytes of its UTF-8 form, each
as `%` with two hexadecimal digits.
-/

namespace JobLog.Url

/-- A byte as `%` with two hexadecimal digits. -/
def escapeByte (b : UInt8) : List Char :=
  let digit := fun (n : Nat) => (Nat.digitChar n).toUpper
  ['%', digit (b.toNat / 16), digit (b.toNat % 16)]

/-- The characters with those of a class escaped; characters beyond ASCII always are. -/
def escape (inClass : Char → Bool) (s : List Char) : List Char :=
  s.flatMap fun c =>
    if c.toNat < 0x20 || 0x7F ≤ c.toNat || inClass c then (Text.Utf8.encode [c]).flatMap escapeByte
    else [c]

/-- The characters that are escaped in a path. -/
def inPath (c : Char) : Bool := " \"<>`#?\x7b\x7d".toList.contains c

/-- The characters that are escaped in the query of a url whose scheme is a special one. -/
def inQuery (c : Char) : Bool := " \"<>#'".toList.contains c

/-- The bytes that a text with escapes stands for. -/
def unescape : List Char → List UInt8
  | [] => []
  | '%' :: a :: b :: s =>
    match Text.hexDigit? a, Text.hexDigit? b with
    | some x, some y => UInt8.ofNat (16 * x + y) :: unescape s
    | _, _ => 0x25 :: unescape (a :: b :: s)
  | c :: s => Text.Utf8.encode [c] ++ unescape s

/-- A byte as it stands in the query of a form. -/
def formByte (b : UInt8) : List Char :=
  let c := Char.ofNat b.toNat
  if b = 0x20 then ['+']
  else if c.isAlphanum || "*-._".toList.contains c then [c]
  else escapeByte b

/-- A text as it stands in the query of a form. -/
def formText (s : List Char) : List Char := (Text.Utf8.encode s).flatMap formByte

end JobLog.Url
