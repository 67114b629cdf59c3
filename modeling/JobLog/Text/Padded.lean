/-!
# Numbers of a fixed width

The decimal digits of a number, with zeros in front up to a width.
-/

namespace JobLog.Text

/-- The decimal digits of a number. -/
def decimal (n : Nat) : List Char := Nat.toDigits 10 n

/-- The characters, with zeros in front up to the width. -/
def zeroPadded (width : Nat) (cs : List Char) : List Char :=
  List.replicate (width - cs.length) '0' ++ cs

/-- The decimal digits of a number, with zeros in front up to the width. -/
def padded (width n : Nat) : List Char := zeroPadded width (decimal n)

end JobLog.Text
