/-!
# Splitting texts

A text is cut at every occurrence of a mark. There is always one part more than there are marks, and
parts may be empty.
-/

namespace JobLog.Text

/-- The parts of a text between the marks; `part` is read already, its last character first. -/
def splitFrom (mark : Char) (part : List Char) : List Char → List (List Char)
  | [] => [part.reverse]
  | c :: s => if c = mark then part.reverse :: splitFrom mark [] s else splitFrom mark (c :: part) s

/-- The parts of a text between the marks. -/
def split (mark : Char) (s : List Char) : List (List Char) := splitFrom mark [] s

end JobLog.Text
