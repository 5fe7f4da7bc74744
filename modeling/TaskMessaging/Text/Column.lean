/-!
# Columns

Text set in columns of a least width, flush right. A longer text keeps all its characters and
pushes the columns behind it.
-/

namespace TaskMessaging.Text

/-- Pads a text with blanks on its left up to a width. -/
def flushRight (width : Nat) (s : String) : String :=
  String.ofList (List.replicate (width - s.length) ' ') ++ s

/-- One line of cells, each with its width, one blank between them. -/
def row (cells : List (Nat × String)) : String :=
  String.intercalate " " (cells.map fun (width, s) ↦ flushRight width s)

end TaskMessaging.Text
