/-!
# Columns, lists, lines and blanks

The layouts shared by all output, a left-aligned column and a bracketed list, and how text falls
into lines and what counts as a blank in it.

* `length_column`: a column is as wide as it should be if its text fits.
-/

namespace ChipEight.Text

/-- `s` followed by as many spaces as bring it to `width` characters. -/
def column (width : Nat) (s : String) : String :=
  s ++ String.ofList (List.replicate (width - s.length) ' ')

/-- The items between square brackets, separated by a comma and a space. -/
def bracketed (items : List String) : String :=
  "[" ++ ", ".intercalate items ++ "]"

theorem length_column {width : Nat} {s : String} (h : s.length ≤ width) :
    (column width s).length = width := by
  simp [column]; omega

/-- The lines of a text. A line feed ends a line, with a carriage return in front of it if there is
one; behind the last end of line there is no line without a character. -/
def lines (s : String) : List String :=
  let parts := s.splitOn "\n"
  let ended := parts.dropLast.map fun line =>
    if line.toList.getLast? = some '\r' then String.ofList line.toList.dropLast else line
  match parts.getLast? with
  | some "" | none => ended
  | some last => ended ++ [last]

/-- The code points of white space as Unicode has it, in closed ranges. -/
def blankRanges : List (Nat × Nat) :=
  [(0x09, 0x0D), (0x20, 0x20), (0x85, 0x85), (0xA0, 0xA0), (0x1680, 0x1680), (0x2000, 0x200A),
   (0x2028, 0x2029), (0x202F, 0x202F), (0x205F, 0x205F), (0x3000, 0x3000)]

/-- Whether a character is in one of the closed ranges of code points. -/
def inRanges (ranges : List (Nat × Nat)) (c : Char) : Bool :=
  ranges.any fun (first, last) => first ≤ c.toNat && c.toNat ≤ last

/-- Whether a character is white space. -/
def isBlank (c : Char) : Bool := inRanges blankRanges c

/-- A text without the white space at its two ends. -/
def trim (s : String) : String :=
  String.ofList ((s.toList.dropWhile isBlank).reverse.dropWhile isBlank).reverse

end ChipEight.Text
