/-!
# Records

A value written out by the name of its case and its named fields, as in `Jump { addr: 564 }`.
-/

namespace ChipEight

/-- A value described by the name of its case and its named fields, in order. -/
structure Record where
  name : String
  fields : List (String × String) := []
  deriving DecidableEq

namespace Record

/-- A record whose fields are numbers, written in decimal. -/
def ofNats (name : String) (fields : List (String × Nat)) : Record :=
  ⟨name, fields.map fun (k, n) => (k, toString n)⟩

/-- The name alone, or the name and the fields between braces. -/
def text (r : Record) : String :=
  match r.fields with
  | [] => r.name
  | fs => r.name ++ " \x7b " ++ ", ".intercalate (fs.map fun (k, v) => k ++ ": " ++ v) ++ " \x7d"

end Record

end ChipEight
