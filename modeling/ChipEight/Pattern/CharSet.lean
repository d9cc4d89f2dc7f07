/-!
# Sets of characters

A set is written with ranges and the operations on sets; characters go by their code points.

* `contains_complement`, `contains_union` and the like: what the operations do to membership.
-/

namespace ChipEight.Pattern

/-- A set of code points. -/
inductive CharSet
  | none
  | range (first last : Nat)
  | union (s t : CharSet)
  | intersection (s t : CharSet)
  | difference (s t : CharSet)
  | symmetricDifference (s t : CharSet)
  | complement (s : CharSet)
  /-- The set with both cases of its ASCII letters. -/
  | eitherCase (s : CharSet)
  deriving DecidableEq

/-- The other case of an ASCII letter. -/
def swapCase (n : Nat) : Nat :=
  if 0x41 ≤ n ∧ n ≤ 0x5A then n + 0x20 else if 0x61 ≤ n ∧ n ≤ 0x7A then n - 0x20 else n

namespace CharSet

def contains : CharSet → Nat → Bool
  | none, _ => false
  | range first last, n => first ≤ n && n ≤ last
  | union s t, n => s.contains n || t.contains n
  | intersection s t, n => s.contains n && t.contains n
  | difference s t, n => s.contains n && !t.contains n
  | symmetricDifference s t, n => s.contains n != t.contains n
  | complement s, n => !s.contains n
  | eitherCase s, n => s.contains n || s.contains (swapCase n)

section Membership

variable (s t : CharSet) (n : Nat)

@[simp] theorem contains_none : none.contains n = false := rfl

@[simp] theorem contains_range (first last : Nat) :
    (range first last).contains n = (first ≤ n && n ≤ last) := rfl

@[simp] theorem contains_union : (s.union t).contains n = (s.contains n || t.contains n) := rfl

@[simp] theorem contains_intersection :
    (s.intersection t).contains n = (s.contains n && t.contains n) := rfl

@[simp] theorem contains_difference :
    (s.difference t).contains n = (s.contains n && !t.contains n) := rfl

@[simp] theorem contains_symmetricDifference :
    (s.symmetricDifference t).contains n = (s.contains n != t.contains n) := rfl

@[simp] theorem contains_complement : s.complement.contains n = !s.contains n := rfl

end Membership

/-- Whether any range is written in a set, be it in it or not. -/
def mentions : CharSet → Bool
  | none => false
  | range .. => true
  | union s t | intersection s t | difference s t | symmetricDifference s t =>
    s.mentions || t.mentions
  | complement s | eitherCase s => s.mentions

/-- The set of one character. -/
def single (c : Char) : CharSet := range c.toNat c.toNat

/-- The characters between two. -/
def between (first last : Char) : CharSet := range first.toNat last.toNat

def all : CharSet := none.complement

/-- The members of all sets of a list. -/
def join (sets : List CharSet) : CharSet := sets.foldl union none

/-! ## Ranges -/

/-- Where membership may change. -/
def bounds : CharSet → List Nat
  | none => []
  | range first last => [first, last + 1]
  | union s t | intersection s t | difference s t | symmetricDifference s t => s.bounds ++ t.bounds
  | complement s => s.bounds
  | eitherCase s => 0x41 :: 0x5B :: 0x61 :: 0x7B :: (s.bounds ++ s.bounds.map swapCase)

/-- The code points that no character has. -/
def isSurrogate (n : Nat) : Bool := 0xD800 ≤ n && n ≤ 0xDFFF

/-- The members as ranges from one bound to the next, in order, where neighbours are joined. -/
def rangesBetween (s : CharSet) : List Nat → List (Nat × Nat)
  | start :: stop :: rest =>
    let ranges := s.rangesBetween (stop :: rest)
    if !(s.contains start) || start = stop then ranges
    else
      match ranges with
      | (first, last) :: ranges =>
        if first = stop then (start, last) :: ranges
        else (start, stop - 1) :: (first, last) :: ranges
      | [] => [(start, stop - 1)]
  | _ => []

/-- The ranges of characters that a set falls into, in order. -/
def ranges (s : CharSet) : List (Nat × Nat) :=
  (s.rangesBetween ((0 :: 0x110000 :: s.bounds).mergeSort)).filterMap fun (first, last) =>
    let first := if isSurrogate first then 0xE000 else first
    let last := if isSurrogate last then 0xD7FF else last
    if first ≤ last && last < 0x110000 then some (first, last) else Option.none

/-- The set of the members of ranges. -/
def ofRanges (ranges : List (Nat × Nat)) : CharSet :=
  join (ranges.map fun (first, last) => range first last)

/-- Whether all members are ASCII characters. -/
def isAscii (s : CharSet) : Bool := s.ranges.all fun (_, last) => last < 0x80

/-! ## Sets with names -/

def digit : CharSet := between '0' '9'
def lower : CharSet := between 'a' 'z'
def upper : CharSet := between 'A' 'Z'
def alpha : CharSet := join [upper, lower]
def alnum : CharSet := join [digit, alpha]
def word : CharSet := join [alnum, single '_']
def space : CharSet := join [between '\t' '\r', single ' ']

/-- The sets with names in brackets, all of ASCII characters. -/
def named? : String → Option CharSet
  | "alnum" => alnum
  | "alpha" => alpha
  | "ascii" => range 0 0x7F
  | "blank" => join [single '\t', single ' ']
  | "cntrl" => join [range 0 0x1F, range 0x7F 0x7F]
  | "digit" => digit
  | "graph" => between '!' '~'
  | "lower" => lower
  | "print" => between ' ' '~'
  | "punct" => join [between '!' '/', between ':' '@', range 0x5B 0x60, range 0x7B 0x7E]
  | "space" => space
  | "upper" => upper
  | "word" => word
  | "xdigit" => join [digit, between 'A' 'F', between 'a' 'f']
  | _ => Option.none

end CharSet

end ChipEight.Pattern
