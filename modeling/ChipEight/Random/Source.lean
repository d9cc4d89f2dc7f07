/-!
# Random sources

A source is an endless sequence of 32-bit words together with the number of words already taken.
Keeping the sequence whole lets two machines be compared by the words they were given.
-/

namespace ChipEight.Random

/-- A sequence of words and a position in it. -/
structure Source where
  /-- The word at each position of the sequence. -/
  word : Nat → UInt32
  /-- How many words were taken; the next one is `word taken`. -/
  taken : Nat := 0

namespace Source

/-- The next word, and the source after it. -/
def next (s : Source) : UInt32 × Source := (s.word s.taken, { s with taken := s.taken + 1 })

/-- The words of the list, over and over; zeros if the list is empty. -/
def cycling (words : Array UInt32) : Source where
  word k := words[k % words.size]?.getD 0

end Source

end ChipEight.Random
