import ChipEight.Pattern.Expr

/-!
# Terms

A pattern in its plainest form: characters that follow each other are one text, alternatives of
single characters are one set, and what all alternatives start with stands before them. Terms are
what the size of a search depends on; `expr` is what one searches for.
-/

namespace ChipEight.Pattern

inductive Term
  | empty
  /-- Characters one after another, of which there is one at least. -/
  | text (cs : List Char)
  /-- One character of several ranges, or none if there are no ranges. -/
  | chars (bytewise : Bool) (ranges : List (Nat × Nat))
  | look (l : Look)
  /-- What is captured by the group at a place. -/
  | capture (place : Position) (t : Term)
  | rep (least : Nat) (most? : Option Nat) (fewFirst : Bool) (t : Term)
  | seq (ts : List Term)
  | alt (ts : List Term)
  deriving BEq

namespace Term

/-! ## Lengths -/

/-- How many octets a character has in UTF-8. -/
def octetCount (n : Nat) : Nat := (Char.ofNat n).utf8Size

/-- How many octets characters have together. -/
def textLength : List Char → Nat
  | [] => 0
  | c :: cs => c.utf8Size + textLength cs

mutual

/-- The least number of octets that a term covers, if it can cover any part. -/
def least? : Term → Option Nat
  | empty | look _ => some 0
  | text cs => some (textLength cs)
  | chars _ ranges => ranges.head?.map fun (first, _) => octetCount first
  | capture _ t => t.least?
  | rep least _ _ t => t.least?.map (least * ·)
  | seq ts => leastOfAll? ts
  | alt ts => leastOfAny? ts

def leastOfAll? : List Term → Option Nat
  | [] => some 0
  | t :: ts => return (← t.least?) + (← leastOfAll? ts)

def leastOfAny? : List Term → Option Nat
  | [] => none
  | [t] => t.least?
  | t :: ts => return min (← t.least?) (← leastOfAny? ts)

end

mutual

/-- Whether a term covers empty parts at most. -/
def isWidthless : Term → Bool
  | empty | look _ => true
  | text _ | chars .. => false
  | capture _ t | rep _ _ _ t => t.isWidthless
  | seq ts | alt ts => allWidthless ts

def allWidthless : List Term → Bool
  | [] => true
  | t :: ts => t.isWidthless && allWidthless ts

end

/-! ## Building -/

/-- One character of several ranges. -/
def oneOf (bytewise : Bool) : List (Nat × Nat) → Term
  | [] => chars true []
  | [(first, last)] => if first = last then text [.ofNat first] else chars bytewise [(first, last)]
  | ranges => chars bytewise ranges

/-- A repetition between two numbers of times. What covers empty parts at most counts once. -/
def repeated (least : Nat) (most? : Option Nat) (fewFirst : Bool) (t : Term) : Term :=
  let (least, most?) :=
    if t.isWidthless then (min least 1, some ((most?.getD 1).min 1)) else (least, most?)
  match least, most? with
  | 0, some 0 => empty
  | 1, some 1 => t
  | least, most? => rep least most? fewFirst t

/-- What follows each other in a term. -/
def items : Term → List Term
  | seq ts => ts
  | empty => []
  | t => [t]

/-- A term before others, where texts are joined. -/
def before : Term → List Term → List Term
  | text cs, text ds :: ts => text (cs ++ ds) :: ts
  | t, ts => t :: ts

/-- Terms one after another. -/
def inOrder (ts : List Term) : Term :=
  match (ts.flatMap items).foldr before [] with
  | [] => empty
  | [t] => t
  | ts => seq ts

/-- The single character that a term covers. -/
def single? : Term → Option CharSet
  | text [c] => some (.single c)
  | _ => none

/-- The set of which a term covers a character. -/
def set? : Term → Option CharSet
  | chars _ ranges => some (.ofRanges ranges)
  | _ => none

/-- The terms that two lists start with. -/
def commonStart : List Term → List Term → List Term
  | t :: ts, u :: us => if t == u then t :: commonStart ts us else []
  | _, _ => []

/-- What all of several sequences start with. -/
def sharedStart : List Term → List Term
  | seq ts :: rest =>
    rest.foldl (fun start t => match t with | seq us => commonStart start us | _ => []) ts
  | _ => []

mutual

/-- How many terms are in a term. -/
def count : Term → Nat
  | empty | text _ | chars .. | look _ => 1
  | capture _ t | rep _ _ _ t => t.count + 1
  | seq ts | alt ts => countAll ts + 1

def countAll : List Term → Nat
  | [] => 0
  | t :: ts => t.count + countAll ts

end

/-- Any of several terms. -/
def anyOf (ts : List Term) : Term := go (countAll ts) ts
where
  go : Nat → List Term → Term
  | 0, ts => alt ts
  | fuel + 1, ts =>
    let ts := ts.flatMap fun | alt ts => ts | t => [t]
    match ts with
    | [t] => t
    | _ =>
      match (ts.mapM single?).or (ts.mapM set?) with
      | some sets => oneOf false (CharSet.join sets).ranges
      | none =>
        match sharedStart ts with
        | [] => alt ts
        | start =>
          inOrder (start ++ [go fuel (ts.map fun t => inOrder (t.items.drop start.length))])

/-! ## Meaning -/

mutual

/-- What a term covers. -/
def expr : Term → Expr
  | empty => .empty
  | text cs => .inOrder (cs.map fun c => .chars (.single c))
  | chars _ ranges => .chars (.ofRanges ranges)
  | look l => .look l
  | capture _ t => t.expr
  | rep least most? _ t => .rep least (most?.map (· - least)) t.expr
  | seq ts => .inOrder (exprs ts)
  | alt ts => .anyOf (exprs ts)

def exprs : List Term → List Expr
  | [] => []
  | t :: ts => t.expr :: exprs ts

end

mutual

/-- Whether the edges of words of any characters count. -/
def needsWords : Term → Bool
  | look (.word _ unicode) => unicode
  | empty | text _ | chars .. | look _ => false
  | capture _ t | rep _ _ _ t => t.needsWords
  | seq ts | alt ts => anyNeedsWords ts

def anyNeedsWords : List Term → Bool
  | [] => false
  | t :: ts => t.needsWords || anyNeedsWords ts

end

end Term

end ChipEight.Pattern
