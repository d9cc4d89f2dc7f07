import ChipEight.Pattern.Octets
import ChipEight.Pattern.Term

/-!
# Automata for terms

How large an automaton gets that goes through the octets of a text for a term, from the start of the
text or from its end. Only its states are counted here. What repeats a term holds it as often as it
may be due, so that an automaton can be large for a short pattern.

States that do the same for the octets of characters are shared, as far as a table remembers them:
it has a fixed number of slots, and what comes into a slot displaces what was there. The number of a
state decides about its slot, so that automata have to be built state by state.
-/

namespace ChipEight.Pattern

/-- An automaton so far. -/
structure Draft where
  /-- How many states there are; also the number of the next one. -/
  states : Nat := 0
  /-- The bytes that the lists in states take. -/
  lists : Nat := 0
  deriving DecidableEq

namespace Draft

/-- The bytes of an automaton. -/
def bytes (d : Draft) : Nat := 32 * d.states + d.lists

/-- An automaton with more states, and more bytes in their lists. -/
def addStates (d : Draft) (count listed : Nat) : Draft := ⟨d.states + count, d.lists + listed⟩

/-- The bytes that an automaton may take: ten mebibytes. -/
def limit : Nat := 10 * 1024 * 1024

end Draft

/-- Building ends as soon as an automaton gets too large. -/
abbrev Build := EStateM Unit Draft

namespace Build

/-- The bytes of lists of the numbers of states. -/
def numbers (count : Nat) : Nat := 4 * count

/-- The bytes of lists of ranges of octets with the states behind them. -/
def steps (count : Nat) : Nat := 8 * count

/-- Builds states, and answers with the number of the first. -/
def states (count listed : Nat) : Build Nat := do
  let d ← get
  let d' := d.addStates count listed
  if Draft.limit < d'.bytes then throw ()
  set d'
  return d.states

/-- Builds a part as often as asked for. -/
def times : Nat → Build Unit → Build Unit
  | 0, _ => return ()
  | n + 1, part => do
    part
    times n part

/-! ## Shared states -/

/-- A table that remembers states by what they do. -/
structure Table (α : Type) where
  slots : Nat
  /-- What is in a slot: what a state does, and its number. -/
  entries : List (Nat × α × Nat) := []

/-- The slot for a list of numbers. -/
def slot (slots : Nat) (key : List Nat) : Nat :=
  let mix (h : UInt64) (n : Nat) : UInt64 := (h ^^^ n.toUInt64) * 1099511628211
  (key.foldl mix 14695981039346656037).toNat % slots

/-- The state that does something: one that is remembered, or a new one. -/
def shared {α : Type} [BEq α] (numbersOf : α → List Nat) (listed : Nat) (a : α) :
    StateT (Table α) Build Nat := do
  let t ← get
  let s := slot t.slots (numbersOf a)
  match t.entries.find? (·.1 = s) with
  | some (_, b, state) =>
    if a == b then
      return state
  | none => pure ()
  let state ← states 1 listed
  set { t with entries := (s, a, state) :: t.entries.filter (·.1 ≠ s) }
  return state

/-- A range of octets with the state behind it. -/
structure Step where
  range : OctetRange
  target : Nat
  deriving DecidableEq

/-- The steps that sequences of ranges of octets start with, where those that start with the same
range stand together. -/
def groups : List (List OctetRange) → List (OctetRange × List (List OctetRange))
  | [] => []
  | [] :: sequences => groups sequences
  | (range :: tail) :: sequences =>
    match groups sequences with
    | (range', tails) :: rest =>
      if range = range' then (range, tail :: tails) :: rest
      else (range, [tail]) :: (range', tails) :: rest
    | [] => [(range, [tail])]

/-- Builds a state that goes through any of several sequences of ranges of octets to `target`, with
what comes behind it first. A character has `depth` octets at most. -/
def branching (target : Nat) :
    (depth : Nat) → List (List OctetRange) → StateT (Table (List Step)) Build Nat
  | 0, _ => return target
  | depth + 1, sequences =>
    if sequences = [[]] then return target
    else do
      let steps ← (groups sequences).mapM fun (range, tails) => do
        return { range, target := ← branching target depth tails }
      shared (·.flatMap fun s => [s.range.1, s.range.2, s.target]) (Build.steps steps.length) steps

/-- Builds the states for a character of ranges, read from its first octet on. -/
def setForward (sequences : List (List OctetRange)) : Build Unit := do
  let target ← states 1 0
  discard <| (branching target 5 sequences).run { slots := 10000 }

/-- Builds the states for a character of ranges, read from its last octet on. -/
def setBackward (sequences : List (List OctetRange)) : Build Unit := do
  let target := (← states 2 (numbers sequences.length)) + 1
  discard <| (sequences.forM fun sequence => do
    discard <| sequence.foldlM (fun target range =>
      shared (fun s : Step => [s.target, s.range.1, s.range.2]) 0 { range, target }) target
    : StateT (Table Step) Build Unit).run { slots := 1000 }

/-- Builds the states for one character of ranges. -/
def set (backward : Bool) (ranges : List (Nat × Nat)) : Build Unit := do
  if ranges.all fun (_, last) => last < 0x80 then
    discard <| states 2 (steps ranges.length)
  else
    let sequences := ranges.flatMap fun (first, last) => octetRanges first last
    if backward then setBackward sequences else setForward sequences

/-! ## Texts side by side -/

/-- Texts by their first octets, with what follows these. -/
def byFirst : List (List Nat) → List (Nat × List (List Nat))
  | [] => []
  | [] :: texts => byFirst texts
  | (octet :: tail) :: texts =>
    let rest := byFirst texts
    (octet, tail :: (rest.lookup octet).getD []) :: rest.filter (·.1 ≠ octet)

/-- Texts between those that are empty. -/
def chunks : List (List Nat) → List (List (List Nat))
  | [] => [[]]
  | [] :: texts => [] :: chunks texts
  | text :: texts =>
    match chunks texts with
    | chunk :: rest => (text :: chunk) :: rest
    | [] => [[text]]

/-- Builds a tree of texts. Where one ends and others go on, those named before it and behind it
keep to themselves; where several end and none has gone on, they end together. -/
def tree : (depth : Nat) → List (List Nat) → Build Unit
  | 0, _ => return ()
  | depth + 1, texts => do
    let going := texts.dropWhile List.isEmpty
    let kept := if going.length < texts.length then [] :: going else going
    let branches := (chunks kept).map byFirst
    let full := branches.filter (!·.isEmpty)
    full.forM fun branch =>
      discard <| states 1 (if branch.length = 1 then 0 else steps branch.length)
    discard <| states 1 (numbers (full.length + branches.length - 1))
    full.flatten.forM fun (_, tails) => do
      if !tails.all List.isEmpty then
        tree depth tails

/-- Builds texts, of which any may come. -/
def anyText (backward : Bool) (texts : List (List Char)) : Build Unit := do
  let texts := texts.map fun cs =>
    let octets := cs.flatMap fun c => octets c.toNat
    if backward then octets.reverse else octets
  discard <| states 1 0
  tree (texts.flatten.length + 1) texts

end Build

namespace Term

open Build

def text? : Term → Option (List Char)
  | text cs => some cs
  | _ => none

/-- Builds a repetition of a part. -/
def buildRepetition (part : Build Unit) (skippable : Bool) : Nat → Option Nat → Build Unit
  | 0, some 1 => do
    discard <| states 1 (numbers 2)
    part
    discard <| states 1 0
  | 0, none => do
    if skippable then
      part
      discard <| states 3 (numbers 4)
    else
      discard <| states 1 (numbers 2)
      part
  | least, none => do
    times least part
    discard <| states 1 (numbers 2)
  | least, some most => do
    if least = 0 then
      discard <| states 1 0
    times least part
    if least < most then
      discard <| states 1 0
      times (most - least) do
        discard <| states 1 (numbers 2)
        part

mutual

/-- Builds the states for a term. -/
def build (backward : Bool) : Term → Build Unit
  | empty | look _ => discard <| states 1 0
  | text cs => discard <| states (textLength cs) 0
  | chars _ ranges => Build.set backward ranges
  | capture _ t => do
    if backward then
      t.build backward
    else
      discard <| states 1 0
      t.build backward
      discard <| states 1 0
  | rep least most? _ t =>
    buildRepetition (t.build backward) (t.least?.all (· = 0)) least most?
  | seq ts => do
    let parts := buildEach backward ts
    (if backward then parts.reverse else parts).forM id
  | alt ts => do
    match ts.mapM text? with
    | some texts => anyText backward texts
    | none =>
      let parts := buildEach backward ts
      (parts.take 2).forM id
      discard <| states 2 (numbers ts.length)
      (parts.drop 2).forM id

def buildEach (backward : Bool) : List Term → List (Build Unit)
  | [] => []
  | t :: ts => t.build backward :: buildEach backward ts

end

mutual

/-- Whether a term covers parts at one end of the text only, be it the end of the text or its
start. -/
def isAnchored (backward : Bool) : Term → Bool
  | look l => l = if backward then .textStop else .textStart
  | empty | text _ | chars .. => false
  | capture _ t => t.isAnchored backward
  | rep least _ _ t => least ≠ 0 && t.isAnchored backward
  | seq ts => isAnyAnchored backward ts
  | alt ts => areAnchored backward ts

/-- Whether one of several terms that follow each other is anchored, and what lies between it and
the end covers empty parts at most. -/
def isAnyAnchored (backward : Bool) : List Term → Bool
  | [] => false
  | t :: ts =>
    if backward then isAnyAnchored backward ts || allWidthless ts && t.isAnchored backward
    else t.isAnchored backward || t.isWidthless && isAnyAnchored backward ts

def areAnchored (backward : Bool) : List Term → Bool
  | [] => true
  | t :: ts => t.isAnchored backward && areAnchored backward ts

end

/-- Builds the automaton that looks for a term. If parts are covered anywhere, it can go past any
octets first; from the start of a text on, it also keeps track of the part. -/
def automaton (backward : Bool) (t : Term) : Build Unit := do
  if t.isAnchored backward then
    discard <| states 1 0
  else
    discard <| states 3 (numbers 2 + steps 1)
  if !backward then
    discard <| states 1 0
  t.build backward
  discard <| states (if backward then 1 else 2) 0

/-- Whether the automaton that looks for a term takes more bytes than it may. -/
def isTooLarge (backward : Bool) (t : Term) : Bool :=
  match (t.automaton backward).run {} with
  | .ok .. => false
  | .error .. => true

end Term

end ChipEight.Pattern
