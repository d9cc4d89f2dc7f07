import ChipEight.Pattern.Node

/-!
# Expressions

What a pattern means: which parts of a text it covers, where the characters beside a part count as
well. A search goes through the expression with all places of the text at once that it can have come
to.

* `Covers`: the parts of a text that an expression covers, from one place to another, by the rules
  for each kind of expression.
* `mem_ends_iff`: the places that a search comes to are the ends of the parts covered.
* `search_iff`: a search succeeds exactly if the expression covers some part of the text.
-/

namespace ChipEight.Pattern

/-- A place in a text by the characters on its two sides. -/
structure Spot where
  before? : Option Char
  after? : Option Char

/-- Whether a character belongs to a word, as ASCII has it. -/
def inWord (c? : Option Char) : Bool := c?.any fun c => CharSet.word.contains c.toNat

/-- Whether a place is on the edge of a word. -/
def WordEdge.holds (s : Spot) : WordEdge → Bool
  | any => inWord s.before? != inWord s.after?
  | none => inWord s.before? == inWord s.after?
  | start => !inWord s.before? && inWord s.after?
  | stop => inWord s.before? && !inWord s.after?
  | startHalf => !inWord s.before?
  | stopHalf => !inWord s.after?

/-- Conditions on a place, with nothing left to modes. -/
inductive Look
  | textStart | textStop
  /-- The start of a line, where a carriage return may end one. -/
  | lineStart (carriageReturns : Bool)
  | lineStop (carriageReturns : Bool)
  /-- The edge of a word, of ASCII or of any characters. -/
  | word (edge : WordEdge) (unicode : Bool)
  deriving DecidableEq

/-- Whether a place meets a condition. A carriage return and a line feed behind it end a line
together. Words are those of ASCII in any case. -/
def Look.holds (s : Spot) : Look → Bool
  | textStart => s.before?.isNone
  | textStop => s.after?.isNone
  | lineStart false => s.before?.all (· = '\n')
  | lineStop false => s.after?.all (· = '\n')
  | lineStart true =>
    s.before?.all (· = '\n') || s.before? = some '\r' && s.after? ≠ some '\n'
  | lineStop true =>
    s.after?.all (· = '\r') || s.after? = some '\n' && s.before? ≠ some '\r'
  | word edge _ => edge.holds s

inductive Expr
  | empty
  /-- One character of a set. -/
  | chars (set : CharSet)
  | look (l : Look)
  | seq (e f : Expr)
  | alt (e f : Expr)
  /-- At least so many times, and then so many times more at most, or any number of times. -/
  | rep (least : Nat) (more? : Option Nat) (e : Expr)
  deriving DecidableEq

/-- A text whose places are numbered from 0, in front of its first character, to its length. -/
abbrev Subject := Array Char

/-- What stands on the two sides of a place. -/
def spotAt (text : Subject) : Nat → Spot
  | 0 => ⟨none, text[0]?⟩
  | i + 1 => ⟨text[i]?, text[i + 1]?⟩

namespace Expr

/-- One expression after another. -/
def inOrder : List Expr → Expr
  | [] => empty
  | [e] => e
  | e :: es => seq e (inOrder es)

/-- Any of several expressions. -/
def anyOf : List Expr → Expr
  | [] => chars .none
  | [e] => e
  | e :: es => alt e (anyOf es)

/-- Which parts of a text an expression covers. -/
inductive Covers (text : Subject) : Expr → Nat → Nat → Prop
  | empty {i} : Covers text empty i i
  | chars {set i c} (hc : text[i]? = some c) (hs : set.contains c.toNat) :
    Covers text (chars set) i (i + 1)
  | look {l i} (h : l.holds (spotAt text i)) : Covers text (look l) i i
  | seq {e f i j k} : Covers text e i j → Covers text f j k → Covers text (seq e f) i k
  | altLeft {e f i j} : Covers text e i j → Covers text (alt e f) i j
  | altRight {e f i j} : Covers text f i j → Covers text (alt e f) i j
  | repNone {more? e i} : Covers text (rep 0 more? e) i i
  | repDue {least more? e i j k} :
    Covers text e i j → Covers text (rep least more? e) j k →
    Covers text (rep (least + 1) more? e) i k
  | repMore {more e i j k} :
    Covers text e i j → Covers text (rep 0 (some more) e) j k →
    Covers text (rep 0 (some (more + 1)) e) i k
  | repAny {e i j k} :
    Covers text e i j → Covers text (rep 0 none e) j k → Covers text (rep 0 none e) i k

/-! ## Sets of places -/

/-- The places of two lists, in order if both are. -/
def merge : List Nat → List Nat → List Nat
  | [], t => t
  | s, [] => s
  | a :: s, b :: t =>
    if a < b then a :: merge s (b :: t)
    else if b < a then b :: merge (a :: s) t
    else a :: merge s t

theorem mem_merge {s t : List Nat} {i : Nat} : i ∈ merge s t ↔ i ∈ s ∨ i ∈ t := by
  fun_induction merge s t <;> grind

/-- The places after so many times `go`. -/
def power (go : List Nat → List Nat) : Nat → List Nat → List Nat
  | 0, s => s
  | n + 1, s =>
    let t := go s
    if t = s then s else power go n t

/-- The places that can be reached in at most so many times `go`, and where `go` leads from
there. -/
def closure (go : List Nat → List Nat) : Nat → List Nat → List Nat × List Nat
  | 0, s => (s, go s)
  | n + 1, s =>
    let t := go s
    let u := merge s t
    if u = s then (s, t) else closure go n u

/-- The ends of the parts covered that start at some places. -/
def ends (text : Subject) : Expr → List Nat → List Nat
  | empty, s => s
  | chars set, s =>
    s.filterMap fun i => if text[i]?.any (set.contains ·.toNat) then some (i + 1) else none
  | look l, s => s.filter fun i => l.holds (spotAt text i)
  | seq e f, s => f.ends text (e.ends text s)
  | alt e f, s => merge (e.ends text s) (f.ends text s)
  | rep 0 none e, s => (closure (e.ends text) text.size s).1
  | rep (least + 1) none e, s =>
    (closure (e.ends text) text.size (power (e.ends text) least s)).2
  | rep least (some more) e, s =>
    (closure (e.ends text) more (power (e.ends text) least s)).1

/-- Whether an expression covers some part of a text. -/
def search (e : Expr) (text : List Char) : Bool :=
  !(e.ends text.toArray (List.range (text.length + 1))).isEmpty

/-! ## What a search finds -/

section Steps

variable {go : List Nat → List Nat} {R : Nat → Nat → Prop}

/-- So many times a relation. -/
inductive Steps (R : Nat → Nat → Prop) : Nat → Nat → Nat → Prop
  | refl {i} : Steps R 0 i i
  | head {n i j k} : R i j → Steps R n j k → Steps R (n + 1) i k

theorem steps_add {m n i k : Nat} :
    Steps R (m + n) i k ↔ ∃ j, Steps R m i j ∧ Steps R n j k := by
  constructor
  · intro h
    induction m generalizing i with
    | zero => exact ⟨i, .refl, by simpa using h⟩
    | succ m ih =>
      rw [Nat.add_right_comm] at h
      cases h with
      | head hr h =>
        obtain ⟨j, hm, hn⟩ := ih h
        exact ⟨j, .head hr hm, hn⟩
  · rintro ⟨j, hm, hn⟩
    induction hm with
    | refl => simpa using hn
    | head hr _ ih => rw [Nat.add_right_comm]; exact .head hr (ih hn)

theorem steps_one {i j : Nat} : Steps R 1 i j ↔ R i j := by
  constructor
  · intro h
    cases h with
    | head hr h => cases h; exact hr
  · exact fun h => .head h .refl

theorem mem_power_iff (hgo : ∀ s j, j ∈ go s ↔ ∃ i ∈ s, R i j) (n : Nat) (s : List Nat) (j : Nat) :
    j ∈ power go n s ↔ ∃ i ∈ s, Steps R n i j := by
  induction n generalizing s with
  | zero =>
    constructor
    · exact fun h => ⟨j, h, .refl⟩
    · rintro ⟨i, hi, h⟩
      cases h
      exact hi
  | succ n ih =>
    have step : (∃ i ∈ go s, Steps R n i j) ↔ ∃ i ∈ s, Steps R (n + 1) i j := by
      constructor
      · rintro ⟨i, hi, h⟩
        obtain ⟨i', hi', hr⟩ := (hgo s i).1 hi
        exact ⟨i', hi', .head hr h⟩
      · rintro ⟨i, hi, h⟩
        cases h with
        | head hr h => exact ⟨_, (hgo s _).2 ⟨i, hi, hr⟩, h⟩
    rw [← step, power]
    by_cases he : go s = s
    · rw [if_pos he, he]
      rw [← ih s]
      cases n with
      | zero => rfl
      | succ n => rw [power, if_pos he]
    · rw [if_neg he, ih]

theorem mem_closure_iff (hgo : ∀ s j, j ∈ go s ↔ ∃ i ∈ s, R i j) (n : Nat) (s : List Nat)
    (j : Nat) : j ∈ (closure go n s).1 ↔ ∃ i ∈ s, ∃ k ≤ n, Steps R k i j := by
  induction n generalizing s with
  | zero =>
    constructor
    · exact fun h => ⟨j, h, 0, Nat.le_refl _, .refl⟩
    · rintro ⟨i, hi, k, hk, h⟩
      obtain rfl : k = 0 := by omega
      cases h
      exact hi
  | succ n ih =>
    unfold closure
    by_cases hu : merge s (go s) = s
    · have closed : ∀ k i j, i ∈ s → Steps R k i j → j ∈ s := by
        intro k i j hi h
        induction h with
        | refl => exact hi
        | head hr _ ih => exact ih (hu ▸ mem_merge.2 (.inr ((hgo _ _).2 ⟨_, hi, hr⟩)))
      simp only [hu, if_pos]
      constructor
      · exact fun h => ⟨j, h, 0, Nat.zero_le _, .refl⟩
      · rintro ⟨i, hi, k, _, h⟩
        exact closed k i j hi h
    · simp only [if_neg hu, ih]
      constructor
      · rintro ⟨i, hi, k, hk, h⟩
        rcases mem_merge.1 hi with hi | hi
        · exact ⟨i, hi, k, by omega, h⟩
        · obtain ⟨a, ha, hr⟩ := (hgo _ _).1 hi
          exact ⟨a, ha, k + 1, by omega, .head hr h⟩
      · rintro ⟨i, hi, k, hk, h⟩
        cases h with
        | refl => exact ⟨_, mem_merge.2 (.inl hi), 0, Nat.zero_le _, .refl⟩
        | head hr h => exact ⟨_, mem_merge.2 (.inr ((hgo _ _).2 ⟨i, hi, hr⟩)), _, by omega, h⟩

theorem closure_snd (n : Nat) (s : List Nat) : (closure go n s).2 = go (closure go n s).1 := by
  induction n generalizing s with
  | zero => rfl
  | succ n ih =>
    by_cases hu : merge s (go s) = s
    · simp [closure, hu]
    · simp [closure, hu, ih]

/-- Where steps go forward only, no more are needed than there are places between. -/
theorem Steps.shorten (hR : ∀ i j, R i j → i ≤ j) {n i j : Nat} (h : Steps R n i j) :
    i ≤ j ∧ ∃ k ≤ j - i, k ≤ n ∧ Steps R k i j := by
  induction h with
  | refl => exact ⟨Nat.le_refl _, 0, Nat.zero_le _, Nat.le_refl _, .refl⟩
  | @head n i j l hr _ ih =>
    obtain ⟨hjl, k, hk, hkn, h⟩ := ih
    have hij := hR i j hr
    refine ⟨Nat.le_trans hij hjl, ?_⟩
    by_cases he : i = j
    · subst he
      exact ⟨k, hk, by omega, h⟩
    · exact ⟨k + 1, by omega, by omega, .head hr h⟩

end Steps

variable {text : Subject}

theorem Covers.le {e : Expr} {i j : Nat} (h : Covers text e i j) : i ≤ j := by
  induction h <;> omega

/-- A part of at least one character ends in the text. -/
theorem Covers.le_size {e : Expr} {i j : Nat} (h : Covers text e i j) : j = i ∨ j ≤ text.size := by
  induction h with
  | chars hc _ =>
    obtain ⟨hlt, _⟩ := Array.getElem?_eq_some_iff.1 hc
    omega
  | seq _ _ ih ih' | repDue _ _ ih ih' | repMore _ _ ih ih' | repAny _ _ ih ih' => omega
  | altLeft _ ih | altRight _ ih => exact ih
  | _ => exact .inl rfl

theorem Steps.le_size {e : Expr} {n i j : Nat} (h : Steps (Covers text e) n i j) :
    j = i ∨ j ≤ text.size := by
  induction h with
  | refl => exact .inl rfl
  | head hr _ ih => have := hr.le_size; omega

/-- To cover a part with a repetition is to cover it in as many steps as are due, and then in some
more. -/
theorem covers_rep_iff {least : Nat} {more? : Option Nat} {e : Expr} {i k : Nat} :
    Covers text (rep least more? e) i k ↔
      ∃ j, Steps (Covers text e) least i j ∧
        ∃ n, (∀ more ∈ more?, n ≤ more) ∧ Steps (Covers text e) n j k := by
  constructor
  · intro h
    generalize hr : rep least more? e = r at h
    induction h generalizing least more? with
    | repNone =>
      cases hr
      exact ⟨_, .refl, 0, fun _ _ => Nat.zero_le _, .refl⟩
    | repDue h _ _ ih =>
      cases hr
      obtain ⟨j, hj, n, hn, hk⟩ := ih rfl
      exact ⟨j, .head h hj, n, hn, hk⟩
    | repMore h _ _ ih =>
      cases hr
      obtain ⟨j, hj, n, hn, hk⟩ := ih rfl
      cases hj
      refine ⟨_, .refl, n + 1, ?_, .head h hk⟩
      simpa using hn
    | repAny h _ _ ih =>
      cases hr
      obtain ⟨j, hj, n, hn, hk⟩ := ih rfl
      cases hj
      exact ⟨_, .refl, n + 1, by simp, .head h hk⟩
    | _ => cases hr
  · rintro ⟨j, hj, n, hn, hk⟩
    induction hj with
    | refl =>
      induction hk generalizing more? with
      | refl => exact .repNone
      | head h _ ih =>
        cases more? with
        | none => exact .repAny h (ih (by simp))
        | some more =>
          have hn := hn more rfl
          obtain ⟨more, rfl⟩ : ∃ m, more = m + 1 := ⟨more - 1, by omega⟩
          exact .repMore h (ih (by simpa using hn))
    | head h _ ih => exact .repDue h (ih hk)

/-- **The places that a search comes to are the ends of the parts covered.** -/
theorem mem_ends_iff (e : Expr) (s : List Nat) (j : Nat) :
    j ∈ e.ends text s ↔ ∃ i ∈ s, Covers text e i j := by
  induction e generalizing s j with
  | empty =>
    constructor
    · exact fun h => ⟨j, h, .empty⟩
    · rintro ⟨i, hi, h⟩
      cases h
      exact hi
  | chars set =>
    simp only [ends, List.mem_filterMap, Option.ite_none_right_eq_some, Option.some.injEq]
    constructor
    · rintro ⟨i, hi, h, rfl⟩
      obtain ⟨c, hc, hs⟩ := (Option.any_eq_true ..).1 h
      exact ⟨i, hi, .chars hc hs⟩
    · rintro ⟨i, hi, h⟩
      cases h with
      | chars hc hs => exact ⟨i, hi, by simp [hc, hs], rfl⟩
  | look l =>
    simp only [ends, List.mem_filter]
    constructor
    · rintro ⟨hj, h⟩
      exact ⟨j, hj, .look h⟩
    · rintro ⟨i, hi, h⟩
      cases h with
      | look h => exact ⟨hi, h⟩
  | seq e f ihe ihf =>
    simp only [ends, ihe, ihf]
    constructor
    · rintro ⟨i, ⟨a, ha, he⟩, hf⟩
      exact ⟨a, ha, .seq he hf⟩
    · rintro ⟨i, hi, h⟩
      cases h with
      | seq he hf => exact ⟨_, ⟨i, hi, he⟩, hf⟩
  | alt e f ihe ihf =>
    simp only [ends, mem_merge, ihe, ihf]
    constructor
    · rintro (⟨i, hi, h⟩ | ⟨i, hi, h⟩)
      · exact ⟨i, hi, .altLeft h⟩
      · exact ⟨i, hi, .altRight h⟩
    · rintro ⟨i, hi, h⟩
      cases h with
      | altLeft h => exact .inl ⟨i, hi, h⟩
      | altRight h => exact .inr ⟨i, hi, h⟩
  | rep least more? e ih =>
    have short {n i j : Nat} (h : Steps (Covers text e) n i j) :
        ∃ k ≤ text.size, Steps (Covers text e) k i j := by
      obtain ⟨hij, k, hk, _, h⟩ := h.shorten fun _ _ h => h.le
      have := h.le_size
      exact ⟨k, by omega, h⟩
    rw [exists_congr fun i => and_congr_right fun _ => covers_rep_iff]
    match least, more? with
    | 0, none =>
      simp only [ends, mem_closure_iff ih]
      constructor
      · rintro ⟨i, hi, k, _, h⟩
        exact ⟨i, hi, i, .refl, k, by simp, h⟩
      · rintro ⟨i, hi, _, h0, n, _, h⟩
        cases h0
        exact ⟨i, hi, short h⟩
    | least + 1, none =>
      simp only [ends, closure_snd, ih, mem_closure_iff ih, mem_power_iff ih]
      constructor
      · rintro ⟨b, ⟨a, ⟨i, hi, hl⟩, k, _, h⟩, hb⟩
        have hs := steps_add.2 ⟨b, h, steps_one.2 hb⟩
        obtain ⟨c, hc, hk⟩ := (steps_add (m := 1)).1 (Nat.add_comm k 1 ▸ hs)
        exact ⟨i, hi, c, steps_add.2 ⟨a, hl, hc⟩, k, by simp, hk⟩
      · rintro ⟨i, hi, c, hc, n, _, h⟩
        obtain ⟨a, hl, hc⟩ := steps_add.1 hc
        obtain ⟨b, hb, hj⟩ := steps_add.1 (Nat.add_comm 1 n ▸ steps_add.2 ⟨c, hc, h⟩)
        exact ⟨b, ⟨a, ⟨i, hi, hl⟩, short hb⟩, steps_one.1 hj⟩
    | least, some more =>
      simp only [ends, mem_closure_iff ih, mem_power_iff ih, Option.mem_def, Option.some.injEq,
        forall_eq']
      constructor
      · rintro ⟨a, ⟨i, hi, hl⟩, k, hk, h⟩
        exact ⟨i, hi, a, hl, k, hk, h⟩
      · rintro ⟨i, hi, a, hl, k, hk, h⟩
        exact ⟨a, ⟨i, hi, hl⟩, k, hk, h⟩

/-- **A search succeeds exactly if the expression covers some part of the text.** -/
theorem search_iff (e : Expr) (s : List Char) :
    e.search s ↔ ∃ i j, i ≤ s.length ∧ Covers s.toArray e i j := by
  rw [search, Bool.not_eq_true', List.isEmpty_eq_false_iff_exists_mem]
  simp only [mem_ends_iff, List.mem_range, Nat.lt_succ_iff]
  exact ⟨fun ⟨j, i, hi, h⟩ => ⟨i, j, hi, h⟩, fun ⟨i, j, hi, h⟩ => ⟨j, i, hi, h⟩⟩

end Expr

end ChipEight.Pattern
