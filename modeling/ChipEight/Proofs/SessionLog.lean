import ChipEight.Proofs.Wording
import ChipEight.Session
import Mathlib.Data.List.Range
import Mathlib.Tactic.Common

/-!
# What a session hears and says

A session logs what the machine reports, and has a few things to say of its own: that the program is
loaded, each tone with its number, where it halted, and how far it came. Of all that, the log keeps
what its filter shows.

* `Log.Filter.shows_read_empty`: what is shown unless the user asks for more or less.
* `haltedEntry`, `printedState` and the like: the words for what a session says.
* `spoken_note`: one entry more, if it is the session's own and the filter shows it.
* `heard_foldl`: after any events the tones are counted, and their entries are numbered on from
  there. Nothing else but the log is different.
-/

namespace ChipEight

/-- Whether an entry gets through a filter. -/
def Log.Filter.shows (f : Log.Filter) (e : Log.Entry) : Bool :=
  f.passes e.level e.target && f.accepts e.message

/-- There is nothing to split in a text without characters. -/
theorem Text.splitOn_empty {sep : String} (h : sep ≠ "") : "".splitOn sep = [""] := by
  unfold String.splitOn
  rw [if_neg (by simpa using h)]
  unfold String.splitOnAux
  rw [if_pos (by decide)]
  decide +kernel

theorem Log.Filter.read_empty : (read "").1 = errorsOnly := by
  unfold read ofParts
  rw [Text.splitOn_empty (by decide)]
  dsimp only
  rw [Text.splitOn_empty (by decide)]
  decide +kernel

/-- **Without a text of its own a filter shows the errors**, and nothing else. -/
theorem Log.Filter.shows_read_empty (e : Log.Entry) :
    (read "").1.shows e ↔ e.level = .error := by
  have hpasses : errorsOnly.passes e.level e.target = decide (e.level = .error) := by
    cases e.level <;> cases e.target <;> decide +kernel
  have haccepts : errorsOnly.accepts e.message = true := rfl
  rw [shows, read_empty, hpasses, haccepts, Bool.and_true, decide_eq_true_iff]

/-- Whether an event is a tone. -/
def Event.isTone : Event → Bool
  | tone _ => true
  | notice _ => false

namespace Session

/-! ## Entries -/

/-- What a session says when its program is loaded. -/
def loadedEntry (path : String) (size : Nat) : Log.Entry :=
  ⟨.info, .runner, "loaded " ++ path ++ " (" ++ toString size ++ " bytes)"⟩

/-- What it says of a tone. -/
def beepEntry (number : Nat) : Log.Entry := ⟨.info, .runner, "beep #" ++ toString number⟩

/-- What it says when a cycle fails: the cycles before it, its place, and its cause. -/
def haltedEntry (cycles : Nat) (pc : UInt16) (e : Fault) : Log.Entry :=
  ⟨.error, .runner, "halted after " ++ toString cycles ++ " cycles at 0x" ++
    Hex.printed 3 pc.toNat ++ ": " ++ e.sentence⟩

/-- What it says in the end. -/
def countsEntry (cycles frames : Nat) : Log.Entry :=
  ⟨.info, .runner, toString cycles ++ " cycles, " ++ toString frames ++ " frames"⟩

theorem message_haltedEntry (cycles : Nat) (pc : UInt16) (e : Fault) :
    (haltedEntry cycles pc e).message =
      "halted after " ++ toString cycles ++ " cycles at " ++ Fault.place pc ++ ": " ++
        e.message := by
  have hmark : " cycles at " ++ "0x" = " cycles at 0x" := by decide
  have hat :
      "halted after " ++ toString cycles ++ " cycles at " ++ Fault.place pc =
        "halted after " ++ toString cycles ++ " cycles at 0x" ++ Hex.printed 3 pc.toNat :=
    Fault.append_place (by rw [String.append_assoc, hmark]) pc
  rw [haltedEntry, hat, e.message_eq_sentence]

/-- What is printed of a machine in the end: its program counter, I and its registers. -/
def printedState (s : State) : String :=
  "pc " ++ Hex.printed 4 s.pc.toNat ++ " i " ++ Hex.printed 4 s.i.toNat ++ " v " ++ s.v.printed

theorem summary_eq (s : Session) : s.summary = printedState s.machine.state := by
  rw [summary, Hex.fixed_four_eq_printed, Hex.fixed_four_eq_printed, Registers.text_eq_printed,
    printedState]

/-- The entries of the log that the session has said itself. -/
def spoken (s : Session) : List Log.Entry := s.log.toList.filter (·.target = .runner)

/-! ## Notes -/

section Note

variable (s : Session) (level : Log.Level) (target : Log.Target) (message : Unit → String)

theorem note_eq :
    s.note level target message =
      if s.filter.shows ⟨level, target, message ()⟩ then
        { s with log := s.log.push ⟨level, target, message ()⟩ }
      else s := by
  unfold note Log.Filter.shows
  cases s.filter.passes level target <;> simp

/-- A note changes nothing but the log. -/
theorem note_eq_log : ∃ log, s.note level target message = { s with log } := by
  rw [note_eq]
  split
  · exact ⟨_, rfl⟩
  · exact ⟨s.log, rfl⟩

/-- The engine's entries are not the session's own. -/
theorem spoken_note_engine : (s.note level .engine message).spoken = s.spoken := by
  rw [note_eq]
  split
  · simp [spoken]
  · rfl

/-- **One entry more, if the filter shows it.** -/
theorem spoken_note :
    (s.note level .runner message).spoken =
      s.spoken ++ [⟨level, .runner, message ()⟩].filter s.filter.shows := by
  rw [note_eq]
  split
  · rename_i hshows
    simp [spoken, hshows]
  · rename_i hshows
    simp [hshows]

end Note

/-! ## Events -/

/-- The second session is the first one after a number of tones: they are counted, the entries are
numbered on, and nothing else but the log is different. -/
structure Heard (s t : Session) (tones : Nat) : Prop where
  machine : t.machine = s.machine
  filter : t.filter = s.filter
  cycles : t.cycles = s.cycles
  frames : t.frames = s.frames
  beeps : t.beeps = s.beeps + tones
  spoken : t.spoken =
    s.spoken ++ ((List.range' (s.beeps + 1) tones).map beepEntry).filter s.filter.shows

theorem Heard.refl (s : Session) : s.Heard s 0 := ⟨rfl, rfl, rfl, rfl, rfl, by simp⟩

theorem Heard.trans {s t u : Session} {j k : Nat} (h : s.Heard t j) (h' : t.Heard u k) :
    s.Heard u (j + k) where
  machine := h'.machine.trans h.machine
  filter := h'.filter.trans h.filter
  cycles := h'.cycles.trans h.cycles
  frames := h'.frames.trans h.frames
  beeps := by rw [h'.beeps, h.beeps, Nat.add_assoc]
  spoken := by
    have hnext : s.beeps + j + 1 = s.beeps + 1 + j := by omega
    rw [h'.spoken, h.spoken, h.filter, h.beeps, hnext, List.append_assoc, ← List.filter_append,
      ← List.map_append, List.range'_append_1]

theorem heard_hear (s : Session) (e : Event) : s.Heard (s.hear e) (if e.isTone then 1 else 0) := by
  cases e with
  | notice n =>
    have hspoken := s.spoken_note_engine n.level fun _ => n.message
    obtain ⟨log, hlog⟩ := s.note_eq_log n.level .engine fun _ => n.message
    have hhear : s.hear (.notice n) = { s with log } := hlog
    rw [hlog] at hspoken
    rw [hhear]
    exact ⟨rfl, rfl, rfl, rfl, rfl, by simpa [Event.isTone] using hspoken⟩
  | tone speaker =>
    have hspoken := { s with beeps := s.beeps + 1 }.spoken_note .info
      fun _ => "beep #" ++ toString (s.beeps + 1)
    obtain ⟨log, hlog⟩ := { s with beeps := s.beeps + 1 }.note_eq_log .info .runner
      fun _ => "beep #" ++ toString (s.beeps + 1)
    have hhear : s.hear (.tone speaker) = { s with beeps := s.beeps + 1, log } := hlog
    rw [hlog] at hspoken
    rw [hhear]
    exact ⟨rfl, rfl, rfl, rfl, rfl, hspoken⟩

/-- **After any events the tones are counted**, and their entries are numbered on. -/
theorem heard_foldl (s : Session) (events : List Event) :
    s.Heard (events.foldl hear s) (events.countP Event.isTone) := by
  induction events generalizing s with
  | nil => exact .refl s
  | cons e events ih =>
    rw [List.foldl_cons, List.countP_cons, Nat.add_comm]
    exact (s.heard_hear e).trans (ih (s.hear e))

end Session

end ChipEight
