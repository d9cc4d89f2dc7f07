import ChipEight.Keypad

/-!
# Arguments

The arguments of the program, read from left to right. Options have a long name and some a single
letter; letters may be run together behind one dash. A value is the next argument, unless that looks
like an option, or what is attached to the option: `--cycles=2`, `-c=2`, `-c2`. Two dashes end the
options. Nothing may be given twice, and one argument that is no option names the program image.
-/

namespace ChipEight.CommandLine

/-- An option that takes a value. -/
inductive Setting
  | cycles | clockSpeed | seed | keys
  deriving DecidableEq

/-- An option that takes none. -/
inductive Switch
  | fast | help | version
  deriving DecidableEq

/-- The name by which an option is known in messages. -/
def Setting.name : Setting → String
  | cycles => "--cycles"
  | clockSpeed => "--clock-speed"
  | seed => "--seed"
  | keys => "--keys"

def Switch.name : Switch → String
  | fast => "--fast"
  | help => "--help"
  | version => "--version"

/-- An option of either sort. -/
inductive Flag
  | setting (s : Setting)
  | switch (s : Switch)

/-- The option of a long name, written without its dashes. -/
def Flag.ofLong? : String → Option Flag
  | "cycles" => some (.setting .cycles)
  | "clock-speed" => some (.setting .clockSpeed)
  | "seed" => some (.setting .seed)
  | "keys" => some (.setting .keys)
  | "fast" => some (.switch .fast)
  | "help" => some (.switch .help)
  | "version" => some (.switch .version)
  | _ => none

/-- The option of a letter. -/
def Flag.ofLetter? : Char → Option Flag
  | 'c' => some (.setting .cycles)
  | 's' => some (.setting .seed)
  | 'k' => some (.setting .keys)
  | 'f' => some (.switch .fast)
  | 'h' => some (.switch .help)
  | 'V' => some (.switch .version)
  | _ => none

/-- What was asked for so far. -/
structure Options where
  program? : Option String := none
  cycles? : Option UInt64 := none
  clockSpeed? : Option UInt64 := none
  seed? : Option UInt64 := none
  keys? : Option Keypad := none
  fast : Bool := false
  deriving DecidableEq

/-- Why arguments were not understood. -/
inductive UsageError
  | unknown (argument : String)
  | repeated (option : String)
  | missingValue (option : String)
  | needlessValue (option : String)
  | badNumber (option value : String)
  | badKeys (error : InvalidKey)
  | emptyProgram
  | secondProgram (argument : String)
  | noProgram
  deriving DecidableEq

/-- The sentence that reports a usage error. -/
def UsageError.message : UsageError → String
  | unknown a => "unexpected argument '" ++ a ++ "' found"
  | repeated o => "the argument '" ++ o ++ "' cannot be used multiple times"
  | missingValue o => "a value is required for '" ++ o ++ "' but none was supplied"
  | needlessValue o => "no value is allowed for '" ++ o ++ "'"
  | badNumber o v => "invalid value '" ++ v ++ "' for '" ++ o ++ "'"
  | badKeys e => "invalid value for '--keys': " ++ e.message
  | emptyProgram => "a value is required for '<ROM>' but none was supplied"
  | secondProgram a => "unexpected argument '" ++ a ++ "' found"
  | noProgram => "the following required arguments were not provided: <ROM>"

/-- What ends the reading of arguments before their end. -/
inductive Stop
  | error (e : UsageError)
  | help
  | version
  deriving DecidableEq

/-- A number of at most 64 bits: decimal digits, with a plus sign or without. -/
def number? (s : String) : Option UInt64 :=
  let digits := match s.toList with
    | '+' :: ds => ds
    | ds => ds
  if digits = [] ∨ ¬ digits.all Char.isDigit then none
  else
    let n := digits.foldl (fun n c => 10 * n + (c.toNat - 48)) 0
    if n < UInt64.size then some (.ofNat n) else none

namespace Options

/-- Reads the number of a setting that was not given before. -/
def number (s : Setting) (old? : Option UInt64) (value : String) : Except Stop (Option UInt64) :=
  if old?.isSome then .error (.error (.repeated s.name))
  else
    match number? value with
    | some n => .ok (some n)
    | none => .error (.error (.badNumber s.name value))

/-- Takes up a setting. -/
def set (o : Options) (s : Setting) (value : String) : Except Stop Options :=
  match s with
  | .cycles => do return { o with cycles? := ← number s o.cycles? value }
  | .clockSpeed => do return { o with clockSpeed? := ← number s o.clockSpeed? value }
  | .seed => do return { o with seed? := ← number s o.seed? value }
  | .keys =>
    if o.keys?.isSome then .error (.error (.repeated s.name))
    else
      match Keypad.ofDigits value with
      | .ok keys => .ok { o with keys? := some keys }
      | .error e => .error (.error (.badKeys e))

/-- Takes up a switch. -/
def turnOn (o : Options) : Switch → Except Stop Options
  | .fast =>
    if o.fast then .error (.error (.repeated Switch.fast.name)) else .ok { o with fast := true }
  | .help => .error .help
  | .version => .error .version

/-- Takes up an argument that is no option. -/
def setProgram (o : Options) (path : String) : Except Stop Options :=
  if o.program?.isSome then .error (.error (.secondProgram path))
  else if path = "" then .error (.error .emptyProgram)
  else .ok { o with program? := some path }

/-- Reads letters run together. A setting takes the letters behind it as its value; if there are
none, its value is still to come. -/
def readLetters (o : Options) : List Char → Except Stop (Options × Option Setting)
  | [] => .ok (o, none)
  | c :: cs =>
    match Flag.ofLetter? c with
    | none => .error (.error (.unknown ("-" ++ c.toString)))
    | some (.switch s) => do (← o.turnOn s).readLetters cs
    | some (.setting s) =>
      match cs with
      | [] => .ok (o, some s)
      | '=' :: value => do return (← o.set s (String.ofList value), none)
      | value => do return (← o.set s (String.ofList value), none)

/-- Reads a long option, given without its dashes; its value may be still to come. -/
def readLong (o : Options) (text : List Char) : Except Stop (Options × Option Setting) :=
  let name := String.ofList (text.takeWhile (· ≠ '='))
  let value? := match text.dropWhile (· ≠ '=') with
    | [] => none
    | _ :: value => some (String.ofList value)
  match Flag.ofLong? name, value? with
  | none, _ => .error (.error (.unknown ("--" ++ name)))
  | some (.switch s), none => do return (← o.turnOn s, none)
  | some (.switch s), some _ => .error (.error (.needlessValue s.name))
  | some (.setting s), none => .ok (o, some s)
  | some (.setting s), some value => do return (← o.set s value, none)

/-- Reads the arguments behind two dashes. -/
def readRest (o : Options) : List String → Except Stop Options
  | [] => .ok o
  | a :: as => do (← o.setProgram a).readRest as

/-- Reads arguments; `pending` is a setting whose value comes next. -/
def read (o : Options) (pending : Option Setting) : List String → Except Stop Options
  | [] =>
    match pending with
    | none => .ok o
    | some s => .error (.error (.missingValue s.name))
  | a :: as =>
    match a.toList, pending with
    | '-' :: _ :: _, some s => .error (.error (.missingValue s.name))
    | ['-', '-'], none => o.readRest as
    | '-' :: '-' :: text, none => do
      let (o, pending) ← o.readLong text
      o.read pending as
    | '-' :: c :: cs, none => do
      let (o, pending) ← o.readLetters (c :: cs)
      o.read pending as
    | _, some s => do (← o.set s a).read none as
    | _, none => do (← o.setProgram a).read none as

end Options

/-- What the arguments ask for. -/
structure Request where
  program : String
  options : Options
  deriving DecidableEq

/-- Understands the arguments of the program. -/
def Request.parse (args : List String) : Except Stop Request := do
  let options ← Options.read {} none args
  match options.program? with
  | some program => return { program, options }
  | none => .error (.error .noProgram)

end ChipEight.CommandLine
