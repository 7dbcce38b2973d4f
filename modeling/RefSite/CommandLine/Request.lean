import RefSite.CommandLine.Arguments

namespace RefSite.CommandLine

inductive Request
  | generate (a : Arguments)
  | help
  | version
  deriving DecidableEq, Repr

/-- The arguments read so far. -/
structure Draft where
  given : List (Argument × Text) := []
  /-- The argument read last, with its value as soon as there is one. -/
  open? : Option (Argument × Option Text) := none
  positionals : Nat := 0

namespace Draft

def used (d : Draft) : List Argument := d.given.map (·.1)

/-- Takes over an argument with its value. One that is given twice is given no more; an empty value
does only for the destination and for options without one. -/
def give (d : Draft) (argument : Argument) (value : Text) : Draft × Option Misuse :=
  if argument ∈ d.used then
    ({ d with given := d.given.filter (·.1 ≠ argument) }, some (.twice argument))
  else
    ({ d with given := d.given ++ [(argument, value)] },
     if value = [] ∧ argument ∈ [.input, .config] then some (.noValue argument) else none)

def close (d : Draft) : Draft × Option Misuse :=
  match d.open? with
  | none => (d, none)
  | some (argument, none) => ({ d with open? := none }, some (.noValue argument))
  | some (argument, some value) => { d with open? := none }.give argument value

def orFail : Draft × Option Misuse → Except Misuse Draft
  | (d, none) => .ok d
  | (_, some misuse) => .error misuse

/-- Takes over an argument that is complete, after the one that is open. -/
def add (d : Draft) (argument : Argument) (value : Text) : Except Misuse Draft := do
  let d ← orFail d.close
  orFail (d.give argument value)

def start (d : Draft) (argument : Argument) (value : Option Text) : Except Misuse Draft := do
  let d ← orFail d.close
  return { d with open? := some (argument, value) }

def addPositional (d : Draft) (value : Text) : Except Misuse Draft := do
  match d.positionals with
  | 0 => ({ d with positionals := 1 }).start .input (some value)
  | 1 => ({ d with positionals := 2 }).start .destination (some value)
  | _ => .error (.surplus value)

def finish (d : Draft) : Except Misuse Request := do
  let d ← orFail d.close
  match d.given.lookup .input with
  | some input =>
    return .generate {
      input
      destination := d.given.lookup .destination
      config := d.given.lookup .config
      verbose := .verbose ∈ d.used }
  | none => .error (.noInput d.used)

end Draft

/-- How reading goes on behind an argument. -/
abbrev Step := Except Misuse (Draft ⊕ Request)

def readFlag (d : Draft) (argument : Argument) : Step := do
  match argument with
  | .help => let _ ← Draft.orFail d.close; return .inr .help
  | .version => let _ ← Draft.orFail d.close; return .inr .version
  | _ => let d ← d.add argument []; return .inl d

/-- An option by its long name, from what stands behind the dashes. -/
def readLong (d : Draft) (written : Text) : Step := do
  let name := Text.before '=' written
  match Argument.options.find? (·.long = name), Text.after? '=' written with
  | some .config, some value => let d ← d.add .config value; return .inl d
  | some .config, none => let d ← d.start .config none; return .inl d
  | some argument, some value => .error (.needlessValue value argument d.used)
  | some argument, none => readFlag d argument
  | none, _ => .error (.unknownLong name d.close.1.used)

/-- An equals sign between a short option and its value does not count. -/
def dropEquals : Text → Text
  | '=' :: value => value
  | value => value

/-- A run of short options. What follows `c` is its value, if anything does. -/
def readShorts (d : Draft) : Text → Step
  | [] => .ok (.inl d)
  | 'c' :: [] => do let d ← d.start .config none; return .inl d
  | 'c' :: value => do let d ← d.add .config (dropEquals value); return .inl d
  | 'v' :: rest => do let d ← d.add .verbose []; readShorts d rest
  | 'h' :: _ => readFlag d .help
  | 'V' :: _ => readFlag d .version
  | name :: _ => .error (.unknownShort name)

/-- Reads on where two dashes have ended the options. -/
def readPositionals (d : Draft) : List Text → Except Misuse Request
  | [] => d.finish
  | value :: rest => do readPositionals (← d.addPositional value) rest

/-- What is no option is the value of an option that waits for one, or else a positional argument. -/
def readValue (d : Draft) (value : Text) : Step := do
  match d.open? with
  | some (argument, none) => return .inl { d with open? := some (argument, some value) }
  | _ => let d ← d.addPositional value; return .inl d

def readFrom (d : Draft) : List Text → Except Misuse Request
  | [] => d.finish
  | argument :: rest => do
    if argument = "--" then readPositionals d rest
    else
      let step :=
        match argument with
        | '-' :: '-' :: written => readLong d written
        | '-' :: c :: cs => readShorts d (c :: cs)
        | value => readValue d value
      match ← step with
      | .inl d => readFrom d rest
      | .inr request => return request

namespace Request

def ofArguments (arguments : List Text) : Except Misuse Request := readFrom {} arguments

end Request

end RefSite.CommandLine
