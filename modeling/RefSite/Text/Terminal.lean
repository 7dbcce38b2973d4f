import RefSite.Text.Basic

namespace RefSite.Text

/-- Where in the introducer of a device string a reader stands. -/
inductive Introducer
  | start
  | parameters
  | marks
  deriving DecidableEq, Repr

/-- Where in a control sequence a reader of terminal text stands, if it is in one at all. -/
inductive Sequence
  | outside
  /-- Behind the escape character, and behind marks after it. -/
  | escape (marked : Bool)
  /-- Behind the opening bracket of a sequence with parameters. -/
  | parameters
  /-- Before a device string, whose introducer is read up to its last character. -/
  | device (part : Introducer)
  /-- In a string that the bell ends, such as a window title, or in one that a byte ends. -/
  | string (bell : Bool)
  deriving DecidableEq, Repr

def isLayout (c : Char) : Bool := c ∈ ['\t', '\n', '\x0c', '\r']

/-- Whether `c` shows where no control sequence is open. -/
def isPrinted (c : Char) : Bool := isLayout c || (' ' ≤ c && c ≠ '\x7f')

/-- Whether the byte that ends a string is part of the encoding of a character. -/
def holdsTerminator (c : Char) : Bool := (0x9c : UInt8) ∈ String.utf8EncodeChar c

namespace Sequence

/-- Behind the escape character alone, some characters open a longer sequence. -/
def opened : Char → Sequence
  | '[' => .parameters
  | ']' => .string true
  | 'P' => .device .start
  | 'X' | '^' | '_' => .string false
  | _ => .outside

/-- Where a reader stands behind a character of an introducer; a malformed one is over at once. -/
def introduced (part : Introducer) (c : Char) : Sequence :=
  if '@' ≤ c then .string false
  else if c ≤ '/' then .device .marks
  else if part = .start ∨ part = .parameters ∧ c ≤ ';' then .device .parameters
  else .string false

def next (s : Sequence) (c : Char) : Sequence :=
  if c = '\x1b' then .escape false
  else if c = '\x18' ∨ c = '\x1a' then .outside
  else
    match s with
    | .outside => .outside
    | .escape marked =>
      if isLayout c then .outside
      else if c < ' ' ∨ '\x7f' ≤ c then s
      else if c ≤ '/' then .escape true
      else if marked then .outside
      else opened c
    | .parameters =>
      if isLayout c then .outside
      else if c < '@' ∨ '\x7f' ≤ c then s
      else .outside
    | .device part => if c < ' ' ∨ '\x7f' ≤ c then s else introduced part c
    | .string true => if c = '\x07' then .outside else s
    | .string false => if holdsTerminator c then .outside else s

/-- Whether `c` shows: layout does also where it breaks off a sequence, but not in a string or
before one. -/
def shows (s : Sequence) (c : Char) : Bool :=
  match s with
  | .outside => isPrinted c
  | .escape _ | .parameters => isLayout c
  | .device _ | .string _ => false

end Sequence

/-- What a text shows, without its control sequences and control characters. -/
def shown (t : Text) : Text := go .outside t
where
  go (s : Sequence) : Text → Text
    | [] => []
    | c :: rest => if s.shows c then c :: go (s.next c) rest else go (s.next c) rest

end RefSite.Text
