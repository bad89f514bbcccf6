/-!
# Texts on a plain terminal

A text that is shown where escape sequences have no effect is shown without them, and without the
controls other than white space. A sequence ends by its own rules, or at the next escape character
or cancelling control. White space in front of its end is shown, unless the sequence is a string,
and the text goes on there; the next hidden control takes up the sequence again.
-/

namespace CloudAccessors.Text

/-- The escape sequences, by how far they have been read. -/
inductive Sequence where
  /-- After the escape character. -/
  | escape
  /-- After an escape character and an intermediate one. -/
  | intermediate
  /-- A control sequence, in front of its final character. -/
  | control
  /-- At the beginning of a device control string. -/
  | device
  | deviceParameters
  | deviceIntermediates
  /-- A string that goes on to the string terminator. -/
  | string
  /-- An operating system command, which a bell ends. -/
  | command
deriving DecidableEq, Repr

/-- Is `c` one of the controls that are white space? -/
def isSpaceControl (c : Char) : Bool := c = '\t' || c = '\n' || c = '\x0c' || c = '\r'

/-- Is `c` shown outside of a sequence? -/
def isShown (c : Char) : Bool := (' ' ≤ c && c ≠ '\x7f') || isSpaceControl c

/-- Is the string terminator, the byte 0x9C, one of the bytes of `c`? -/
def hasTerminator (c : Char) : Bool := (String.utf8EncodeChar c).contains 0x9C

namespace Sequence

/-- Is white space in front of the end of the sequence shown? -/
def showsSpace : Sequence → Bool
  | .escape | .intermediate | .control => true
  | _ => false

/-- The sequence after `c`, or `none` if `c` ends it. -/
def next? (c : Char) : Sequence → Option Sequence
  | .escape =>
    if c = '[' then some .control
    else if c = ']' then some .command
    else if c = 'P' then some .device
    else if c = 'X' || c = '^' || c = '_' then some .string
    else if ' ' ≤ c && c ≤ '/' then some .intermediate
    else if '0' ≤ c && c ≤ '~' then none
    else some .escape
  | .intermediate => if '0' ≤ c && c ≤ '~' then none else some .intermediate
  | .control => if '@' ≤ c && c ≤ '~' then none else some .control
  | .device =>
    if ' ' ≤ c && c ≤ '/' then some .deviceIntermediates
    else if '0' ≤ c && c ≤ '?' then some .deviceParameters
    else if '@' ≤ c && c ≤ '~' then some .string
    else some .device
  | .deviceParameters =>
    if ' ' ≤ c && c ≤ '/' then some .deviceIntermediates
    else if '<' ≤ c && c ≤ '~' then some .string
    else some .deviceParameters
  | .deviceIntermediates =>
    if '0' ≤ c && c ≤ '~' then some .string else some .deviceIntermediates
  | .string => if hasTerminator c then none else some .string
  | .command => if c = '\x07' then none else some .command

end Sequence

/-- Where a character of a text stands. -/
inductive Place where
  /-- Outside of a sequence, unless white space interrupted one. -/
  | text (interrupted : Option Sequence)
  | inside (s : Sequence)
deriving DecidableEq, Repr

namespace Place

/-- Is `c` shown at this place? -/
def shows (c : Char) : Place → Bool
  | .text _ => isShown c
  | .inside s => s.showsSpace && isSpaceControl c

/-- The place behind an ended or interrupted sequence, or behind a control in a text. -/
def ofSequence : Option Sequence → Place
  | some s => .inside s
  | none => .text none

/-- The place after `c`. A character beyond ASCII ends an interrupted sequence. -/
def next (c : Char) (place : Place) : Place :=
  if c = '\x1b' then .inside .escape
  else if c = '\x18' || c = '\x1a' then .text none
  else
    match place with
    | .text interrupted =>
      if '\x7f' < c then .text none
      else if isShown c then .text interrupted
      else ofSequence interrupted
    | .inside s =>
      if s.showsSpace && isSpaceControl c then .text (some s) else ofSequence (s.next? c)

end Place

/-- The characters that are shown of a text that begins at `place`. -/
def visibleFrom (place : Place) : List Char → List Char
  | [] => []
  | c :: rest =>
    if place.shows c then c :: visibleFrom (place.next c) rest else visibleFrom (place.next c) rest

/-- `s` as it is shown on a plain terminal. -/
def visible (s : String) : String := String.ofList (visibleFrom (.text none) s.toList)

end CloudAccessors.Text
