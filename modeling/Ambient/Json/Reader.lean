import Ambient.Json.Numeral

namespace Ambient.Json

/-!
# Reading JSON text

The reader takes one character at a time and keeps the containers that are
still open. When the text goes wrong the reader stays as it was, so what had
been read of the outermost value by then can still be looked at.
-/

/-- What is wrong with a text: a character that may not stand where it does, or
an end that comes too early. -/
inductive SyntaxError
  | malformed
  | unfinished
deriving DecidableEq, Repr

/-- A container that is still open, with the newest part first. -/
inductive Frame
  | array (items : List Json)
  | object (entries : List (String × Json)) (key : Option String)

/-- Where the reader is inside a string. -/
inductive StringPhase
  | plain
  | escape
  /-- In a code unit of four digits, after the first half of a pair if there is
  one: how many bytes have been read, and their value if all were digits. -/
  | unit (high : Option Nat) (bytes : Nat) (value : Option Nat)
  /-- Before the backslash of the second half of a pair. -/
  | pairSlash (high : Nat)
  /-- Before the letter of the second half of a pair. -/
  | pairLetter (high : Nat)

/-- Where the reader is inside a number. -/
inductive NumberPhase
  | sign | zero | whole | point | fraction | mark | powerSign | power

/-- Where the reader is. -/
inductive Phase
  /-- Before a value, or before the end of an array that has just begun. -/
  | value (orEnd : Bool)
  /-- Before a key, or before the end of an object that has just begun. -/
  | key (orEnd : Bool)
  | colon
  /-- After a part of a container. -/
  | part
  | string (isKey : Bool) (read : List Char) (phase : StringPhase)
  | number (read : List Char) (phase : NumberPhase)
  /-- In one of the words `null`, `true` and `false`. -/
  | word (left : List Char) (value : Json)
  /-- After the outermost value. -/
  | done (value : Json)

/-- The state of a reader; the innermost open container comes first. -/
structure Reader where
  frames : List Frame
  phase : Phase

namespace Reader

/-- How deep containers may be nested. -/
def maxDepth : Nat := 127

def start : Reader := ⟨[], .value false⟩

def isSpace (c : Char) : Bool := c = ' ' || c = '\n' || c = '\t' || c = '\r'

/-- After a whole value has been read. -/
def complete (frames : List Frame) (value : Json) : Reader :=
  match frames with
  | .array items :: rest => ⟨.array (value :: items) :: rest, .part⟩
  | .object entries (some key) :: rest => ⟨.object ((key, value) :: entries) none :: rest, .part⟩
  | _ => ⟨frames, .done value⟩

/-- After the end of the innermost container. -/
def close? (r : Reader) (c : Char) : Option Reader :=
  match r.frames, c with
  | .array items :: rest, ']' => some (complete rest (.array items.reverse))
  | .object entries _ :: rest, '\x7d' => some (complete rest (.object entries.reverse))
  | _, _ => none

/-- At the first character of a value. -/
def open? (r : Reader) (c : Char) : Option Reader :=
  match c with
  | '"' => some { r with phase := .string false [] .plain }
  | '-' => some { r with phase := .number [c] .sign }
  | '0' => some { r with phase := .number [c] .zero }
  | 'n' => some { r with phase := .word ['u', 'l', 'l'] .null }
  | 't' => some { r with phase := .word ['r', 'u', 'e'] (.bool true) }
  | 'f' => some { r with phase := .word ['a', 'l', 's', 'e'] (.bool false) }
  | '[' => if r.frames.length < maxDepth then some ⟨.array [] :: r.frames, .value true⟩ else none
  | '\x7b' =>
    if r.frames.length < maxDepth then some ⟨.object [] none :: r.frames, .key true⟩ else none
  | c => if c.isDigit then some { r with phase := .number [c] .whole } else none

/-- What a character does inside a string. -/
inductive StringStep
  | more (read : List Char) (phase : StringPhase)
  | ended
  | wrong

/-- After the four digits of a code unit. -/
def unitRead (read : List Char) (high : Option Nat) (unit : Nat) : StringStep :=
  let isLow := 0xDC00 ≤ unit ∧ unit ≤ 0xDFFF
  match high with
  | some high =>
    if isLow then
      .more (Char.ofNat ((high - 0xD800) * 0x400 + (unit - 0xDC00) + 0x10000) :: read) .plain
    else .wrong
  | none =>
    if isLow then .wrong
    else if 0xD800 ≤ unit ∧ unit ≤ 0xDBFF then .more read (.pairSlash unit)
    else .more (Char.ofNat unit :: read) .plain

/-- The value of a hexadecimal digit. -/
def hexDigit? (c : Char) : Option Nat :=
  if c.isDigit then some (c.toNat - '0'.toNat)
  else if 'a' ≤ c ∧ c ≤ 'f' then some (c.toNat - 'a'.toNat + 10)
  else if 'A' ≤ c ∧ c ≤ 'F' then some (c.toNat - 'A'.toNat + 10)
  else none

/-- What a letter after a backslash stands for. -/
def escape? (c : Char) : Option Char :=
  match c with
  | '"' | '\\' | '/' => some c
  | 'b' => some '\x08'
  | 'f' => some '\x0c'
  | 'n' => some '\n'
  | 'r' => some '\r'
  | 't' => some '\t'
  | _ => none

/-- One character inside a string. The four places of a code unit are filled
before it is known whether they hold digits. -/
def stringStep (read : List Char) (phase : StringPhase) (c : Char) : StringStep :=
  match phase with
  | .plain =>
    if c = '"' then .ended
    else if c = '\\' then .more read .escape
    else if c.toNat < 0x20 then .wrong
    else .more (c :: read) .plain
  | .escape =>
    if c = 'u' then .more read (.unit none 0 (some 0))
    else match escape? c with
      | some d => .more (d :: read) .plain
      | none => .wrong
  | .unit high bytes value =>
    let bytes := bytes + c.utf8Size
    let value := match value, hexDigit? c with
      | some n, some d => some (16 * n + d)
      | _, _ => none
    if bytes < 4 then .more read (.unit high bytes value)
    else match value with
      | some unit => unitRead read high unit
      | none => .wrong
  | .pairSlash high => if c = '\\' then .more read (.pairLetter high) else .wrong
  | .pairLetter high => if c = 'u' then .more read (.unit (some high) 0 (some 0)) else .wrong

/-- What a character does inside a number. -/
inductive NumberStep
  | more (phase : NumberPhase)
  | ended
  | wrong

def numberStep (phase : NumberPhase) (c : Char) : NumberStep :=
  let isMark := c = 'e' || c = 'E'
  match phase with
  | .sign => if c = '0' then .more .zero else if c.isDigit then .more .whole else .wrong
  | .zero =>
    if c.isDigit then .wrong else if c = '.' then .more .point
    else if isMark then .more .mark else .ended
  | .whole =>
    if c.isDigit then .more .whole else if c = '.' then .more .point
    else if isMark then .more .mark else .ended
  | .point => if c.isDigit then .more .fraction else .wrong
  | .fraction => if c.isDigit then .more .fraction else if isMark then .more .mark else .ended
  | .mark =>
    if c = '+' || c = '-' then .more .powerSign else if c.isDigit then .more .power else .wrong
  | .powerSign => if c.isDigit then .more .power else .wrong
  | .power => if c.isDigit then .more .power else .ended

/-- Whether a number may end here. -/
def NumberPhase.mayEnd : NumberPhase → Bool
  | .zero | .whole | .fraction | .power => true
  | .sign | .point | .mark | .powerSign => false

/-- After the last character of a number; `none` when it is too large. -/
def endNumber? (frames : List Frame) (read : List Char) : Option Reader :=
  (Numeral.ofParts? (Numeral.Parts.ofList read.reverse)).map fun n => complete frames (.number n)

/-- After the end of a string. -/
def endString (frames : List Frame) (isKey : Bool) (text : String) : Reader :=
  match isKey, frames with
  | true, .object entries _ :: rest => ⟨.object entries (some text) :: rest, .colon⟩
  | _, _ => complete frames (.string text)

/-- One character that stands between the words of the text. -/
def stepBetween (r : Reader) (c : Char) : Option Reader :=
  if isSpace c then some r
  else match r.phase with
    | .value orEnd => if orEnd && c = ']' then r.close? c else r.open? c
    | .key orEnd =>
      if c = '"' then some { r with phase := .string true [] .plain }
      else if orEnd then r.close? c else none
    | .colon => if c = ':' then some { r with phase := .value false } else none
    | .part =>
      if c = ',' then
        match r.frames with
        | .object _ _ :: _ => some { r with phase := .key false }
        | _ => some { r with phase := .value false }
      else r.close? c
    | _ => none

/-- One character. On an error the reader is given back as it was, except that
a number the character put an end to has been read. -/
def step (r : Reader) (c : Char) : Except Reader Reader :=
  match r.phase with
  | .string isKey read phase =>
    match stringStep read phase c with
    | .more read phase => .ok { r with phase := .string isKey read phase }
    | .ended => .ok (endString r.frames isKey (String.ofList read.reverse))
    | .wrong => .error r
  | .word left value =>
    match left with
    | d :: left =>
      if c ≠ d then .error r
      else if left = [] then .ok (complete r.frames value)
      else .ok { r with phase := .word left value }
    | [] => .error r
  | .number read phase =>
    match numberStep phase c with
    | .more phase => .ok { r with phase := .number (c :: read) phase }
    | .wrong => .error r
    | .ended =>
      match endNumber? r.frames read with
      | none => .error r
      | some after => match after.stepBetween c with
        | some next => .ok next
        | none => .error after
  | _ =>
    match r.stepBetween c with
    | some next => .ok next
    | none => .error r

/-- At the end of the text. -/
def finish (r : Reader) : Reader × Option SyntaxError :=
  match r.phase with
  | .done _ => (r, none)
  | .number read phase =>
    if NumberPhase.mayEnd phase then
      match endNumber? r.frames read with
      | none => (r, some .malformed)
      | some after => match after.phase with
        | .done _ => (after, none)
        | _ => (after, some .unfinished)
    else (r, some .unfinished)
  | _ => (r, some .unfinished)

/-- Reads a text as far as it goes. -/
def run : Reader → List Char → Reader × Option SyntaxError
  | r, [] => r.finish
  | r, c :: cs => match r.step c with
    | .ok next => run next cs
    | .error stuck => (stuck, some .malformed)

end Reader

/-- The containers and scalars of the outermost value that have been read. -/
inductive Outline
  /-- Nothing whole yet. -/
  | none
  | whole (value : Json)
  /-- An array that is still open: its whole items, and a next one if that is a
  container that has been opened. -/
  | array (items : List Json) (opened : Option Json)
  /-- An object that is still open: its whole entries, the key of the next one
  and its value if that is a container that has been opened. -/
  | object (entries : List (String × Json)) (key : Option String) (opened : Option Json)

/-- An empty value of the kind of an open container. -/
def Frame.kind : Frame → Json
  | .array _ => .array []
  | .object _ _ => .object []

/-- The outline of what a reader has read. -/
def Reader.outline (r : Reader) : Outline :=
  match r.phase, r.frames.reverse with
  | .done value, _ => .whole value
  | _, [] => .none
  | _, .array items :: inner => .array items.reverse (inner.head?.map Frame.kind)
  | _, .object entries key :: inner =>
    .object entries.reverse key (inner.head?.map Frame.kind)

/-- The outline of a text and what is wrong with the text, if anything. -/
def outline (text : String) : Outline × Option SyntaxError :=
  let (r, error) := Reader.start.run text.toList
  (r.outline, error)

/-- The value that a text writes. -/
def parse (text : String) : Except SyntaxError Json :=
  match outline text with
  | (_, some error) => .error error
  | (.whole value, none) => .ok value
  | (_, none) => .error .unfinished

end Ambient.Json
