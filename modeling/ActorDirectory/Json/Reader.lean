import ActorDirectory.Json.Value

namespace ActorDirectory.Json

def isBlank (c : Char) : Bool := c = ' ' ∨ c = '\n' ∨ c = '\t' ∨ c = '\r'

def skipBlank (source : List Char) : List Char := source.dropWhile isBlank

def codeUnit? (a b c d : Char) : Option Nat := do
  some (Text.valueOf 16 [← Text.hexDigit? a, ← Text.hexDigit? b, ← Text.hexDigit? c,
    ← Text.hexDigit? d])

def escaped? : Char → Option Char
  | '"' => some '"'
  | '\\' => some '\\'
  | '/' => some '/'
  | 'b' => some '\x08'
  | 'f' => some '\x0c'
  | 'n' => some '\n'
  | 'r' => some '\r'
  | 't' => some '\t'
  | _ => none

def isLeading (unit : Nat) : Bool := 0xD800 ≤ unit ∧ unit < 0xDC00

def isTrailing (unit : Nat) : Bool := 0xDC00 ≤ unit ∧ unit < 0xE000

def paired (leading trailing : Nat) : Char :=
  Char.ofNat (0x10000 + (leading - 0xD800) * 0x400 + (trailing - 0xDC00))

inductive Piece where
  | plain (c : Char)
  | unit (value : Nat)

-- The pieces of a quoted text up to its closing quote, and what follows it. A bare control
-- character or an unknown escape is no text.
def pieces? : List Char → Option (List Piece × List Char)
  | [] => none
  | '"' :: rest => some ([], rest)
  | '\\' :: 'u' :: a :: b :: c :: d :: rest =>
    match codeUnit? a b c d with
    | none => none
    | some unit => (pieces? rest).map fun read => (.unit unit :: read.1, read.2)
  | '\\' :: c :: rest =>
    match escaped? c with
    | none => none
    | some plain => (pieces? rest).map fun read => (.plain plain :: read.1, read.2)
  | c :: rest =>
    if c.toNat < 0x20 then none
    else (pieces? rest).map fun read => (.plain c :: read.1, read.2)

def characters? : List Piece → Option (List Char)
  | [] => some []
  | .plain c :: more => (characters? more).map (c :: ·)
  | .unit unit :: more =>
    if isLeading unit then
      match more with
      | .unit next :: more =>
        if isTrailing next then (characters? more).map (paired unit next :: ·) else none
      | _ => none
    else if isTrailing unit then none
    else (characters? more).map (Char.ofNat unit :: ·)

def quoted? (source : List Char) : Option (Option String × List Char) :=
  (pieces? source).map fun read => ((characters? read.1).map String.ofList, read.2)

def digitRun (source : List Char) : List Char × List Char :=
  (source.takeWhile Char.isDigit, source.dropWhile Char.isDigit)

def whole? (source : List Char) : Option (List Char × List Char) :=
  let (digits, rest) := digitRun source
  match digits with
  | [] => none
  | '0' :: _ :: _ => none
  | _ => some (digits, rest)

def fraction? (source : List Char) : Option (List Char × List Char) :=
  match source with
  | '.' :: rest =>
    let (digits, rest) := digitRun rest
    if digits = [] then none else some ('.' :: digits, rest)
  | _ => some ([], source)

def sign (source : List Char) : List Char × List Char :=
  match source with
  | '+' :: rest => (['+'], rest)
  | '-' :: rest => (['-'], rest)
  | _ => ([], source)

def exponent? (source : List Char) : Option (List Char × List Char) :=
  match source with
  | c :: rest =>
    if c = 'e' ∨ c = 'E' then
      let (mark, rest) := sign rest
      let (digits, rest) := digitRun rest
      if digits = [] then none else some (c :: mark ++ digits, rest)
    else some ([], source)
  | [] => some ([], source)

def number? (source : List Char) : Option (Json × List Char) := do
  let (minus, rest) := match source with | '-' :: rest => (['-'], rest) | _ => ([], source)
  let (whole, rest) ← whole? rest
  let (fraction, rest) ← fraction? rest
  let (exponent, rest) ← exponent? rest
  some (.number (minus ++ whole ++ fraction ++ exponent), rest)

mutual

-- One value and what follows it. The fuel bounds the nesting.
def value? : Nat → List Char → Option (Json × List Char)
  | 0, _ => none
  | fuel + 1, source =>
    match skipBlank source with
    | 'n' :: 'u' :: 'l' :: 'l' :: rest => some (.null, rest)
    | 't' :: 'r' :: 'u' :: 'e' :: rest => some (.bool true, rest)
    | 'f' :: 'a' :: 'l' :: 's' :: 'e' :: rest => some (.bool false, rest)
    | '"' :: rest => (quoted? rest).map fun read => (.text read.1, read.2)
    | '[' :: rest =>
      match skipBlank rest with
      | ']' :: rest => some (.array [], rest)
      | rest => (items? fuel rest).map fun read => (.array read.1, read.2)
    | '{' :: rest =>
      match skipBlank rest with
      | '}' :: rest => some (.object [], rest)
      | rest => (fields? fuel rest).map fun read => (.object read.1, read.2)
    | rest => number? rest

def items? : Nat → List Char → Option (List Json × List Char)
  | 0, _ => none
  | fuel + 1, source =>
    match value? fuel source with
    | none => none
    | some (item, rest) =>
      match skipBlank rest with
      | ',' :: rest => (items? fuel rest).map fun read => (item :: read.1, read.2)
      | ']' :: rest => some ([item], rest)
      | _ => none

def fields? : Nat → List Char → Option (List (Option String × Json) × List Char)
  | 0, _ => none
  | fuel + 1, source =>
    match skipBlank source with
    | '"' :: rest =>
      match quoted? rest with
      | none => none
      | some (name, rest) =>
        match skipBlank rest with
        | ':' :: rest =>
          match value? fuel rest with
          | none => none
          | some (value, rest) =>
            match skipBlank rest with
            | ',' :: rest => (fields? fuel rest).map fun read => ((name, value) :: read.1, read.2)
            | '}' :: rest => some ([(name, value)], rest)
            | _ => none
        | _ => none
    | _ => none

end

def parse? (source : String) : Option Json :=
  match value? (2 * source.length + 2) source.toList with
  | some (value, rest) => if skipBlank rest = [] then some value else none
  | none => none

end ActorDirectory.Json
