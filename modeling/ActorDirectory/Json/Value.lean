import ActorDirectory.Text.Numeral

namespace ActorDirectory

-- A JSON document. A text is absent where its escapes name no character: such a text may be
-- passed over but not used. Fields keep their order and their repetitions; a number is the
-- literal that was written.
inductive Json where
  | null
  | bool (value : Bool)
  | number (literal : List Char)
  | text (value : Option String)
  | array (items : List Json)
  | object (fields : List (Option String × Json))

namespace Json

def ofText (value : String) : Json := .text (some value)

def ofNat (n : Nat) : Json := .number (Text.decimal n)

def ofFields (fields : List (String × Json)) : Json :=
  .object (fields.map fun field => (some field.1, field.2))

def text? : Json → Option String
  | .text value => value
  | _ => none

def natural? (bound : Nat) : Json → Option Nat
  | .number literal => do
    let value := Text.valueOf 10 (← Text.digitsOf Text.decimalDigit? literal)
    if value < bound then some value else none
  | _ => none

-- The values of exactly these fields: from an object in any order, other fields passed over,
-- none of these absent or repeated; or from an array that holds them in order.
def members? (names : List String) : Json → Option (List Json)
  | .array items => if items.length = names.length then some items else none
  | .object fields => do
    let named ← fields.mapM fun field => field.1.map fun name => (name, field.2)
    names.mapM fun name =>
      match named.filter (·.1 = name) with
      | [field] => some field.2
      | _ => none
  | _ => none

def name? : Json → Option String
  | .text value => value
  | .object [(name, .null)] => name
  | _ => none

end Json
end ActorDirectory
