import ActorDirectory.Json.Value
import ActorDirectory.Text.Split

namespace ActorDirectory.Json

def escape (c : Char) : List Char :=
  if c = '"' then ['\\', '"']
  else if c = '\\' then ['\\', '\\']
  else if c = '\x08' then ['\\', 'b']
  else if c = '\x0c' then ['\\', 'f']
  else if c = '\n' then ['\\', 'n']
  else if c = '\r' then ['\\', 'r']
  else if c = '\t' then ['\\', 't']
  else if c.toNat < 0x20 then ['\\', 'u'] ++ Text.hexPadded 4 c.toNat
  else [c]

def renderText (text : List Char) : List Char :=
  '"' :: text.flatMap escape ++ ['"']

mutual

def render : Json → List Char
  | .null => "null".toList
  | .bool true => "true".toList
  | .bool false => "false".toList
  | .number literal => literal
  | .text value => renderText (value.getD "").toList
  | .array items => '[' :: Text.joined [','] (renderItems items) ++ [']']
  | .object fields => '{' :: Text.joined [','] (renderFields fields) ++ ['}']

def renderItems : List Json → List (List Char)
  | [] => []
  | item :: more => render item :: renderItems more

def renderFields : List (Option String × Json) → List (List Char)
  | [] => []
  | (name, value) :: more =>
    (renderText (name.getD "").toList ++ ':' :: render value) :: renderFields more

end

def toText (json : Json) : String := String.ofList json.render

end ActorDirectory.Json
