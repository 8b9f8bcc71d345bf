import ActorDirectory.Text.Numeral

namespace ActorDirectory
open Text

-- The tag of a directory entry. Zero says that the holder knows no tag.
structure Version where
  number : UInt64
  deriving DecidableEq, Repr

namespace Version

def unknown : Version := ⟨0⟩

def next (version : Version) : Version := ⟨version.number + 1⟩

def withoutMark : List Char → List Char
  | 'W' :: '/' :: rest => rest
  | text => text

def withoutQuotes (text : List Char) : List Char :=
  match text with
  | '"' :: rest =>
    match rest.getLast? with
    | some '"' => rest.dropLast
    | _ => text
  | _ => text

-- A weak or quoted e-tag counts by its number; anything else is the unknown version.
def ofEtag (etag : String) : Version :=
  match unsigned? UInt64.size (withoutQuotes (withoutMark etag.toList)) with
  | some n => ⟨UInt64.ofNat n⟩
  | none => unknown

def toEtag (version : Version) : String :=
  if version = unknown then "" else String.ofList (decimal version.number.toNat)

def toText (version : Version) : String :=
  "v" ++ String.ofList (decimal version.number.toNat)

end Version
end ActorDirectory
