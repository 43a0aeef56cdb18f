import BoardFilter.Json.Basic
import BoardFilter.Json.Text
import BoardFilter.Number.Shortest

/-!
# Writing JSON

A document is written over several lines, every item and field on a line of its own and two spaces
deeper than what holds it.
-/

namespace BoardFilter.Json

def newline (level : Nat) : List Char := '\n' :: List.replicate (2 * level) ' '

def writeFloat (x : Binary64) : List Char :=
  if x.isNaN || x.isInfinite then "null".toList else (NumeralStyle.document.write x).toList

def separator {α : Type} (after : List α) : List Char := if after.isEmpty then [] else [',']

mutual

def writeAt (level : Nat) : Json → List Char
  | null => "null".toList
  | bool b => (if b then "true" else "false").toList
  | int n => (toString n).toList
  | float x => writeFloat x
  | text s => quoted s.toList
  | array [] => ['[', ']']
  | array (v :: vs) => '[' :: (writeItems (level + 1) (v :: vs) ++ newline level ++ [']'])
  | object [] => ['{', '}']
  | object (f :: fs) => '{' :: (writeFields (level + 1) (f :: fs) ++ newline level ++ ['}'])

def writeItems (level : Nat) : List Json → List Char
  | [] => []
  | v :: vs => newline level ++ writeAt level v ++ separator vs ++ writeItems level vs

def writeFields (level : Nat) : List (String × Json) → List Char
  | [] => []
  | (name, v) :: fs =>
    newline level ++ quoted name.toList ++ ':' :: ' ' :: writeAt level v ++ separator fs ++
      writeFields level fs

end

def pretty (v : Json) : String := String.ofList (writeAt 0 v)

end BoardFilter.Json
