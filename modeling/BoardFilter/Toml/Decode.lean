import BoardFilter.Toml.Basic

/-!
# Reading typed values out of TOML

A record is a table with its fields in any order and unknown ones ignored, or an array of its
leading fields in the order of their declaration. A moment has none of the fields of a record.
-/

namespace BoardFilter.Toml

def asBool? : Toml → Option Bool
  | bool b => some b
  | _ => none

def asText? : Toml → Option String
  | text s => some s
  | _ => none

def asNat? : Toml → Option Nat
  | int n => if 0 ≤ n then some n.toNat else none
  | _ => none

def asTexts? : Toml → Option (List String)
  | array items => items.mapM asText?
  | _ => none

def places (count : Nat) (items : List Toml) : List (Option Toml) :=
  (List.range count).map fun k => items[k]?

def slots? (names : List String) : Toml → Option (List (Option Toml))
  | table _ fields => some (names.map fun n => lookup n fields)
  | array items => some (places names.length items)
  | tables items => some (places names.length (items.reverse.map (table .header)))
  | moment _ => some (names.map fun _ => none)
  | _ => none

def field? {α : Type} (default : α) (read : Toml → Option α) : Option Toml → Option α
  | some v => read v
  | none => some default

end BoardFilter.Toml
