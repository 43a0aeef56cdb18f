import BoardFilter.Number.Binary64

/-!
# TOML values

A document is a tree of tables. How a table came to be decides whether later lines may add to it, so
every table tells its origin.
-/

namespace BoardFilter

/-- How a table came to be: as a value, by its own header, on the way of another header, or on the
way of a dotted key. -/
inductive Toml.Origin where
  | value
  | header
  | passage
  | dotted
deriving DecidableEq, Repr, Inhabited

inductive Toml where
  | text (s : String)
  | int (n : Int)
  | float (x : Binary64)
  | bool (b : Bool)
  | moment (s : String)
  | array (items : List Toml)
  | table (origin : Toml.Origin) (fields : List (String × Toml))
  | tables (items : List (List (String × Toml)))
deriving Inhabited

namespace Toml

abbrev Fields := List (String × Toml)

def lookup (name : String) (fields : Fields) : Option Toml :=
  (fields.find? fun f => f.1 = name).map (·.2)

def update (name : String) (f : Option Toml → Option Toml) : Fields → Option Fields
  | [] => (f none).map fun v => [(name, v)]
  | (n, v) :: rest =>
    if n = name then (f (some v)).map fun v => (n, v) :: rest
    else (update name f rest).map ((n, v) :: ·)

/-- Changes a table on the path of a header. Of an array of tables the last one is meant; what is
written as a value cannot be entered. -/
def within : List String → (Fields → Option Fields) → Fields → Option Fields
  | [], f, fields => f fields
  | name :: path, f, fields =>
    fields |> update name fun
      | none => (within path f []).map (table .passage)
      | some (table .value _) => none
      | some (table origin inner) => (within path f inner).map (table origin)
      | some (tables (last :: earlier)) => (within path f last).map fun l => tables (l :: earlier)
      | some _ => none

/-- Gives a value to a dotted key. The table that gets the value must be one that dotted keys have
made. -/
def insert : List String → Toml → Fields → Option Fields
  | [], _, _ => none
  | [name], v, fields =>
    fields |> update name fun
      | none => some v
      | some _ => none
  | name :: next :: path, v, fields =>
    fields |> update name fun
      | none => (insert (next :: path) v []).map (table .dotted)
      | some (table .dotted inner) => (insert (next :: path) v inner).map (table .dotted)
      | some (table .passage inner) =>
        if path.isEmpty then none else (insert (next :: path) v inner).map (table .passage)
      | some (tables (last :: earlier)) =>
        if path.isEmpty then none
        else (insert (next :: path) v last).map fun l => tables (l :: earlier)
      | some _ => none

def openTable (name : String) : Fields → Option Fields :=
  update name fun
    | none => some (table .header [])
    | some (table .passage inner) => some (table .header inner)
    | some _ => none

def openItem (name : String) : Fields → Option Fields :=
  update name fun
    | none => some (tables [[]])
    | some (tables items) => some (tables ([] :: items))
    | some _ => none

end Toml

end BoardFilter
