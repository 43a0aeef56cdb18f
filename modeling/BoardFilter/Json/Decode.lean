import BoardFilter.Json.Basic

/-!
# Reading typed values out of JSON

A reader of a type answers nothing for a value of another shape. A record is written as an object
with its fields in any order and unknown ones ignored, or as the array of its fields in the order
of their declaration.
-/

namespace BoardFilter.Json

def asBool? : Json → Option Bool
  | bool b => some b
  | _ => none

def asText? : Json → Option String
  | text s => some s
  | _ => none

def asNatBelow? (limit : Nat) : Json → Option (Fin limit)
  | int n => if h : 0 ≤ n ∧ n < limit then some ⟨n.toNat, by omega⟩ else none
  | _ => none

abbrev Word := Fin 0x10000000000000000

abbrev HalfWord := Fin 0x100000000

abbrev SignedWord := { n : Int // -0x8000000000000000 ≤ n ∧ n < 0x8000000000000000 }

theorem Word.lt (n : Word) : n.val < 0x10000000000000000 := n.isLt

theorem Word.lt_of_mem (o : Option Word) : ∀ n ∈ o.map (·.val), n < 0x10000000000000000 := by
  rintro n h
  obtain ⟨w, -, rfl⟩ := Option.map_eq_some_iff.1 h
  exact w.isLt

theorem HalfWord.lt (n : HalfWord) : n.val < 0x100000000 := n.isLt

theorem SignedWord.bounds (n : SignedWord) :
    -0x8000000000000000 ≤ n.val ∧ n.val < 0x8000000000000000 := n.property

theorem SignedWord.zero_bounds :
    -0x8000000000000000 ≤ (0 : Int) ∧ (0 : Int) < 0x8000000000000000 := by decide

def SignedWord.zero : SignedWord := ⟨0, zero_bounds⟩

def asWord? : Json → Option Word := asNatBelow? _

def asHalfWord? : Json → Option HalfWord := asNatBelow? _

def asSigned? : Json → Option SignedWord
  | int n => if h : -0x8000000000000000 ≤ n ∧ n < 0x8000000000000000 then some ⟨n, h⟩ else none
  | _ => none

def asFloat? : Json → Option Binary64
  | int n => some (.ofInt n)
  | float x => some x
  | _ => none

def asList? {α : Type} (item : Json → Option α) : Json → Option (List α)
  | array items => items.mapM item
  | _ => none

def asNullable? {α : Type} (value : Json → Option α) : Json → Option (Option α)
  | null => some none
  | v => (value v).map some

/-- The name of a choice without contents: a text, or an object with that one name and null. -/
def asChoice? : Json → Option String
  | text s => some s
  | object [(name, null)] => some name
  | _ => none

def slots? (names : List String) : Json → Option (List (Option Json))
  | object fields => some (names.map fun n => lookup n fields)
  | array items =>
    if items.length ≤ names.length then
      some (items.map some ++ List.replicate (names.length - items.length) none)
    else none
  | _ => none

/-- The values of the named fields of a record whose array form must be complete. -/
def fullSlots? (names : List String) (v : Json) : Option (List (Option Json)) :=
  match v with
  | array items => if items.length = names.length then some (items.map some) else none
  | v => slots? names v

def required? {α : Type} (read : Json → Option α) : Option Json → Option α
  | some v => read v
  | none => none

def withDefault? {α : Type} (default : α) (read : Json → Option α) : Option Json → Option α
  | some v => read v
  | none => some default

theorem mapM_eq_some_iff {α β : Type} {f : α → Option β} {l : List α} {r : List β} :
    l.mapM f = some r ↔ l.map f = r.map some := by
  induction l generalizing r with
  | nil => cases r <;> simp
  | cons a rest ih =>
    cases r with
    | nil => simp [Option.bind_eq_some_iff]
    | cons b r =>
      rw [List.map_cons, List.map_cons, List.cons.injEq, ← ih]
      simp [Option.bind_eq_some_iff]

theorem asList?_eq_some_iff {α : Type} {item : Json → Option α} {v : Json} {l : List α} :
    asList? item v = some l ↔ ∃ items, v = array items ∧ items.map item = l.map some := by
  cases v with
  | array items => simp [asList?, mapM_eq_some_iff]
  | _ => simp [asList?]

theorem asNatBelow?_eq_some_iff {limit : Nat} {v : Json} {n : Fin limit} :
    asNatBelow? limit v = some n ↔ v = nat n := by
  cases v with
  | int i =>
    have := n.isLt
    simp only [asNatBelow?, nat, Option.dite_none_right_eq_some, Option.some.injEq, Fin.ext_iff,
      Json.int.injEq, exists_prop]
    omega
  | _ => simp [asNatBelow?, nat]

end BoardFilter.Json
