import BoardFilter.Clause.Basic
import BoardFilter.Number.Decimal

/-!
# Reading clauses

A token is read as marks, the spelling of a field, an operator and a literal. Reading never fails:
what has no known spelling is a tag, and a literal that means nothing for its field is kept as
unusable.
-/

namespace BoardFilter

namespace Clause

def rangeMark : String := "..."

def rangeParts (literal : List Char) : List (List Char) := Text.splitAtLead rangeMark literal

/-- Splits an operator from a literal; a literal with a range mark is taken whole. -/
def splitComparison (s : List Char) : Comparison × List Char :=
  if 1 < (rangeParts s).length then (.range, s)
  else
    match Comparison.operators.findSome? fun o => (Text.dropLead? o.1 s).map (o.2, ·) with
    | some found => found
    | none => (.equals, s)

def number? (s : List Char) : Option Binary64 :=
  match Binary64.ofText? (Text.trimmed s) with
  | some x => if x.isNaN then none else some x
  | none => none

def sizeUnits : List (String × Nat) :=
  [("gb", 1024 * 1024 * 1024), ("mb", 1024 * 1024), ("kb", 1024), ("b", 1)]

/-- A number of bytes, written with or without a unit and rounded to a whole number. -/
def size? (s : List Char) : Option Binary64 :=
  let s := Text.trimmed s
  let (digits, unit) :=
    match sizeUnits.findSome? fun u => (Text.dropTail? u.1 s).map (·, u.2) with
    | some found => found
    | none => (s, 1)
  (number? digits).map fun x => (x.mul (.ofNat unit)).round

def toHundredths (x : Binary64) : Binary64 := (x.mul (.ofNat 100)).round.div (.ofNat 100)

/-- A ratio, written as a number or as width, colon and height; only the latter is rounded. -/
def ratio? (s : List Char) : Option Binary64 :=
  match s.span (· ≠ ':') with
  | (w, ':' :: h) =>
    match number? w, number? h with
    | some w, some h => if h.same (.ofNat 0) then none else some (toHundredths (w.div h))
    | _, _ => none
  | _ => number? s

def numberOf? : Field → List Char → Option Binary64
  | .fileSize => size?
  | .aspectRatio => ratio?
  | _ => number?

def range? (read : List Char → Option Binary64) (s : List Char) : Option Operand :=
  match rangeParts s with
  | [a, b] =>
    match read a, read b with
    | some a, some b => some (.range (a.min b) (a.max b))
    | _, _ => none
  | _ => none

def truth? (s : String) : Option Bool :=
  match s with
  | "true" | "yes" => some true
  | "false" | "no" => some false
  | _ => none

def numeric? (field : Field) (comparison : Comparison) (literal : List Char) : Option Operand :=
  if comparison = .range then range? (numberOf? field) literal
  else (numberOf? field literal).map .number

def operandOf (field : Field) (comparison : Comparison) (literal : List Char) : Operand :=
  let text := String.ofList literal
  match field with
  | .tag => if literal.contains '*' then .pattern literal else .tag text
  | .rating =>
    match Rating.ofText text with
    | .unknown => .unusable
    | r => .rating r
  | .fileType =>
    match Extension.ofText text with
    | .unknown => .unusable
    | e => .fileType e
  | .status => .word text
  | .favorited | .hasParent | .hasChild =>
    match truth? text with
    | some b => .truth b
    | none => .unusable
  | .approver =>
    if text = "none" ∨ text = "any" then .word text
    else (numeric? field comparison literal).getD .unusable
  | .uploader => (numeric? field comparison literal).getD (.word text)
  | _ => (numeric? field comparison literal).getD .unusable

def rawOf (field : Field) (literal : List Char) : Operand → String
  | .truth b => if b then "true" else "false"
  | .number x =>
    if field = .fileSize then NumeralStyle.plain.write x else String.ofList literal
  | .range low high =>
    if field = .fileSize then
      NumeralStyle.plain.write low ++ rangeMark ++ NumeralStyle.plain.write high
    else String.ofList literal
  | _ => String.ofList literal

def build (field : Field) (comparison : Comparison) (literal : List Char)
    (inverted optional : Bool) : Clause :=
  let operand := operandOf field comparison literal
  { field, comparison, raw := rawOf field literal operand, operand, inverted, optional }

def splitFor (field : Field) (s : List Char) : Comparison × List Char :=
  if field = .tag then (.equals, s) else splitComparison s

def takeMark (mark : Char) : List Char → Bool × List Char
  | c :: r => if c = mark then (true, r) else (false, c :: r)
  | [] => (false, [])

def parse (token : String) : Clause :=
  let (optional, s) := takeMark '~' (Text.trimmed token.toList)
  let (inverted, s) := takeMark '-' s
  let (field, s) := (Field.ofLead? s).getD (.tag, s)
  let (comparison, literal) := splitFor field s
  build field comparison literal inverted optional

def excluding (field : Field) (literal : String) : Clause :=
  let (comparison, literal) := splitFor field literal.toList
  build field comparison literal true false

end Clause

end BoardFilter
