import BoardFilter.Number.Binary64

/-!
# JSON values

Numbers are whole numbers or binary64 numbers, and the two are never confused. The fields of an
object are gathered in ascending order of their names, each name once.
-/

namespace BoardFilter

inductive Json where
  | null
  | bool (b : Bool)
  | int (n : Int)
  | float (x : Binary64)
  | text (s : String)
  | array (items : List Json)
  | object (fields : List (String × Json))
deriving Inhabited

namespace Json

/-- A text is no JSON, or JSON of another shape than the one that was asked for. -/
inductive Fault where
  | malformed
  | misshapen
deriving DecidableEq, Repr

def putField (name : String) (value : Json) : List (String × Json) → List (String × Json)
  | [] => [(name, value)]
  | (n, v) :: rest =>
    if name < n then (name, value) :: (n, v) :: rest
    else if name = n then (name, value) :: rest
    else (n, v) :: putField name value rest

def lookup (name : String) (fields : List (String × Json)) : Option Json :=
  (fields.find? fun f => f.1 = name).map (·.2)

def field? (name : String) : Json → Option Json
  | object fields => lookup name fields
  | _ => none

def nat (n : Nat) : Json := int n

def texts (l : List String) : Json := array (l.map text)

theorem lookup_putField_self (name : String) (value : Json) (fields : List (String × Json)) :
    lookup name (putField name value fields) = some value := by
  induction fields with
  | nil => simp [putField, lookup]
  | cons f rest ih =>
    obtain ⟨n, v⟩ := f
    simp only [putField]
    split
    · simp [lookup]
    split
    · simp [lookup]
    · next h =>
      have hn : ¬ n = name := fun e => h e.symm
      simpa [lookup, hn] using ih

theorem lookup_putField_of_ne {name other : String} (h : other ≠ name) (value : Json)
    (fields : List (String × Json)) :
    lookup other (putField name value fields) = lookup other fields := by
  have h' : ¬ name = other := fun e => h e.symm
  induction fields with
  | nil => simp [putField, lookup, h']
  | cons f rest ih =>
    obtain ⟨n, v⟩ := f
    simp only [putField]
    split
    · simp [lookup, List.find?_cons, h']
    split
    · next hn => subst hn; simp [lookup, h']
    · by_cases hn : n = other
      · simp [lookup, hn]
      · simpa [lookup, hn] using ih

theorem of_mem_putField {name : String} {value : Json} {fields : List (String × Json)}
    {f : String × Json} (h : f ∈ putField name value fields) : f = (name, value) ∨ f ∈ fields := by
  induction fields with
  | nil => exact .inl (List.mem_singleton.1 h)
  | cons g rest ih =>
    rw [putField] at h
    split at h
    · exact List.mem_cons.1 h
    split at h
    · exact (List.mem_cons.1 h).imp_right (List.mem_cons_of_mem g)
    · rcases List.mem_cons.1 h with rfl | h
      · exact .inr List.mem_cons_self
      · exact (ih h).imp_right (List.mem_cons_of_mem g)

theorem pairwise_putField {name : String} {value : Json} {fields : List (String × Json)}
    (h : fields.Pairwise (·.1 < ·.1)) : (putField name value fields).Pairwise (·.1 < ·.1) := by
  induction fields with
  | nil => exact List.pairwise_singleton _ _
  | cons g rest ih =>
    obtain ⟨hg, hrest⟩ := List.pairwise_cons.1 h
    rw [putField]
    split
    · next hlt =>
      refine List.pairwise_cons.2 ⟨fun f hf => ?_, h⟩
      rcases List.mem_cons.1 hf with rfl | hf
      · exact hlt
      · exact String.lt_trans hlt (hg f hf)
    split
    · next heq => exact List.pairwise_cons.2 ⟨fun f hf => heq ▸ hg f hf, hrest⟩
    · next hnlt hne =>
      refine List.pairwise_cons.2 ⟨fun f hf => ?_, ih hrest⟩
      rcases of_mem_putField hf with rfl | hf
      · exact Std.lt_of_le_of_ne (String.not_lt.1 hnlt) fun heq => hne heq.symm
      · exact hg f hf

@[ext]
structure Fields where
  toList : List (String × Json)
  ascending : toList.Pairwise (·.1 < ·.1)

namespace Fields

def empty : Fields := ⟨[], .nil⟩

instance : Inhabited Fields := ⟨empty⟩

def put (name : String) (value : Json) (fields : Fields) : Fields :=
  ⟨putField name value fields.toList, pairwise_putField fields.ascending⟩

def ofList (fields : List (String × Json)) : Fields :=
  fields.foldl (fun done f => done.put f.1 f.2) empty

def lookup (name : String) (fields : Fields) : Option Json := Json.lookup name fields.toList

def toJson (fields : Fields) : Json := object fields.toList

end Fields

/-- The object with the given fields; of two with one name the later one stays. -/
def ofFields (fields : List (String × Json)) : Json := (Fields.ofList fields).toJson

end Json

end BoardFilter
