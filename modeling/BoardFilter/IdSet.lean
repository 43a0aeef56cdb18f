/-!
# Sets of ids

A set of ids is kept as the ascending list of its members, so that two sets with the same members
are the same value.
-/

namespace BoardFilter

structure IdSet where
  toList : List Nat
  ascending : toList.Pairwise (· < ·)
deriving DecidableEq

namespace IdSet

def empty : IdSet := ⟨[], .nil⟩

instance : Inhabited IdSet := ⟨empty⟩

instance : Membership Nat IdSet := ⟨fun s i => i ∈ s.toList⟩

theorem mem_iff {i : Nat} {s : IdSet} : i ∈ s ↔ i ∈ s.toList := Iff.rfl

instance (i : Nat) (s : IdSet) : Decidable (i ∈ s) := inferInstanceAs (Decidable (i ∈ s.toList))

def place (i : Nat) : List Nat → List Nat
  | [] => [i]
  | j :: r => if i < j then i :: j :: r else if i = j then j :: r else j :: place i r

theorem mem_place {i k : Nat} {l : List Nat} : k ∈ place i l ↔ k = i ∨ k ∈ l := by
  induction l with
  | nil => simp [place]
  | cons j r ih => grind [place]

theorem ascending_place {i : Nat} {l : List Nat} (h : l.Pairwise (· < ·)) :
    (place i l).Pairwise (· < ·) := by
  induction l with
  | nil => simp [place]
  | cons j r ih =>
    have hr := List.pairwise_cons.1 h
    simp only [place]
    split
    · next hij =>
      refine List.pairwise_cons.2 ⟨fun k hk => ?_, h⟩
      rcases List.mem_cons.1 hk with rfl | hk
      · exact hij
      · exact Nat.lt_trans hij (hr.1 k hk)
    split
    · exact h
    · next hij hne =>
      refine List.pairwise_cons.2 ⟨fun k hk => ?_, ih hr.2⟩
      rcases mem_place.1 hk with rfl | hk
      · omega
      · exact hr.1 k hk

def insert (s : IdSet) (i : Nat) : IdSet := ⟨place i s.toList, ascending_place s.ascending⟩

def erase (s : IdSet) (i : Nat) : IdSet :=
  ⟨s.toList.filter (· ≠ i), s.ascending.filter _⟩

def size (s : IdSet) : Nat := s.toList.length

def dedup : List Nat → List Nat
  | i :: j :: r => if i = j then dedup (j :: r) else i :: dedup (j :: r)
  | r => r

theorem mem_dedup {k : Nat} {l : List Nat} : k ∈ dedup l ↔ k ∈ l := by
  fun_induction dedup l with
  | case1 i r ih => simp [ih]
  | case2 i j r h ih => simp [ih]
  | case3 r h => rfl

theorem ascending_dedup {l : List Nat} (h : l.Pairwise (· ≤ ·)) :
    (dedup l).Pairwise (· < ·) := by
  fun_induction dedup l with
  | case1 i r ih => exact ih (List.pairwise_cons.1 h).2
  | case2 i j r hne ih =>
    have hi := List.pairwise_cons.1 h
    have hj := List.pairwise_cons.1 hi.2
    refine List.pairwise_cons.2 ⟨fun k hk => ?_, ih hi.2⟩
    have hij := hi.1 j (by simp)
    rcases List.mem_cons.1 (mem_dedup.1 hk) with rfl | hk
    · omega
    · have := hj.1 k hk
      omega
  | case3 r h' =>
    match r, h' with
    | [], _ => simp
    | [_], _ => simp
    | i :: j :: r, h' => exact absurd rfl (h' i j r)

def ofList (l : List Nat) : IdSet :=
  ⟨dedup (l.mergeSort (· ≤ ·)), ascending_dedup <| by
    have h : (l.mergeSort (· ≤ ·)).Pairwise fun a b => decide (a ≤ b) = true :=
      List.pairwise_mergeSort
        (fun a b c hab hbc => by simp only [decide_eq_true_eq] at *; omega)
        (fun a b => by simp only [Bool.or_eq_true, decide_eq_true_eq]; omega) l
    exact h.imp fun hab => by simpa using hab⟩

@[simp] theorem not_mem_empty (i : Nat) : ¬ i ∈ empty := by simp [empty, mem_iff]

@[simp] theorem mem_insert {i k : Nat} {s : IdSet} : k ∈ s.insert i ↔ k = i ∨ k ∈ s := mem_place

@[simp] theorem mem_erase {i k : Nat} {s : IdSet} : k ∈ s.erase i ↔ k ≠ i ∧ k ∈ s := by
  simp [erase, mem_iff, and_comm]

@[simp] theorem mem_ofList {k : Nat} {l : List Nat} : k ∈ ofList l ↔ k ∈ l := by
  simp [ofList, mem_iff, mem_dedup]

theorem ext {s t : IdSet} (h : ∀ i, i ∈ s ↔ i ∈ t) : s = t := by
  obtain ⟨l, hl⟩ := s
  obtain ⟨m, hm⟩ := t
  have : l = m := by
    have hp : l.Perm m := (List.perm_ext_iff_of_nodup
      (hl.imp fun h => Nat.ne_of_lt h) (hm.imp fun h => Nat.ne_of_lt h)).2 h
    exact hp.eq_of_pairwise (fun a b _ _ hab hba => absurd hab (Nat.lt_asymm hba)) hl hm
  subst this
  rfl

end IdSet

end BoardFilter
