-- A finite map kept as the list of its pairs in strictly ascending key order. The order is part
-- of the type: two maps with the same lookups are the same map, whatever was written first
-- (`Keyed.ext_find?`), and the pairs come out sorted without a sorting step.

namespace Custody

structure Keyed (κ ν : Type) [Ord κ] where
  pairs : List (κ × ν)
  ascending : pairs.Pairwise (fun a b => compare a.1 b.1 = .lt)

namespace Keyed

variable {κ ν : Type} [Ord κ]

def lookup (k : κ) : List (κ × ν) → Option ν
  | [] => none
  | p :: rest => if compare k p.1 = .eq then some p.2 else lookup k rest

def place (k : κ) (v : ν) : List (κ × ν) → List (κ × ν)
  | [] => [(k,v)]
  | p :: rest =>
    match compare k p.1 with
    | .lt => (k,v) :: p :: rest
    | .eq => (k,v) :: rest
    | .gt => p :: place k v rest

theorem mem_place (k : κ) (v : ν) (pairs : List (κ × ν)) (q : κ × ν)
    (member : q ∈ place k v pairs) : q = (k,v) ∨ q ∈ pairs := by
  induction pairs with
  | nil => exact Or.inl (List.mem_singleton.mp member)
  | cons p rest ih =>
    unfold place at member
    split at member
    · rcases List.mem_cons.mp member with h | h
      · exact Or.inl h
      · exact Or.inr h
    · rcases List.mem_cons.mp member with h | h
      · exact Or.inl h
      · exact Or.inr (List.mem_cons_of_mem _ h)
    · rcases List.mem_cons.mp member with h | h
      · exact Or.inr (h ▸ List.mem_cons_self)
      · exact (ih h).imp_right (List.mem_cons_of_mem _)

variable [Std.TransOrd κ]

theorem not_below_self (k : κ) : compare k k ≠ .lt := by
  rw [(Std.ReflCmp.compare_self : compare k k = .eq)]; exact nofun

theorem place_ascending (k : κ) (v : ν) (pairs : List (κ × ν))
    (ascending : pairs.Pairwise (fun a b => compare a.1 b.1 = .lt)) :
    (place k v pairs).Pairwise (fun a b => compare a.1 b.1 = .lt) := by
  induction pairs with
  | nil => exact List.pairwise_singleton _ _
  | cons p rest ih =>
    obtain ⟨above,later⟩ := List.pairwise_cons.mp ascending
    unfold place
    split
    · rename_i before
      refine List.pairwise_cons.mpr ⟨fun q member => ?_,ascending⟩
      rcases List.mem_cons.mp member with rfl | h
      · exact before
      · exact Std.TransCmp.lt_trans before (above q h)
    · rename_i same
      refine List.pairwise_cons.mpr ⟨fun q member => ?_,later⟩
      exact Std.TransCmp.lt_of_eq_of_lt same (above q member)
    · rename_i after
      refine List.pairwise_cons.mpr ⟨fun q member => ?_,ih later⟩
      rcases mem_place k v rest q member with rfl | h
      · exact Std.OrientedCmp.lt_of_gt after
      · exact above q h

variable [Std.LawfulEqOrd κ]

theorem lookup_place (k k' : κ) (v : ν) (pairs : List (κ × ν))
    (ascending : pairs.Pairwise (fun a b => compare a.1 b.1 = .lt)) :
    lookup k' (place k v pairs) = if compare k' k = .eq then some v else lookup k' pairs := by
  induction pairs with
  | nil => rfl
  | cons p rest ih =>
    obtain ⟨_,later⟩ := List.pairwise_cons.mp ascending
    unfold place
    split
    · rfl
    · rename_i same
      have eq := Std.LawfulEqCmp.eq_of_compare same
      subst eq
      simp only [lookup]
      split <;> rfl
    · rename_i after
      simp only [lookup,ih later]
      by_cases here : compare k' p.1 = .eq
      · have eq := Std.LawfulEqCmp.eq_of_compare here
        subst eq
        have other : compare p.1 k ≠ .eq := by
          rw [Std.OrientedCmp.lt_of_gt after]; exact nofun
        simp [other]
      · simp [here]

def empty : Keyed κ ν := ⟨[],List.Pairwise.nil⟩

instance : Inhabited (Keyed κ ν) := ⟨empty⟩

def find? (m : Keyed κ ν) (k : κ) : Option ν := lookup k m.pairs

def insert (m : Keyed κ ν) (k : κ) (v : ν) : Keyed κ ν :=
  ⟨place k v m.pairs,place_ascending k v m.pairs m.ascending⟩

def erase (m : Keyed κ ν) (k : κ) : Keyed κ ν :=
  ⟨m.pairs.filter (fun p => compare k p.1 ≠ .eq),m.ascending.filter _⟩

def values (m : Keyed κ ν) : List ν := m.pairs.map (·.2)

def keys (m : Keyed κ ν) : List κ := m.pairs.map (·.1)

def size (m : Keyed κ ν) : Nat := m.pairs.length

def contains (m : Keyed κ ν) (k : κ) : Bool := (m.find? k).isSome

omit [Std.TransOrd κ] [Std.LawfulEqOrd κ] in
@[simp] theorem find?_empty (k : κ) : (empty : Keyed κ ν).find? k = none := rfl

theorem find?_insert (m : Keyed κ ν) (k k' : κ) (v : ν) :
    (m.insert k v).find? k' = if compare k' k = .eq then some v else m.find? k' :=
  lookup_place k k' v m.pairs m.ascending

@[simp] theorem find?_insert_self (m : Keyed κ ν) (k : κ) (v : ν) :
    (m.insert k v).find? k = some v := by
  rw [find?_insert,if_pos Std.ReflCmp.compare_self]

theorem find?_insert_other (m : Keyed κ ν) (k k' : κ) (v : ν) (other : k' ≠ k) :
    (m.insert k v).find? k' = m.find? k' := by
  rw [find?_insert,if_neg fun same => other (Std.LawfulEqCmp.eq_of_compare same)]

theorem find?_insert_if [DecidableEq κ] (m : Keyed κ ν) (k k' : κ) (v : ν) :
    (m.insert k v).find? k' = if k' = k then some v else m.find? k' := by
  by_cases same : k' = k
  · rw [if_pos same,same,find?_insert_self]
  · rw [if_neg same,find?_insert_other _ _ _ _ same]

theorem mem_pairs_iff (m : Keyed κ ν) (k : κ) (v : ν) : (k,v) ∈ m.pairs ↔ m.find? k = some v := by
  obtain ⟨pairs,ascending⟩ := m
  show (k,v) ∈ pairs ↔ lookup k pairs = some v
  induction pairs with
  | nil => simp [lookup]
  | cons p rest ih =>
    obtain ⟨above,later⟩ := List.pairwise_cons.mp ascending
    by_cases same : compare k p.1 = .eq
    · have eq := Std.LawfulEqCmp.eq_of_compare same
      subst eq
      simp only [lookup,same,if_true,List.mem_cons,Option.some.injEq]
      constructor
      · rintro (h | h)
        · rw [← h]
        · exact absurd (above _ h) (not_below_self p.1)
      · rintro rfl; exact Or.inl rfl
    · simp only [lookup,same,if_false,List.mem_cons]
      rw [← ih later]
      refine ⟨fun h => h.resolve_left ?_,Or.inr⟩
      rintro rfl
      exact same Std.ReflCmp.compare_self

theorem mem_values_iff (m : Keyed κ ν) (v : ν) : v ∈ m.values ↔ ∃ k, m.find? k = some v := by
  simp [values,← mem_pairs_iff]

omit [Std.LawfulEqOrd κ] in
theorem keys_nodup (m : Keyed κ ν) : m.keys.Nodup := by
  refine List.pairwise_map.mpr (m.ascending.imp fun before same => ?_)
  rw [same] at before
  exact not_below_self _ before

omit [Std.LawfulEqOrd κ] in
theorem pairs_ext (a b : List (κ × ν))
    (ha : a.Pairwise (fun x y => compare x.1 y.1 = .lt))
    (hb : b.Pairwise (fun x y => compare x.1 y.1 = .lt))
    (same : ∀ q, q ∈ a ↔ q ∈ b) : a = b := by
  induction a generalizing b with
  | nil =>
    cases b with
    | nil => rfl
    | cons q rest => exact nomatch (same q).mpr List.mem_cons_self
  | cons p left ih =>
    cases b with
    | nil => exact nomatch (same p).mp List.mem_cons_self
    | cons q right =>
      obtain ⟨aboveP,laterP⟩ := List.pairwise_cons.mp ha
      obtain ⟨aboveQ,laterQ⟩ := List.pairwise_cons.mp hb
      have head : p = q := by
        rcases List.mem_cons.mp ((same p).mp List.mem_cons_self) with h | h
        · exact h
        · rcases List.mem_cons.mp ((same q).mpr List.mem_cons_self) with h' | h'
          · exact h'.symm
          · exact absurd (Std.TransCmp.lt_trans (aboveQ p h) (aboveP q h')) (not_below_self q.1)
      subst head
      refine congrArg (p :: ·) (ih right laterP laterQ fun r => ?_)
      have both := same r
      simp only [List.mem_cons] at both
      constructor
      · intro h
        rcases both.mp (Or.inr h) with rfl | h'
        · exact absurd (aboveP _ h) (not_below_self _)
        · exact h'
      · intro h
        rcases both.mpr (Or.inr h) with rfl | h'
        · exact absurd (aboveQ _ h) (not_below_self _)
        · exact h'

theorem ext_find? (a b : Keyed κ ν) (same : ∀ k, a.find? k = b.find? k) : a = b := by
  have pairs : a.pairs = b.pairs := pairs_ext a.pairs b.pairs a.ascending b.ascending fun q => by
    obtain ⟨k,v⟩ := q
    rw [mem_pairs_iff,mem_pairs_iff,same]
  cases a; cases b; cases pairs; rfl

theorem insert_found (m : Keyed κ ν) (found : m.find? k = some v) : m.insert k v = m := by
  refine ext_find? _ _ fun other => ?_
  by_cases same : other = k
  · rw [same,find?_insert_self,found]
  · rw [find?_insert_other _ _ _ _ same]

theorem insert_insert (m : Keyed κ ν) (k : κ) (v w : ν) :
    (m.insert k v).insert k w = m.insert k w := by
  refine ext_find? _ _ fun other => ?_
  by_cases same : other = k
  · rw [same,find?_insert_self,find?_insert_self]
  · rw [find?_insert_other _ _ _ _ same,find?_insert_other _ _ _ _ same,
      find?_insert_other _ _ _ _ same]

end Keyed

end Custody
