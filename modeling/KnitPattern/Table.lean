/-
  Tables: pairs of a key and a value, each key once, in the order in which the keys were
  first put in. Putting a key in again replaces its value and keeps its place.
-/

namespace KnitPattern

/-- Pairs of a key and a value in the order of their first insertion. -/
abbrev Table (κ ν : Type) := List (κ × ν)

namespace Table

variable {κ ν : Type} [BEq κ]

/-- The table with the value of a key set. -/
def put (k : κ) (v : ν) : Table κ ν → Table κ ν
  | [] => [(k, v)]
  | (k', v') :: t => if k == k' then (k', v) :: t else (k', v') :: put k v t

/-- The value of a key. -/
def get? (k : κ) (t : Table κ ν) : Option ν :=
  List.lookup k t

/-- The table of a list of pairs; of pairs with one key the last gives the value. -/
def ofPairs (pairs : List (κ × ν)) : Table κ ν :=
  pairs.foldl (fun t kv => t.put kv.1 kv.2) []

theorem get?_put [LawfulBEq κ] (k k' : κ) (v : ν) (t : Table κ ν) :
    (t.put k v).get? k' = if k' == k then some v else t.get? k' := by
  induction t with
  | nil =>
    by_cases h : k' = k
    · subst h; simp [put, get?]
    · have hb : (k' == k) = false := by simpa using h
      simp [put, get?, List.lookup_cons, hb]
  | cons e t ih =>
    obtain ⟨a, b⟩ := e
    simp only [get?] at ih
    by_cases h : k = a
    · subst h
      by_cases h' : k' = k
      · subst h'; simp [put, get?]
      · have hb : (k' == k) = false := by simpa using h'
        simp [put, get?, List.lookup_cons, hb]
    · have hb : (k == a) = false := by simpa using h
      by_cases h' : k' = a
      · subst h'
        have hb' : (k' == k) = false := by simpa using fun e : k' = k => h e.symm
        simp [put, get?, hb, hb']
      · have hb' : (k' == a) = false := by simpa using h'
        simp only [put, get?, hb, List.lookup_cons, hb', Bool.false_eq_true, if_false]
        exact ih

end Table

end KnitPattern
