/-
  The tables of labels. A table of pairs gives a key the value of the last pair with it, and has
  the keys of the pairs once each. The faults of the two tables are told without their recursion:
  a key is a text of ASCII capitals and digits (`isKey_iff`), and a stem is held against the stems
  before it in the list (`stemFaults_eq`). Where no stem begins with an earlier one, the first
  listed stem of a key is its longest (`find?_stem_eq_some_iff`): two stems of one key begin one
  another.
-/
import KnitPattern.Heuristics.Basic
import KnitPattern.Proofs.Text.Classes
import Mathlib.Data.List.Induction

namespace KnitPattern

/-! ## Last elements -/

/-- The last element of a list with a property. -/
def LastOf {α : Type} (P : α → Prop) (as : List α) (a : α) : Prop :=
  ∃ before after, as = before ++ a :: after ∧ P a ∧ ∀ b ∈ after, ¬ P b

theorem not_lastOf_nil {α : Type} {P : α → Prop} {a : α} : ¬ LastOf P [] a := by
  rintro ⟨before, after, h, -⟩
  simp at h

theorem lastOf_concat {α : Type} {P : α → Prop} {as : List α} {a b : α} :
    LastOf P (as ++ [b]) a ↔ (P b ∧ a = b) ∨ (¬ P b ∧ LastOf P as a) := by
  constructor
  · rintro ⟨before, after, has, ha, hafter⟩
    rcases List.eq_nil_or_concat after with rfl | ⟨after, c, rfl⟩
    · obtain ⟨-, heq⟩ := List.append_inj' has rfl
      obtain rfl := List.singleton_inj.1 heq
      exact .inl ⟨ha, rfl⟩
    · rw [List.concat_eq_append, ← List.cons_append, ← List.append_assoc] at has
      obtain ⟨rfl, heq⟩ := List.append_inj' has rfl
      obtain rfl := List.singleton_inj.1 heq
      exact .inr ⟨hafter b (by simp), before, after, rfl, ha, fun c hc => hafter c (by simp [hc])⟩
  · rintro (⟨hb, rfl⟩ | ⟨hb, before, after, rfl, ha, hafter⟩)
    · exact ⟨as, [], rfl, hb, by simp⟩
    · refine ⟨before, after ++ [b], by simp, ha, fun c hc => ?_⟩
      rcases List.mem_append.1 hc with hc | hc
      · exact hafter c hc
      · rwa [List.mem_singleton.1 hc]

theorem LastOf.mem {α : Type} {P : α → Prop} {as : List α} {a : α} (h : LastOf P as a) :
    a ∈ as ∧ P a := by
  obtain ⟨before, after, rfl, ha, -⟩ := h
  exact ⟨by simp, ha⟩

/-! ## Tables of pairs -/

namespace Table

variable {κ ν : Type} [DecidableEq κ]

theorem ofPairs_concat (pairs : List (κ × ν)) (p : κ × ν) :
    ofPairs (pairs ++ [p]) = (ofPairs pairs).put p.1 p.2 := by
  simp [ofPairs, List.foldl_append]

theorem get?_ofPairs_eq_some_iff {pairs : List (κ × ν)} {k : κ} {v : ν} :
    (ofPairs pairs).get? k = some v ↔ LastOf (·.1 = k) pairs (k, v) := by
  induction pairs using List.reverseRecOn with
  | nil => simp [ofPairs, get?, not_lastOf_nil]
  | append_singleton pairs p ih =>
    rw [ofPairs_concat, get?_put, lastOf_concat, ← ih]
    by_cases hk : p.1 = k
    · subst hk
      simp [Prod.ext_iff, eq_comm]
    · have hne : (k == p.1) = false := by simpa using fun h : k = p.1 => hk h.symm
      simp [hne, hk]

theorem get?_ofPairs_eq_none_iff {pairs : List (κ × ν)} {k : κ} :
    (ofPairs pairs).get? k = none ↔ ∀ p ∈ pairs, p.1 ≠ k := by
  induction pairs using List.reverseRecOn with
  | nil => simp [ofPairs, get?]
  | append_singleton pairs p ih =>
    rw [ofPairs_concat, get?_put, List.forall_mem_append, List.forall_mem_singleton, ← ih]
    by_cases hk : p.1 = k
    · subst hk
      simp
    · have hne : (k == p.1) = false := by simpa using fun h : k = p.1 => hk h.symm
      simp [hne, hk]

theorem map_fst_put (k : κ) (v : ν) (t : Table κ ν) :
    (t.put k v).map (·.1) = if k ∈ t.map (·.1) then t.map (·.1) else t.map (·.1) ++ [k] := by
  induction t with
  | nil => simp [put]
  | cons e t ih =>
    by_cases hk : k = e.1
    · simp [put, hk]
    · have hne : (k == e.1) = false := by simpa using hk
      by_cases hmem : k ∈ t.map (·.1)
      · rw [if_pos hmem] at ih
        simp [put, hne, ih, hmem]
      · rw [if_neg hmem] at ih
        simp [put, hne, ih, hk, hmem]

/-- The keys of a table of pairs are those of the pairs, in the order in which they come first. -/
theorem map_fst_ofPairs (pairs : List (κ × ν)) :
    (ofPairs pairs).map (·.1) = (pairs.map (·.1)).eraseDups := by
  induction pairs using List.reverseRecOn with
  | nil => rfl
  | append_singleton pairs p ih =>
    rw [ofPairs_concat, map_fst_put, ih, List.map_append, List.eraseDups_append]
    by_cases hmem : p.1 ∈ pairs.map (·.1)
    · simp [List.mem_eraseDups, hmem, List.removeAll]
    · simp [List.mem_eraseDups, hmem, List.removeAll, List.eraseDups_cons]

end Table

namespace Heuristics

/-! ## Keys -/

/-- A text with characters, all of them ASCII capitals and digits. -/
def IsCode (s : String) : Prop :=
  s ≠ "" ∧ ∀ c ∈ s.toList, c.isUpper = true ∨ c.isDigit = true

theorem isKey_iff {s : String} : isKey s = true ↔ IsCode s := by
  simp only [isKey, IsCode, Bool.and_eq_true, bne_iff_ne, beq_iff_eq]
  refine and_congr_right fun _ => ⟨fun h c hc => ?_, fun h => ?_⟩
  · rw [h, codeKey, String.toList_ofList] at hc
    obtain ⟨d, hd, rfl⟩ := List.mem_map.1 hc
    have halphanum : (d.isUpper || d.isLower || d.isDigit) = true := (List.mem_filter.1 hd).2
    rcases Text.toUpper_eq_self_or d with ⟨hself, hlower⟩ | ⟨-, hupper⟩
    · rw [hself]
      simpa [hlower] using halphanum
    · exact .inl hupper
  · have hall : s.toList.filter Char.isAlphanum = s.toList := by
      refine List.filter_eq_self.2 fun c hc => ?_
      show (c.isUpper || c.isLower || c.isDigit) = true
      rcases h c hc with hc | hc <;> simp [hc]
    have hself : s.toList.map Char.toUpper = s.toList := by
      refine (List.map_congr_left fun c hc => ?_).trans (List.map_id _)
      rcases Text.toUpper_eq_self_or c with ⟨hself, -⟩ | ⟨hlower, -⟩
      · exact hself
      · rw [Text.isLower_eq_false (h c hc)] at hlower
        cases hlower
    rw [codeKey, hall, hself, String.ofList_toList]

instance (s : String) : Decidable (IsCode s) :=
  decidable_of_iff _ isKey_iff

/-! ## Faults of the tables -/

/-- The codes that are no keys, once each, in the order in which they come first. -/
def malformed (codes : List String) : List String :=
  codes.eraseDups.filter (¬ IsCode ·)

/-- The faults of a stem: that it is no key, or else one for each earlier stem that begins it. -/
def faultsAfter (earlier : List String) (s : String) : List Fault :=
  if IsCode s then (earlier.filter fun e => e.toList <+: s.toList).map (.shadowed s)
  else [.stemNotKey s]

theorem codeFaults_ofPairs (pairs : List (String × String)) :
    codeFaults ((Table.ofPairs pairs).map (·.1)) =
      (malformed (pairs.map (·.1))).map .codeNotKey := by
  have hkey : ∀ s, (!isKey s) = decide (¬ IsCode s) := fun s => by
    by_cases hs : IsCode s
    · simp [hs, isKey_iff.2 hs]
    · simp [hs, Bool.eq_false_iff.2 (mt isKey_iff.1 hs)]
  rw [Table.map_fst_ofPairs, codeFaults, malformed]
  simp only [hkey]

theorem stemFaults_cons (earlier : List String) (s : String) (rest : List String) :
    stemFaults earlier (s :: rest) = faultsAfter earlier s ++ stemFaults (earlier ++ [s]) rest := by
  have hbegins : ∀ e : String, begins e s = decide (e.toList <+: s.toList) := fun e => by
    rw [Bool.eq_iff_iff, decide_eq_true_iff]
    exact List.isPrefixOf_iff_prefix
  rw [stemFaults, faultsAfter]
  simp only [isKey_iff, hbegins]

/-- The faults of stems are those of each one after the stems before it. -/
theorem stemFaults_eq (earlier stems : List String) :
    stemFaults earlier stems =
      stems.zipIdx.flatMap fun s => faultsAfter (earlier ++ stems.take s.2) s.1 := by
  induction stems generalizing earlier with
  | nil => rfl
  | cons s rest ih =>
    rw [stemFaults_cons, ih, List.zipIdx_cons, List.flatMap_cons, List.zipIdx_succ,
      List.flatMap_map]
    simp [List.append_assoc]

theorem stemFaults_nil (stems : List String) :
    stemFaults [] stems = stems.zipIdx.flatMap fun s => faultsAfter (stems.take s.2) s.1 := by
  simpa using stemFaults_eq [] stems

theorem faultsAfter_eq_nil_iff {earlier : List String} {s : String} :
    faultsAfter earlier s = [] ↔ IsCode s ∧ ∀ e ∈ earlier, ¬ e.toList <+: s.toList := by
  by_cases hs : IsCode s <;> simp [faultsAfter, hs, List.filter_eq_nil_iff]

theorem stemFaults_eq_nil_iff {earlier stems : List String} :
    stemFaults earlier stems = [] ↔ (∀ s ∈ stems, IsCode s) ∧
      (∀ e ∈ earlier, ∀ s ∈ stems, ¬ e.toList <+: s.toList) ∧
      stems.Pairwise fun e s => ¬ e.toList <+: s.toList := by
  induction stems generalizing earlier with
  | nil => simp [stemFaults]
  | cons s rest ih =>
    rw [stemFaults_cons, List.append_eq_nil_iff, faultsAfter_eq_nil_iff, ih]
    rw [List.forall_mem_append, List.forall_mem_singleton, List.pairwise_cons]
    simp only [List.forall_mem_cons]
    constructor
    · rintro ⟨⟨hs, hearlier⟩, hrest, ⟨hbefore, hfirst⟩, hpairs⟩
      exact ⟨⟨hs, hrest⟩, fun e he => ⟨hearlier e he, hbefore e he⟩, hfirst, hpairs⟩
    · rintro ⟨⟨hs, hrest⟩, hearlier, hfirst, hpairs⟩
      exact ⟨⟨hs, fun e he => (hearlier e he).1⟩, hrest,
        ⟨fun e he => (hearlier e he).2, hfirst⟩, hpairs⟩

/-- No stem begins with an earlier one. -/
def Reachable (stems : List (String × String)) : Prop :=
  stems.Pairwise fun earlier later => ¬ earlier.1.toList <+: later.1.toList

theorem tableFaults_ofPairs_eq_nil_iff {exact stems : List (String × String)} :
    tableFaults (Table.ofPairs exact) stems = [] ↔
      (∀ p ∈ exact, IsCode p.1) ∧ (∀ p ∈ stems, IsCode p.1) ∧ Reachable stems := by
  rw [tableFaults, List.append_eq_nil_iff, codeFaults_ofPairs, stemFaults_eq_nil_iff, Reachable,
    List.pairwise_map]
  simp [malformed, List.filter_eq_nil_iff, List.mem_eraseDups]

theorem reachable (h : Heuristics) : Reachable h.stems := by
  have hstems := (List.append_eq_nil_iff.1 h.faultless).2
  exact List.pairwise_map.1 (stemFaults_eq_nil_iff.1 hstems).2.2

/-! ## The stem of a key -/

theorem exists_find?_stem {stems : List (String × String)} {key : String} {p : String × String}
    (hp : p ∈ stems) (hkey : p.1.toList <+: key.toList) :
    ∃ q, stems.find? (begins ·.1 key) = some q := by
  rw [← Option.isSome_iff_exists, List.find?_isSome]
  exact ⟨p, hp, List.isPrefixOf_iff_prefix.2 hkey⟩

/-- Of stems of one key that do not begin with earlier ones, the first listed is the longest. -/
theorem longest_of_find?_stem {stems : List (String × String)} (hstems : Reachable stems)
    {key : String} {p : String × String} (hp : stems.find? (begins ·.1 key) = some p) :
    p ∈ stems ∧ p.1.toList <+: key.toList ∧
      ∀ q ∈ stems, q.1.toList <+: key.toList → q = p ∨ q.1.length < p.1.length := by
  obtain ⟨hbegins, before, after, rfl, hbefore⟩ := List.find?_eq_some_iff_append.1 hp
  have hkey := List.isPrefixOf_iff_prefix.1 hbegins
  refine ⟨by simp, hkey, fun q hq hqkey => ?_⟩
  rcases List.mem_append.1 hq with hq | hq
  · have hno : begins q.1 key = false := by simpa using hbefore q hq
    rw [begins, List.isPrefixOf_iff_prefix.2 hqkey] at hno
    cases hno
  rcases List.mem_cons.1 hq with rfl | hq
  · exact .inl rfl
  · -- a later stem of the key does not begin with `p`, so it begins `p` and is shorter
    have hafter := (List.pairwise_cons.1 (List.pairwise_append.1 hstems).2.1).1 q hq
    have hqp := (List.prefix_or_prefix_of_prefix hkey hqkey).resolve_left hafter
    refine .inr (Nat.lt_of_le_of_ne hqp.length_le fun hlength => hafter ?_)
    exact ⟨[], by rw [List.append_nil, hqp.eq_of_length hlength]⟩

/-- The first listed stem of a key is its longest, so it does not depend on the order. -/
theorem find?_stem_eq_some_iff {stems : List (String × String)} (hstems : Reachable stems)
    {key : String} {p : String × String} :
    stems.find? (begins ·.1 key) = some p ↔
      p ∈ stems ∧ p.1.toList <+: key.toList ∧
        ∀ q ∈ stems, q.1.toList <+: key.toList → q = p ∨ q.1.length < p.1.length := by
  refine ⟨longest_of_find?_stem hstems, fun ⟨hp, hpkey, hp_longest⟩ => ?_⟩
  obtain ⟨q, hq⟩ := exists_find?_stem hp hpkey
  obtain ⟨hmem, hqkey, hq_longest⟩ := longest_of_find?_stem hstems hq
  rcases hp_longest q hmem hqkey with rfl | hlt
  · exact hq
  rcases hq_longest p hp hpkey with rfl | hlt'
  · exact hq
  · omega

/-- A stem is the stem of itself. -/
theorem find?_own {stems : List (String × String)} (hstems : Reachable stems)
    {p : String × String} (hp : p ∈ stems) : stems.find? (begins ·.1 p.1) = some p := by
  obtain ⟨q, hq⟩ := exists_find?_stem hp (List.prefix_refl _)
  obtain ⟨-, hqp, hlongest⟩ := (find?_stem_eq_some_iff hstems).1 hq
  rcases hlongest p hp (List.prefix_refl _) with rfl | hlt
  · exact hq
  · have hle : q.1.length ≤ p.1.length := hqp.length_le
    omega

end Heuristics

end KnitPattern
