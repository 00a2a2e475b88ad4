/-
  The order in which rounds are read. Sorting drafts keeps them all, puts smaller numbers
  first, depends on nothing but the numbers (`sort_map`), and leaves the drafts of one number
  in their order (`numbered_sort`). Nothing else is sorted in this way, so lists with the same
  drafts of each number, in the same order, are sorted alike (`sort_eq_sort`).
-/
import KnitPattern.Pattern
import Mathlib.Data.List.Basic

namespace KnitPattern.Draft

theorem insert_perm (d : Draft) (ds : List Draft) : (insert d ds).Perm (d :: ds) := by
  induction ds with
  | nil => rfl
  | cons e ds ih =>
    unfold insert
    split
    · exact (ih.cons e).trans (List.Perm.swap d e ds)
    · rfl

theorem sort_perm (ds : List Draft) : (sort ds).Perm ds := by
  induction ds with
  | nil => rfl
  | cons d ds ih => exact (insert_perm d (sort ds)).trans (ih.cons d)

theorem pairwise_insert {d : Draft} {ds : List Draft}
    (h : ds.Pairwise fun a b => a.number ≤ b.number) :
    (insert d ds).Pairwise fun a b => a.number ≤ b.number := by
  induction ds with
  | nil => exact List.pairwise_singleton _ _
  | cons e ds ih =>
    obtain ⟨hhead, htail⟩ := List.pairwise_cons.1 h
    unfold insert
    split
    · next hlt =>
      refine List.pairwise_cons.2 ⟨?_, ih htail⟩
      intro a ha
      rcases List.mem_cons.1 ((insert_perm d ds).mem_iff.1 ha) with rfl | ha
      · omega
      · exact hhead a ha
    · next hge =>
      refine List.pairwise_cons.2 ⟨?_, h⟩
      intro a ha
      rcases List.mem_cons.1 ha with rfl | ha
      · omega
      · have := hhead a ha
        omega

theorem pairwise_sort (ds : List Draft) :
    (sort ds).Pairwise fun a b => a.number ≤ b.number := by
  induction ds with
  | nil => exact List.Pairwise.nil
  | cons d ds ih => exact pairwise_insert ih

/-! ## Nothing but the numbers counts -/

theorem insert_map {f : Draft → Draft} (hf : ∀ d, (f d).number = d.number) (d : Draft)
    (ds : List Draft) : insert (f d) (ds.map f) = (insert d ds).map f := by
  induction ds with
  | nil => rfl
  | cons e ds ih =>
    rw [List.map_cons, insert, insert, hf, hf]
    split
    · rw [ih, List.map_cons]
    · rw [List.map_cons, List.map_cons]

theorem sort_map {f : Draft → Draft} (hf : ∀ d, (f d).number = d.number) (ds : List Draft) :
    sort (ds.map f) = (sort ds).map f := by
  induction ds with
  | nil => rfl
  | cons d ds ih =>
    show insert (f d) (sort (ds.map f)) = _
    rw [ih, insert_map hf]
    rfl

/-! ## The drafts of one number -/

/-- The drafts of a list with a given number. -/
def numbered (n : Int) (ds : List Draft) : List Draft :=
  ds.filter (·.number = n)

theorem numbered_append (n : Int) (ds es : List Draft) :
    numbered n (ds ++ es) = numbered n ds ++ numbered n es :=
  List.filter_append ..

theorem mem_numbered {n : Int} {d : Draft} {ds : List Draft} :
    d ∈ numbered n ds ↔ d ∈ ds ∧ d.number = n := by
  rw [numbered, List.mem_filter, decide_eq_true_iff]

theorem numbered_insert (n : Int) (d : Draft) (ds : List Draft) :
    numbered n (insert d ds) = numbered n (d :: ds) := by
  induction ds with
  | nil => rfl
  | cons e ds ih =>
    unfold insert
    split
    · next hlt =>
      -- `d` passes `e`, which is of another number if `d` counts
      unfold numbered at ih ⊢
      rw [List.filter_cons, ih]
      by_cases hd : d.number = n
      · have he : e.number ≠ n := by omega
        simp [hd, he]
      · simp [List.filter_cons, hd]
    · rfl

theorem numbered_sort (n : Int) (ds : List Draft) : numbered n (sort ds) = numbered n ds := by
  induction ds with
  | nil => rfl
  | cons d ds ih =>
    show numbered n (insert d (sort ds)) = _
    rw [numbered_insert]
    unfold numbered at ih ⊢
    rw [List.filter_cons, List.filter_cons, ih]

theorem mem_iff_of_numbered_eq {ds es : List Draft}
    (h : ∀ n, numbered n ds = numbered n es) (d : Draft) : d ∈ ds ↔ d ∈ es := by
  have hd : d ∈ numbered d.number ds ↔ d ∈ numbered d.number es := by rw [h]
  simpa only [mem_numbered, and_true] using hd

theorem number_le_of_mem {d e : Draft} {ds : List Draft}
    (h : (d :: ds).Pairwise fun a b => a.number ≤ b.number) (he : e ∈ d :: ds) :
    d.number ≤ e.number := by
  rcases List.mem_cons.1 he with rfl | he
  · exact Int.le_refl _
  · exact (List.pairwise_cons.1 h).1 e he

/-- A list in ascending order is known from its drafts of each number. -/
theorem eq_of_numbered_eq {ds es : List Draft}
    (hds : ds.Pairwise fun a b => a.number ≤ b.number)
    (hes : es.Pairwise fun a b => a.number ≤ b.number)
    (h : ∀ n, numbered n ds = numbered n es) : ds = es := by
  induction ds generalizing es with
  | nil =>
    cases es with
    | nil => rfl
    | cons b es =>
      have hb := (mem_iff_of_numbered_eq h b).2 List.mem_cons_self
      exact absurd hb List.not_mem_nil
  | cons a ds ih =>
    cases es with
    | nil =>
      have ha := (mem_iff_of_numbered_eq h a).1 List.mem_cons_self
      exact absurd ha List.not_mem_nil
    | cons b es =>
      -- each list begins with its least number, so both begin with the same
      have hab : a.number = b.number := Int.le_antisymm
        (number_le_of_mem hds ((mem_iff_of_numbered_eq h b).2 List.mem_cons_self))
        (number_le_of_mem hes ((mem_iff_of_numbered_eq h a).1 List.mem_cons_self))
      have hcons : ∀ n, (if a.number = n then a :: numbered n ds else numbered n ds) =
          if a.number = n then b :: numbered n es else numbered n es := by
        intro n
        have hn := h n
        unfold numbered at hn ⊢
        rw [List.filter_cons, List.filter_cons, ← hab] at hn
        simpa only [decide_eq_true_eq] using hn
      obtain rfl : a = b := by
        have hhead := hcons a.number
        rw [if_pos rfl, if_pos rfl] at hhead
        exact (List.cons.inj hhead).1
      have htail : ∀ n, numbered n ds = numbered n es := by
        intro n
        have hn := hcons n
        split at hn
        · exact (List.cons.inj hn).2
        · exact hn
      rw [ih (List.pairwise_cons.1 hds).2 (List.pairwise_cons.1 hes).2 htail]

theorem sort_eq_sort {ds es : List Draft} (h : ∀ n, numbered n ds = numbered n es) :
    sort ds = sort es := by
  refine eq_of_numbered_eq (pairwise_sort ds) (pairwise_sort es) fun n => ?_
  rw [numbered_sort, numbered_sort, h]

/-- Drafts that are put after drafts of smaller or equal numbers are read after them. -/
theorem sort_append {ds es : List Draft} (h : ∀ a ∈ ds, ∀ b ∈ es, a.number ≤ b.number) :
    sort (ds ++ es) = sort ds ++ sort es := by
  refine eq_of_numbered_eq (pairwise_sort _) ?_ fun n => ?_
  · refine List.pairwise_append.2 ⟨pairwise_sort ds, pairwise_sort es, fun a ha b hb => ?_⟩
    exact h a ((sort_perm ds).mem_iff.1 ha) b ((sort_perm es).mem_iff.1 hb)
  · rw [numbered_sort, numbered_append, numbered_append, numbered_sort, numbered_sort]

end KnitPattern.Draft
