/-
  The rounds of a text that is continued by another one. Where the second text begins with a line
  that starts a round, the logical lines of the two do not mix, and what is extracted from both
  together is what is extracted from each, with the lines of the second counted on
  (`ofText_append`).
-/
import KnitPattern.Proofs.Round.Renumbering
import KnitPattern.Proofs.Text.Lines

namespace KnitPattern

open Text

/-! ## Lines that are counted on -/

namespace Line

/-- A line as it is numbered after `k` other lines. -/
def shift (k : Nat) (l : Line) : Line :=
  { l with number := l.number + k }

theorem grouped_map_shift (k : Nat) (ls : List Line) :
    grouped (ls.map (shift k)) =
      ((grouped ls).1.map (shift k), (grouped ls).2.map (shift k)) :=
  grouped_renumber (.countOn k) ls

/-- Lines that do not begin with a continuation leave the lines before them as they are. -/
theorem grouped_append {ls ms : List Line} (h : (grouped ms).1 = []) :
    grouped (ls ++ ms) = ((grouped ls).1, (grouped ls).2 ++ (grouped ms).2) := by
  induction ls with
  | nil => exact Prod.ext h rfl
  | cons l ls ih =>
    rw [List.cons_append, grouped, grouped, ih]
    dsimp only
    split <;> rfl

theorem grouped_fst_eq_nil {ls : List Line} (h : ∀ l ∈ ls.head?, l.isStart = true) :
    (grouped ls).1 = [] := by
  cases ls with
  | nil => rfl
  | cons l ls =>
    rw [grouped]
    dsimp only
    rw [if_pos (h l rfl)]

theorem significant_append (s t : List Char) :
    ∃ k, significant (s ++ '\n' :: t) = significant s ++ (significant t).map (shift k) := by
  obtain ⟨e, he, hlines⟩ := exists_lines_append s t
  refine ⟨(lines s).length + e.length, ?_⟩
  have hempty : ∀ n, (((e.zipIdx n).map fun p => (⟨p.2, trim p.1⟩ : Line)).filter
      fun l => !l.text.isEmpty && !l.isNote) = [] := by
    intro n
    rcases he with rfl | rfl <;> rfl
  have hcount : (lines t).zipIdx (1 + (lines s).length + e.length) =
      ((lines t).zipIdx 1).map (Prod.map id (· + ((lines s).length + e.length))) := by
    rw [List.map_snd_add_zipIdx_eq_zipIdx]
    congr 1
    omega
  unfold significant
  rw [hlines, List.zipIdx_append, List.zipIdx_append, hcount, List.map_append, List.map_append,
    List.filter_append, List.filter_append, hempty, List.nil_append, List.map_map,
    List.filter_map, List.filter_map, List.filter_map, List.map_map]
  rfl

end Line

/-! ## Extractions that are counted on -/

namespace Extraction

/-- An extraction of lines that are numbered after `k` other lines. -/
def shift (k : Nat) (e : Extraction) : Extraction where
  drafts := e.drafts.map fun d => { d with line := d.line + k }
  faults := e.faults.map fun f => (f.1 + k, f.2)

theorem concat_append (as bs : List Extraction) :
    concat (as ++ bs) = append (concat as) (concat bs) := by
  rw [concat, List.flatMap_append, List.flatMap_append]
  rfl

/-- Where a text begins with a line that starts a round, it is extracted after another text as it
is alone, with its lines counted on. -/
theorem ofText_append {s t : String}
    (h : ∀ l ∈ (Line.significant t.toList).head?, l.isStart = true) :
    ∃ k, ofText (s ++ "\n" ++ t) = do
      let a ← ofText s
      let b ← ofText t
      return a.append (b.shift k) := by
  obtain ⟨k, hlines⟩ := Line.significant_append s.toList t.toList
  refine ⟨k, ?_⟩
  have htext : (s ++ "\n" ++ t).toList = s.toList ++ '\n' :: t.toList := by simp
  have hstrays := Line.grouped_fst_eq_nil h
  have hshifted : (Line.grouped ((Line.significant t.toList).map (Line.shift k))).1 = [] := by
    rw [Line.grouped_map_shift, hstrays]
    rfl
  have hrounds : ((Line.grouped (Line.significant t.toList)).2.map (Line.shift k)).mapM ofLine =
      ((Line.grouped (Line.significant t.toList)).2.mapM ofLine).map (List.map (shift k)) :=
    mapM_ofLine_renumber (.countOn k) _
  have hconcat : ∀ es : List Extraction, concat (es.map (shift k)) = (concat es).shift k :=
    concat_renumber (.countOn k)
  unfold ofText
  rw [htext, hlines, Line.grouped_append hshifted, Line.grouped_map_shift, hstrays]
  dsimp only
  rw [List.mapM_append, hrounds]
  cases (Line.grouped (Line.significant s.toList)).2.mapM ofLine with
  | error why => rfl
  | ok as =>
    cases (Line.grouped (Line.significant t.toList)).2.mapM ofLine with
    | error why => rfl
    | ok bs =>
      show Except.ok (append _ (concat (as ++ bs.map (shift k)))) = Except.ok _
      rw [concat_append, hconcat]
      simp [append, shift, hstrays]

end Extraction

end KnitPattern
