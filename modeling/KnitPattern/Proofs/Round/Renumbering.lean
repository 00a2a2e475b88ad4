/-
  Lines that are numbered in another way. A text is read the same way whatever the numbers of
  its lines are: numbering the lines anew and then grouping them, or extracting the rounds of a
  logical line, gives what it gives before with the new numbers (`grouped_renumber`,
  `ofLine_renumber`).
-/
import KnitPattern.Proofs.Halting
import KnitPattern.Round.Extraction

namespace KnitPattern

/-- New numbers for lines. The lines of drafts are integers and get the same numbers. -/
structure Renumbering where
  nat : Nat → Nat
  int : Int → Int
  int_cast : ∀ n : Nat, int n = nat n

namespace Renumbering

/-- Every line is counted on by `k`. -/
def countOn (k : Nat) : Renumbering where
  nat n := n + k
  int n := n + k
  int_cast _ := rfl

/-- The lines after line `m` are counted on by `k`. -/
def countOnAfter (m k : Nat) : Renumbering where
  nat n := if m < n then n + k else n
  int n := if m < n then n + k else n
  int_cast n := by
    by_cases h : m < n
    · rw [if_pos h, if_pos (Int.ofNat_lt.2 h)]
      rfl
    · rw [if_neg h, if_neg (mt Int.ofNat_lt.1 h)]

end Renumbering

variable (r : Renumbering)

/-! ## Lines -/

namespace Line

def renumber (l : Line) : Line :=
  { l with number := r.nat l.number }

theorem joined_renumber (l : Line) (more : List Line) :
    joined (l.renumber r) (more.map (renumber r)) = (joined l more).renumber r := by
  have htexts : (l.renumber r :: more.map (renumber r)).map (·.text) =
      (l :: more).map (·.text) := by
    rw [← List.map_cons, List.map_map]
    rfl
  rw [joined, htexts]
  rfl

theorem grouped_renumber (ls : List Line) :
    grouped (ls.map (renumber r)) =
      ((grouped ls).1.map (renumber r), (grouped ls).2.map (renumber r)) := by
  induction ls with
  | nil => rfl
  | cons l ls ih =>
    have hstart : (l.renumber r).isStart = l.isStart := rfl
    rw [List.map_cons, grouped, grouped, ih, hstart]
    dsimp only
    split
    · rw [joined_renumber]
      rfl
    · rfl

end Line

/-! ## Extractions -/

namespace Extraction

def renumber (e : Extraction) : Extraction where
  drafts := e.drafts.map fun d => { d with line := r.int d.line }
  faults := e.faults.map fun f => (r.nat f.1, f.2)

theorem concat_renumber (es : List Extraction) :
    concat (es.map (renumber r)) = (concat es).renumber r := by
  rw [concat, concat, renumber, List.flatMap_map, List.flatMap_map, List.map_flatMap,
    List.map_flatMap]
  rfl

theorem append_renumber (a b : Extraction) :
    append (a.renumber r) (b.renumber r) = (append a b).renumber r := by
  simp only [append, renumber, List.map_append]

theorem ofNumbers_renumber (line : Nat) (s : Section) (ns : List Nat) :
    ofNumbers (r.nat line) s ns = (ofNumbers line s ns).renumber r := by
  cases ns with
  | nil => rfl
  | cons n ns =>
    have hdraft : ∀ m, draft (r.nat line) s m =
        { draft line s m with line := r.int (draft line s m).line } := by
      intro m
      unfold draft
      rw [r.int_cast]
    rw [ofNumbers, ofNumbers, renumber, List.map_map]
    exact congrArg (Extraction.mk · []) (List.map_congr_left fun m _ => hdraft m)

theorem ofSection_renumber (line : Nat) (s : Section) :
    ofSection (r.nat line) s = (ofSection line s).map (renumber r) := by
  unfold ofSection
  cases s.header.positives with
  | error why => rfl
  | ok ns => exact congrArg Except.ok (ofNumbers_renumber r line s ns)

theorem ofLine_renumber (l : Line) : ofLine (l.renumber r) = (ofLine l).map (renumber r) := by
  have hsections : ∀ ss : List Section, ss.mapM (ofSection (r.nat l.number)) =
      (ss.mapM (ofSection l.number)).map (List.map (renumber r)) :=
    mapM_eq_map (ofSection_renumber r l.number)
  have htext : (l.renumber r).text = l.text := rfl
  unfold ofLine
  rw [htext]
  cases (Section.ofLine l.text).2 with
  | nil => rfl
  | cons s ss =>
    show (do return concat (← (s :: ss).mapM (ofSection (r.nat l.number)))) = _
    rw [hsections]
    dsimp only
    cases (s :: ss).mapM (ofSection l.number) with
    | error why => rfl
    | ok es => exact congrArg Except.ok (concat_renumber r es)

theorem mapM_ofLine_renumber (ls : List Line) :
    (ls.map (Line.renumber r)).mapM ofLine = (ls.mapM ofLine).map (List.map (renumber r)) :=
  mapM_map_eq_map (ofLine_renumber r) ls

end Extraction

end KnitPattern
