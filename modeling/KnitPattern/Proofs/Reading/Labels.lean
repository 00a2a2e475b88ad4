/-
  Labels are shown and nothing else. To one who sees no labels, contexts with the same limits are
  alike, whatever their glossaries and heuristic labels are, so all that is read under one of them
  is read under the other: the same pattern but for the labels of its steps
  (`labels_only_shown`).
-/
import KnitPattern.Proofs.Reading.View

namespace KnitPattern

/-! ## Without labels -/

/-- All characters are told apart, and no labels. -/
def View.unlabelled : View where
  char := id
  label _ := ""

namespace View

theorem map_unlabelled (s : List Char) : s.map unlabelled.char = s :=
  List.map_id s

theorem text_unlabelled (s : String) : unlabelled.text s = s := by
  rw [text, map_unlabelled, String.ofList_toList]

theorem respected_unlabelled : unlabelled.Respected where
  reference b b' h := by
    rw [text_unlabelled, text_unlabelled] at h
    rw [h]
  form s s' h := by
    rw [map_unlabelled, map_unlabelled] at h
    rw [h]
  tokens s s' h := by
    rw [map_unlabelled, map_unlabelled] at h
    rw [h]
  around s s' h := by
    rw [map_unlabelled, map_unlabelled] at h
    rw [h]
  stitch s s' h := by
    rw [map_unlabelled, map_unlabelled] at h
    rw [h]

end View

theorem Context.alike_unlabelled {ctx ctx' : Context} (h : ctx'.limits = ctx.limits) :
    ctx.Alike .unlabelled ctx' :=
  ⟨h, fun _ _ _ => rfl⟩

/-! ## What is read, without labels -/

def Step.unlabelled (s : Step) : Step :=
  { s with label := "" }

def Row.unlabelled (r : Row) : Row :=
  { r with sequence := r.sequence.map Step.unlabelled }

/-- A pattern without the labels of its steps. -/
def Pattern.unlabelled (p : Pattern) : Pattern :=
  { p with rows := p.rows.map Row.unlabelled }

/-- The timelines of the rows of a pattern, without the labels of their cells. -/
def Pattern.unlabelledCells (p : Pattern) : List (List Step) :=
  p.rows.map fun r => r.expanded.map Step.unlabelled

theorem Step.seen_unlabelled : Step.seen .unlabelled = Step.unlabelled := by
  funext s
  rw [seen, View.text_unlabelled]
  rfl

theorem Row.seen_unlabelled : Row.seen .unlabelled = Row.unlabelled := by
  funext r
  rw [seen, View.text_unlabelled, Step.seen_unlabelled]
  rfl

theorem Problem.seen_unlabelled : Problem.seen .unlabelled = id := by
  funext b
  cases b with
  | line number fault =>
    cases fault with
    | noNumber header =>
      rw [seen, Line.Fault.seen, View.map_unlabelled]
      rfl
    | _ => rfl
  | round label why => rfl
  | noted text =>
    rw [seen, View.text_unlabelled]
    rfl

theorem Advice.seen_unlabelled : Advice.seen .unlabelled = id := by
  funext a
  cases a with
  | round label remark =>
    cases remark with
    | clamped times limit => rfl
    | operation remark =>
      cases remark <;>
      · rw [seen, Body.Remark.seen, Operation.Remark.seen, View.text_unlabelled]
        rfl
  | noted text =>
    rw [seen, View.text_unlabelled]
    rfl

/-- The cells of a row without labels are those of the row, without their labels. -/
theorem Row.expanded_unlabelled (r : Row) :
    r.unlabelled.expanded = r.expanded.map Step.unlabelled := by
  unfold expanded
  rw [unlabelled, List.flatMap_map, List.map_flatMap]
  refine List.flatMap_congr fun s _ => ?_
  rw [Step.cells, Step.cells, List.map_replicate]
  rfl

/-! ## Whole patterns -/

namespace Pattern

theorem unlabelled_ofProgress {p q : Progress} (h : p.seen .unlabelled = q.seen .unlabelled) :
    (ofProgress p).unlabelled = (ofProgress q).unlabelled := by
  obtain ⟨-, -, hrows, hproblems, hadvice⟩ := Progress.mk.inj h
  rw [Row.seen_unlabelled] at hrows
  rw [Problem.seen_unlabelled, List.map_id, List.map_id] at hproblems
  rw [Advice.seen_unlabelled, List.map_id, List.map_id] at hadvice
  unfold unlabelled ofProgress
  rw [hrows, hproblems, hadvice]

theorem unlabelledCells_eq (p : Pattern) :
    p.unlabelledCells = p.unlabelled.rows.map Row.expanded := by
  unfold unlabelledCells unlabelled
  rw [List.map_map]
  exact List.map_congr_left fun r _ => r.expanded_unlabelled.symm

/-- Two readings of a text that differ in their glossaries and heuristic labels halt for the same
reason, or give the same pattern but for the labels of its steps, and of its cells: the same rows,
problems and advice. -/
theorem labels_only_shown (text : String) (settings : Settings) (listed : Glossary)
    (heuristics heuristics' : Heuristics) (glossary glossary' : Option Glossary)
    (starting : Option Int) :
    let read := ofText text settings heuristics glossary starting
    let read' := ofText text { settings with glossary := listed } heuristics' glossary' starting
    read.map unlabelled = read'.map unlabelled ∧
      read.map unlabelledCells = read'.map unlabelledCells := by
  intro read read'
  have hsame : read.map unlabelled = read'.map unlabelled := by
    refine bind_map_eq (f := id) rfl fun e e' he => ?_
    cases he
    have w : (context settings heuristics glossary).Alike .unlabelled
        (context { settings with glossary := listed } heuristics' glossary') :=
      Context.alike_unlabelled rfl
    refine bind_map_eq (seen_run_start View.respected_unlabelled w _ rfl) fun p q h => ?_
    exact congrArg Except.ok (unlabelled_ofProgress h)
  refine ⟨hsame, ?_⟩
  rcases cases_of_map_eq hsame with ⟨why, hread, hread'⟩ | ⟨p, q, hread, hread', h⟩
  · rw [hread, hread']
  · rw [hread, hread']
    refine congrArg Except.ok ?_
    rw [unlabelledCells_eq, unlabelledCells_eq, h]

end Pattern

end KnitPattern
