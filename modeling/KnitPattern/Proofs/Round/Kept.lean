/-
  What becomes of the characters of a text. Every character of a line that counts, blanks aside,
  comes into a logical line, and from there into a section or into what stands before the first
  one (`nonblank_significant`). A section is kept in the texts of its drafts; what stands before
  the first section of a line is in no draft and in no fault. So a text without faults is kept
  as a whole just if each of its logical lines begins with a header (`kept_but_leads`).
-/
import KnitPattern.Proofs.Halting
import KnitPattern.Proofs.Text.Pieces
import KnitPattern.Proofs.Text.Trim
import KnitPattern.Round.Extraction

namespace KnitPattern

/-! ## The characters that are not blank -/

namespace Text

/-- The characters of a text that are not blank, in their order. -/
def nonblank (s : List Char) : List Char :=
  s.filter (!isBlank ·)

theorem nonblank_append (s t : List Char) : nonblank (s ++ t) = nonblank s ++ nonblank t :=
  List.filter_append s t

theorem nonblank_of_blanks {g : List Char} (hg : ∀ c ∈ g, isBlank c = true) :
    nonblank g = [] := by
  refine List.filter_eq_nil_iff.2 fun c hc => ?_
  rw [hg c hc]
  exact Bool.false_ne_true

theorem nonblank_trim (s : List Char) : nonblank (trim s) = nonblank s := by
  obtain ⟨g, g', hg, hg', hs⟩ := exists_strip isBlank s
  conv_rhs => rw [hs, nonblank_append, nonblank_append, nonblank_of_blanks hg,
    nonblank_of_blanks hg', List.nil_append, List.append_nil]
  rfl

theorem nonblank_flatten (ls : List (List Char)) :
    nonblank ls.flatten = ls.flatMap nonblank := by
  rw [nonblank, List.filter_flatten]
  rfl

theorem nonblank_intercalate (ls : List (List Char)) :
    nonblank ([' '].intercalate ls) = ls.flatMap nonblank := by
  cases ls with
  | nil => rfl
  | cons l ls =>
    rw [intercalate_cons_eq_append_flatMap, nonblank_append, List.flatMap_def, nonblank_flatten,
      List.flatMap_map, List.flatMap_cons]
    rfl

end Text

open Text

/-! ## From lines to logical lines -/

namespace Line

/-- The characters of lines that are not blank. -/
def nonblank (ls : List Line) : List Char :=
  ls.flatMap (Text.nonblank ·.text)

theorem nonblank_cons (l : Line) (ls : List Line) :
    nonblank (l :: ls) = Text.nonblank l.text ++ nonblank ls :=
  List.flatMap_cons

theorem nonblank_joined (l : Line) (more : List Line) :
    Text.nonblank (joined l more).text = nonblank (l :: more) := by
  rw [joined, nonblank_intercalate, List.flatMap_map]
  rfl

/-- Grouping lines keeps their characters in order, the continuations before the first round
first. -/
theorem nonblank_grouped (ls : List Line) :
    nonblank (grouped ls).1 ++ nonblank (grouped ls).2 = nonblank ls := by
  induction ls with
  | nil => rfl
  | cons l ls ih =>
    rw [grouped, nonblank_cons, ← ih]
    dsimp only
    split
    · rw [nonblank_cons, nonblank_joined, nonblank_cons, List.append_assoc]
      rfl
    · rw [nonblank_cons, List.append_assoc]

/-- The logical lines of a text. -/
def logical (text : String) : List Line :=
  (grouped (significant text.toList)).2

/-- What stands before the first header of a logical line. -/
def lead (l : Line) : List Char :=
  (Section.ofLine l.text).1

/-- The sections of a logical line, one for each header. -/
def sections (l : Line) : List Section :=
  (Section.ofLine l.text).2

theorem nonblank_sections (l : Line) : Text.nonblank l.text =
    Text.nonblank l.lead ++ l.sections.flatMap (Text.nonblank ·.text) := by
  conv_lhs => rw [← Section.ofLine_eq l.text, nonblank_append, nonblank_flatten,
    List.flatMap_map]
  rfl

/-- A logical line begins with a line that counts. -/
theorem exists_of_mem_grouped {ls : List Line} {l : Line} (hl : l ∈ (grouped ls).2) :
    ∃ first ∈ ls, ∃ more, l = joined first more := by
  induction ls with
  | nil => cases hl
  | cons m ls ih =>
    have hrest : l ∈ (grouped ls).2 → ∃ first ∈ m :: ls, ∃ more, l = joined first more := by
      intro h
      obtain ⟨first, hfirst, more, rfl⟩ := ih h
      exact ⟨first, List.mem_cons_of_mem m hfirst, more, rfl⟩
    rw [grouped] at hl
    dsimp only at hl
    split at hl
    · rcases List.mem_cons.1 hl with rfl | hl
      · exact ⟨m, List.mem_cons_self, _, rfl⟩
      · exact hrest hl
    · exact hrest hl

/-- No logical line begins with a blank. -/
theorem ends_of_mem_logical {text : String} {l : Line} (hl : l ∈ logical text) :
    Ends isBlank l.text := by
  obtain ⟨first, hfirst, more, rfl⟩ := exists_of_mem_grouped hl
  obtain ⟨hmem, hcounts⟩ := List.mem_filter.1 hfirst
  obtain ⟨⟨s, n⟩, -, rfl⟩ := List.mem_map.1 hmem
  have hne : trim s ≠ [] := by
    intro h
    simp [h] at hcounts
  intro c hc
  refine ends_strip isBlank s c ?_
  change ([' '].intercalate (trim s :: more.map (·.text))).head? = some c at hc
  rw [intercalate_cons_eq_append_flatMap, List.head?_append_of_ne_nil _ hne] at hc
  exact hc

theorem lead_eq_nil_iff {text : String} {l : Line} (hl : l ∈ logical text) :
    l.lead = [] ↔ Text.nonblank l.lead = [] := by
  constructor
  · intro h
    rw [h]
    rfl
  · intro h
    cases hlead : l.lead with
    | nil => rfl
    | cons c cs =>
      have htext : l.text = c :: (cs ++ (l.sections.map Section.text).flatten) := by
        rw [← List.cons_append, ← hlead]
        exact (Section.ofLine_eq l.text).symm
      have hc : isBlank c = false := by
        refine ends_of_mem_logical hl c ?_
        rw [htext]
        rfl
      rw [hlead, Text.nonblank, List.filter_cons_of_pos (by rw [hc]; rfl)] at h
      cases h

end Line

/-! ## From sections to drafts -/

namespace Extraction

/-- What a draft of the section has for its text as written. -/
def raw (s : Section) : List Char :=
  trim s.text

/-- The drafts of one section: at least one, and each with the text of the section. -/
def Keeps (s : Section) (ds : List Draft) : Prop :=
  ds ≠ [] ∧ ∀ d ∈ ds, d.raw = String.ofList (raw s)

theorem keeps_of_ofSection {line : Nat} {s : Section} {e : Extraction}
    (h : ofSection line s = .ok e) (hfaults : e.faults = []) : Keeps s e.drafts := by
  obtain ⟨ns, -, h⟩ := bind_eq_ok_iff.1 h
  cases h
  cases ns with
  | nil => cases hfaults
  | cons n ns =>
    refine ⟨List.cons_ne_nil _ _, fun d hd => ?_⟩
    obtain ⟨m, -, rfl⟩ := List.mem_map.1 hd
    rfl

theorem faults_of_mem {es : List Extraction} (h : (concat es).faults = []) :
    ∀ e ∈ es, e.faults = [] :=
  List.flatMap_eq_nil_iff.1 h

theorem keeps_of_mapM {line : Nat} {ss : List Section} {es : List Extraction}
    (h : ss.mapM (ofSection line) = .ok es) (hfaults : ∀ e ∈ es, e.faults = []) :
    List.Forall₂ Keeps ss (es.map drafts) := by
  have hall := mapM_eq_ok_iff.1 h
  clear h
  induction hall with
  | nil => exact .nil
  | cons hs _ ih =>
    obtain ⟨he, hes⟩ := List.forall_mem_cons.1 hfaults
    exact .cons (keeps_of_ofSection hs he) (ih hes)

/-- Without faults, each section of a line has its drafts. -/
theorem exists_groups_of_ofLine {l : Line} {e : Extraction} (h : ofLine l = .ok e)
    (hfaults : e.faults = []) :
    ∃ groups, groups.flatten = e.drafts ∧ List.Forall₂ Keeps l.sections groups := by
  unfold ofLine at h
  split at h
  · cases h
    cases hfaults
  · obtain ⟨es, hes, h⟩ := bind_eq_ok_iff.1 h
    cases h
    exact ⟨es.map drafts, rfl, keeps_of_mapM hes (faults_of_mem hfaults)⟩

/-- Without faults, each section of logical lines has its drafts. -/
theorem exists_groups_of_mapM {ls : List Line} {es : List Extraction}
    (h : ls.mapM ofLine = .ok es) (hfaults : ∀ e ∈ es, e.faults = []) :
    ∃ groups, groups.flatten = es.flatMap drafts ∧
      List.Forall₂ Keeps (ls.flatMap Line.sections) groups := by
  have hall := mapM_eq_ok_iff.1 h
  clear h
  induction hall with
  | nil => exact ⟨[], rfl, .nil⟩
  | @cons l e ls es hle _ ih =>
    obtain ⟨he, hes⟩ := List.forall_mem_cons.1 hfaults
    obtain ⟨gs, hgs, hkeeps⟩ := exists_groups_of_ofLine hle he
    obtain ⟨groups, hgroups, hrest⟩ := ih hes
    refine ⟨gs ++ groups, ?_, ?_⟩
    · rw [List.flatten_append, hgs, hgroups, List.flatMap_cons]
    · rw [List.flatMap_cons]
      exact List.rel_append hkeeps hrest

/-! ## What is kept of a text -/

/-- Without faults, every line that counts belongs to a logical line. -/
theorem nonblank_significant {text : String} {e : Extraction} (h : ofText text = .ok e)
    (hfaults : e.faults = []) :
    Line.nonblank (Line.significant text.toList) = (Line.logical text).flatMap fun l =>
      nonblank l.lead ++ l.sections.flatMap fun s => nonblank (raw s) := by
  have hstrays : (Line.grouped (Line.significant text.toList)).1 = [] := by
    obtain ⟨es, -, h⟩ := bind_eq_ok_iff.1 h
    cases h
    exact List.map_eq_nil_iff.1 (List.append_eq_nil_iff.1 hfaults).1
  have hraw : ∀ s : Section, nonblank (raw s) = nonblank s.text := fun s => nonblank_trim s.text
  simp only [hraw]
  rw [← Line.nonblank_grouped, hstrays]
  exact List.flatMap_congr fun l _ => l.nonblank_sections

/-- Lists of which each may have something more in front. -/
theorem flatMap_eq_flatMap_append_iff {α β : Type} {f g : α → List β} {as : List α} :
    as.flatMap g = as.flatMap (fun a => f a ++ g a) ↔ ∀ a ∈ as, f a = [] := by
  have hlength : (as.flatMap fun a => f a ++ g a).length =
      (as.flatMap f).length + (as.flatMap g).length := by
    induction as with
    | nil => rfl
    | cons a as ih =>
      simp only [List.flatMap_cons, List.length_append, ih]
      omega
  constructor
  · intro h
    rw [← h] at hlength
    have hnil : (as.flatMap f).length = 0 := by omega
    exact List.flatMap_eq_nil_iff.1 (List.length_eq_zero_iff.1 hnil)
  · intro h
    refine List.flatMap_congr fun a ha => ?_
    rw [h a ha, List.nil_append]

/-- In a text without faults the drafts come in groups, one for each header in the order of the
text and none empty, and all drafts of a group have the text of the section that the header
begins. The characters of the lines that count, blanks aside, are those of these texts, each
taken once, together with those that stand before the first header of a logical line. So the
texts of the drafts keep all characters just if every logical line begins with a header. -/
theorem kept_but_leads {text : String} {e : Extraction} (h : ofText text = .ok e)
    (hfaults : e.faults = []) :
    (∃ groups : List (List Draft), groups.flatten = e.drafts ∧
      List.Forall₂ (fun (s : Section) ds => ds ≠ [] ∧ ∀ d ∈ ds, d.raw = String.ofList (raw s))
        ((Line.logical text).flatMap Line.sections) groups) ∧
    (Line.significant text.toList).flatMap (fun l => nonblank l.text) =
      (Line.logical text).flatMap (fun l =>
        nonblank l.lead ++ l.sections.flatMap fun s => nonblank (raw s)) ∧
    (((Line.logical text).flatMap Line.sections).flatMap (fun s => nonblank (raw s)) =
        (Line.significant text.toList).flatMap (fun l => nonblank l.text) ↔
      ∀ l ∈ Line.logical text, l.lead = []) := by
  have hchars := nonblank_significant h hfaults
  refine ⟨?_, hchars, ?_⟩
  · obtain ⟨es, hes, h⟩ := bind_eq_ok_iff.1 h
    cases h
    exact exists_groups_of_mapM hes (faults_of_mem (List.append_eq_nil_iff.1 hfaults).2)
  · rw [List.flatMap_assoc]
    change _ = Line.nonblank _ ↔ _
    rw [hchars, flatMap_eq_flatMap_append_iff]
    exact forall₂_congr fun l hl => (Line.lead_eq_nil_iff hl).symm

/-- Two headers on one line, the second with two numbers, a continuation, and a note: all of it is
kept. -/
theorem kept_but_leads_of_headed :
    let text := "Rnd 1: k2 Rows 2, 3: p1,\n NOTE: go on\n\n  yo"
    ∃ e, ofText text = .ok e ∧ e.drafts.map (·.raw) =
        ["Rnd 1: k2", "Rows 2, 3: p1, yo", "Rows 2, 3: p1, yo"] ∧
      ((Line.logical text).flatMap Line.sections).flatMap (fun s => nonblank (raw s)) =
        (Line.significant text.toList).flatMap (fun l => nonblank l.text) := by
  intro text
  have hread : ofText text = .ok ⟨[⟨1, "k2", "Rnd 1: k2", "Rnd", 1⟩,
      ⟨2, "p1, yo", "Rows 2, 3: p1, yo", "Row", 1⟩,
      ⟨3, "p1, yo", "Rows 2, 3: p1, yo", "Row", 1⟩], []⟩ := by
    decide +kernel
  obtain ⟨-, -, hkept⟩ := kept_but_leads hread rfl
  exact ⟨_, hread, rfl, hkept.2 (by decide +kernel)⟩

/-- A line that starts a round, but not with a header, and has a header farther on: what stands
before that header is in no draft, and there is no fault. -/
theorem lead_dropped :
    let text := "Rnd 1 k2 Rnd 2: p1"
    ofText text = .ok ⟨[⟨2, "p1", "Rnd 2: p1", "Rnd", 1⟩], []⟩ ∧
      ((Line.logical text).flatMap Line.sections).flatMap (fun s => nonblank (raw s)) ≠
        (Line.significant text.toList).flatMap (fun l => nonblank l.text) := by
  decide +kernel

end Extraction

end KnitPattern
