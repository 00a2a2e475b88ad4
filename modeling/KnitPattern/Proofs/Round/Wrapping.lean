/-
  A line that is broken in two. A logical line is put together with one space between its lines,
  so where a line of a logical line is broken at a space, what is extracted stays the same, but
  for the numbers of the lines below (`ofText_broken`). Blank lines, notes and indentation may
  come in with the break; the two parts must only be taken for what the line was taken for, a
  start of a round or a continuation, and for a continuation.
-/
import KnitPattern.Proofs.Round.Renumbering
import KnitPattern.Proofs.Text.Lines
import KnitPattern.Proofs.Text.Pieces
import KnitPattern.Proofs.Text.Trim

namespace KnitPattern

open Text

/-! ## The lines that count, with their numbers -/

namespace Line

/-- Whether a line of a text, without the blanks around it, starts a round. -/
def startsRound (l : List Char) : Bool :=
  (Line.mk 0 (trim l)).isStart

/-- Whether a line of a text, without the blanks around it, is a note. -/
def isRemark (l : List Char) : Bool :=
  (Line.mk 0 (trim l)).isNote

/-- Whether a line of a text counts for nothing: it is blank or a note. -/
def isSkipped (l : List Char) : Bool :=
  (trim l).isEmpty || isRemark l

/-- The lines that count, trimmed and numbered from `n`. -/
def counted (n : Nat) (ls : List (List Char)) : List Line :=
  (ls.zipIdx n |>.map fun p => ⟨p.2, trim p.1⟩).filter fun l => !l.text.isEmpty && !l.isNote

theorem significant_eq_counted (text : List Char) : significant text = counted 1 (lines text) :=
  rfl

theorem counted_append (n : Nat) (ls ms : List (List Char)) :
    counted n (ls ++ ms) = counted n ls ++ counted (n + ls.length) ms := by
  unfold counted
  rw [List.zipIdx_append, List.map_append, List.filter_append]

theorem counted_cons (n : Nat) (l : List Char) (ls : List (List Char)) :
    counted n (l :: ls) =
      (if isSkipped l then [] else [⟨n, trim l⟩]) ++ counted (n + 1) ls := by
  have hnote : (Line.mk n (trim l)).isNote = isRemark l := rfl
  unfold counted
  rw [List.zipIdx_cons, List.map_cons, List.filter_cons]
  dsimp only
  rw [hnote, isSkipped]
  cases (trim l).isEmpty <;> cases isRemark l <;> rfl

theorem counted_eq_nil {n : Nat} {ls : List (List Char)} (h : ∀ l ∈ ls, isSkipped l = true) :
    counted n ls = [] := by
  induction ls generalizing n with
  | nil => rfl
  | cons l ls ih =>
    obtain ⟨hl, hls⟩ := List.forall_mem_cons.1 h
    rw [counted_cons, if_pos hl, ih hls]
    rfl

/-- Lines up to line `m` keep their numbers. -/
theorem counted_renumber_of_le {n m : Nat} (k : Nat) {ls : List (List Char)}
    (h : n + ls.length ≤ m + 1) :
    (counted n ls).map (renumber (.countOnAfter m k)) = counted n ls := by
  induction ls generalizing n with
  | nil => rfl
  | cons l ls ih =>
    rw [List.length_cons] at h
    have hnumber : (Line.mk n (trim l)).renumber (.countOnAfter m k) = ⟨n, trim l⟩ := by
      show Line.mk (if m < n then n + k else n) (trim l) = _
      rw [if_neg (by omega)]
    rw [counted_cons, List.map_append, ih (by omega)]
    split
    · rfl
    · rw [List.map_singleton, hnumber]

/-- Lines after line `m` are counted on. -/
theorem counted_renumber_of_lt {n m : Nat} (k : Nat) (ls : List (List Char)) (h : m < n) :
    (counted n ls).map (renumber (.countOnAfter m k)) = counted (n + k) ls := by
  induction ls generalizing n with
  | nil => rfl
  | cons l ls ih =>
    have hnumber : (Line.mk n (trim l)).renumber (.countOnAfter m k) = ⟨n + k, trim l⟩ := by
      show Line.mk (if m < n then n + k else n) (trim l) = _
      rw [if_pos h]
    rw [counted_cons, counted_cons, List.map_append, ih (by omega), Nat.add_right_comm]
    split
    · rfl
    · rw [List.map_singleton, hnumber]

/-! ## A logical line that is broken -/

theorem intercalate_split (us : List (List Char)) (u v : List Char) (vs : List (List Char)) :
    [' '].intercalate (us ++ u :: v :: vs) = [' '].intercalate (us ++ (u ++ ' ' :: v) :: vs) := by
  cases us with
  | nil =>
    rw [List.nil_append, List.nil_append, intercalate_cons_eq_append_flatMap,
      intercalate_cons_eq_append_flatMap, List.flatMap_cons]
    simp
  | cons w us =>
    rw [List.cons_append, List.cons_append, intercalate_cons_eq_append_flatMap,
      intercalate_cons_eq_append_flatMap, List.flatMap_append, List.flatMap_append]
    simp

theorem grouped_start {l : Line} (h : l.isStart = true) (ls : List Line) :
    grouped (l :: ls) = ([], joined l (grouped ls).1 :: (grouped ls).2) := by
  rw [grouped]
  exact if_pos h

theorem grouped_continued {zs : List Line} (h : ∀ l ∈ zs, l.isStart = false) (ls : List Line) :
    grouped (zs ++ ls) = (zs ++ (grouped ls).1, (grouped ls).2) := by
  induction zs with
  | nil => rfl
  | cons z zs ih =>
    obtain ⟨hz, hzs⟩ := List.forall_mem_cons.1 h
    rw [List.cons_append, grouped, ih hzs]
    dsimp only
    rw [hz]
    rfl

/-- The lines `a` and `b` stand for the line `w`, broken at a space. -/
structure Parts (w a b : Line) : Prop where
  number : a.number = w.number
  text : w.text = a.text ++ ' ' :: b.text
  start : a.isStart = w.isStart
  continues : b.isStart = false

variable {w a b : Line}

theorem Parts.joined_eq (h : Parts w a b) (more : List Line) :
    joined a (b :: more) = joined w more := by
  have htext := intercalate_split [] a.text b.text (more.map (·.text))
  rw [joined, joined, h.number, List.map_cons, List.map_cons, List.map_cons, h.text]
  exact congrArg (Line.mk w.number) htext

theorem Parts.joined_after_eq (h : Parts w a b) (first : Line) (zs more : List Line) :
    joined first (zs ++ a :: b :: more) = joined first (zs ++ w :: more) := by
  have htext := intercalate_split (first.text :: zs.map (·.text)) a.text b.text
    (more.map (·.text))
  rw [← h.text] at htext
  unfold joined
  simp only [List.map_cons, List.map_append]
  exact congrArg (Line.mk first.number) htext

/-- A logical line stays the same where a line of it is broken. -/
theorem Parts.grouped_eq (h : Parts w a b) {ys : List Line} (ls : List Line)
    (hround : w.isStart = true ∨ ∃ l ∈ ys, l.isStart = true) :
    grouped (ys ++ a :: b :: ls) = grouped (ys ++ w :: ls) := by
  have hcontinued : ∀ zs, (∀ l ∈ zs, l.isStart = false) → w.isStart = false →
      grouped (zs ++ a :: b :: ls) = (zs ++ a :: b :: (grouped ls).1, (grouped ls).2) ∧
        grouped (zs ++ w :: ls) = (zs ++ w :: (grouped ls).1, (grouped ls).2) := by
    intro zs hzs hw
    have ha : a.isStart = false := h.start.trans hw
    constructor
    · have hall : ∀ l ∈ zs ++ [a, b], l.isStart = false :=
        List.forall_mem_append.2 ⟨hzs, by simp [ha, h.continues]⟩
      simpa using grouped_continued hall ls
    · have hall : ∀ l ∈ zs ++ [w], l.isStart = false :=
        List.forall_mem_append.2 ⟨hzs, by simp [hw]⟩
      simpa using grouped_continued hall ls
  induction ys with
  | nil =>
    -- the line itself starts the round, and its second part continues it
    have hw : w.isStart = true := hround.resolve_right (by simp)
    have hb : grouped (b :: ls) = (b :: (grouped ls).1, (grouped ls).2) :=
      grouped_continued (List.forall_mem_singleton.2 h.continues) ls
    rw [List.nil_append, List.nil_append, grouped_start (h.start.trans hw), grouped_start hw, hb,
      h.joined_eq]
  | cons y ys ih =>
    rw [List.cons_append, List.cons_append]
    by_cases hrest : w.isStart = true ∨ ∃ l ∈ ys, l.isStart = true
    · rw [grouped, grouped, ih hrest]
    · -- the line before starts the round that the line continues
      obtain ⟨hw, hys⟩ := not_or.1 hrest
      have hy : y.isStart = true := by
        obtain ⟨l, hl, hstart⟩ := hround.resolve_left hw
        rcases List.mem_cons.1 hl with rfl | hl
        · exact hstart
        · exact absurd ⟨l, hl, hstart⟩ hys
      have hnone : ∀ l ∈ ys, l.isStart = false := fun l hl =>
        Bool.eq_false_iff.2 fun hstart => hys ⟨l, hl, hstart⟩
      obtain ⟨hbroken, hwhole⟩ := hcontinued ys hnone (Bool.eq_false_iff.2 hw)
      rw [grouped_start hy, grouped_start hy, hbroken, hwhole]
      dsimp only
      rw [h.joined_after_eq]

end Line

/-! ## Texts with a line that is broken -/

/-- A text with a line of a round, which is broken at a space between two characters that are
not blank. Lines that count for nothing and indentation may come in with the break. The first
part is what the line was, a line that starts a round or one that continues it, and the second
part continues it. -/
structure Wrapping where
  above : List Char
  head : List Char
  tail : List Char
  below : List Char
  /-- The lines that come in between the two parts. -/
  between : List Char
  indent : List Char
  above_closed : Closed above
  below_opens : ∀ c ∈ below.head?, isLineBreak c = true
  head_line : ∀ c ∈ head, isLineBreak c = false
  tail_line : ∀ c ∈ tail, isLineBreak c = false
  head_last : ∃ c ∈ head.getLast?, isBlank c = false
  tail_first : ∃ c ∈ tail.head?, isBlank c = false
  between_closed : Closed between
  between_skipped : ∀ l ∈ lines between, Line.isSkipped l = true
  indent_blank : ∀ c ∈ indent, isBlank c = true ∧ isLineBreak c = false
  not_remark : Line.isRemark (head ++ ' ' :: tail) = false
  in_round : Line.startsRound (head ++ ' ' :: tail) = true ∨
    ∃ l ∈ Line.significant above, l.isStart = true
  head_kind : Line.startsRound head = Line.startsRound (head ++ ' ' :: tail)
  head_not_remark : Line.isRemark head = false
  tail_continues : Line.startsRound tail = false
  tail_not_remark : Line.isRemark tail = false

namespace Wrapping

variable (w : Wrapping)

/-- The line in one piece. -/
def line : List Char :=
  w.head ++ ' ' :: w.tail

/-- The text with the line in one piece. -/
def whole : List Char :=
  w.above ++ (w.line ++ w.below)

/-- The text with the line in two. -/
def broken : List Char :=
  w.above ++ (w.head ++ '\n' :: (w.between ++ ((w.indent ++ w.tail) ++ w.below)))

/-- The number of the line. -/
def number : Nat :=
  (lines w.above).length + 1

/-- The number of lines that come in. -/
def added : Nat :=
  (lines w.between).length + 1

/-- The lines below the line are counted on by those that come in. -/
def renumbering : Renumbering :=
  .countOnAfter w.number w.added

theorem head_ne_nil : w.head ≠ [] := by
  obtain ⟨c, hc, -⟩ := w.head_last
  rintro h
  rw [h] at hc
  cases hc

theorem tail_ne_nil : w.tail ≠ [] := by
  obtain ⟨c, hc, -⟩ := w.tail_first
  rintro h
  rw [h] at hc
  cases hc

theorem trim_line : trim w.line = trim w.head ++ ' ' :: trim w.tail := by
  have hhead : Ends isBlank w.head.reverse := by
    obtain ⟨c, hc, hblank⟩ := w.head_last
    intro d hd
    rw [List.head?_reverse, Option.mem_def.1 hc] at hd
    cases hd
    exact hblank
  have htail : Ends isBlank w.tail := by
    obtain ⟨c, hc, hblank⟩ := w.tail_first
    intro d hd
    rw [Option.mem_def.1 hc] at hd
    cases hd
    exact hblank
  exact trim_append w.head_ne_nil w.tail_ne_nil hhead htail [' ']

theorem trim_indented : trim (w.indent ++ w.tail) = trim w.tail :=
  strip_append_left (fun c hc => (w.indent_blank c hc).1) w.tail

theorem line_ne_nil : w.line ≠ [] := by
  simp [line]

theorem indented_ne_nil : w.indent ++ w.tail ≠ [] := by
  simp [w.tail_ne_nil]

theorem line_unbroken : ∀ c ∈ w.line, isLineBreak c = false :=
  List.forall_mem_append.2
    ⟨w.head_line, List.forall_mem_cons.2 ⟨by decide, w.tail_line⟩⟩

theorem indented_unbroken : ∀ c ∈ w.indent ++ w.tail, isLineBreak c = false :=
  List.forall_mem_append.2 ⟨fun c hc => (w.indent_blank c hc).2, w.tail_line⟩

theorem lines_whole : lines w.whole = lines w.above ++ w.line :: (lines w.below).tail := by
  have hnext := head?_append_ne_newline w.line_ne_nil w.line_unbroken w.below
  rw [whole, lines_append_of_closed w.above_closed hnext,
    lines_append_of_break w.line_ne_nil w.line_unbroken w.below_opens]

theorem lines_broken : lines w.broken =
    lines w.above ++ w.head :: (lines w.between ++ (w.indent ++ w.tail) ::
      (lines w.below).tail) := by
  have hhead := head?_append_ne_newline w.head_ne_nil w.head_line
  have hnext := head?_append_ne_newline w.indented_ne_nil w.indented_unbroken w.below
  rw [broken, lines_append_of_closed w.above_closed (hhead _), lines_append_newline w.head_line,
    lines_append_of_closed w.between_closed hnext,
    lines_append_of_break w.indented_ne_nil w.indented_unbroken w.below_opens]

/-! ### The lines that count -/

theorem not_skipped {l : List Char} (hne : trim l ≠ []) (hremark : Line.isRemark l = false) :
    Line.isSkipped l = false := by
  rw [Line.isSkipped, hremark, Bool.or_false]
  exact List.isEmpty_eq_false_iff.2 hne

/-- The lines that count above the line, and below it as they are numbered from `n`. -/
def countedAbove : List Line :=
  Line.counted 1 (lines w.above)

def countedBelow (n : Nat) : List Line :=
  Line.counted n (lines w.below).tail

theorem significant_whole : Line.significant w.whole =
    w.countedAbove ++ ⟨w.number, trim w.line⟩ :: w.countedBelow (w.number + 1) := by
  have hline : Line.isSkipped w.line = false := by
    refine not_skipped ?_ w.not_remark
    rw [w.trim_line]
    simp
  have hnumber : 1 + (lines w.above).length = w.number := Nat.add_comm _ _
  rw [Line.significant_eq_counted, w.lines_whole, Line.counted_append, Line.counted_cons, hnumber,
    hline]
  rfl

theorem significant_broken : Line.significant w.broken =
    w.countedAbove ++ ⟨w.number, trim w.head⟩ :: ⟨w.number + w.added, trim w.tail⟩ ::
      w.countedBelow (w.number + w.added + 1) := by
  have hhead : Line.isSkipped w.head = false := by
    obtain ⟨c, hc, hblank⟩ := w.head_last
    exact not_skipped (trim_ne_nil ⟨c, List.mem_of_getLast? hc, hblank⟩) w.head_not_remark
  have htail : Line.isSkipped (w.indent ++ w.tail) = false := by
    obtain ⟨c, hc, hblank⟩ := w.tail_first
    have hremark : Line.isRemark (w.indent ++ w.tail) = false := by
      rw [Line.isRemark, w.trim_indented]
      exact w.tail_not_remark
    exact not_skipped (trim_ne_nil ⟨c, List.mem_append_right _ (List.mem_of_head? hc), hblank⟩)
      hremark
  have hnumber : 1 + (lines w.above).length = w.number := Nat.add_comm _ _
  have hadded : w.number + 1 + (lines w.between).length = w.number + w.added := by
    rw [added]
    omega
  rw [Line.significant_eq_counted, w.lines_broken, Line.counted_append, Line.counted_cons, hnumber,
    Line.counted_append, Line.counted_eq_nil w.between_skipped, Line.counted_cons, hadded, hhead,
    htail, w.trim_indented]
  rfl

theorem parts : Line.Parts ⟨w.number, trim w.line⟩ ⟨w.number, trim w.head⟩
    ⟨w.number + w.added, trim w.tail⟩ where
  number := rfl
  text := w.trim_line
  start := w.head_kind
  continues := w.tail_continues

/-- The logical lines of the text stay, but for the numbers of those below the line. -/
theorem grouped_broken :
    Line.grouped (Line.significant w.broken) =
      ((Line.grouped (Line.significant w.whole)).1.map (Line.renumber w.renumbering),
        (Line.grouped (Line.significant w.whole)).2.map (Line.renumber w.renumbering)) := by
  have habove : w.countedAbove.map (Line.renumber w.renumbering) = w.countedAbove :=
    Line.counted_renumber_of_le w.added (by rw [number]; omega)
  have hline : (Line.mk w.number (trim w.line)).renumber w.renumbering =
      ⟨w.number, trim w.line⟩ := by
    show Line.mk (if w.number < w.number then _ else w.number) _ = _
    rw [if_neg (Nat.lt_irrefl _)]
  have hbelow : (w.countedBelow (w.number + 1)).map (Line.renumber w.renumbering) =
      w.countedBelow (w.number + w.added + 1) := by
    have h := Line.counted_renumber_of_lt w.added (lines w.below).tail (Nat.lt_succ_self w.number)
    rwa [Nat.succ_add] at h
  rw [← Line.grouped_renumber, significant_whole, List.map_append, List.map_cons, habove, hline,
    hbelow, significant_broken]
  exact w.parts.grouped_eq _ w.in_round

/-- What is extracted from the text stays, but for the numbers of the lines below the line. -/
theorem ofText_broken :
    Extraction.ofText (String.ofList w.broken) =
      (Extraction.ofText (String.ofList w.whole)).map (Extraction.renumber w.renumbering) := by
  unfold Extraction.ofText
  rw [String.toList_ofList, String.toList_ofList, w.grouped_broken]
  dsimp only
  rw [Extraction.mapM_ofLine_renumber]
  cases (Line.grouped (Line.significant w.whole)).2.mapM Extraction.ofLine with
  | error why => rfl
  | ok es =>
    have hstrays : ∀ ls : List Line, Extraction.mk [] ((ls.map (Line.renumber w.renumbering)).map
        fun l => (l.number, .stray)) =
          (Extraction.mk [] (ls.map fun l => (l.number, .stray))).renumber w.renumbering := by
      intro ls
      simp only [Extraction.renumber, List.map_map, List.map_nil]
      rfl
    show Except.ok (Extraction.append _ (Extraction.concat _)) = Except.ok _
    rw [Extraction.concat_renumber, hstrays, Extraction.append_renumber]

end Wrapping

end KnitPattern
