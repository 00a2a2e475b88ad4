/-
  Sizes of the rounds of a text. Grouping lines and cutting them into sections copies no
  character, and every number of a header is written with a character of its own; so a text has
  at most one draft more than characters, and no body is longer than the text.
-/
import KnitPattern.Proofs.Round.Digits
import KnitPattern.Proofs.Text.Size

namespace KnitPattern

open Text

/-! ## Lines -/

namespace Line

/-- The characters of lines, with one more for each line. -/
def size (ls : List Line) : Nat :=
  (ls.map fun l => l.text.length + 1).sum

theorem size_cons (l : Line) (ls : List Line) : size (l :: ls) = l.text.length + 1 + size ls :=
  rfl

theorem length_lt_size {l : Line} {ls : List Line} (h : l ∈ ls) : l.text.length < size ls := by
  induction ls with
  | nil => cases h
  | cons m ls ih =>
    rw [size_cons]
    rcases List.mem_cons.1 h with rfl | h
    · omega
    · have := ih h
      omega

theorem size_filter_le (p : Line → Bool) (ls : List Line) : size (ls.filter p) ≤ size ls := by
  induction ls with
  | nil => exact Nat.le_refl _
  | cons l ls ih =>
    rw [List.filter_cons, size_cons]
    split
    · rw [size_cons]
      omega
    · omega

theorem size_significant_le (text : List Char) : size (significant text) ≤ text.length + 1 := by
  have htrimmed : ∀ (ls : List (List Char)) (n : Nat),
      size ((ls.zipIdx n).map fun p => ⟨p.2, trim p.1⟩) ≤ (ls.map (·.length + 1)).sum := by
    intro ls
    induction ls with
    | nil => exact fun _ => Nat.zero_le _
    | cons l ls ih =>
      intro n
      have hrest := ih (n + 1)
      have htrim : (trim l).length ≤ l.length := (infix_trim l).length_le
      rw [List.zipIdx_cons, List.map_cons, List.map_cons, List.sum_cons, size_cons]
      exact Nat.add_le_add (Nat.succ_le_succ htrim) hrest
  calc size (significant text) ≤ _ := size_filter_le _ _
    _ ≤ ((lines text).map (·.length + 1)).sum := htrimmed (lines text) 1
    _ ≤ text.length + 1 := sum_length_lines_le text

theorem size_joined (l : Line) (more : List Line) :
    (joined l more).text.length + 1 = size (l :: more) := by
  have htext : (joined l more).text.length + 1 =
      (((l :: more).map (·.text)).map (·.length + 1)).sum :=
    length_intercalate ' ' l.text (more.map Line.text)
  rw [htext, List.map_map]
  rfl

theorem size_grouped (ls : List Line) : size (grouped ls).1 + size (grouped ls).2 = size ls := by
  induction ls with
  | nil => rfl
  | cons l ls ih =>
    rw [grouped]
    dsimp only
    split
    · show 0 + size (joined l (grouped ls).1 :: (grouped ls).2) = _
      rw [size_cons, size_joined, size_cons, size_cons]
      omega
    · show size (l :: (grouped ls).1) + size (grouped ls).2 = _
      rw [size_cons, size_cons]
      omega

theorem size_logical_le (text : List Char) :
    size (grouped (significant text)).2 ≤ text.length + 1 := by
  have hgrouped := size_grouped (significant text)
  have hsize := size_significant_le text
  omega

end Line

/-! ## Headers and sections -/

theorem Header.length_positives_le {h : Header} {ns : List Nat} (hns : h.positives = .ok ns) :
    ns.length ≤ h.numbers.length + 1 := by
  obtain ⟨ms, hms, hpos⟩ := bind_eq_ok_iff.1 hns
  cases hpos
  calc (ms.filter (0 < ·)).length ≤ ms.length := List.length_filter_le _ _
    _ = h.numerals.length := (mapM_eq_ok_iff.1 hms).length_eq.symm
    _ ≤ (h.numbers.splitOnP (!isDigit ·)).length := List.length_filter_le _ _
    _ ≤ h.numbers.length + 1 := length_splitOnP_le _ _

theorem Section.sum_length_text_le (line : List Char) :
    ((ofLine line).2.map fun sec => sec.text.length).sum ≤ line.length := by
  have hline := congrArg List.length (ofLine_eq line)
  rw [List.length_append, List.length_flatten, List.map_map] at hline
  exact Nat.le_trans (Nat.le_add_left _ _) (Nat.le_of_eq hline)

/-! ## Extractions -/

namespace Extraction

variable {text : String}

theorem length_drafts_of_ofSection {line : Nat} {sec : Section} {e : Extraction}
    (h : ofSection line sec = .ok e) : e.drafts.length ≤ sec.header.numbers.length + 1 := by
  obtain ⟨ns, hns, h⟩ := bind_eq_ok_iff.1 h
  cases h
  refine Nat.le_trans ?_ (Header.length_positives_le hns)
  cases ns with
  | nil => exact Nat.zero_le _
  | cons n ns => exact Nat.le_of_eq (List.length_map _)

theorem length_drafts_concat (es : List Extraction) :
    (concat es).drafts.length = (es.map fun e => e.drafts.length).sum :=
  List.length_flatMap

theorem length_drafts_of_ofLine {l : Line} {e : Extraction} (h : ofLine l = .ok e) :
    e.drafts.length ≤ l.text.length := by
  unfold ofLine at h
  split at h
  · cases h
    exact Nat.zero_le _
  · obtain ⟨es, hes, h⟩ := bind_eq_ok_iff.1 h
    cases h
    rw [length_drafts_concat]
    refine Nat.le_trans (sum_le_sum_of_mapM hes fun sec hsec e he => ?_)
      (Section.sum_length_text_le l.text)
    -- a header has a colon besides its numbers
    obtain ⟨v, hwritten⟩ := Section.exists_written_of_mem_cut hsec
    have hdrafts := length_drafts_of_ofSection he
    rw [Section.text, hwritten, List.length_append, List.length_append, List.length_append,
      List.length_singleton]
    omega

/-- A text has no more drafts than characters, but for one. -/
theorem length_drafts_le {e : Extraction} (h : ofText text = .ok e) :
    e.drafts.length ≤ text.toList.length + 1 := by
  obtain ⟨es, hes, h⟩ := bind_eq_ok_iff.1 h
  cases h
  show ([] ++ (concat es).drafts).length ≤ _
  rw [List.nil_append, length_drafts_concat]
  refine Nat.le_trans (sum_le_sum_of_mapM hes fun l _ e he => ?_)
    (Line.size_logical_le text.toList)
  exact Nat.le_succ_of_le (length_drafts_of_ofLine he)

/-- A body is no longer than the text. -/
theorem length_body_le {e : Extraction} {d : Draft} (h : ofText text = .ok e)
    (hd : d ∈ e.drafts) : d.body.toList.length ≤ text.toList.length := by
  obtain ⟨l, hl, sec, hsec, _, -, n, -, rfl⟩ := exists_section_of_mem_ofText h hd
  have hspaced := length_oneSpaced_le sec.body
  have hinfix := (Section.body_infix_of_mem_ofLine hsec).length_le
  have hline := Line.length_lt_size hl
  have hsize := Line.size_logical_le text.toList
  rw [draft, String.toList_ofList]
  omega

end Extraction

end KnitPattern
