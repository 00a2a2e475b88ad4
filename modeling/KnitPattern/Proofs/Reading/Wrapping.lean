/-
  Patterns with a line that is broken in two. A reading never looks at the numbers of lines, so
  the rows and the advice of a pattern do not depend on how its logical lines are broken
  (`wrapping_irrelevant`).
-/
import KnitPattern.Proofs.Reading.Reordering
import KnitPattern.Proofs.Round.Wrapping

namespace KnitPattern

open Text

theorem Extraction.reordered_renumber (r : Renumbering) (e : Extraction) :
    Draft.Reordered (e.renumber r).drafts e.drafts := by
  have hlineless : (e.renumber r).drafts.map Draft.lineless = e.drafts.map Draft.lineless := by
    rw [renumber, List.map_map]
    rfl
  intro n
  rw [hlineless]

namespace Pattern

/-- Where lines are numbered in another way, the same is read, after the same faults. -/
theorem ofText_of_renumber {text text' : String} {r : Renumbering}
    (h : Extraction.ofText text' = (Extraction.ofText text).map (Extraction.renumber r))
    (settings : Settings) (heuristics : Heuristics) (glossary : Option Glossary)
    (starting : Option Int) :
    (ofText text' settings heuristics glossary starting).map
        (fun pat => (pat.rows, pat.advice)) =
      (ofText text settings heuristics glossary starting).map
        (fun pat => (pat.rows, pat.advice)) := by
  cases he : Extraction.ofText text with
  | error why =>
    rw [he] at h
    unfold ofText
    rw [he, h]
    rfl
  | ok e =>
    rw [he] at h
    have h' : Extraction.ofText text' = .ok (e.renumber r) := h
    rw [ofText_eq_map_after he, ofText_eq_map_after h',
      ofExtraction_of_reordered (e.reordered_renumber r)]
    cases ofExtraction (context settings heuristics glossary)
        (starting.getD settings.starting) ⟨e.drafts, []⟩ with
    | error why => rfl
    | ok pat => rfl

/-- Where a line of a round is broken at a space, the numbers, bodies, texts and keywords of the
drafts stay, and so do the faults but for the numbers of the lines below; and the same rows and
the same advice are read. -/
theorem wrapping_irrelevant (w : Wrapping) :
    Extraction.ofText (String.ofList w.broken) =
      (Extraction.ofText (String.ofList w.whole)).map
        (Extraction.renumber (.countOnAfter w.number w.added)) ∧
    (∀ e, Extraction.ofText (String.ofList w.whole) = .ok e →
      ∃ e', Extraction.ofText (String.ofList w.broken) = .ok e' ∧
        e'.drafts.map (fun d => (d.number, d.body, d.raw, d.keyword)) =
          e.drafts.map (fun d => (d.number, d.body, d.raw, d.keyword)) ∧
        e'.faults = e.faults.map fun (line, fault) =>
          (if w.number < line then line + w.added else line, fault)) ∧
    ∀ settings heuristics glossary starting,
      (ofText (String.ofList w.broken) settings heuristics glossary starting).map
          (fun pat => (pat.rows, pat.advice)) =
        (ofText (String.ofList w.whole) settings heuristics glossary starting).map
          (fun pat => (pat.rows, pat.advice)) := by
  refine ⟨w.ofText_broken, fun e he => ?_, ofText_of_renumber w.ofText_broken⟩
  refine ⟨e.renumber w.renumbering, ?_, ?_, rfl⟩
  · rw [w.ofText_broken, he]
    rfl
  · rw [Extraction.renumber, List.map_map]
    rfl

/-- A line broken within the numbers of its header, with a note and a blank line in between. -/
def brokenHeader : Wrapping where
  above := "cast on".toList ++ ['\n']
  head := "Rnds 1,".toList
  tail := "3: k2, p1 ".toList
  below := '\r' :: "\nRnd 0: k1".toList
  between := "\n  NOTE : by hand\r".toList ++ ['\n']
  indent := ['\t', ' ']
  above_closed := closed_concat _ (by decide)
  below_opens := by rintro c ⟨⟩; decide
  head_line := unbroken_of_any (by decide)
  tail_line := unbroken_of_any (by decide)
  head_last := ⟨',', by decide +kernel⟩
  tail_first := ⟨'3', by decide +kernel⟩
  between_closed := closed_concat _ (by decide)
  between_skipped := by decide +kernel
  indent_blank := by simp; decide
  not_remark := by decide +kernel
  in_round := .inl (by decide +kernel)
  head_kind := by decide +kernel
  head_not_remark := by decide +kernel
  tail_continues := by decide +kernel
  tail_not_remark := by decide +kernel

theorem wrapping_irrelevant_in_header :
    brokenHeader.whole = "cast on\nRnds 1, 3: k2, p1 \r\nRnd 0: k1".toList ∧
    brokenHeader.broken =
      "cast on\nRnds 1,\n\n  NOTE : by hand\r\n\t 3: k2, p1 \r\nRnd 0: k1".toList ∧
    Extraction.ofText (String.ofList brokenHeader.broken) =
      .ok ⟨[⟨1, "k2, p1", "Rnds 1, 3: k2, p1", "Rnd", 2⟩,
          ⟨3, "k2, p1", "Rnds 1, 3: k2, p1", "Rnd", 2⟩],
        [(1, .stray), (6, .noNumber "Rnd 0:".toList)]⟩ ∧
    (ofText (String.ofList brokenHeader.broken)).map (fun pat => (pat.rows, pat.advice)) =
      (ofText (String.ofList brokenHeader.whole)).map (fun pat => (pat.rows, pat.advice)) := by
  have hwhole : Extraction.ofText (String.ofList brokenHeader.whole) =
      .ok ⟨[⟨1, "k2, p1", "Rnds 1, 3: k2, p1", "Rnd", 2⟩,
          ⟨3, "k2, p1", "Rnds 1, 3: k2, p1", "Rnd", 2⟩],
        [(1, .stray), (3, .noNumber "Rnd 0:".toList)]⟩ := by
    decide +kernel
  obtain ⟨hbroken, -, hread⟩ := wrapping_irrelevant brokenHeader
  refine ⟨by decide +kernel, by decide +kernel, ?_, hread {} .bundled none none⟩
  rw [hbroken, hwhole]
  decide +kernel

end Pattern

end KnitPattern
