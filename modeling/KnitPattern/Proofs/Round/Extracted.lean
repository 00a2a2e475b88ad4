/-
  Where the drafts of a text come from. Each draft of an extraction is that of a section of a
  logical line, for a positive number of its header (`exists_section_of_mem_ofText`); what holds
  of all drafts is shown of such a section.
-/
import KnitPattern.Proofs.Halting
import KnitPattern.Proofs.Numeral
import KnitPattern.Round.Extraction

namespace KnitPattern

/-- The numbers of a header are positive, and their numerals are short. -/
theorem Header.of_mem_positives {h : Header} {ns : List Nat} (hns : h.positives = .ok ns) :
    ∀ n ∈ ns, 0 < n ∧ n < 10 ^ Halt.digitLimit := by
  obtain ⟨ms, hms, heq⟩ := bind_eq_ok_iff.1 hns
  cases heq
  intro n hn
  obtain ⟨hn, hpos⟩ := List.mem_filter.1 hn
  obtain ⟨ds, -, hread⟩ := exists_of_mem_mapM hms hn
  exact ⟨of_decide_eq_true hpos, Numeral.lt_of_read hread⟩

namespace Extraction

variable {e : Extraction} {d : Draft}

theorem exists_number_of_mem_ofSection {line : Nat} {sec : Section}
    (h : ofSection line sec = .ok e) (hd : d ∈ e.drafts) :
    ∃ ns, sec.header.positives = .ok ns ∧ ∃ n ∈ ns, d = draft line sec n := by
  obtain ⟨ns, hns, h⟩ := bind_eq_ok_iff.1 h
  cases h
  refine ⟨ns, hns, ?_⟩
  cases ns with
  | nil => cases hd
  | cons n ns =>
    obtain ⟨m, hm, rfl⟩ := List.mem_map.1 hd
    exact ⟨m, hm, rfl⟩

theorem exists_section_of_mem_ofLine {l : Line} (h : ofLine l = .ok e) (hd : d ∈ e.drafts) :
    ∃ sec ∈ (Section.ofLine l.text).2, ∃ ns, sec.header.positives = .ok ns ∧
      ∃ n ∈ ns, d = draft l.number sec n := by
  unfold ofLine at h
  split at h
  · cases h
    cases hd
  · obtain ⟨es, hes, h⟩ := bind_eq_ok_iff.1 h
    cases h
    obtain ⟨e, he, hd⟩ := List.mem_flatMap.1 hd
    obtain ⟨sec, hsec, h⟩ := exists_of_mem_mapM hes he
    exact ⟨sec, hsec, exists_number_of_mem_ofSection h hd⟩

theorem exists_section_of_mem_ofText {text : String} (h : ofText text = .ok e)
    (hd : d ∈ e.drafts) :
    ∃ l ∈ (Line.grouped (Line.significant text.toList)).2, ∃ sec ∈ (Section.ofLine l.text).2,
      ∃ ns, sec.header.positives = .ok ns ∧ ∃ n ∈ ns, d = draft l.number sec n := by
  obtain ⟨es, hes, h⟩ := bind_eq_ok_iff.1 h
  cases h
  obtain ⟨e, he, hd⟩ := List.mem_flatMap.1 hd
  obtain ⟨l, hl, h⟩ := exists_of_mem_mapM hes he
  exact ⟨l, hl, exists_section_of_mem_ofLine h hd⟩

end Extraction

end KnitPattern
