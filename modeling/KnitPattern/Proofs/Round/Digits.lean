/-
  The digits of a text in its rounds. What stands in the header or in the body of a section stands
  in its line, and a logical line is put together from lines of the text with spaces between. So
  the numerals of headers and all runs of digits in bodies are runs of the text, and only a
  numeral of the text that is too long keeps its rounds from being extracted
  (`tooLongIn_of_ofText`). The numeral of a reference is a run of the body that it stands in.
-/
import KnitPattern.Proofs.Round.Extracted
import KnitPattern.Proofs.Round.Heading
import KnitPattern.Proofs.Text.Lines
import KnitPattern.Round.Reference

namespace KnitPattern

open Text Scan

/-! ## Headers and sections -/

theorem Header.digitRun_of_mem_numerals {h : Header} {ds : List Char} (hds : ds ∈ h.numerals) :
    DigitRun ds h.numbers := by
  have hpiece := (List.mem_filter.1 hds).1
  refine ⟨fun c hc => ?_, infix_of_mem_splitOnP hpiece⟩
  have hnot := not_of_mem_splitOnP hpiece c hc
  rwa [Bool.not_eq_false'] at hnot

namespace Section

theorem exists_written_of_headed? {b : Option Char} {s w : List Char} {h : Header}
    (hs : headed? b s = some (h, w)) : ∃ v, w = v ++ (h.numbers ++ [':']) := by
  obtain ⟨-, rest, heq, hscan⟩ := headed?_eq hs
  obtain ⟨v, plural, -, hwritten⟩ := Header.exists_of_scan hscan
  refine ⟨Header.wordText v plural, ?_⟩
  have happend : w ++ rest = Header.wordText v plural ++ (h.numbers ++ [':']) ++ rest := by
    rw [← heq, hwritten]
    simp
  exact List.append_cancel_right happend

/-- The numbers of a header stand before its colon. -/
theorem exists_written_of_mem_cut {b : Option Char} {skip : Nat} {s : List Char} {sec : Section}
    (h : sec ∈ (cut skip (places b s)).2) :
    ∃ v, sec.written = v ++ (sec.header.numbers ++ [':']) := by
  induction s generalizing b skip with
  | nil => cases skip <;> cases h
  | cons c s ih =>
    cases skip with
    | succ n => exact ih h
    | zero =>
      rw [places] at h
      cases hhead : headed? b (c :: s) with
      | none =>
        rw [hhead] at h
        exact ih h
      | some hw =>
        rw [hhead] at h
        rcases List.mem_cons.1 h with rfl | h
        · exact exists_written_of_headed? hhead
        · exact ih h

theorem text_infix_of_mem_ofLine {line : List Char} {sec : Section}
    (h : sec ∈ (ofLine line).2) : sec.text <:+: line := by
  have hflat : sec.text <:+: ((ofLine line).2.map text).flatten :=
    List.infix_of_mem_flatten (List.mem_map_of_mem h)
  have hline := ofLine_eq line
  exact hflat.trans ⟨(ofLine line).1, [], by rw [List.append_nil, hline]⟩

theorem numbers_infix_of_mem_ofLine {line : List Char} {sec : Section}
    (h : sec ∈ (ofLine line).2) : sec.header.numbers <:+: line := by
  obtain ⟨v, hwritten⟩ := exists_written_of_mem_cut h
  have htext : sec.header.numbers <:+: sec.text :=
    ⟨v, ':' :: sec.body, by rw [text, hwritten]; simp⟩
  exact htext.trans (text_infix_of_mem_ofLine h)

theorem body_infix_of_mem_ofLine {line : List Char} {sec : Section}
    (h : sec ∈ (ofLine line).2) : sec.body <:+: line :=
  (List.suffix_append sec.written sec.body).isInfix.trans (text_infix_of_mem_ofLine h)

end Section

/-! ## Lines -/

namespace Line

theorem within_of_mem_significant {text : List Char} {l : Line} (h : l ∈ significant text) :
    DigitsWithin l.text text := by
  obtain ⟨⟨m, n⟩, hm, rfl⟩ := List.mem_map.1 (List.mem_filter.1 h).1
  have hline : m ∈ lines text := List.fst_mem_of_mem_zipIdx hm
  exact .of_isInfix ((infix_trim m).trans (infix_of_mem_lines hline))

theorem within_of_mem_grouped {text : List Char} {ls : List Line}
    (h : ∀ l ∈ ls, DigitsWithin l.text text) :
    (∀ l ∈ (grouped ls).1, DigitsWithin l.text text) ∧
      ∀ l ∈ (grouped ls).2, DigitsWithin l.text text := by
  induction ls with
  | nil => exact ⟨List.forall_mem_nil _, List.forall_mem_nil _⟩
  | cons l ls ih =>
    obtain ⟨hl, hls⟩ := List.forall_mem_cons.1 h
    obtain ⟨hmore, hgroups⟩ := ih hls
    have hopen : ∀ m ∈ l :: (grouped ls).1, DigitsWithin m.text text :=
      List.forall_mem_cons.2 ⟨hl, hmore⟩
    rw [grouped]
    dsimp only
    split
    · have hjoined : DigitsWithin (joined l (grouped ls).1).text text := by
        refine .intercalate (by decide +kernel) fun s hs => ?_
        obtain ⟨m, hm, rfl⟩ := List.mem_map.1 hs
        exact hopen m hm
      exact ⟨List.forall_mem_nil _, List.forall_mem_cons.2 ⟨hjoined, hgroups⟩⟩
    · exact ⟨hopen, hgroups⟩

theorem within_of_mem_logical {text : List Char} {l : Line}
    (h : l ∈ (grouped (significant text)).2) : DigitsWithin l.text text :=
  (within_of_mem_grouped fun _ => within_of_mem_significant).2 l h

end Line

/-! ## Extractions -/

namespace Extraction

variable {text : String} {why : Halt}

theorem tooLongIn_of_ofSection {line : Nat} {sec : Section}
    (h : ofSection line sec = .error why) : Numeral.TooLongIn sec.header.numbers why := by
  rcases bind_eq_error_iff.1 h with h | ⟨_, -, h⟩
  · rcases bind_eq_error_iff.1 h with h | ⟨_, -, h⟩
    · obtain ⟨ds, hds, hread⟩ := exists_of_mapM_eq_error h
      exact Numeral.tooLongIn_of_read (Header.digitRun_of_mem_numerals hds) hread
    · cases h
  · cases h

theorem tooLongIn_of_ofLine {l : Line} (h : ofLine l = .error why) :
    Numeral.TooLongIn l.text why := by
  unfold ofLine at h
  split at h
  · cases h
  · rcases bind_eq_error_iff.1 h with h | ⟨_, -, h⟩
    · obtain ⟨sec, hsec, h⟩ := exists_of_mapM_eq_error h
      have hnumbers := Section.numbers_infix_of_mem_ofLine hsec
      exact (tooLongIn_of_ofSection h).of_within (.of_isInfix hnumbers)
    · cases h

/-- Only a numeral that is too long keeps the rounds of a text from being extracted. -/
theorem tooLongIn_of_ofText (h : ofText text = .error why) :
    Numeral.TooLongIn text.toList why := by
  rcases bind_eq_error_iff.1 h with h | ⟨_, -, h⟩
  · obtain ⟨l, hl, h⟩ := exists_of_mapM_eq_error h
    exact (tooLongIn_of_ofLine h).of_within (Line.within_of_mem_logical hl)
  · cases h

/-- The digits of a body stand in the text. -/
theorem within_of_mem_ofText {e : Extraction} {d : Draft} (h : ofText text = .ok e)
    (hd : d ∈ e.drafts) : DigitsWithin d.body.toList text.toList := by
  obtain ⟨l, hl, sec, hsec, _, -, n, -, rfl⟩ := exists_section_of_mem_ofText h hd
  have hinfix := Section.body_infix_of_mem_ofLine hsec
  rw [draft, String.toList_ofList]
  exact ((DigitsWithin.oneSpaced sec.body).trans (.of_isInfix hinfix)).trans
    (Line.within_of_mem_logical hl)

end Extraction

/-! ## References -/

namespace Draft

theorem finds_referenceScan : Finds DigitRun referenceScan := by
  have hafter : ∀ ds v s : List Char, DigitRun ds s → DigitRun ds (v ++ s) :=
    fun ds v s hds => hds.of_isInfix (List.suffix_append v s).isInfix
  refine .after hafter (keeps_letters _) fun _ => .after hafter keeps_blanks1 fun _ =>
    .after hafter (keeps_letters _) fun _ => .after hafter ?_ fun _ =>
      .after hafter keeps_blanks fun _ => ?_
  · exact keeps_optional ((keeps_letters _).orElse (keeps_letters _))
  · intro s ds r h
    obtain ⟨n, t, hdigits, h⟩ := bind_eq_some.1 h
    obtain ⟨_, t', -, h⟩ := bind_eq_some.1 h
    cases h
    obtain ⟨rfl, -, hall, -⟩ := run1_eq_some hdigits
    exact ⟨hall, (List.prefix_append ds t).isInfix⟩

theorem digitRun_of_reference? {body : String} {numeral : List Char}
    (h : reference? body = some numeral) : DigitRun numeral body.toList :=
  (finds_referenceScan _ _ _ (whole_eq_some.1 h)).of_isInfix (infix_trim _)

end Draft

end KnitPattern
