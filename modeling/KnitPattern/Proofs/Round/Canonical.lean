/-
  The canonical form of the rounds of a text. Every draft of an extraction is `Canonical`, and
  canonical drafts that are rendered one to a line are extracted again, each from its own line
  and with no fault (`ofText_render`): a rendered draft is a line that starts a round, with the
  one header that was written and a body without any.
-/
import KnitPattern.Proofs.Round.Extracted
import KnitPattern.Proofs.Round.Heading
import KnitPattern.Proofs.Text.Lines
import KnitPattern.Round.Extraction

namespace KnitPattern

open Text Scan Section

/-- What holds of every draft that is extracted from a text. -/
structure Draft.Canonical (d : Draft) : Prop where
  keyword : ∃ k : Keyword, d.keyword = k.toString
  number : ∃ n : Nat, d.number = n ∧ 0 < n ∧ n < 10 ^ Halt.digitLimit
  spaced : oneSpaced d.body.toList = d.body.toList
  headless : Headless none d.body.toList

/-! ## Extracted drafts are canonical -/

namespace Extraction

theorem canonical_draft {line n : Nat} {s : Section} (hpos : 0 < n)
    (hn : n < 10 ^ Halt.digitLimit) (hs : Headless (some ':') s.body) :
    (draft line s n).Canonical where
  keyword := ⟨s.header.keyword, rfl⟩
  number := ⟨n, rfl, hpos, hn⟩
  spaced := by
    rw [draft, String.toList_ofList, oneSpaced_oneSpaced]
  headless := by
    rw [draft, String.toList_ofList]
    exact hs.oneSpaced (by decide +kernel)

theorem canonical_of_mem_ofText {text : String} {e : Extraction} (h : ofText text = .ok e) :
    ∀ d ∈ e.drafts, d.Canonical := by
  intro d hd
  obtain ⟨l, -, sec, hsec, ns, hns, n, hn, rfl⟩ := exists_section_of_mem_ofText h hd
  obtain ⟨hpos, hlt⟩ := Header.of_mem_positives hns n hn
  exact canonical_draft hpos hlt (Section.headless_of_mem_ofLine hsec)

end Extraction

/-! ## A draft on a line of its own -/

namespace Draft

/-- A draft as a line of a pattern. -/
def rendered (d : Draft) : String :=
  d.keyword ++ " " ++ toString d.number ++ ": " ++ d.body

/-- A draft that is read from its own line. -/
def placed (d : Draft) (line : Nat) : Draft :=
  { d with raw := String.ofList (trim d.rendered.toList), line := line }

/-- Drafts one to a line. -/
def render (ds : List Draft) : String :=
  String.ofList (['\n'].intercalate (ds.map fun d => d.rendered.toList))

end Draft

/-- The word of a header as a draft names it. -/
def Keyword.spelled (k : Keyword) : Spelled k.letters :=
  ⟨k.toString.toList, by cases k <;> decide⟩

/-- A header with one number. -/
def headingText (k : Keyword) (n : Nat) : List Char :=
  Header.wordText k.spelled none ++ (' ' :: Nat.toDigits 10 n ++ [':'])

/-! ### The heading of a line -/

section Heading

variable (k : Keyword) (n : Nat)

theorem headingText_eq (r : List Char) : headingText k n ++ r =
    Header.wordText k.spelled none ++ ((' ' :: Nat.toDigits 10 n) ++ ':' :: r) := by
  simp [headingText]

theorem ends_headingText (r : List Char) : Ends isBlank (headingText k n ++ r) := by
  rw [headingText_eq]
  refine ends_append (Header.wordText_ne_nil _ _) (fun c hc => ?_) _
  exact not_isBlank_of_isCased (Header.isCased_wordText _ _ c hc)

theorem ends_reverse_headingText : Ends isBlank (headingText k n).reverse := by
  have hreverse : (headingText k n).reverse =
      ':' :: (Header.wordText k.spelled none ++ ' ' :: Nat.toDigits 10 n).reverse := by
    simp [headingText]
  rw [hreverse]
  exact ends_cons (by decide) _

theorem scan_headingText (r : List Char) :
    Header.scan (headingText k n ++ r) = some (⟨k, ' ' :: Nat.toDigits 10 n⟩, r) := by
  have hlist : ∀ c ∈ ' ' :: Nat.toDigits 10 n, Header.isListChar c = true := by
    refine List.forall_mem_cons.2 ⟨by decide +kernel, fun c hc => ?_⟩
    rw [Header.isListChar, Numeral.isDigit_toDigits n c hc]
    rfl
  rw [headingText_eq]
  exact Header.scan_append k.spelled none hlist r

theorem isStart_headingText (i : Nat) (r : List Char) :
    Line.isStart ⟨i, headingText k n ++ r⟩ = true := by
  obtain ⟨c, cs, hdigits⟩ := List.exists_cons_of_ne_nil (Nat.toDigits_ne_nil (n := n) (b := 10))
  have hc : isDigit c = true :=
    Numeral.isDigit_toDigits n c (by rw [hdigits]; exact List.mem_cons_self)
  have hspace : Ends (foldCase · == 's') (' ' :: (c :: cs) ++ ':' :: r) :=
    ends_cons (p := (foldCase · == 's')) (by decide) _
  have hblanks : blanks ([' '] ++ (c :: cs ++ ':' :: r)) = some ((), c :: cs ++ ':' :: r) :=
    blanks_append WideGap.space.2.2 (ends_cons (not_isBlank_of_isDigit hc) _)
  have hscan : Header.startScan (headingText k n ++ r) = some ((), cs ++ ':' :: r) := by
    rw [headingText_eq, hdigits, Header.startScan,
      bind_of_some (Header.keywordScan_append k.spelled none hspace)]
    exact (bind_of_some hblanks).trans (bind_of_some (char_cons hc))
  show (Header.startScan (headingText k n ++ r)).isSome = true
  rw [hscan]
  rfl

theorem not_isNote_headingText (i : Nat) (r : List Char) :
    Line.isNote ⟨i, headingText k n ++ r⟩ = false := by
  have hword : Ends (foldCase · == 'n') (headingText k n ++ r) := by
    rw [headingText_eq]
    cases k <;> exact ends_cons (p := (foldCase · == 'n')) (by decide) _
  have hnone : Line.noteScan (headingText k n ++ r) = none :=
    bind_of_none (letters_of_ends hword)
  show (Line.noteScan (headingText k n ++ r)).isSome = false
  rw [hnone]
  rfl

/-- The one number of a heading is read. -/
theorem positives_heading {n : Nat} (hpos : 0 < n) (hn : n < 10 ^ Halt.digitLimit) :
    Header.positives ⟨k, ' ' :: Nat.toDigits 10 n⟩ = .ok [n] := by
  have hnumerals : Header.numerals ⟨k, ' ' :: Nat.toDigits 10 n⟩ = [Nat.toDigits 10 n] := by
    have hsplit : ([] ++ ' ' :: Nat.toDigits 10 n).splitOnP (!isDigit ·) = _ :=
      List.splitOnP_append_cons [] (Nat.toDigits 10 n) (by decide +kernel)
    have hone : (Nat.toDigits 10 n).splitOnP (!isDigit ·) = [Nat.toDigits 10 n] :=
      List.splitOnP_eq_singleton fun c hc => by rw [Numeral.isDigit_toDigits n c hc]; rfl
    rw [List.nil_append] at hsplit
    rw [Header.numerals, hsplit, hone, List.splitOnP_nil]
    simp [Nat.toDigits_ne_nil]
  have hfilter : [n].filter (0 < ·) = [n] := by
    simp [hpos]
  rw [Header.positives, hnumerals, List.mapM_cons, Numeral.read_toDigits hn]
  exact congrArg Except.ok hfilter

end Heading

/-! ### The line of a draft -/

namespace Draft

theorem rendered_eq {d : Draft} {k : Keyword} {n : Nat} (hk : d.keyword = k.toString)
    (hn : d.number = n) : d.rendered.toList = headingText k n ++ ' ' :: d.body.toList := by
  have hnumber : (toString d.number).toList = Nat.toDigits 10 n := by
    rw [hn]
    exact Nat.toList_repr
  unfold rendered
  rw [String.toList_append, String.toList_append, String.toList_append, String.toList_append,
    hk, hnumber]
  simp [headingText, Header.wordText, Keyword.spelled]

/-- What is left of the body on the line of a draft. -/
def bodyText (d : Draft) : List Char :=
  stripEnd isBlank (' ' :: d.body.toList)

theorem trim_rendered {d : Draft} {k : Keyword} {n : Nat} (hk : d.keyword = k.toString)
    (hn : d.number = n) : trim d.rendered.toList = headingText k n ++ d.bodyText := by
  rw [rendered_eq hk hn, trim, strip, dropWhile_of_ends (ends_headingText k n _),
    stripEnd_append_of_ends (ends_reverse_headingText k n)]
  rfl

namespace Canonical

variable {d : Draft} (h : d.Canonical)

include h

theorem headless_bodyText : Headless (some ':') d.bodyText := by
  obtain ⟨g, -, hg⟩ := exists_stripEnd isBlank (' ' :: d.body.toList)
  have hbody : Headless (some ' ') d.body.toList := h.headless.congr (by decide +kernel)
  have hall : Headless (some ':') (' ' :: d.body.toList) :=
    Headless.blank_cons (by decide) hbody
  rw [hg] at hall
  exact hall.of_append

theorem oneSpaced_bodyText : oneSpaced d.bodyText = d.body.toList := by
  obtain ⟨g, hgap, hg⟩ := exists_stripEnd isBlank (' ' :: d.body.toList)
  calc oneSpaced d.bodyText = oneSpaced (d.bodyText ++ g) :=
        (oneSpaced_append_blanks hgap _).symm
    _ = oneSpaced ([' '] ++ d.body.toList) := congrArg oneSpaced hg.symm
    _ = oneSpaced d.body.toList := oneSpaced_blanks_append WideGap.space.2.2 _
    _ = d.body.toList := h.spaced

theorem not_isLineBreak_rendered : ∀ c ∈ d.rendered.toList, isLineBreak c = false := by
  obtain ⟨k, hk⟩ := h.keyword
  obtain ⟨n, hn, -, -⟩ := h.number
  have hblank : ∀ c, isBlank c = false → isLineBreak c = false := by
    intro c hc
    cases hbreak : isLineBreak c with
    | false => rfl
    | true =>
      rw [isBlank_of_isLineBreak hbreak] at hc
      cases hc
  rw [rendered_eq hk hn, headingText_eq, List.forall_mem_append, List.forall_mem_append,
    List.forall_mem_cons, List.forall_mem_cons, List.forall_mem_cons]
  refine ⟨?_, ⟨by decide, ?_⟩, by decide, by decide, ?_⟩
  · intro c hc
    exact hblank c (not_isBlank_of_isCased (Header.isCased_wordText _ _ c hc))
  · intro c hc
    exact hblank c (not_isBlank_of_isDigit (Numeral.isDigit_toDigits n c hc))
  · intro c hc
    cases hb : isBlank c with
    | false => exact hblank c hb
    | true =>
      rw [← h.spaced] at hc
      rw [eq_space_of_mem_oneSpaced hc hb]
      decide

/-- The line of a draft is read as the draft. -/
theorem ofLine_rendered (i : Nat) :
    Extraction.ofLine ⟨i, trim d.rendered.toList⟩ = .ok ⟨[d.placed i], []⟩ := by
  obtain ⟨k, hk⟩ := h.keyword
  obtain ⟨n, hn, hpos, hlt⟩ := h.number
  have hsections : Section.ofLine (trim d.rendered.toList) =
      ([], [⟨⟨k, ' ' :: Nat.toDigits 10 n⟩, headingText k n, d.bodyText⟩]) := by
    rw [trim_rendered hk hn]
    exact Section.ofLine_append (scan_headingText k n _) h.headless_bodyText
  have hdraft : Extraction.draft i
      ⟨⟨k, ' ' :: Nat.toDigits 10 n⟩, headingText k n, d.bodyText⟩ n = d.placed i := by
    have hraw : trim (headingText k n ++ d.bodyText) = trim d.rendered.toList := by
      rw [← trim_rendered hk hn, trim_trim]
    rw [Extraction.draft, Section.text, placed, hraw, h.oneSpaced_bodyText, ← hk, ← hn,
      String.ofList_toList]
  rw [Extraction.ofLine, hsections]
  show (([_].mapM (Extraction.ofSection i)) >>= _) = _
  rw [List.mapM_cons, Extraction.ofSection, positives_heading k hpos hlt]
  show Except.ok (Extraction.concat [⟨[Extraction.draft i _ n], []⟩]) = _
  rw [hdraft]
  rfl

/-- The line of a draft counts, and starts a round. -/
theorem isStart_rendered (i : Nat) : (!(trim d.rendered.toList).isEmpty &&
    !Line.isNote ⟨i, trim d.rendered.toList⟩) = true ∧
      Line.isStart ⟨i, trim d.rendered.toList⟩ = true := by
  obtain ⟨k, hk⟩ := h.keyword
  obtain ⟨n, hn, -, -⟩ := h.number
  have hne : (headingText k n ++ d.bodyText).isEmpty = false := by
    simp [headingText]
  rw [trim_rendered hk hn, not_isNote_headingText, isStart_headingText, hne]
  exact ⟨rfl, rfl⟩

end Canonical

end Draft

/-! ## The lines of drafts -/

theorem Line.joined_nil (l : Line) : l.joined [] = l := by
  rw [joined, List.map_singleton, List.intercalate_singleton]

/-- Where every line starts a round, each is a logical line. -/
theorem Line.grouped_of_isStart {ls : List Line} (h : ∀ l ∈ ls, l.isStart = true) :
    grouped ls = ([], ls) := by
  induction ls with
  | nil => rfl
  | cons l ls ih =>
    obtain ⟨hl, hls⟩ := List.forall_mem_cons.1 h
    rw [grouped, ih hls]
    dsimp only
    rw [if_pos hl, joined_nil]

namespace Draft

variable {ds : List Draft}

theorem significant_render (h : ∀ d ∈ ds, d.Canonical) :
    Line.significant (render ds).toList =
      (ds.zipIdx 1).map fun p => ⟨p.2, trim p.1.rendered.toList⟩ := by
  have hlines : lines (render ds).toList = ds.map fun d => d.rendered.toList := by
    rw [render, String.toList_ofList]
    refine lines_intercalate fun l hl => ?_
    obtain ⟨d, hd, rfl⟩ := List.mem_map.1 hl
    refine ⟨fun hnil => ?_, (h d hd).not_isLineBreak_rendered⟩
    have hstart := (h d hd).isStart_rendered 0
    rw [hnil] at hstart
    exact absurd hstart.1 (by decide)
  rw [Line.significant, hlines, List.zipIdx_map, List.map_map]
  refine List.filter_eq_self.2 fun l hl => ?_
  obtain ⟨p, hp, rfl⟩ := List.mem_map.1 hl
  exact ((h p.1 (List.fst_mem_of_mem_zipIdx hp)).isStart_rendered p.2).1

/-- Canonical drafts are extracted again from their lines, and nothing else is found. -/
theorem ofText_render (h : ∀ d ∈ ds, d.Canonical) :
    Extraction.ofText (render ds) = .ok ⟨(ds.zipIdx 1).map fun p => p.1.placed p.2, []⟩ := by
  have hgrouped : Line.grouped (Line.significant (render ds).toList) =
      ([], (ds.zipIdx 1).map fun p => ⟨p.2, trim p.1.rendered.toList⟩) := by
    rw [significant_render h]
    refine Line.grouped_of_isStart fun l hl => ?_
    obtain ⟨p, hp, rfl⟩ := List.mem_map.1 hl
    exact ((h p.1 (List.fst_mem_of_mem_zipIdx hp)).isStart_rendered p.2).2
  have hrounds : ((ds.zipIdx 1).map fun p => (⟨p.2, trim p.1.rendered.toList⟩ : Line)).mapM
      Extraction.ofLine = .ok ((ds.zipIdx 1).map fun p => ⟨[p.1.placed p.2], []⟩) := by
    rw [mapM_eq_ok_iff, List.forall₂_map_left_iff, List.forall₂_map_right_iff,
      List.forall₂_same]
    intro p hp
    exact (h p.1 (List.fst_mem_of_mem_zipIdx hp)).ofLine_rendered p.2
  have hconcat : Extraction.concat ((ds.zipIdx 1).map fun p => ⟨[p.1.placed p.2], []⟩) =
      ⟨(ds.zipIdx 1).map fun p => p.1.placed p.2, []⟩ := by
    rw [Extraction.concat, List.flatMap_map, List.flatMap_map, ← List.map_eq_flatMap]
    simp
  rw [Extraction.ofText, hgrouped]
  show ((List.mapM Extraction.ofLine _) >>= _) = _
  rw [hrounds]
  show Except.ok (Extraction.append _ (Extraction.concat _)) = _
  rw [hconcat]
  rfl

end Draft

end KnitPattern
