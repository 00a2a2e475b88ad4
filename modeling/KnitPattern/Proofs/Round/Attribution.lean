/-
  The lines that drafts and faults come from. The lines of a text that count are the strays before
  the first start of a round and then the lines of blocks, each a start with its continuations
  (`exists_blocks`). A stray gives a fault of its own; a block gives what its headers give, or one
  fault if it has none (`GivenByLine`, `GivenByHeader`), always something, and always under the
  number of its first line. As these numbers grow along the text, so do the lines of the drafts, and
  those of the faults, though the faults of strays are put before all others (`lines_attributed`).
-/
import KnitPattern.Proofs.Round.Kept
import Mathlib.Data.Int.Order.Basic

namespace KnitPattern

open Text

/-! ## Lines that count -/

namespace Line

/-- The lines that count are those of the text, counted from 1 and trimmed, that are neither blank
nor notes. -/
theorem mem_significant_iff {text : List Char} {l : Line} :
    l ∈ significant text ↔ ∃ i s, (lines text)[i]? = some s ∧ l = ⟨i + 1, trim s⟩ ∧
      l.text ≠ [] ∧ l.isNote = false := by
  simp only [significant, List.mem_filter, List.mem_map, Prod.exists, Bool.and_eq_true,
    Bool.not_eq_true', List.isEmpty_eq_false_iff, List.mk_mem_zipIdx_iff_le_and_getElem?_sub]
  constructor
  · rintro ⟨⟨s, n, ⟨hn, hs⟩, rfl⟩, hcounts⟩
    exact ⟨n - 1, s, hs, by simp [Nat.sub_add_cancel hn], hcounts⟩
  · rintro ⟨i, s, hs, rfl, hcounts⟩
    exact ⟨⟨s, i + 1, ⟨by omega, by simpa using hs⟩, rfl⟩, hcounts⟩

theorem pairwise_significant (text : List Char) :
    (significant text).Pairwise (·.number < ·.number) := by
  refine List.Pairwise.filter _ (List.pairwise_map.2 ?_)
  have hnumbers : (((lines text).zipIdx 1).map Prod.snd).Pairwise (· < ·) := by
    rw [List.zipIdx_map_snd]
    exact List.pairwise_lt_range'
  exact List.pairwise_map.1 hnumbers

/-! ## Blocks of lines -/

/-- A line that starts a round, and the lines that continue it. -/
structure Block where
  first : Line
  more : List Line

namespace Block

def lines (b : Block) : List Line :=
  b.first :: b.more

/-- The logical line that a block is put together to. -/
def whole (b : Block) : Line :=
  joined b.first b.more

/-- The first line of the block starts a round, and no other one does. -/
structure Opens (b : Block) : Prop where
  first : b.first.isStart = true
  more : ∀ l ∈ b.more, l.isStart = false

end Block

theorem grouped_fst (ls : List Line) : (grouped ls).1 = ls.takeWhile (!·.isStart) := by
  induction ls with
  | nil => rfl
  | cons l ls ih =>
    by_cases hl : l.isStart = true <;> simp [grouped, hl, ih]

/-- From the first start of a round on, lines are those of blocks, one for each logical line. -/
theorem exists_blocks (ls : List Line) :
    ∃ blocks : List Block, ls.dropWhile (!·.isStart) = blocks.flatMap Block.lines ∧
      (∀ b ∈ blocks, b.Opens) ∧ (grouped ls).2 = blocks.map Block.whole := by
  induction ls with
  | nil => exact ⟨[], by simp [grouped]⟩
  | cons l ls ih =>
    obtain ⟨blocks, hlines, hopens, hgroups⟩ := ih
    by_cases hl : l.isStart = true
    · have hmore : ∀ m ∈ ls.takeWhile (!·.isStart), m.isStart = false := fun m hm => by
        simpa using List.mem_takeWhile_imp hm
      refine ⟨⟨l, ls.takeWhile (!·.isStart)⟩ :: blocks, ?_, ?_, ?_⟩
      · simp [hl, ← hlines, Block.lines, List.takeWhile_append_dropWhile]
      · exact List.forall_mem_cons.2 ⟨⟨hl, hmore⟩, hopens⟩
      · simp [grouped, hl, hgroups, grouped_fst, Block.whole]
    · exact ⟨blocks, by simp [hl, hlines], hopens, by simp [grouped, hl, hgroups]⟩

/-- The first lines of blocks stand in the order of all their lines. -/
theorem firsts_sublist (blocks : List Block) :
    (blocks.map Block.first).Sublist (blocks.flatMap Block.lines) := by
  induction blocks with
  | nil => exact List.Sublist.refl _
  | cons b blocks ih =>
    exact (ih.trans (List.sublist_append_right b.more _)).cons_cons b.first

end Line

/-! ## What headers and lines give -/

/-- The positive numbers that a header lists. -/
def Header.listed (h : Header) : List Nat :=
  (h.numerals.map Numeral.value).filter (0 < ·)

theorem Numeral.eq_value_of_read {ds : List Char} {n : Nat} (h : read ds = .ok n) :
    value ds = n := by
  unfold read at h
  split at h
  · exact Except.ok.inj h
  · cases h

theorem Header.eq_listed {h : Header} {ns : List Nat} (hns : h.positives = .ok ns) :
    ns = h.listed := by
  obtain ⟨ms, hms, heq⟩ := bind_eq_ok_iff.1 hns
  have hvalues : h.numerals.map Numeral.value = ms.map id :=
    map_eq_map_iff_forall₂.2 ((mapM_eq_ok_iff.1 hms).imp fun _ _ => Numeral.eq_value_of_read)
  rw [listed, hvalues, List.map_id]
  exact (Except.ok.inj heq).symm

namespace Extraction

/-- What one header gives: a draft for each positive number that it lists, all with one body and
one text, or one fault if it lists none. -/
inductive GivenByHeader (line : Nat) (s : Section) : Extraction → Prop
  | drafts {ds : List Draft} (some : ds ≠ [])
      (numbers : ds.map Draft.number = s.header.listed.map Int.ofNat)
      (same : ∀ d ∈ ds, d.line = line ∧ d.body = String.ofList (oneSpaced s.body) ∧
        d.raw = String.ofList (raw s)) :
      GivenByHeader line s ⟨ds, []⟩
  | fault (none : s.header.listed = []) :
      GivenByHeader line s ⟨[], [(line, .noNumber (trim s.written))]⟩

/-- What a logical line gives: what its headers give, in their order, or one fault if it has no
header. -/
inductive GivenByLine (l : Line) : Extraction → Prop
  | noHeader (none : l.sections = []) : GivenByLine l ⟨[], [(l.number, .noHeader)]⟩
  | headers {es : List Extraction} (some : l.sections ≠ [])
      (each : List.Forall₂ (GivenByHeader l.number) l.sections es) : GivenByLine l (concat es)

theorem givenByHeader_of_ofSection {line : Nat} {s : Section} {e : Extraction}
    (h : ofSection line s = .ok e) : GivenByHeader line s e := by
  obtain ⟨ns, hns, h⟩ := bind_eq_ok_iff.1 h
  obtain rfl := Except.ok.inj h
  have hlisted := Header.eq_listed hns
  cases ns with
  | nil => exact .fault hlisted.symm
  | cons n ns =>
    refine .drafts (by simp) ?_ ?_
    · rw [← hlisted]
      simp [draft]
    · intro d hd
      obtain ⟨m, -, rfl⟩ := List.mem_map.1 hd
      exact ⟨rfl, rfl, rfl⟩

theorem givenByLine_of_ofLine {l : Line} {e : Extraction} (h : ofLine l = .ok e) :
    GivenByLine l e := by
  unfold ofLine at h
  split at h
  · next hnone =>
    obtain rfl := Except.ok.inj h
    exact .noHeader hnone
  · next hsome =>
    obtain ⟨es, hes, h⟩ := bind_eq_ok_iff.1 h
    obtain rfl := Except.ok.inj h
    exact .headers hsome ((mapM_eq_ok_iff.1 hes).imp fun _ _ => givenByHeader_of_ofSection)

/-- Something is given under the number of a line, and nothing under another one. -/
structure Under (line : Nat) (e : Extraction) : Prop where
  some : e.drafts ≠ [] ∨ e.faults ≠ []
  drafts : ∀ d ∈ e.drafts, d.line = line
  faults : ∀ f ∈ e.faults, f.1 = line ∧ f.2 ≠ .stray

theorem GivenByHeader.under {line : Nat} {s : Section} {e : Extraction}
    (h : GivenByHeader line s e) : Under line e := by
  cases h with
  | drafts hsome _ hsame => exact ⟨.inl hsome, fun d hd => (hsame d hd).1, by simp⟩
  | fault => exact ⟨.inr (by simp), by simp, by simp⟩

/-- What is given under one number is so in its parts put together. -/
theorem Under.concat {line : Nat} {es : List Extraction} (hne : es ≠ [])
    (h : ∀ e ∈ es, Under line e) : Under line (concat es) := by
  refine ⟨?_, fun d hd => ?_, fun f hf => ?_⟩
  · obtain ⟨e, he⟩ := List.exists_mem_of_ne_nil es hne
    rcases (h e he).some with hsome | hsome
    · exact .inl fun hnil => hsome (List.flatMap_eq_nil_iff.1 hnil e he)
    · exact .inr fun hnil => hsome (List.flatMap_eq_nil_iff.1 hnil e he)
  · obtain ⟨e, he, hd⟩ := List.mem_flatMap.1 hd
    exact (h e he).drafts d hd
  · obtain ⟨e, he, hf⟩ := List.mem_flatMap.1 hf
    exact (h e he).faults f hf

theorem GivenByLine.under {l : Line} {e : Extraction} (h : GivenByLine l e) :
    Under l.number e := by
  cases h with
  | noHeader => exact ⟨.inr (by simp), by simp, by simp⟩
  | headers hsome heach =>
    refine .concat ?_ fun e he => ?_
    · intro hnil
      subst hnil
      exact hsome (List.forall₂_nil_right_iff.1 heach)
    · obtain ⟨s, -, hs⟩ := exists_of_mem_forall₂ heach he
      exact hs.under

/-! ## The order of what is given -/

/-- What the elements of a list give stands in the order of the elements, if all that one gives
goes by its key. -/
theorem pairwise_flatMap_of_forall₂ {α β γ ι : Type} [Preorder ι] {R : α → β → Prop}
    {k : α → ι} {f : β → List γ} {place : γ → ι} {as : List α} {bs : List β}
    (h : List.Forall₂ R as bs) (hkey : ∀ a b, R a b → ∀ c ∈ f b, place c = k a)
    (hsorted : as.Pairwise (k · ≤ k ·)) :
    (bs.flatMap f).Pairwise (place · ≤ place ·) := by
  induction h with
  | nil => exact .nil
  | @cons a b as bs hab hrest ih =>
    obtain ⟨hfirst, hsorted⟩ := List.pairwise_cons.1 hsorted
    rw [List.flatMap_cons, List.pairwise_append]
    refine ⟨List.pairwise_of_forall_mem_list fun c hc c' hc' => ?_, ih hsorted,
      fun c hc c' hc' => ?_⟩
    · rw [hkey a b hab c hc, hkey a b hab c' hc']
    · obtain ⟨b', hb', hc'⟩ := List.mem_flatMap.1 hc'
      obtain ⟨a', ha', hab'⟩ := exists_of_mem_forall₂ hrest hb'
      rw [hkey a b hab c hc, hkey a' b' hab' c' hc']
      exact hfirst a' ha'

/-- A fault is reported with the number that it is given under in front. -/
theorem messages_start_with_number (e : Extraction) :
    List.Forall₂ (fun f m => s!"Line {f.1}: ".toList <+: m.toList) e.faults e.messages := by
  refine List.forall₂_map_right_iff.2 (List.forall₂_same.2 fun ⟨n, fault⟩ _ => ?_)
  have htext : ∀ s : String, toString s = s := fun _ => rfl
  cases fault <;> simp [Line.Fault.message, htext, List.prefix_append_right_inj]

/-- The lines of a text that count are the strays, then the lines of blocks, and each block gives
something under the number of its first line. -/
theorem exists_given {text : String} {e : Extraction} (h : ofText text = .ok e) :
    let ls := Line.significant text.toList
    let strays := ls.takeWhile (!·.isStart)
    ∃ (blocks : List Line.Block) (es : List Extraction),
      ls = strays ++ blocks.flatMap Line.Block.lines ∧ (∀ b ∈ blocks, b.Opens) ∧
      List.Forall₂ (fun b given => GivenByLine b.whole given ∧ Under b.first.number given)
        blocks es ∧
      e.drafts = es.flatMap drafts ∧
      e.faults = strays.map (fun l => (l.number, .stray)) ++ es.flatMap faults := by
  intro ls strays
  obtain ⟨es, hes, h⟩ := bind_eq_ok_iff.1 h
  obtain rfl := Except.ok.inj h
  obtain ⟨blocks, hlines, hopens, hgroups⟩ := Line.exists_blocks ls
  have hgiven : List.Forall₂ (fun b given => ofLine (Line.Block.whole b) = .ok given)
      blocks es := by
    have hall := mapM_eq_ok_iff.1 hes
    rw [hgroups] at hall
    exact List.forall₂_map_left_iff.1 hall
  refine ⟨blocks, es, ?_, hopens, hgiven.imp fun b given hb => ?_, rfl, ?_⟩
  · rw [← hlines]
    exact List.takeWhile_append_dropWhile.symm
  · have hline := givenByLine_of_ofLine hb
    exact ⟨hline, hline.under⟩
  · show (Line.grouped ls).1.map _ ++ _ = _
    rw [Line.grouped_fst]
    rfl

/-- The lines of a text that count are, in their order, the strays before the first start of a
round and the lines of blocks, each a start with its continuations. Every stray gives a fault of
its own, and no other line gives such a fault. Every block gives something, under the number of
its first line: for each header the drafts of its positive numbers, or a fault if it lists none,
and one fault if it has no header. Along the drafts, and along the faults, the lines never go back,
and each fault is reported with its line. -/
theorem lines_attributed {text : String} {e : Extraction} (h : ofText text = .ok e) :
    let ls := Line.significant text.toList
    let strays := ls.takeWhile (!·.isStart)
    ((∀ l, l ∈ ls ↔ ∃ i s, (lines text.toList)[i]? = some s ∧ l = ⟨i + 1, trim s⟩ ∧
        l.text ≠ [] ∧ l.isNote = false) ∧
      ls.Pairwise (·.number < ·.number)) ∧
    (∃ (blocks : List Line.Block) (es : List Extraction),
      ls = strays ++ blocks.flatMap Line.Block.lines ∧ (∀ b ∈ blocks, b.Opens) ∧
      List.Forall₂ (fun b given => GivenByLine b.whole given ∧ Under b.first.number given)
        blocks es ∧
      e.drafts = es.flatMap drafts ∧
      e.faults = strays.map (fun l => (l.number, .stray)) ++ es.flatMap faults) ∧
    e.drafts.Pairwise (·.line ≤ ·.line) ∧ e.faults.Pairwise (·.1 ≤ ·.1) ∧
    List.Forall₂ (fun f m => s!"Line {f.1}: ".toList <+: m.toList) e.faults e.messages := by
  intro ls strays
  have hnumbers : ls.Pairwise (·.number < ·.number) := Line.pairwise_significant text.toList
  obtain ⟨blocks, es, hls, hopens, hgiven, hdrafts, hfaults⟩ := exists_given h
  have hsplit : (strays ++ blocks.flatMap Line.Block.lines).Pairwise (·.number < ·.number) :=
    hls ▸ hnumbers
  obtain ⟨hstrays, hlines, hbefore⟩ := List.pairwise_append.1 hsplit
  have hfirsts : blocks.Pairwise (·.first.number < ·.first.number) := by
    have hsorted := hlines.sublist (Line.firsts_sublist blocks)
    rw [List.pairwise_map] at hsorted
    exact hsorted
  refine ⟨⟨fun l => Line.mem_significant_iff, hnumbers⟩,
    ⟨blocks, es, hls, hopens, hgiven, hdrafts, hfaults⟩, ?drafts, ?faults,
    messages_start_with_number e⟩
  case drafts =>
    rw [hdrafts]
    refine pairwise_flatMap_of_forall₂ (k := fun b : Line.Block => (b.first.number : Int))
      hgiven ?_ ?_
    · exact fun b given hb d hd => hb.2.drafts d hd
    · exact hfirsts.imp fun hlt => by omega
  case faults =>
    rw [hfaults, List.pairwise_append]
    refine ⟨?_, ?_, fun f hf f' hf' => ?_⟩
    · exact List.pairwise_map.2 (hstrays.imp Nat.le_of_lt)
    · refine pairwise_flatMap_of_forall₂ (k := fun b : Line.Block => b.first.number) hgiven ?_ ?_
      · exact fun b given hb f hf => (hb.2.faults f hf).1
      · exact hfirsts.imp Nat.le_of_lt
    · obtain ⟨l, hl, rfl⟩ := List.mem_map.1 hf
      obtain ⟨given, hmem, hf'⟩ := List.mem_flatMap.1 hf'
      obtain ⟨b, hb, hunder⟩ := exists_of_mem_forall₂ hgiven hmem
      have hlt : l.number < b.first.number :=
        hbefore l hl b.first (List.mem_flatMap.2 ⟨b, hb, by simp [Line.Block.lines]⟩)
      rw [(hunder.2.faults f' hf').1]
      exact Nat.le_of_lt hlt

/-- A stray, a block with a note and a blank line inside whose header lists one number twice, a
block whose first header lists no positive number, and one without a header. -/
theorem lines_attributed_of_mixed :
    let text := "k2,\r\nRnds 2, 2: k1,\n NOTE: go on\n\n  yo\nRnd 0: p1 Row 3: p2\nRnd 4 k2"
    ∃ e, ofText text = .ok e ∧
      e.drafts.map (fun d => (d.raw, d.line)) =
        [("Rnds 2, 2: k1, yo", 2), ("Rnds 2, 2: k1, yo", 2), ("Row 3: p2", 6)] ∧
      e.faults = [(1, .stray), (6, .noNumber "Rnd 0:".toList), (7, .noHeader)] ∧
      e.drafts.Pairwise (·.line ≤ ·.line) ∧ e.faults.Pairwise (·.1 ≤ ·.1) := by
  intro text
  have hread : (ofText text).toOption.map
      (fun e => (e.drafts.map (fun d => (d.raw, d.line)), e.faults)) =
      some ([("Rnds 2, 2: k1, yo", 2), ("Rnds 2, 2: k1, yo", 2), ("Row 3: p2", 6)],
        [(1, .stray), (6, .noNumber "Rnd 0:".toList), (7, .noHeader)]) := by
    decide +kernel
  obtain ⟨e, he, heq⟩ := exists_eq_ok_of_toOption hread
  obtain ⟨hdrafts, hfaults⟩ := Prod.mk.inj heq
  obtain ⟨-, -, hlines, hnumbers, -⟩ := lines_attributed he
  exact ⟨e, he, hdrafts, hfaults, hlines, hnumbers⟩

end Extraction

end KnitPattern
