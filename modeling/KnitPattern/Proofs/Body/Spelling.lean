/-
  Spellings of a repeat block. A `Spelling` has a field for every choice that the notation of
  a block leaves open. However a block is spelled, its stars cut it into pieces that are read
  one by one, and the text read as its inner text is the given one, with blanks around it and
  perhaps a delimiter at its end (`form_text`); and every text that is read as a block is
  spelled so (`exists_spelling`).
-/
import KnitPattern.Proofs.Body.Clause

namespace KnitPattern.Body

open Text Scan

/-- How a repeat block is spelled: the letters of its words, its blanks, and which of the parts
that may be left out are there. -/
structure Spelling where
  /-- After the first star. -/
  opening : Gap
  /-- After the inner text. -/
  before : Gap
  /-- The star that closes the block, with the blanks after it. -/
  closing : Option Gap
  delimiter : Option Delimiter
  rep : RepClause
  target : Option ToClause
  times : TimesClause

namespace Spelling

variable (sp : Spelling)

/-- The star that closes a block, with what stands after it. -/
def closingText (closing : Option Gap) : List Char :=
  closing.elim [] fun g => '*' :: g.1

/-- What stands before the star that a block is repeated to, with the star. -/
def toText (target : Option ToClause) : List Char :=
  target.elim [] fun c => c.text ++ ['*']

/-- The text of a repeat block. -/
def text (inner times : List Char) : List Char :=
  '*' :: (sp.opening.1 ++ inner ++ sp.before.1 ++ closingText sp.closing ++
    delimiterText sp.delimiter ++ sp.rep.text ++ '*' :: toText sp.target ++ sp.times.text times)

theorem trim_text (inner times : List Char) :
    trim (sp.text inner times) = sp.text inner times := by
  refine strip_eq_self (ends_cons (by decide) _) ?_
  rw [text, ← List.cons_append]
  exact sp.times.ends_reverse_text _ times

/-- The inner text stands in the text of a block. -/
theorem inner_infix_text (inner times : List Char) : inner <:+: sp.text inner times :=
  ⟨'*' :: sp.opening.1, sp.before.1 ++ (closingText sp.closing ++ (delimiterText sp.delimiter ++
    (sp.rep.text ++ '*' :: (toText sp.target ++ sp.times.text times)))), by simp [text]⟩

/-- The numeral stands in the text of a block. -/
theorem times_infix_text (inner times : List Char) : times <:+: sp.text inner times :=
  ⟨'*' :: (sp.opening.1 ++ inner ++ sp.before.1 ++ closingText sp.closing ++
    delimiterText sp.delimiter ++ sp.rep.text ++ '*' :: toText sp.target ++ sp.times.before.1),
    sp.times.after.1 ++ sp.times.timeText, by simp [text, TimesClause.text]⟩

/-- The text read as the inner text of a block: with no star to close the block, the delimiter
is part of it. -/
def captured (inner : List Char) : List Char :=
  sp.opening.1 ++ inner ++ sp.before.1 ++
    (if sp.closing.isNone then delimiterText sp.delimiter else [])

/-- The text read as the inner text has the tokens of the inner text. -/
theorem split_captured (inner : List Char) :
    Token.split (sp.captured inner) = Token.split inner := by
  have hpadded : Token.split (sp.opening.1 ++ inner ++ sp.before.1) = Token.split inner := by
    rw [Token.split_append_blanks sp.before.2, Token.split_blanks_append sp.opening.2]
  unfold captured
  split
  · cases sp.delimiter with
    | none =>
      show Token.split (sp.opening.1 ++ inner ++ sp.before.1 ++ []) = _
      rw [List.append_nil, hpadded]
    | some d =>
      have hgap : Token.split d.after.1 = [] := Token.split_append_blanks d.after.2 []
      show Token.split (sp.opening.1 ++ inner ++ sp.before.1 ++ d.char :: d.after.1) = _
      rw [Token.split_append_delimiter d.isDelimiter, hpadded, hgap, List.append_nil]
  · rw [List.append_nil, hpadded]

/-! ## The stars cut a block into its pieces -/

/-- The pieces of a block up to the star it repeats from. -/
def fromPieces (inner : List Char) : List (List Char) :=
  match sp.closing with
  | none => [sp.captured inner ++ sp.rep.text]
  | some g => [sp.captured inner, g.1 ++ (delimiterText sp.delimiter ++ sp.rep.text)]

/-- The pieces of a block between its stars. -/
def pieces (inner times : List Char) : List (List Char) :=
  [] :: (sp.fromPieces inner ++ sp.target.toList.map (·.text) ++ [sp.times.text times])

theorem intercalate_pieces (inner times : List Char) :
    ['*'].intercalate (sp.pieces inner times) = sp.text inner times := by
  cases hclosing : sp.closing <;> cases htarget : sp.target <;>
    simp [pieces, fromPieces, text, captured, closingText, toText, hclosing, htarget,
      List.intercalate_cons_cons]

theorem captured_ne_nil {inner : List Char} (hinner : inner ≠ []) : sp.captured inner ≠ [] := by
  simp [captured, hinner]

theorem star_not_mem_captured {inner : List Char} (hstar : '*' ∉ inner) :
    '*' ∉ sp.captured inner := by
  have hend : '*' ∉ (if sp.closing.isNone then delimiterText sp.delimiter else []) := by
    split
    · exact star_not_mem_delimiterText sp.delimiter
    · exact List.not_mem_nil
  simp only [captured, List.mem_append, not_or]
  exact ⟨⟨⟨sp.opening.star_not_mem, hstar⟩, sp.before.star_not_mem⟩, hend⟩

theorem star_not_mem_fromPieces {inner : List Char} (hstar : '*' ∉ inner) :
    ∀ s ∈ sp.fromPieces inner, '*' ∉ s := by
  have hcaptured := sp.star_not_mem_captured hstar
  unfold fromPieces
  cases sp.closing with
  | none =>
    rw [List.forall_mem_singleton, List.mem_append, not_or]
    exact ⟨hcaptured, sp.rep.star_not_mem_text⟩
  | some g =>
    rw [List.forall_mem_cons, List.forall_mem_singleton, List.mem_append, List.mem_append,
      not_or, not_or]
    exact ⟨hcaptured, g.star_not_mem, star_not_mem_delimiterText sp.delimiter,
      sp.rep.star_not_mem_text⟩

theorem star_not_mem_pieces {inner times : List Char} (hstar : '*' ∉ inner)
    (hdigits : ∀ c ∈ times, isDigit c = true) : ∀ s ∈ sp.pieces inner times, '*' ∉ s := by
  have htarget : ∀ s ∈ sp.target.toList.map (·.text), '*' ∉ s := by
    intro s hs
    obtain ⟨c, -, rfl⟩ := List.mem_map.1 hs
    exact c.star_not_mem_text
  unfold pieces
  rw [List.forall_mem_cons, List.forall_mem_append, List.forall_mem_append,
    List.forall_mem_singleton]
  exact ⟨List.not_mem_nil, ⟨sp.star_not_mem_fromPieces hstar, htarget⟩,
    sp.times.star_not_mem_text hdigits⟩

theorem splitOn_text {inner times : List Char} (hstar : '*' ∉ inner)
    (hdigits : ∀ c ∈ times, isDigit c = true) :
    (sp.text inner times).splitOn '*' = sp.pieces inner times := by
  rw [← sp.intercalate_pieces inner times,
    List.splitOn_intercalate '*' (sp.star_not_mem_pieces hstar hdigits) (List.cons_ne_nil _ _)]

/-! ## The pieces of a block are read -/

theorem blockOfPieces?_pieces {inner times : List Char} (hinner : inner ≠ [])
    (htimes : times ≠ []) (hdigits : ∀ c ∈ times, isDigit c = true) :
    blockOfPieces? (sp.pieces inner times) = some (sp.captured inner, times) := by
  have hne := sp.captured_ne_nil hinner
  have hopen := sp.rep.openInner?_append hne
  have hclosed (g : Gap) : closedInner? (sp.captured inner)
      (g.1 ++ (delimiterText sp.delimiter ++ sp.rep.text)) = some (sp.captured inner) := by
    rw [closedInner?, if_pos ⟨hne, sp.rep.isSome_fromPiece g sp.delimiter⟩]
  have htimes := sp.times.timesPiece_text htimes hdigits
  unfold pieces fromPieces
  cases sp.closing with
  | none =>
    cases sp.target with
    | none => simp [blockOfPieces?, hopen, htimes]
    | some c => simp [blockOfPieces?, hopen, htimes, c.isSome_toPiece]
  | some g =>
    cases sp.target with
    | none => simp [blockOfPieces?, hclosed, htimes, RepClause.not_toPiece]
    | some c => simp [blockOfPieces?, hclosed, htimes, c.isSome_toPiece]

/-- A block is read as what it spells. -/
theorem form_text {inner times : List Char} (hinner : inner ≠ []) (hstar : '*' ∉ inner)
    (htimes : times ≠ []) (hdigits : ∀ c ∈ times, isDigit c = true) :
    form (sp.text inner times) = .block (sp.captured inner) times := by
  have haround : isAround (sp.text inner times) = false := by
    have hends : Ends (foldCase · == 'k') (sp.text inner times) :=
      ends_cons (p := (foldCase · == 'k')) (by decide) _
    have hnone : around (sp.text inner times) = none :=
      bind_of_none (bind_of_none (letters_of_ends hends))
    rw [isAround, whole, hnone]
    rfl
  rw [form, haround, sp.splitOn_text hstar hdigits,
    sp.blockOfPieces?_pieces hinner htimes hdigits]
  rfl

/-! ## Every block is a spelling -/

theorem eq_of_openInner? {s inner : List Char} (h : openInner? s = some inner) :
    inner ≠ [] ∧ ∃ c : RepClause, s = inner ++ c.text := by
  unfold openInner? at h
  split at h
  · next rest hscan =>
    obtain ⟨hne, heq⟩ := Option.ite_none_right_eq_some.1 h
    cases heq
    obtain ⟨c, hs⟩ := RepClause.exists_of_fromBackwards hscan
    rw [List.reverse_reverse] at hs
    exact ⟨mt List.reverse_eq_nil_iff.1 hne, c, hs⟩
  · cases h

theorem eq_of_closedInner? {s next inner : List Char} (h : closedInner? s next = some inner) :
    inner ≠ [] ∧ s = inner ∧ ∃ (g : Gap) (d : Option Delimiter) (c : RepClause),
      next = g.1 ++ (delimiterText d ++ c.text) := by
  obtain ⟨⟨hne, hfrom⟩, heq⟩ := Option.ite_none_right_eq_some.1 h
  cases heq
  exact ⟨hne, rfl, RepClause.exists_of_fromPiece hfrom⟩

/-- A block that no star closes, with the inner text up to the clause. -/
def opened (rep : RepClause) (target : Option ToClause) (times : TimesClause) : Spelling :=
  ⟨.nothing, .nothing, none, none, rep, target, times⟩

/-- A block that a star closes. -/
def closed (g : Gap) (d : Option Delimiter) (rep : RepClause) (target : Option ToClause)
    (times : TimesClause) : Spelling :=
  ⟨.nothing, .nothing, some g, d, rep, target, times⟩

theorem captured_opened (rep : RepClause) (target : Option ToClause) (times : TimesClause)
    (inner : List Char) : (opened rep target times).captured inner = inner := by
  simp [opened, captured, delimiterText, Gap.nothing]

theorem captured_closed (g : Gap) (d : Option Delimiter) (rep : RepClause)
    (target : Option ToClause) (times : TimesClause) (inner : List Char) :
    (closed g d rep target times).captured inner = inner := by
  simp [closed, captured, Gap.nothing]

/-- The pieces of a block that no star closes are those of a spelling. -/
theorem exists_pieces_of_openInner? {a t inner times : List Char} (target : Option ToClause)
    (hopen : openInner? a = some inner) (htimes : whole timesPiece t = some times) :
    ∃ sp : Spelling, [] :: ([a] ++ target.toList.map (·.text) ++ [t]) = sp.pieces inner times ∧
      sp.captured inner = inner ∧ inner ≠ [] ∧ times ≠ [] ∧ ∀ c ∈ times, isDigit c = true := by
  obtain ⟨hne, rep, rfl⟩ := eq_of_openInner? hopen
  obtain ⟨c, rfl, hn, hdigits⟩ := TimesClause.exists_of_timesPiece htimes
  refine ⟨opened rep target c, ?_, captured_opened .., hne, hn, hdigits⟩
  rw [pieces, fromPieces, captured_opened]
  rfl

theorem exists_pieces_of_closedInner? {a b t inner times : List Char}
    (target : Option ToClause) (hclosed : closedInner? a b = some inner)
    (htimes : whole timesPiece t = some times) :
    ∃ sp : Spelling, [] :: ([a, b] ++ target.toList.map (·.text) ++ [t]) =
        sp.pieces inner times ∧
      sp.captured inner = inner ∧ inner ≠ [] ∧ times ≠ [] ∧ ∀ c ∈ times, isDigit c = true := by
  obtain ⟨hne, rfl, g, d, rep, rfl⟩ := eq_of_closedInner? hclosed
  obtain ⟨c, rfl, hn, hdigits⟩ := TimesClause.exists_of_timesPiece htimes
  refine ⟨closed g d rep target c, ?_, captured_closed .., hne, hn, hdigits⟩
  rw [pieces, fromPieces, captured_closed]
  rfl

/-- The inner text and the numeral of a block are both read. -/
theorem inner_and_times_of_eq_some {o : Option (List Char)} {t inner times : List Char}
    (h : (do let v ← o; let n ← whole timesPiece t; return (v, n)) = some (inner, times)) :
    o = some inner ∧ whole timesPiece t = some times := by
  obtain ⟨v, hinner, h⟩ := Option.bind_eq_some_iff.1 h
  obtain ⟨n, htimes, h⟩ := Option.bind_eq_some_iff.1 h
  cases h
  exact ⟨hinner, htimes⟩

/-- The pieces of any block are those of a spelling. -/
theorem exists_pieces {ps : List (List Char)} {inner times : List Char}
    (h : blockOfPieces? ps = some (inner, times)) :
    ∃ sp : Spelling, ps = sp.pieces inner times ∧ sp.captured inner = inner ∧ inner ≠ [] ∧
      times ≠ [] ∧ ∀ c ∈ times, isDigit c = true := by
  unfold blockOfPieces? at h
  split at h
  · next a t =>
    obtain ⟨hopen, htimes⟩ := inner_and_times_of_eq_some h
    exact exists_pieces_of_openInner? none hopen htimes
  · next a b t =>
    dsimp only at h
    split at h
    · next hto =>
      obtain ⟨hopen, htimes⟩ := inner_and_times_of_eq_some h
      obtain ⟨target, rfl⟩ := ToClause.exists_of_toPiece hto
      exact exists_pieces_of_openInner? (some target) hopen htimes
    · obtain ⟨hclosed, htimes⟩ := inner_and_times_of_eq_some h
      exact exists_pieces_of_closedInner? none hclosed htimes
  · next a b t u =>
    dsimp only at h
    split at h
    · next hto =>
      obtain ⟨hclosed, htimes⟩ := inner_and_times_of_eq_some h
      obtain ⟨target, rfl⟩ := ToClause.exists_of_toPiece hto
      exact exists_pieces_of_closedInner? (some target) hclosed htimes
    · cases h
  · cases h

/-- Every text that is read as a block is the spelling of one. -/
theorem exists_spelling {s inner times : List Char} (h : form s = .block inner times) :
    ∃ sp : Spelling, s = sp.text inner times ∧ inner ≠ [] ∧ '*' ∉ inner ∧ times ≠ [] ∧
      ∀ c ∈ times, isDigit c = true := by
  unfold form at h
  split at h
  · cases h
  split at h
  · next v n hpieces =>
    cases h
    obtain ⟨sp, hsp, hcaptured, hne, hn, hdigits⟩ := exists_pieces hpieces
    refine ⟨sp, ?_, hne, ?_, hn, hdigits⟩
    · rw [← sp.intercalate_pieces, ← hsp, List.intercalate_splitOn]
    · obtain ⟨w, hw, v, hv⟩ : ∃ w ∈ s.splitOn '*', ∃ v, w = inner ++ v := by
        rw [hsp, pieces, fromPieces, hcaptured]
        cases sp.closing with
        | none => exact ⟨inner ++ sp.rep.text, by simp, sp.rep.text, rfl⟩
        | some g => exact ⟨inner, by simp, [], (List.append_nil _).symm⟩
      rw [List.splitOn_eq_splitOnP] at hw
      intro hstar
      refine absurd (not_of_mem_splitOnP hw '*' ?_) (by decide)
      rw [hv]
      exact List.mem_append_left v hstar
  · cases h

end Spelling

end KnitPattern.Body
