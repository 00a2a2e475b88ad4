/-
  The clauses of a repeat block and how they may be spelled: `rep from` with what stands
  before it, `to`, and the numeral with `times`. For each clause, the piece scanner reads
  every spelling, and every text it reads is a spelling.
-/
import KnitPattern.Proofs.Body.Around

namespace KnitPattern.Body

open Text Scan

/-! ## The number of times -/

/-- How the words and blanks around the numeral of a block are spelled. -/
structure TimesClause where
  before : WideGap
  after : WideGap
  time : Spelled "time"
  plural : Option (Spelled "s")
  stop : Bool

namespace TimesClause

variable (c : TimesClause)

/-- What stands after the numeral and the blanks. -/
def timeText : List Char :=
  c.time.1 ++ ((c.plural.elim [] (·.1)) ++ stopText c.stop)

def text (times : List Char) : List Char :=
  c.before.1 ++ (times ++ (c.after.1 ++ c.timeText))

theorem timesPiece_text {times : List Char} (hne : times ≠ [])
    (hdigits : ∀ d ∈ times, isDigit d = true) :
    whole timesPiece (c.text times) = some times := by
  have hnumeral : Ends isBlank (times ++ (c.after.1 ++ c.timeText)) :=
    ends_append hne (fun d hd => not_isBlank_of_isDigit (hdigits d hd)) _
  have hgap : Ends isDigit (c.after.1 ++ c.timeText) :=
    ends_append c.after.2.1 (fun d hd => not_isDigit_of_isBlank (c.after.2.2 d hd)) _
  have htime : Ends isBlank c.timeText :=
    c.time.ends (fun _ => not_isBlank_of_isCased) (by decide) (by decide) _
  have hstop : word "s" (stopText c.stop) = none := by
    cases c.stop <;> decide
  refine whole_eq_some.2 ?_
  rw [timesPiece, text, bind_of_some (blanks1_append c.before.2.1 c.before.2.2 hnumeral),
    digits1, bind_of_some (run1_append hne hdigits hgap),
    bind_of_some (blanks1_append c.after.2.1 c.after.2.2 htime), timeText, word,
    bind_of_some (letters_append c.time.2),
    bind_of_some (Spelled.optional_elim_append c.plural hstop),
    bind_of_some (optional_stop c.stop)]
  rfl

theorem exists_of_timesPiece {s times : List Char} (h : whole timesPiece s = some times) :
    ∃ c : TimesClause, s = c.text times ∧ times ≠ [] ∧ ∀ d ∈ times, isDigit d = true := by
  have h := whole_eq_some.1 h
  obtain ⟨_, t1, hbefore, h⟩ := bind_eq_some.1 h
  obtain ⟨n, t2, hnumeral, h⟩ := bind_eq_some.1 h
  obtain ⟨_, t3, hafter, h⟩ := bind_eq_some.1 h
  obtain ⟨_, t4, htime, h⟩ := bind_eq_some.1 h
  obtain ⟨_, t5, hplural, h⟩ := bind_eq_some.1 h
  obtain ⟨_, t6, hstop, h⟩ := bind_eq_some.1 h
  cases h
  obtain ⟨before, rfl, hb⟩ := blanks1_eq_some hbefore
  obtain ⟨rfl, hne, hdigits, -⟩ := run1_eq_some hnumeral
  obtain ⟨after, rfl, ha⟩ := blanks1_eq_some hafter
  obtain ⟨time, ht, rfl⟩ := letters_eq_some htime
  obtain ⟨stop, rfl⟩ := eq_stopText hstop
  obtain ⟨plural, rfl⟩ := Spelled.exists_elim_of_optional hplural
  exact ⟨⟨⟨before, hb⟩, ⟨after, ha⟩, ⟨time, ht⟩, plural, stop⟩, rfl, hne, hdigits⟩

theorem star_not_mem_text {times : List Char} (hdigits : ∀ d ∈ times, isDigit d = true) :
    '*' ∉ c.text times := by
  have htimes : '*' ∉ times := fun h => absurd (hdigits '*' h) (by decide +kernel)
  have hstop : '*' ∉ stopText c.stop := by
    cases c.stop <;> decide
  simp only [text, timeText, List.mem_append, not_or]
  exact ⟨c.before.star_not_mem, htimes, c.after.star_not_mem,
    c.time.not_mem (by decide) (by decide),
    Spelled.not_mem_elim (by decide) (by decide) c.plural, hstop⟩

/-- No blank ends the clause. -/
theorem ends_reverse_text (s times : List Char) : Ends isBlank (s ++ c.text times).reverse := by
  have hnot : ∀ d ∈ c.timeText, isBlank d = false := by
    have htime := c.time.all_isCased (by decide)
    have hplural := Spelled.all_isCased_elim (by decide) c.plural
    simp only [timeText, List.forall_mem_append]
    exact ⟨fun d hd => not_isBlank_of_isCased (htime d hd),
      fun d hd => not_isBlank_of_isCased (hplural d hd), forall_mem_stopText (by decide) c.stop⟩
  have hne : c.timeText.reverse ≠ [] := by
    simp [timeText, c.time.ne_nil (by decide)]
  have hreverse : (s ++ c.text times).reverse =
      c.timeText.reverse ++ (s ++ (c.before.1 ++ (times ++ c.after.1))).reverse := by
    simp [text]
  rw [hreverse]
  exact ends_append hne (fun d hd => hnot d (List.mem_reverse.1 hd)) _

end TimesClause

/-! ## The star to which a block is repeated -/

/-- How the word `to` is spelled, with the blanks around it. -/
structure ToClause where
  before : Gap
  word : Spelled "to"
  after : Gap

namespace ToClause

variable (c : ToClause)

def text : List Char :=
  c.before.1 ++ (c.word.1 ++ c.after.1)

theorem isSome_toPiece : (whole toPiece c.text).isSome = true := by
  have hends : Ends isBlank (c.word.1 ++ c.after.1) :=
    c.word.ends (fun _ => not_isBlank_of_isCased) (by decide) (by decide) _
  have hend : blanks c.after.1 = some ((), []) := by
    have h := blanks_append c.after.2 (ends_nil isBlank)
    rwa [List.append_nil] at h
  refine isSome_whole.2 ⟨(), ?_⟩
  rw [toPiece, text, bind_of_some (blanks_append c.before.2 hends), Scan.word,
    bind_of_some (letters_append c.word.2)]
  exact hend

theorem exists_of_toPiece {s : List Char} (h : (whole toPiece s).isSome = true) :
    ∃ c : ToClause, s = c.text := by
  obtain ⟨_, h⟩ := isSome_whole.1 h
  obtain ⟨_, t1, hbefore, h⟩ := bind_eq_some.1 h
  obtain ⟨_, t2, hword, hafter⟩ := bind_eq_some.1 h
  obtain ⟨before, rfl, hb⟩ := blanks_eq_some hbefore
  obtain ⟨w, hw, rfl⟩ := letters_eq_some hword
  obtain ⟨after, rfl, ha⟩ := blanks_eq_some hafter
  refine ⟨⟨⟨before, hb⟩, ⟨w, hw⟩, ⟨after, ha⟩⟩, ?_⟩
  rw [text, List.append_nil]

theorem star_not_mem_text : '*' ∉ c.text := by
  simp only [text, List.mem_append, not_or]
  exact ⟨c.before.star_not_mem, c.word.not_mem (by decide) (by decide), c.after.star_not_mem⟩

end ToClause

/-! ## The star from which a block is repeated -/

/-- A comma or semicolon, with the blanks after it. -/
structure Delimiter where
  char : Char
  isDelimiter : Token.isDelimiter char = true
  after : Gap

namespace Delimiter

variable (d : Delimiter)

def text : List Char :=
  d.char :: d.after.1

/-- A delimiter is none of the characters of another class. -/
theorem not_of {p : Char → Bool} (hcomma : p ',' = false) (hsemicolon : p ';' = false) :
    p d.char = false := by
  rcases Bool.or_eq_true_iff.1 d.isDelimiter with h | h
  · rw [beq_iff_eq.1 h, hcomma]
  · rw [beq_iff_eq.1 h, hsemicolon]

theorem scan_text (r : List Char) :
    (word "," <|> word ";" : Scan Unit) (d.text ++ r) = some ((), d.after.1 ++ r) := by
  show (word "," <|> word ";" : Scan Unit) (d.char :: (d.after.1 ++ r)) = _
  rcases Bool.or_eq_true_iff.1 d.isDelimiter with h | h
  · rw [beq_iff_eq.1 h]
    exact orElse_of_some (letters_append (w := [',']) (by decide))
  · rw [beq_iff_eq.1 h]
    exact (orElse_of_none (letters_of_ends (ends_cons (by decide) _))).trans
      (letters_append (w := [';']) (by decide))

theorem exists_of_scan {s r : List Char}
    (h : (word "," <|> word ";" : Scan Unit) s = some ((), r)) :
    ∃ c, Token.isDelimiter c = true ∧ s = c :: r := by
  rcases orElse_eq_some.1 h with h | ⟨-, h⟩
  · exact ⟨',', by decide, eq_cons_of_letters (by decide) h⟩
  · exact ⟨';', by decide, eq_cons_of_letters (by decide) h⟩

theorem star_not_mem_text : '*' ∉ d.text :=
  List.not_mem_cons_of_ne_of_not_mem
    (ne_of_beq_false (d.not_of (p := ('*' == ·)) (by decide) (by decide))) d.after.star_not_mem

end Delimiter

/-- The delimiter that may stand before the clause `rep from`. -/
def delimiterText (d : Option Delimiter) : List Char :=
  d.elim [] (·.text)

theorem star_not_mem_delimiterText (d : Option Delimiter) : '*' ∉ delimiterText d := by
  cases d with
  | none => exact List.not_mem_nil
  | some d => exact d.star_not_mem_text

/-- How the words `rep from` are spelled, with the blanks up to the star. -/
structure RepClause where
  rep : Spelled "rep"
  eat : Option (Spelled "eat")
  afterRep : WideGap
  fromWord : Spelled "from"
  afterFrom : WideGap

namespace RepClause

variable (c : RepClause)

def text : List Char :=
  c.rep.1 ++ ((c.eat.elim [] (·.1)) ++ (c.afterRep.1 ++ (c.fromWord.1 ++ c.afterFrom.1)))

/-- The part of a piece that begins with `rep`. -/
def scan : Scan Unit := do
  word "rep"
  Scan.optional (word "eat")
  blanks1
  word "from"
  blanks1

theorem scan_text : scan c.text = some ((), []) := by
  have hgap : Ends isBlank (c.fromWord.1 ++ c.afterFrom.1) :=
    c.fromWord.ends (fun _ => not_isBlank_of_isCased) (by decide) (by decide) _
  have heat : word "eat" (c.afterRep.1 ++ (c.fromWord.1 ++ c.afterFrom.1)) = none :=
    letters_of_ends (c.afterRep.ends (by decide) _)
  have hend : blanks1 c.afterFrom.1 = some ((), []) := by
    have h := blanks1_append c.afterFrom.2.1 c.afterFrom.2.2 (ends_nil isBlank)
    rwa [List.append_nil] at h
  rw [scan, text, word, bind_of_some (letters_append c.rep.2),
    bind_of_some (Spelled.optional_elim_append c.eat heat),
    bind_of_some (blanks1_append c.afterRep.2.1 c.afterRep.2.2 hgap), word,
    bind_of_some (letters_append c.fromWord.2), hend]

theorem exists_of_scan {s : List Char} (h : scan s = some ((), [])) :
    ∃ c : RepClause, s = c.text := by
  obtain ⟨_, t1, hrep, h⟩ := bind_eq_some.1 h
  obtain ⟨_, t2, heat, h⟩ := bind_eq_some.1 h
  obtain ⟨_, t3, hgap, h⟩ := bind_eq_some.1 h
  obtain ⟨_, t4, hfrom, hend⟩ := bind_eq_some.1 h
  obtain ⟨rep, hr, rfl⟩ := letters_eq_some hrep
  obtain ⟨gap, rfl, hg⟩ := blanks1_eq_some hgap
  obtain ⟨fromWord, hf, rfl⟩ := letters_eq_some hfrom
  obtain ⟨gap', hs, hg'⟩ := blanks1_eq_some hend
  rw [List.append_nil] at hs
  subst hs
  obtain ⟨eat, rfl⟩ := Spelled.exists_elim_of_optional heat
  exact ⟨⟨⟨rep, hr⟩, eat, ⟨gap, hg⟩, ⟨fromWord, hf⟩, ⟨t4, hg'⟩⟩, rfl⟩

theorem ends_text {l : Char} (hl : 'r' ≠ l) : Ends (foldCase · == l) c.text :=
  c.rep.ends_of_head (show "rep".toList = ['r', 'e', 'p'] from rfl) hl _

theorem ends_isBlank_text : Ends isBlank c.text :=
  c.rep.ends (fun _ => not_isBlank_of_isCased) (by decide) (by decide) _

theorem star_not_mem_text : '*' ∉ c.text := by
  simp only [text, List.mem_append, not_or]
  exact ⟨c.rep.not_mem (by decide) (by decide),
    Spelled.not_mem_elim (by decide) (by decide) c.eat, c.afterRep.star_not_mem,
    c.fromWord.not_mem (by decide) (by decide), c.afterFrom.star_not_mem⟩

/-- After the star that closes a block, the delimiter and the clause are read. -/
theorem isSome_fromPiece (g : Gap) (d : Option Delimiter) :
    (whole fromPiece (g.1 ++ (delimiterText d ++ c.text))).isSome = true := by
  refine isSome_whole.2 ⟨(), ?_⟩
  unfold fromPiece
  cases d with
  | none =>
    have hdelimiter : Scan.optional (word "," <|> word ";") c.text = some ((), c.text) :=
      optional_of_none ((orElse_of_none (letters_of_ends (c.ends_text (by decide)))).trans
        (letters_of_ends (c.ends_text (by decide))))
    have hblanks : blanks c.text = some ((), c.text) :=
      blanks_append (List.forall_mem_nil _) c.ends_isBlank_text
    show (blanks >>= _) (g.1 ++ c.text) = _
    rw [bind_of_some (blanks_append g.2 c.ends_isBlank_text), bind_of_some hdelimiter,
      bind_of_some hblanks]
    exact c.scan_text
  | some d =>
    have hends : Ends isBlank (d.text ++ c.text) :=
      ends_cons (d.not_of (by decide) (by decide)) _
    have hdelimiter : Scan.optional (word "," <|> word ";") (d.text ++ c.text) =
        some ((), d.after.1 ++ c.text) :=
      optional_of_some (d.scan_text c.text)
    show (blanks >>= _) (g.1 ++ (d.text ++ c.text)) = _
    rw [bind_of_some (blanks_append g.2 hends), bind_of_some hdelimiter,
      bind_of_some (blanks_append d.after.2 c.ends_isBlank_text)]
    exact c.scan_text

theorem exists_of_fromPiece {s : List Char} (h : (whole fromPiece s).isSome = true) :
    ∃ (g : Gap) (d : Option Delimiter) (c : RepClause),
      s = g.1 ++ (delimiterText d ++ c.text) := by
  obtain ⟨_, h⟩ := isSome_whole.1 h
  obtain ⟨_, t1, hgap, h⟩ := bind_eq_some.1 h
  obtain ⟨_, t2, hdelimiter, h⟩ := bind_eq_some.1 h
  obtain ⟨_, t3, hgap', h⟩ := bind_eq_some.1 h
  obtain ⟨c, rfl⟩ := exists_of_scan h
  obtain ⟨g, rfl, hg⟩ := blanks_eq_some hgap
  obtain ⟨g', rfl, hg'⟩ := blanks_eq_some hgap'
  rcases optional_eq_some hdelimiter with hdelimiter | rfl
  · obtain ⟨d, hd, rfl⟩ := Delimiter.exists_of_scan hdelimiter
    exact ⟨⟨g, hg⟩, some ⟨d, hd, ⟨g', hg'⟩⟩, c, rfl⟩
  · refine ⟨⟨g ++ g', List.forall_mem_append.2 ⟨hg, hg'⟩⟩, none, c, ?_⟩
    simp [delimiterText]

/-- The clause `rep from` is not taken for the word before another star. -/
theorem not_toPiece (g : Gap) (d : Option Delimiter) :
    (whole toPiece (g.1 ++ (delimiterText d ++ c.text))).isSome = false := by
  have hblank : Ends isBlank (delimiterText d ++ c.text) := by
    cases d with
    | none => exact c.ends_isBlank_text
    | some d => exact ends_cons (d.not_of (by decide) (by decide)) _
  have hword : Ends (foldCase · == 't') (delimiterText d ++ c.text) := by
    cases d with
    | none => exact c.ends_text (by decide)
    | some d =>
      have hd : (foldCase d.char == 't') = false :=
        d.not_of (p := (foldCase · == 't')) (by decide) (by decide)
      exact ends_cons (p := (foldCase · == 't')) hd _
  have hnone : toPiece (g.1 ++ (delimiterText d ++ c.text)) = none := by
    rw [toPiece, bind_of_some (blanks_append g.2 hblank)]
    exact bind_of_none (letters_of_ends hword)
  rw [whole, hnone]
  rfl

/-! ## The same clause read backwards -/

theorem fromBackwards_reverse (s : List Char) :
    fromBackwards (s ++ c.text).reverse = some ((), s.reverse) := by
  let gap := c.afterFrom.backwards
  let morf : Spelled "morf" := c.fromWord.backwards (by decide)
  let gap' := c.afterRep.backwards
  let per : Spelled "per" := c.rep.backwards (by decide)
  have hfrom (r) : Ends isBlank (morf.1 ++ r) :=
    morf.ends (fun _ => not_isBlank_of_isCased) (by decide) (by decide) r
  cases heat : c.eat with
  | none =>
    have hreverse : (s ++ c.text).reverse =
        gap.1 ++ (morf.1 ++ (gap'.1 ++ (per.1 ++ s.reverse))) := by
      simp [text, heat, gap, morf, gap', per, WideGap.backwards, Spelled.backwards]
    have hper : Ends isBlank (per.1 ++ s.reverse) :=
      per.ends (fun _ => not_isBlank_of_isCased) (by decide) (by decide) _
    rw [hreverse, fromBackwards, bind_of_some (blanks1_append gap.2.1 gap.2.2 (hfrom _)), word,
      bind_of_some (letters_append morf.2),
      bind_of_some (blanks1_append gap'.2.1 gap'.2.2 hper)]
    exact orElse_of_some (letters_append per.2)
  | some eat =>
    let taeper : Spelled "taeper" :=
      ⟨eat.1.reverse ++ per.1, by rw [List.map_append, List.map_reverse, eat.2, per.2]; decide⟩
    have hreverse : (s ++ c.text).reverse =
        gap.1 ++ (morf.1 ++ (gap'.1 ++ (taeper.1 ++ s.reverse))) := by
      simp [text, heat, gap, morf, gap', per, taeper, WideGap.backwards, Spelled.backwards]
    have htaeper : Ends isBlank (taeper.1 ++ s.reverse) :=
      taeper.ends (fun _ => not_isBlank_of_isCased) (by decide) (by decide) _
    have hnot : Ends (foldCase · == 'p') (taeper.1 ++ s.reverse) :=
      taeper.ends_of_head (show "taeper".toList = ['t', 'a', 'e', 'p', 'e', 'r'] from rfl)
        (by decide) _
    rw [hreverse, fromBackwards, bind_of_some (blanks1_append gap.2.1 gap.2.2 (hfrom _)), word,
      bind_of_some (letters_append morf.2),
      bind_of_some (blanks1_append gap'.2.1 gap'.2.2 htaeper)]
    exact (orElse_of_none (letters_of_ends hnot)).trans (letters_append taeper.2)

theorem openInner?_append {s : List Char} (hs : s ≠ []) : openInner? (s ++ c.text) = some s := by
  have hne : s.reverse ≠ [] := mt List.reverse_eq_nil_iff.1 hs
  rw [openInner?, c.fromBackwards_reverse]
  dsimp only
  rw [if_pos hne, List.reverse_reverse]

theorem exists_of_fromBackwards {s r : List Char} (h : fromBackwards s = some ((), r)) :
    ∃ c : RepClause, s.reverse = r.reverse ++ c.text := by
  obtain ⟨_, t1, hgap, h⟩ := bind_eq_some.1 h
  obtain ⟨_, t2, hfrom, h⟩ := bind_eq_some.1 h
  obtain ⟨_, t3, hgap', hrep⟩ := bind_eq_some.1 h
  obtain ⟨gap, rfl, hg⟩ := blanks1_eq_some hgap
  obtain ⟨morf, hm, rfl⟩ := letters_eq_some hfrom
  obtain ⟨gap', rfl, hg'⟩ := blanks1_eq_some hgap'
  let afterFrom : WideGap := WideGap.backwards ⟨gap, hg⟩
  let fromWord : Spelled "from" := Spelled.backwards (w := "morf") ⟨morf, hm⟩ (by decide)
  let afterRep : WideGap := WideGap.backwards ⟨gap', hg'⟩
  rcases orElse_eq_some.1 hrep with hrep | ⟨-, hrep⟩
  · obtain ⟨per, hp, rfl⟩ := letters_eq_some hrep
    let rep : Spelled "rep" := Spelled.backwards (w := "per") ⟨per, hp⟩ (by decide)
    refine ⟨⟨rep, none, afterRep, fromWord, afterFrom⟩, ?_⟩
    simp [text, rep, afterRep, fromWord, afterFrom, WideGap.backwards, Spelled.backwards]
  · obtain ⟨w, hw, rfl⟩ := letters_eq_some hrep
    -- the first three letters belong to `eat`, the others to `rep`
    have hsplit : w = w.take 3 ++ w.drop 3 := (List.take_append_drop 3 w).symm
    let rep : Spelled "rep" :=
      ⟨(w.drop 3).reverse, by rw [List.map_reverse, List.map_drop, hw]; decide⟩
    let eat : Spelled "eat" :=
      ⟨(w.take 3).reverse, by rw [List.map_reverse, List.map_take, hw]; decide⟩
    refine ⟨⟨rep, some eat, afterRep, fromWord, afterFrom⟩, ?_⟩
    have hreverse : w.reverse = rep.1 ++ eat.1 := by
      rw [← List.reverse_append, ← hsplit]
    simp [text, hreverse, afterRep, fromWord, afterFrom, WideGap.backwards, Spelled.backwards]

end RepClause

end KnitPattern.Body
