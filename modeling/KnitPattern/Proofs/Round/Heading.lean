/-
  Headers and the sections of a line. A header is read off a text exactly where one is written
  (`scan_append`, `exists_of_scan`), and a text without any (`Headless`) is one piece when it is
  cut. Cutting finds every header: neither the text before the first one nor the body of a
  section holds another (`headless_of_cut`). Squeezing the blanks of a text brings no header
  into it (`Headless.squeeze`).
-/
import KnitPattern.Proofs.Text.Spacing
import KnitPattern.Proofs.Text.Word
import KnitPattern.Round.Header

namespace KnitPattern

open Text Scan

/-! ## Reading a header -/

/-- The letters of the word that begins a header. -/
def Keyword.letters : Keyword → String
  | .rnd => "rnd"
  | .row => "row"

namespace Header

theorem not_isListChar_of_isCased {c : Char} (hc : isCased c = true) : isListChar c = false := by
  have hcomma : (c == ',') = false := not_of_isCased (p := (· == ',')) (by decide) (by decide) hc
  rw [isListChar, not_isDigit_of_isCased hc, hcomma, not_isBlank_of_isCased hc]
  rfl

/-- The word of a header, perhaps with an `s`. -/
def wordText {k : Keyword} (w : Spelled k.letters) (plural : Option (Spelled "s")) : List Char :=
  w.1 ++ plural.elim [] (·.1)

theorem wordText_ne_nil {k : Keyword} (w : Spelled k.letters) (plural : Option (Spelled "s")) :
    wordText w plural ≠ [] := by
  have hne : k.letters.toList ≠ [] := by
    cases k <;> decide
  simp [wordText, w.ne_nil hne]

theorem isCased_wordText {k : Keyword} (w : Spelled k.letters)
    (plural : Option (Spelled "s")) : ∀ c ∈ wordText w plural, isCased c = true := by
  have hword : ∀ c ∈ w.1, isCased c = true := w.all_isCased (by cases k <;> decide)
  exact List.forall_mem_append.2 ⟨hword, Spelled.all_isCased_elim (by decide) plural⟩

theorem keywordScan_append {k : Keyword} (w : Spelled k.letters)
    (plural : Option (Spelled "s")) {r : List Char} (hr : Ends (foldCase · == 's') r) :
    keywordScan (wordText w plural ++ r) = some (k, r) := by
  have hplural : Scan.optional (word "s") (plural.elim [] (·.1) ++ r) = some ((), r) :=
    Spelled.optional_elim_append plural (letters_of_ends hr)
  rw [wordText, List.append_assoc]
  unfold keywordScan
  cases k with
  | rnd =>
    have hw : w.1.map foldCase = "rnd".toList := w.2
    have hrnd : word "rnd" (w.1 ++ (plural.elim [] (·.1) ++ r)) =
        some ((), plural.elim [] (·.1) ++ r) := letters_append hw
    rw [bind_of_some (orElse_of_some (bind_of_some hrnd)), bind_of_some hplural]
    rfl
  | row =>
    have hw : w.1.map foldCase = "row".toList := w.2
    have hrow : word "row" (w.1 ++ (plural.elim [] (·.1) ++ r)) =
        some ((), plural.elim [] (·.1) ++ r) := letters_append hw
    have hrnd : word "rnd" (w.1 ++ (plural.elim [] (·.1) ++ r)) = none := by
      refine letters_of_ne ?_ ?_
      · rw [← List.length_map foldCase, hw]
        decide
      · rw [hw]
        decide
    rw [bind_of_some ((orElse_of_none (bind_of_none hrnd)).trans (bind_of_some hrow)),
      bind_of_some hplural]
    rfl

theorem exists_of_keywordScan {s r : List Char} {k : Keyword}
    (h : keywordScan s = some (k, r)) :
    ∃ (w : Spelled k.letters) (plural : Option (Spelled "s")), s = wordText w plural ++ r := by
  obtain ⟨k', t, hword, h⟩ := bind_eq_some.1 h
  obtain ⟨_, t', hplural, h⟩ := bind_eq_some.1 h
  cases h
  obtain ⟨w, rfl⟩ : ∃ w : Spelled k.letters, s = w.1 ++ t := by
    rcases orElse_eq_some.1 hword with hword | ⟨-, hword⟩
    · obtain ⟨_, t1, hletters, h⟩ := bind_eq_some.1 hword
      cases h
      obtain ⟨w, hw, rfl⟩ := letters_eq_some hletters
      exact ⟨⟨w, hw⟩, rfl⟩
    · obtain ⟨_, t1, hletters, h⟩ := bind_eq_some.1 hword
      cases h
      obtain ⟨w, hw, rfl⟩ := letters_eq_some hletters
      exact ⟨⟨w, hw⟩, rfl⟩
  obtain ⟨plural, rfl⟩ := Spelled.exists_elim_of_optional hplural
  exact ⟨w, plural, by rw [wordText, List.append_assoc]⟩

/-- A header as it is written, up to its colon. -/
theorem scan_append {k : Keyword} (w : Spelled k.letters) (plural : Option (Spelled "s"))
    {numbers : List Char} (hn : ∀ c ∈ numbers, isListChar c = true) (r : List Char) :
    scan (wordText w plural ++ (numbers ++ ':' :: r)) = some (⟨k, numbers⟩, r) := by
  have hcolon : Ends isListChar (':' :: r) := ends_cons (by decide +kernel) r
  have hplural : Ends (foldCase · == 's') (numbers ++ ':' :: r) := by
    cases numbers with
    | nil => exact ends_cons (p := (foldCase · == 's')) (by decide) r
    | cons c numbers =>
      refine ends_cons (p := (foldCase · == 's')) (beq_eq_false_iff_ne.2 fun hs => ?_) _
      have hlist := hn c List.mem_cons_self
      rw [not_isListChar_of_isCased (isCased_of_foldCase (by decide) hs)] at hlist
      cases hlist
  rw [scan, bind_of_some (keywordScan_append w plural hplural),
    bind_of_some (run_append hn hcolon), bind_of_some (char_cons (by decide))]
  rfl

theorem exists_of_scan {s r : List Char} {h : Header} (hs : scan s = some (h, r)) :
    ∃ (w : Spelled h.keyword.letters) (plural : Option (Spelled "s")),
      (∀ c ∈ h.numbers, isListChar c = true) ∧
        s = wordText w plural ++ (h.numbers ++ ':' :: r) := by
  obtain ⟨k, t, hkeyword, hs⟩ := bind_eq_some.1 hs
  obtain ⟨numbers, t', hrun, hs⟩ := bind_eq_some.1 hs
  obtain ⟨c, t'', hchar, hs⟩ := bind_eq_some.1 hs
  cases hs
  obtain ⟨hc, rfl⟩ := char_eq_some.1 hchar
  rw [beq_iff_eq.1 hc] at hrun
  obtain ⟨rfl, hn, -⟩ := run_eq_some hrun
  obtain ⟨w, plural, rfl⟩ := exists_of_keywordScan hkeyword
  exact ⟨w, plural, hn, rfl⟩

/-- A header stays where text is added after it. -/
theorem scan_append_right {s r : List Char} {h : Header} (hs : scan s = some (h, r))
    (x : List Char) : scan (s ++ x) = some (h, r ++ x) := by
  obtain ⟨w, plural, hn, rfl⟩ := exists_of_scan hs
  rw [List.append_assoc, List.append_assoc, List.cons_append]
  exact scan_append w plural hn (r ++ x)

/-- Where a header is after blanks are squeezed, there was one before. -/
theorem exists_scan_of_squeezes {x v r : List Char} {h : Header} (hx : Squeezes x v)
    (hv : scan v = some (h, r)) : ∃ h' r', scan x = some (h', r') := by
  have hnumbers : ∀ numbers x, (∀ c ∈ numbers, isListChar c = true) →
      Squeezes x (numbers ++ ':' :: r) →
        ∃ numbers' r', (∀ c ∈ numbers', isListChar c = true) ∧ x = numbers' ++ ':' :: r' := by
    intro numbers
    induction numbers with
    | nil =>
      intro x _ hx
      obtain ⟨r', hx', -⟩ := Squeezes.exists_of_append (w := [':'])
        (List.forall_mem_singleton.2 (by decide)) hx
      exact ⟨[], r', List.forall_mem_nil _, hx'⟩
    | cons c numbers ih =>
      intro x hn hx
      obtain ⟨hc, htail⟩ := List.forall_mem_cons.1 hn
      cases hx with
      | char _ hx =>
        obtain ⟨numbers', r', hn', rfl⟩ := ih _ htail hx
        exact ⟨c :: numbers', r', List.forall_mem_cons.2 ⟨hc, hn'⟩, rfl⟩
      | @gap g x' _ _ hg hx =>
        obtain ⟨numbers', r', hn', rfl⟩ := ih _ htail hx
        have hblank : ∀ d ∈ g, isListChar d = true := by
          intro d hd
          rw [isListChar, hg d hd, Bool.or_true]
        exact ⟨g ++ numbers', r', List.forall_mem_append.2 ⟨hblank, hn'⟩, by simp⟩
  obtain ⟨w, plural, hn, rfl⟩ := exists_of_scan hv
  obtain ⟨x', rfl, hx'⟩ := Squeezes.exists_of_append
    (fun c hc => not_isBlank_of_isCased (isCased_wordText w plural c hc)) hx
  obtain ⟨numbers', r', hn', rfl⟩ := hnumbers _ _ hn hx'
  exact ⟨_, _, scan_append w plural hn' r'⟩

end Header

/-! ## Texts without headers -/

namespace Section

variable {b b' : Option Char} {c : Char} {s t : List Char}

theorem headed?_eq_none_iff :
    headed? b s = none ↔ Header.scan s = none ∨ b.any isWordChar = true := by
  unfold headed?
  cases Header.scan s with
  | none => simp
  | some read => simp

/-- A header that a text begins with does not go away where text is added after it. -/
theorem headed?_of_append (h : headed? b (s ++ t) = none) : headed? b s = none := by
  rw [headed?_eq_none_iff] at h ⊢
  rcases h with h | h
  · left
    cases hscan : Header.scan s with
    | none => rfl
    | some read =>
      have happend := Header.scan_append_right (r := read.2) hscan t
      rw [h] at happend
      cases happend
  · exact .inr h

/-- No header begins in a text that follows the character `b`. -/
def Headless (b : Option Char) (s : List Char) : Prop :=
  ∀ p ∈ places b s, p.header = none

namespace Headless

theorem nil (b : Option Char) : Headless b [] :=
  List.forall_mem_nil _

theorem cons_iff : Headless b (c :: s) ↔ headed? b (c :: s) = none ∧ Headless (some c) s :=
  List.forall_mem_cons

/-- Of the character before a text it counts only whether it is a word character. -/
theorem congr (h : b.any isWordChar = b'.any isWordChar) (hs : Headless b s) :
    Headless b' s := by
  cases s with
  | nil => exact nil b'
  | cons c s =>
    obtain ⟨hc, hs⟩ := cons_iff.1 hs
    rw [headed?_eq_none_iff, h] at hc
    exact cons_iff.2 ⟨headed?_eq_none_iff.2 hc, hs⟩

theorem of_append (h : Headless b (s ++ t)) : Headless b s := by
  induction s generalizing b with
  | nil => exact nil b
  | cons c s ih =>
    rw [List.cons_append] at h
    obtain ⟨hc, hs⟩ := cons_iff.1 h
    exact cons_iff.2 ⟨headed?_of_append (t := t) hc, ih hs⟩

/-- After blanks it does not matter what stands before them. -/
theorem of_blanks_append {g : List Char} (hne : g ≠ []) (hg : ∀ c ∈ g, isBlank c = true)
    (h : Headless b (g ++ s)) : Headless (some ' ') s := by
  induction g generalizing b with
  | nil => exact absurd rfl hne
  | cons c g ih =>
    obtain ⟨hc, hg⟩ := List.forall_mem_cons.1 hg
    obtain ⟨-, hs⟩ := cons_iff.1 h
    cases g with
    | nil =>
      refine hs.congr ?_
      rw [Option.any_some, Option.any_some, not_isWordChar_of_isBlank hc,
        not_isWordChar_of_isBlank (by decide)]
    | cons d g => exact ih (List.cons_ne_nil d g) hg hs

theorem scan_blank_cons (hc : isBlank c = true) (s : List Char) :
    Header.scan (c :: s) = none := by
  cases h : Header.scan (c :: s) with
  | none => rfl
  | some read =>
    obtain ⟨w, plural, -, heq⟩ := Header.exists_of_scan (h := read.1) (r := read.2) h
    obtain ⟨d, ds, hword⟩ := List.exists_cons_of_ne_nil (Header.wordText_ne_nil w plural)
    rw [hword, List.cons_append] at heq
    have hd := Header.isCased_wordText w plural d (by rw [hword]; exact List.mem_cons_self)
    rw [(List.cons.inj heq).1, not_isBlank_of_isCased hd] at hc
    cases hc

theorem blank_cons (hc : isBlank c = true) (h : Headless (some c) s) : Headless b (c :: s) :=
  cons_iff.2 ⟨headed?_eq_none_iff.2 (.inl (scan_blank_cons hc s)), h⟩

/-- Squeezing blanks brings no header into a text. -/
theorem squeeze {x v : List Char} (hx : Squeezes x v) (h : Headless b x) : Headless b v := by
  induction hx generalizing b with
  | nil => exact nil b
  | @char c x v hc hx ih =>
    obtain ⟨hhead, htail⟩ := cons_iff.1 h
    refine cons_iff.2 ⟨headed?_eq_none_iff.2 ?_, ih htail⟩
    rcases headed?_eq_none_iff.1 hhead with hhead | hb
    · left
      cases hscan : Header.scan (c :: v) with
      | none => rfl
      | some read =>
        obtain ⟨h', r', hscan'⟩ := Header.exists_scan_of_squeezes (.char hc hx)
          (h := read.1) (r := read.2) hscan
        rw [hhead] at hscan'
        cases hscan'
    · exact .inr hb
  | gap hne hg hx ih => exact blank_cons (by decide) (ih (of_blanks_append hne hg h))

/-- With one space between its words, a text without headers has none. -/
theorem oneSpaced (hb : b.any isWordChar = false) (h : Headless b s) :
    Headless none (oneSpaced s) := by
  obtain ⟨g, hg, hs⟩ := exists_dropWhile isBlank s
  have hrest : Headless none (s.dropWhile isBlank) := by
    cases g with
    | nil =>
      rw [List.nil_append] at hs
      rw [← hs]
      exact h.congr hb
    | cons d g =>
      rw [hs] at h
      refine (of_blanks_append (List.cons_ne_nil d g) hg h).congr ?_
      rw [Option.any_some, Option.any_none, not_isWordChar_of_isBlank (by decide)]
  exact squeeze (Squeezes.of_oneSpaced s) hrest

/-- A text without headers is one piece. -/
theorem cut_eq (h : Headless b s) : cut 0 (places b s) = (s, []) := by
  induction s generalizing b with
  | nil => rfl
  | cons c s ih =>
    obtain ⟨hhead, htail⟩ := cons_iff.1 h
    rw [places, hhead, cut, ih htail]

end Headless

/-! ## Cutting a line -/

/-- What is left of a text after a header is cut off as if it stood alone. -/
theorem cut_skip (w : List Char) (d : Char) (b : Option Char) (s : List Char) :
    cut (w ++ [d]).length (places b (w ++ [d] ++ s)) = cut 0 (places (some d) s) := by
  induction w generalizing b with
  | nil => rfl
  | cons c w ih => exact ih (some c)

theorem cut_of_headed? {h : Header} {w : List Char} (hs : headed? b s = some (h, w)) :
    ∃ rest, s = w ++ rest ∧ Header.scan s = some (h, rest) ∧
      cut 0 (places b s) = ([], ⟨h, w, (cut 0 (places (some ':') rest)).1⟩ ::
        (cut 0 (places (some ':') rest)).2) := by
  obtain ⟨-, rest, heq, hscan⟩ := headed?_eq hs
  refine ⟨rest, heq, hscan, ?_⟩
  obtain ⟨v, plural, -, hwritten⟩ := Header.exists_of_scan hscan
  obtain ⟨c, cs, hword⟩ := List.exists_cons_of_ne_nil (Header.wordText_ne_nil v plural)
  obtain rfl : w = c :: ((cs ++ h.numbers) ++ [':']) := by
    have happend : w ++ rest = c :: ((cs ++ h.numbers) ++ [':']) ++ rest := by
      rw [← heq, hwritten, hword]
      simp
    exact List.append_cancel_right happend
  have hskip := cut_skip (cs ++ h.numbers) ':' (some c) rest
  subst heq
  rw [List.cons_append, places, ← List.cons_append, hs, cut, List.length_cons,
    Nat.add_sub_cancel, hskip]

/-- Cutting leaves no header in the text before the first one, nor in any body. -/
theorem headless_of_cut (n : Nat) (hn : s.length ≤ n) :
    Headless b (cut 0 (places b s)).1 ∧
      ∀ sec ∈ (cut 0 (places b s)).2, Headless (some ':') sec.body := by
  induction n generalizing b s with
  | zero =>
    rw [List.length_eq_zero_iff.1 (Nat.le_zero.1 hn)]
    exact ⟨.nil b, List.forall_mem_nil _⟩
  | succ n ih =>
    cases s with
    | nil => exact ⟨.nil b, List.forall_mem_nil _⟩
    | cons c s =>
      cases hhead : headed? b (c :: s) with
      | none =>
        have hcut : cut 0 (places b (c :: s)) =
            (c :: (cut 0 (places (some c) s)).1, (cut 0 (places (some c) s)).2) := by
          rw [places, hhead, cut]
        have hs := cut_eq (some c) 0 s
        obtain ⟨htext, hsections⟩ := ih (b := some c) (Nat.le_of_succ_le_succ hn)
        rw [List.drop_zero] at hs
        rw [← hs, ← List.cons_append] at hhead
        rw [hcut]
        exact ⟨Headless.cons_iff.2 ⟨headed?_of_append hhead, htext⟩, hsections⟩
      | some hw =>
        obtain ⟨h, w⟩ := hw
        obtain ⟨rest, heq, -, hcut⟩ := cut_of_headed? hhead
        have hlen : rest.length ≤ n := by
          have hw := List.length_pos_iff.2 (headed?_eq hhead).1
          have := congrArg List.length heq
          rw [List.length_append] at this
          omega
        obtain ⟨hbody, hsections⟩ := ih (b := some ':') hlen
        rw [hcut]
        exact ⟨.nil b, List.forall_mem_cons.2 ⟨hbody, hsections⟩⟩

theorem headless_of_mem_ofLine {line : List Char} {sec : Section}
    (h : sec ∈ (ofLine line).2) : Headless (some ':') sec.body :=
  (headless_of_cut (b := none) line.length (Nat.le_refl _)).2 sec h

/-- A line that is a header and a text without headers is one section. -/
theorem ofLine_append {h : Header} {w rest : List Char}
    (hscan : Header.scan (w ++ rest) = some (h, rest)) (hrest : Headless (some ':') rest) :
    ofLine (w ++ rest) = ([], [⟨h, w, rest⟩]) := by
  have hhead : headed? none (w ++ rest) = some (h, w) := by
    rw [headed?, hscan]
    simp
  obtain ⟨rest', heq, hscan', hcut⟩ := cut_of_headed? hhead
  obtain rfl := List.append_cancel_left heq
  rw [ofLine, hcut, hrest.cut_eq]

end Section

end KnitPattern
