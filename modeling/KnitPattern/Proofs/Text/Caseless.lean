/-
  The case of letters. A text in small letters is a text with each capital letter of ASCII put
  in its small one. What is done with classes that hold no letters commutes with that, and a
  scanner that reads letters in either case reads the same value from both texts
  (`Scan.Caseless`); scanners made of such scanners are such scanners, which is found by their
  instances.
-/
import KnitPattern.Proofs.Text.Classes
import KnitPattern.Proofs.Text.Lines
import KnitPattern.Proofs.Text.Scan

namespace KnitPattern.Text

/-- A text in small letters of ASCII. -/
def lower (s : List Char) : List Char :=
  s.map Char.toLower

theorem lower_cons (c : Char) (s : List Char) : lower (c :: s) = c.toLower :: lower s := rfl

theorem lower_append (s t : List Char) : lower (s ++ t) = lower s ++ lower t :=
  List.map_append

theorem length_lower (s : List Char) : (lower s).length = s.length :=
  List.length_map _

/-- Whether a function tells a letter from its small letter is told on ASCII. -/
theorem comp_toLower {α : Type} {f : Char → α}
    (hf : ∀ n, n < 0x80 → f (Char.ofNat n).toLower = f (Char.ofNat n)) :
    f ∘ Char.toLower = f := by
  funext c
  rw [Function.comp_apply]
  rcases toLower_eq_self_or_isAlpha c with hself | ⟨halpha, -⟩
  · rw [hself]
  · have hletter := hf c.toNat (toNat_lt_of_isAlpha halpha)
    rwa [Char.ofNat_toNat] at hletter

theorem toLower_comp_toLower : Char.toLower ∘ Char.toLower = Char.toLower :=
  comp_toLower (by decide)

theorem lower_lower (s : List Char) : lower (lower s) = lower s := by
  unfold lower
  rw [List.map_map, toLower_comp_toLower]

/-! ## Classes of characters -/

/-- A class without letters of ASCII. -/
class Unlettered (p : Char → Bool) : Prop where
  not_of_isAlpha : ∀ c, c.isAlpha = true → p c = false

/-- A class that holds the small letters of its capital letters, and no others. -/
class Uncased (p : Char → Bool) : Prop where
  comp_toLower : p ∘ Char.toLower = p

variable {p : Char → Bool}

theorem apply_toLower (p : Char → Bool) [h : Uncased p] (c : Char) : p c.toLower = p c :=
  congrFun h.comp_toLower c

theorem toLower_of_unlettered [h : Unlettered p] {c : Char} (hc : p c = true) :
    c.toLower = c := by
  rcases toLower_eq_self_or_isAlpha c with hself | ⟨halpha, -⟩
  · exact hself
  · rw [h.not_of_isAlpha c halpha] at hc
    cases hc

instance [h : Unlettered p] : Uncased p where
  comp_toLower := by
    funext c
    rw [Function.comp_apply]
    rcases toLower_eq_self_or_isAlpha c with hself | ⟨halpha, halpha'⟩
    · rw [hself]
    · rw [h.not_of_isAlpha c halpha, h.not_of_isAlpha c.toLower halpha']

theorem lower_of_unlettered [Unlettered p] {s : List Char} (hs : ∀ c ∈ s, p c = true) :
    lower s = s := by
  unfold lower
  rw [List.map_congr_left fun c hc => toLower_of_unlettered (hs c hc), List.map_id']

/-- A class without letters is told on ASCII. -/
theorem unlettered
    (hp : ∀ n, n < 0x80 → p (Char.ofNat n) = true → (Char.ofNat n).isAlpha = false) :
    Unlettered p :=
  ⟨fun _ => not_of_isAlpha hp⟩

instance : Unlettered isBlank := unlettered (by decide)

instance : Unlettered isLineBreak := unlettered (by decide)

instance : Unlettered isDigit := unlettered (by decide +kernel)

/-! ## Trimming and cutting -/

section Uncased

variable [h : Uncased p] (s : List Char)

theorem takeWhile_lower : (lower s).takeWhile p = lower (s.takeWhile p) := by
  unfold lower
  rw [List.takeWhile_map, h.comp_toLower]

theorem dropWhile_lower : (lower s).dropWhile p = lower (s.dropWhile p) := by
  unfold lower
  rw [List.dropWhile_map, h.comp_toLower]

theorem stripEnd_lower : stripEnd p (lower s) = lower (stripEnd p s) := by
  unfold stripEnd
  have hreverse : ∀ t : List Char, (lower t).reverse = lower t.reverse := fun t =>
    List.map_reverse.symm
  rw [hreverse, dropWhile_lower, hreverse]

theorem strip_lower : strip p (lower s) = lower (strip p s) := by
  rw [strip, strip, dropWhile_lower, stripEnd_lower]

theorem splitOnP_lower : (lower s).splitOnP p = (s.splitOnP p).map lower := by
  induction s with
  | nil => rfl
  | cons c s ih =>
    rw [lower_cons, List.splitOnP_cons_eq_if_modifyHead, List.splitOnP_cons_eq_if_modifyHead, ih,
      apply_toLower p]
    split
    · rfl
    · cases s.splitOnP p <;> rfl

end Uncased

theorem trim_lower (s : List Char) : trim (lower s) = lower (trim s) :=
  strip_lower s

theorem filter_nonempty_lower (ss : List (List Char)) :
    (ss.map lower).filter (!·.isEmpty) = (ss.filter (!·.isEmpty)).map lower := by
  have hempty : (fun s : List Char => !s.isEmpty) ∘ lower = fun s => !s.isEmpty := by
    funext s
    cases s <;> rfl
  rw [List.filter_map, hempty]

theorem words_lower (s : List Char) : words (lower s) = (words s).map lower := by
  rw [words, words, splitOnP_lower, filter_nonempty_lower]

theorem intercalate_lower (sep : List Char) (ss : List (List Char)) :
    (lower sep).intercalate (ss.map lower) = lower (sep.intercalate ss) := by
  induction ss with
  | nil => rfl
  | cons s ss ih =>
    cases ss with
    | nil => rw [List.map_singleton, List.intercalate_singleton, List.intercalate_singleton]
    | cons t ss =>
      rw [List.map_cons] at ih
      rw [List.map_cons, List.map_cons, List.intercalate_cons_cons, List.intercalate_cons_cons,
        ih, lower_append, lower_append]

theorem oneSpaced_lower (s : List Char) : oneSpaced (lower s) = lower (oneSpaced s) := by
  unfold oneSpaced
  rw [words_lower, ← intercalate_lower]
  rfl

/-- A line feed after a text stands there in either case. -/
theorem head?_lower_eq_newline {s : List Char} (h : (lower s).head? = some '\n') :
    s.head? = some '\n' := by
  cases s with
  | nil => cases h
  | cons c s =>
    have hc : c.toLower = '\n' := Option.some.inj h
    rcases toLower_eq_self_or c with hself | ⟨-, hlower⟩
    · rw [List.head?_cons, ← hself, hc]
    · rw [hc] at hlower
      cases hlower

theorem lines_lower (s : List Char) : lines (lower s) = (lines s).map lower := by
  fun_induction lines s with
  | case1 => rfl
  | case2 cs ih =>
    show [] :: lines (lower cs) = _
    rw [ih]
    rfl
  | case3 c cs hpair hbreak ih =>
    rw [lower_cons, toLower_of_unlettered hbreak, lines_break hbreak, ih]
    · rfl
    · rintro ⟨rfl, hnext⟩
      cases cs with
      | nil => cases hnext
      | cons d cs =>
        cases Option.some.inj (head?_lower_eq_newline hnext)
        exact hpair _ rfl rfl
  | case4 c cs hpair hbreak hnil ih =>
    have hc : isLineBreak c.toLower = false := by
      rw [apply_toLower isLineBreak]
      exact Bool.eq_false_iff.2 hbreak
    rw [lower_cons, lines_cons hc, ih, hnil]
    rfl
  | case5 c cs hpair hbreak l ls hlines ih =>
    have hc : isLineBreak c.toLower = false := by
      rw [apply_toLower isLineBreak]
      exact Bool.eq_false_iff.2 hbreak
    rw [lower_cons, lines_cons hc, ih, hlines]
    rfl

/-! ## Scanners -/

namespace Scan

variable {α β : Type}

/-- The scanner reads the same value from a text in small letters, and leaves as much of it. -/
class Caseless (q : Scan α) : Prop where
  map_lower : ∀ s, q (lower s) = (q s).map (Prod.map id lower)

section Caseless

variable {q q' : Scan α} [h : Caseless q]

theorem whole_lower (s : List Char) : whole q (lower s) = whole q s := by
  unfold whole
  rw [h.map_lower]
  cases q s with
  | none => rfl
  | some read =>
    obtain ⟨a, r⟩ := read
    cases r <;> rfl

theorem isSome_lower (s : List Char) : (q (lower s)).isSome = (q s).isSome := by
  rw [h.map_lower, Option.isSome_map]

instance (a : α) : Caseless (pure a : Scan α) := ⟨fun _ => rfl⟩

instance {f : α → Scan β} [hf : ∀ a, Caseless (f a)] : Caseless (q >>= f) where
  map_lower s := by
    show (q (lower s)).bind (fun read => f read.1 read.2) =
      ((q s).bind fun read => f read.1 read.2).map _
    rw [h.map_lower]
    cases q s with
    | none => rfl
    | some read => exact (hf read.1).map_lower read.2

instance [h' : Caseless q'] : Caseless (q <|> q') where
  map_lower s := by
    show (q (lower s) <|> q' (lower s)) = (q s <|> q' s).map _
    rw [h.map_lower, h'.map_lower]
    cases q s <;> rfl

end Caseless

theorem caseless_pick {f : Char → Option α} (hf : f ∘ Char.toLower = f) :
    Caseless (pick f) where
  map_lower s := by
    cases s with
    | nil => rfl
    | cons c s =>
      have hc : f c.toLower = f c := congrFun hf c
      rw [lower_cons, pick, pick, hc]
      cases f c <;> rfl

instance [Unlettered p] : Caseless (char p) := by
  refine caseless_pick (funext fun c => ?_)
  rw [Function.comp_apply]
  have hc := apply_toLower p c
  cases h : p c with
  | true => rw [toLower_of_unlettered h]
  | false =>
    rw [h] at hc
    simp [Option.guard, h, hc]

instance [Unlettered p] : Caseless (run p) where
  map_lower s := by
    unfold run
    rw [takeWhile_lower, dropWhile_lower,
      lower_of_unlettered (List.all_eq_true.1 List.all_takeWhile)]
    rfl

instance [Unlettered p] : Caseless (run1 p) := by
  unfold run1
  infer_instance

instance : Caseless blanks := by
  unfold blanks
  infer_instance

instance : Caseless blanks1 := by
  unfold blanks1
  infer_instance

instance : Caseless digits1 := by
  unfold digits1
  infer_instance

/-- A character that is skipped may be a letter. -/
theorem caseless_skip [Uncased p] {q : Scan α} [hq : Caseless q] :
    Caseless (char p >>= fun _ => q) where
  map_lower s := by
    cases s with
    | nil => rfl
    | cons c s =>
      have hc := apply_toLower p c
      rw [lower_cons]
      cases hp : p c with
      | true =>
        rw [hp] at hc
        rw [bind_of_some (char_cons hc), bind_of_some (char_cons hp), hq.map_lower]
      | false =>
        rw [hp] at hc
        rw [bind_of_none (char_of_ends (ends_cons hc _)),
          bind_of_none (char_of_ends (ends_cons hp _))]
        rfl

theorem foldCase_comp_toLower : foldCase ∘ Char.toLower = foldCase :=
  comp_toLower (by decide)

instance (l : Char) : Uncased (foldCase · == l) where
  comp_toLower := by
    show (· == l) ∘ (foldCase ∘ Char.toLower) = _
    rw [foldCase_comp_toLower]
    rfl

instance (ls : List Char) : Caseless (letters ls) := by
  induction ls with
  | nil => exact inferInstanceAs (Caseless (pure ()))
  | cons l ls ih => exact caseless_skip

instance (w : String) : Caseless (word w) := by
  unfold word
  infer_instance

instance (ws : List String) : Caseless (phrase ws) := by
  fun_induction phrase ws <;> infer_instance

instance {q : Scan Unit} [Caseless q] : Caseless (optional q) := by
  unfold optional
  infer_instance

end Scan

end KnitPattern.Text
