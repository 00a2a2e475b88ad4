/-
  Cleaning a token. It takes two layers of quotation marks off each side, with the blanks around
  them, and full stops between those at the end (`clean_eq`): just so much may stand around a token
  that has none of these (`Bare`). Around anything more, something is left, and the token is not the
  bare one; whether it was enough is seen from what is left alone (`clean_eq_self_iff`).
-/
import KnitPattern.Body.Expansion
import KnitPattern.Proofs.Stitch.Token
import KnitPattern.Proofs.Text.Layers

namespace KnitPattern.Token

open Text

variable {s pre k post : List Char}

/-! ## Bare tokens -/

/-- The characters that may stand before a token. -/
def isFrame (c : Char) : Bool :=
  isBlank c || isQuoteMark c

/-- The characters that may stand behind a token. -/
def isTail (c : Char) : Bool :=
  isFrame c || c == '.'

/-- The token neither begins nor ends with a blank or a quotation mark, and does not end with a full
stop. -/
structure Bare (s : List Char) : Prop where
  front : Ends isFrame s
  back : Ends isTail s.reverse

theorem bare_iff_head? :
    Bare s ↔ s.head?.any isFrame = false ∧ s.reverse.head?.any isTail = false := by
  have hends : ∀ p (t : List Char), Ends p t ↔ t.head?.any p = false := by
    intro p t
    cases t <;> simp [Ends]
  rw [← hends, ← hends]
  exact ⟨fun h => ⟨h.front, h.back⟩, fun h => ⟨h.1, h.2⟩⟩

instance (s : List Char) : Decidable (Bare s) :=
  decidable_of_iff _ bare_iff_head?.symm

/-! ## What is removed -/

/-- What is removed before a token. -/
def frontLayers : List (Char → Bool) :=
  [isBlank, isQuoteMark, isBlank, isQuoteMark, isBlank]

/-- What is removed behind a token, from the end inwards. -/
def backLayers : List (Char → Bool) :=
  [isBlank, isQuoteMark, isBlank, (· == '.'), isBlank, isQuoteMark, isBlank]

/-- All of the front may be removed before all of the end. -/
theorem clean_eq (s : List Char) : clean s = peelEnd backLayers (peel frontLayers s) := by
  have htwice : ∀ t : List Char, (t.dropWhile isBlank).dropWhile isBlank = t.dropWhile isBlank :=
    fun t => dropWhile_of_ends (ends_dropWhile isBlank t)
  simp only [clean, unquote, trim, strip, dropWhile_stripEnd, htwice, peel, peelEnd, frontLayers,
    backLayers, List.foldl_cons, List.foldl_nil]

theorem exists_clean (s : List Char) : ∃ pre post, s = pre ++ clean s ++ post ∧
    Layered frontLayers pre ∧ Layered backLayers post.reverse := by
  obtain ⟨pre, hpre, hs⟩ := exists_peel frontLayers s
  obtain ⟨post, hpost, hrest⟩ := exists_peelEnd backLayers (peel frontLayers s)
  refine ⟨pre, post, ?_, hpre, hpost⟩
  rw [clean_eq, List.append_assoc, ← hrest]
  exact hs

theorem ends_or_iff {p q : Char → Bool} :
    Ends (fun c => p c || q c) s ↔ Ends p s ∧ Ends q s := by
  simp only [Ends, Bool.or_eq_false_iff]
  exact ⟨fun h => ⟨fun c hc => (h c hc).1, fun c hc => (h c hc).2⟩,
    fun h c hc => ⟨h.1 c hc, h.2 c hc⟩⟩

/-- A token is bare if there is nothing to remove. -/
theorem bare_iff : Bare s ↔
    (∀ p ∈ frontLayers, Ends p s) ∧ ∀ p ∈ backLayers, Ends p s.reverse := by
  have hframe : ∀ {t}, Ends isFrame t ↔ Ends isBlank t ∧ Ends isQuoteMark t := ends_or_iff
  have htail : ∀ {t}, Ends isTail t ↔ Ends isFrame t ∧ Ends (· == '.') t := ends_or_iff
  constructor
  · rintro ⟨hfront, hback⟩
    obtain ⟨hblank, hmark⟩ := hframe.1 hfront
    obtain ⟨hback, hstop⟩ := htail.1 hback
    obtain ⟨hblank', hmark'⟩ := hframe.1 hback
    simp [frontLayers, backLayers, hblank, hmark, hblank', hmark', hstop]
  · rintro ⟨hfront, hback⟩
    refine ⟨hframe.2 ⟨?_, ?_⟩, htail.2 ⟨hframe.2 ⟨?_, ?_⟩, ?_⟩⟩
    · exact hfront _ (by simp [frontLayers])
    · exact hfront _ (by simp [frontLayers])
    · exact hback _ (by simp [backLayers])
    · exact hback _ (by simp [backLayers])
    · exact hback _ (by simp [backLayers])

theorem Bare.peelEnd_append (hk : Bare k) (hpost : Layered backLayers post.reverse) :
    peelEnd backLayers (k ++ post) = k := by
  rw [peelEnd_eq, List.reverse_append, hpost.peel_append_of_ends (bare_iff.1 hk).2,
    List.reverse_reverse]

/-- The layers around a bare token are removed. -/
theorem Bare.clean_layers (hk : Bare k) (hpre : Layered frontLayers pre)
    (hpost : Layered backLayers post.reverse) : clean (pre ++ k ++ post) = k := by
  rw [clean_eq, List.append_assoc]
  by_cases hnil : k = []
  · -- with nothing between them, the layers of the front may reach into those of the end
    subst hnil
    rw [List.nil_append]
    obtain ⟨v, hv⟩ := hpre.exists_peel_append post
    rw [hv, List.reverse_append] at hpost
    exact hk.peelEnd_append hpost.of_append.1
  · have hends : ∀ p ∈ frontLayers, Ends p (k ++ post) := by
      intro p hp c hc
      refine (bare_iff.1 hk).1 p hp c ?_
      obtain ⟨d, ds, rfl⟩ := List.exists_cons_of_ne_nil hnil
      exact hc
    rw [hpre.peel_append_of_ends hends, hk.peelEnd_append hpost]

theorem bare_clean_iff : Bare (clean s) ↔ ∃ pre k post, s = pre ++ k ++ post ∧
    Layered frontLayers pre ∧ Bare k ∧ Layered backLayers post.reverse := by
  constructor
  · intro hbare
    obtain ⟨pre, post, hs, hpre, hpost⟩ := exists_clean s
    exact ⟨pre, clean s, post, hs, hpre, hbare, hpost⟩
  · rintro ⟨pre, k, post, rfl, hpre, hk, hpost⟩
    rwa [hk.clean_layers hpre hpost]

/-! ## Tokens that stay as they are -/

theorem clean_eq_self_iff : clean s = s ↔ Bare s := by
  rw [bare_iff, ← peel_eq_self_iff, ← peelEnd_eq_self_iff, clean_eq]
  constructor
  · intro h
    -- what loses nothing in the end has lost nothing before
    have hfront : peel frontLayers s = s := by
      obtain ⟨g, -, hg⟩ := exists_peelEnd backLayers (peel frontLayers s)
      rw [h] at hg
      refine (suffix_peel frontLayers s).eq_of_length_le ?_
      rw [hg, List.length_append]
      exact Nat.le_add_right _ _
    rw [hfront] at h
    exact ⟨hfront, h⟩
  · rintro ⟨hfront, hback⟩
    rw [hfront, hback]

/-! ## Tokens with something around them -/

theorem all_isFrame_of_layered (h : Layered frontLayers pre) : ∀ c ∈ pre, isFrame c = true := by
  intro c hc
  obtain ⟨p, hp, hpc⟩ := h.exists_class hc
  simp only [frontLayers, List.mem_cons, List.not_mem_nil, or_false] at hp
  rcases hp with rfl | rfl | rfl | rfl | rfl <;> simp [isFrame, hpc]

/-- What is around a token that is not empty is seen from the text. -/
theorem eq_of_append_eq {pre' post' : List Char} (hk : Bare k) (hne : k ≠ [])
    (hpre : ∀ c ∈ pre, isFrame c = true) (hpre' : ∀ c ∈ pre', isFrame c = true)
    (h : pre ++ k ++ post = pre' ++ k ++ post') : pre = pre' ∧ post = post' := by
  have hends : ∀ t, Ends isFrame (k ++ t) := by
    intro t c hc
    obtain ⟨d, ds, rfl⟩ := List.exists_cons_of_ne_nil hne
    exact hk.front c hc
  have hrun := Scan.run_append hpre (hends post)
  rw [List.append_assoc, List.append_assoc] at h
  rw [h, Scan.run_append hpre' (hends post')] at hrun
  obtain ⟨rfl, hrest⟩ := Prod.mk.inj (Option.some.inj hrun)
  exact ⟨rfl, (List.append_cancel_left hrest).symm⟩

theorem Bare.clean_eq_iff (hk : Bare k) (hne : k ≠ []) (hpre : ∀ c ∈ pre, isFrame c = true) :
    clean (pre ++ k ++ post) = k ↔
      Layered frontLayers pre ∧ Layered backLayers post.reverse := by
  constructor
  · intro hclean
    obtain ⟨pre', post', hs, hpre', hpost'⟩ := exists_clean (pre ++ k ++ post)
    rw [hclean] at hs
    obtain ⟨rfl, rfl⟩ := eq_of_append_eq hk hne hpre (all_isFrame_of_layered hpre') hs
    exact ⟨hpre', hpost'⟩
  · rintro ⟨hpre, hpost⟩
    exact hk.clean_layers hpre hpost

/-- No layer has a delimiter. -/
theorem not_isDelimiter_of_layer {p : Char → Bool} (hp : p ∈ frontLayers ++ backLayers) {c : Char}
    (hc : p c = true) : isDelimiter c = false := by
  have hcomma : ∀ p ∈ frontLayers ++ backLayers, p ',' = false ∧ p ';' = false := by
    simp only [frontLayers, backLayers, List.cons_append, List.nil_append, List.forall_mem_cons]
    decide
  by_contra hd
  rcases Bool.or_eq_true_iff.1 (Bool.not_eq_false _ ▸ hd) with h | h
  · rw [beq_iff_eq.1 h, (hcomma p hp).1] at hc
    cases hc
  · rw [beq_iff_eq.1 h, (hcomma p hp).2] at hc
    cases hc

/-- A piece of text has the token that it has without the layers around it. -/
theorem Bare.split_layers (hk : Bare k) (hpre : Layered frontLayers pre)
    (hpost : Layered backLayers post.reverse) (hone : ∀ c ∈ k, isDelimiter c = false) :
    split (pre ++ k ++ post) = split k := by
  have hall : ∀ c ∈ pre ++ k ++ post, isDelimiter c = false := by
    intro c hc
    rcases List.mem_append.1 hc with hc | hc
    · rcases List.mem_append.1 hc with hc | hc
      · obtain ⟨p, hp, hpc⟩ := hpre.exists_class hc
        exact not_isDelimiter_of_layer (List.mem_append_left _ hp) hpc
      · exact hone c hc
    · obtain ⟨p, hp, hpc⟩ := hpost.exists_class (List.mem_reverse.2 hc)
      exact not_isDelimiter_of_layer (List.mem_append_right _ hp) hpc
  rw [split_of_one hall, split_of_one hone, hk.clean_layers hpre hpost, clean_eq_self_iff.2 hk]

/-- A cleaned token has no blanks around it, and it is clean for good just if it is bare. It is bare
just if the text is a bare token with no more around it than the layers that are removed: two of
quotation marks with the blanks around them on either side, and full stops between those behind it.
So what is written around a token is removed just if it is of these layers, and then the text gives
the same operations as the token. -/
theorem clean_of_layers (s : List Char) :
    (Ends isBlank (clean s) ∧ Ends isBlank (clean s).reverse) ∧
    (clean (clean s) = clean s ↔ Bare (clean s)) ∧
    (Bare (clean s) ↔ ∃ pre k post, s = pre ++ k ++ post ∧ Layered frontLayers pre ∧ Bare k ∧
      Layered backLayers post.reverse) ∧
    (∀ pre k post, s = pre ++ k ++ post → Bare k → k ≠ [] → (∀ c ∈ pre, isFrame c = true) →
      (clean s = k ↔ Layered frontLayers pre ∧ Layered backLayers post.reverse)) ∧
    ∀ pre k post, s = pre ++ k ++ post → Layered frontLayers pre → Bare k →
      Layered backLayers post.reverse → (∀ c ∈ k, isDelimiter c = false) →
      ∀ (ctx : Context) live, ctx.operations live s = ctx.operations live k := by
  refine ⟨⟨ends_strip isBlank _, ends_reverse_strip isBlank _⟩, clean_eq_self_iff, bare_clean_iff,
    ?_, ?_⟩
  · rintro pre k post rfl hk hne hpre
    exact hk.clean_eq_iff hne hpre
  · rintro pre k post rfl hpre hk hpost hone ctx live
    rw [Context.operations, Context.operations, hk.split_layers hpre hpost hone]

/-- Two kinds of marks, one inside the other, and full stops between them. -/
theorem clean_of_layers_of_quoted :
    let pre := " \x22 \u2018".toList
    let k := "k2tog tbl".toList
    let post := "\u2019 .. \x22\x22 ".toList
    let s := pre ++ k ++ post
    (Layered frontLayers pre ∧ Bare k ∧ Layered backLayers post.reverse ∧
        ∀ c ∈ k, isDelimiter c = false) ∧
      clean s = k ∧ Bare (clean s) ∧ clean (clean s) = clean s ∧
      ∀ (ctx : Context) live, ctx.operations live s = ctx.operations live k := by
  intro pre k post s
  have hpre : Layered frontLayers pre := by decide
  have hk : Bare k := by decide
  have hpost : Layered backLayers post.reverse := by decide
  have hone : ∀ c ∈ k, isDelimiter c = false := by
    have hall : k.all (fun c => !isDelimiter c) = true := by decide
    simpa using List.all_eq_true.1 hall
  obtain ⟨-, hfixed, hbare, htoken, hoperations⟩ := clean_of_layers s
  have hclean : clean s = k :=
    (htoken pre k post rfl hk (by decide) (all_isFrame_of_layered hpre)).2 ⟨hpre, hpost⟩
  have hleft : Bare (clean s) := hbare.2 ⟨pre, k, post, rfl, hpre, hk, hpost⟩
  exact ⟨⟨hpre, hk, hpost, hone⟩, hclean, hleft, hfixed.2 hleft,
    hoperations pre k post rfl hpre hk hpost hone⟩

/-- A full stop inside a quotation mark that itself has a full stop behind it is left, and taken for
part of the instruction, which then is one stitch in place of two. -/
theorem stop_before_mark_left :
    let s := "k2.\x22.".toList
    clean s = "k2.".toList ∧ ¬ Bare (clean s) ∧ clean (clean s) = "k2".toList ∧
      (({} : Context).operations 1 s).toOption.map (List.map Operation.units) = some [1] ∧
      (({} : Context).operations 1 "k2".toList).toOption.map (List.map Operation.units) =
        some [2] := by
  decide +kernel

end KnitPattern.Token
