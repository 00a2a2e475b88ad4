/-
  The instruction to knit around. It is one token, whether it is read as a whole text or as a
  token of one (`split_aroundText`).
-/
import KnitPattern.Body.Form
import KnitPattern.Proofs.Stitch.Token
import KnitPattern.Proofs.Text.Word

namespace KnitPattern.Body

open Text Scan

/-- The full stop that may end a text. -/
def stopText (stop : Bool) : List Char :=
  if stop then ['.'] else []

theorem optional_stop (stop : Bool) :
    Scan.optional (word ".") (stopText stop) = some ((), []) := by
  cases stop <;> decide

theorem eq_stopText {s : List Char} (h : Scan.optional (word ".") s = some ((), [])) :
    ∃ stop, s = stopText stop := by
  rcases optional_eq_some h with h | h
  · exact ⟨true, eq_cons_of_letters (by decide) h⟩
  · exact ⟨false, h.symm⟩

theorem forall_mem_stopText {P : Char → Prop} (h : P '.') (stop : Bool) :
    ∀ c ∈ stopText stop, P c := by
  cases stop with
  | true => exact List.forall_mem_singleton.2 h
  | false => exact List.forall_mem_nil _

/-! ## The instruction and its token -/

theorem not_isQuoteMark_of_isCased {c : Char} (hc : isCased c = true) :
    Token.isQuoteMark c = false :=
  not_of_isCased (by decide) (by decide) hc

/-- An instruction to knit around, as spelled by the given parts. -/
def aroundText (k : Spelled "k") (gap : WideGap) (w : Spelled "around") (stop : Bool) :
    List Char :=
  k.1 ++ (gap.1 ++ (w.1 ++ stopText stop))

theorem isAround_aroundText (k : Spelled "k") (gap : WideGap) (w : Spelled "around")
    (stop : Bool) : isAround (aroundText k gap w stop) = true := by
  have hends : Ends isBlank (w.1 ++ stopText stop) :=
    w.ends (fun _ => not_isBlank_of_isCased) (by decide) (by decide) _
  have hphrase : phrase ["k", "around"] (aroundText k gap w stop) = some ((), stopText stop) := by
    unfold phrase phrase
    rw [aroundText, word, bind_of_some (letters_append k.2),
      bind_of_some (blanks1_append gap.2.1 gap.2.2 hends)]
    exact letters_append w.2
  refine isSome_whole.2 ⟨(), ?_⟩
  rw [around, bind_of_some hphrase]
  exact optional_stop stop

theorem exists_aroundText {s : List Char} (h : isAround s = true) :
    ∃ k gap w stop, s = aroundText k gap w stop := by
  obtain ⟨u, h⟩ := isSome_whole.1 h
  obtain ⟨_, t, hphrase, hstop⟩ := bind_eq_some.1 h
  obtain ⟨_, t1, hkscan, hphrase⟩ := bind_eq_some.1 hphrase
  obtain ⟨_, t2, hgapscan, haround⟩ := bind_eq_some.1 hphrase
  obtain ⟨k, hk, rfl⟩ := letters_eq_some hkscan
  obtain ⟨gap, rfl, hgap⟩ := blanks1_eq_some hgapscan
  obtain ⟨w, hw, rfl⟩ := letters_eq_some haround
  obtain ⟨stop, rfl⟩ := eq_stopText hstop
  exact ⟨⟨k, hk⟩, ⟨gap, hgap⟩, ⟨w, hw⟩, stop, rfl⟩

theorem ends_aroundText {p : Char → Bool} (hp : ∀ c, isCased c = true → p c = false)
    (k : Spelled "k") (gap : WideGap) (w : Spelled "around") (stop : Bool) :
    Ends p (aroundText k gap w stop) :=
  k.ends hp (by decide) (by decide) _

theorem ends_reverse_aroundText {p : Char → Bool} (hp : ∀ c, isCased c = true → p c = false)
    (k : Spelled "k") (gap : WideGap) (w : Spelled "around") {stop : Bool}
    (hstop : stop = true → p '.' = false) : Ends p (aroundText k gap w stop).reverse := by
  have hreverse : (aroundText k gap w stop).reverse =
      stopText stop ++ (w.1.reverse ++ (k.1 ++ gap.1).reverse) := by
    cases stop <;> simp [aroundText, stopText]
  rw [hreverse]
  cases stop with
  | true => exact ends_cons (hstop rfl) _
  | false =>
    refine ends_append (mt List.reverse_eq_nil_iff.1 (w.ne_nil (by decide))) ?_ _
    intro c hc
    exact hp c (w.all_isCased (by decide) c (List.mem_reverse.1 hc))

/-- An instruction to knit around is one token, without the full stop at its end. -/
theorem split_aroundText (k : Spelled "k") (gap : WideGap) (w : Spelled "around")
    (stop : Bool) : Token.split (aroundText k gap w stop) = [aroundText k gap w false] := by
  have hunquote (b) : Token.unquote (aroundText k gap w b) = aroundText k gap w b :=
    Token.unquote_eq_self
      (ends_aroundText (fun _ => not_isBlank_of_isCased) k gap w b)
      (ends_reverse_aroundText (fun _ => not_isBlank_of_isCased) k gap w fun _ => by decide)
      (ends_aroundText (fun _ => not_isQuoteMark_of_isCased) k gap w b)
      (ends_reverse_aroundText (fun _ => not_isQuoteMark_of_isCased) k gap w fun _ => by decide)
  have hstop : stripEnd (· == '.') (aroundText k gap w stop) = aroundText k gap w false := by
    have hdot : ∀ c, isCased c = true → (c == '.') = false :=
      fun _ => not_of_isCased (p := (· == '.')) (by decide) (by decide)
    have hself : stripEnd (· == '.') (aroundText k gap w false) = aroundText k gap w false :=
      stripEnd_eq_self (ends_reverse_aroundText hdot k gap w (by decide))
    cases stop with
    | false => exact hself
    | true =>
      have happend : aroundText k gap w true = aroundText k gap w false ++ ['.'] := by
        simp [aroundText, stopText]
      rw [happend, stripEnd_append (List.forall_mem_singleton.2 rfl), hself]
  have hclean : Token.clean (aroundText k gap w stop) = aroundText k gap w false := by
    rw [Token.clean, hunquote, hstop, hunquote]
  have hone : ∀ c ∈ aroundText k gap w stop, Token.isDelimiter c = false := by
    have hcased : ∀ c, isCased c = true → Token.isDelimiter c = false :=
      fun _ => not_of_isCased (by decide) (by decide)
    simp only [aroundText, List.forall_mem_append]
    exact ⟨fun c hc => hcased c (k.all_isCased (by decide) c hc),
      fun c hc => Token.not_isDelimiter_of_isBlank (gap.2.2 c hc),
      fun c hc => hcased c (w.all_isCased (by decide) c hc),
      forall_mem_stopText (by decide) stop⟩
  have hne : aroundText k gap w false ≠ [] := by
    simp [aroundText, k.ne_nil (by decide)]
  rw [Token.split_of_one hone, hclean, List.filter_cons_of_pos (by simpa using hne)]
  rfl

end KnitPattern.Body
