/-
  Instruction texts in small letters. Tokens and repeat blocks are cut at characters that are no
  letters, and all words of the notation are read in either case, so a text in small letters has
  the tokens, the stitches and the form of the text (`View.respected_caseless`).
-/
import KnitPattern.Proofs.Body.View
import KnitPattern.Proofs.Round.Caseless

namespace KnitPattern

open Text Scan Body

/-- Capital and small letters of ASCII are not told apart. -/
def View.caseless : View where
  char := Char.toLower
  label s := String.ofList (lower s.toList)

/-! ## Tokens -/

instance : Unlettered (· == '.') := unlettered (by decide)

instance : Unlettered Token.isQuoteMark := unlettered (by decide +kernel)

instance : Unlettered Token.isDelimiter := unlettered (by decide)

namespace Token

theorem unquote_lower (s : List Char) : unquote (lower s) = lower (unquote s) := by
  rw [unquote, unquote, trim_lower, strip_lower, trim_lower]

theorem clean_lower (s : List Char) : clean (lower s) = lower (clean s) := by
  rw [clean, clean, unquote_lower, stripEnd_lower, unquote_lower]

theorem split_lower (s : List Char) : split (lower s) = (split s).map lower := by
  have hclean : clean ∘ lower = lower ∘ clean := by
    funext s
    rw [Function.comp_apply, Function.comp_apply, clean_lower]
  unfold split
  rw [splitOnP_lower, List.map_map, hclean, ← List.map_map, filter_nonempty_lower]

end Token

/-! ## Stitches -/

instance : Caseless (pick Count.lead?) := caseless_pick (comp_toLower (by decide))

instance : Caseless Count.scan := by
  unfold Count.scan
  infer_instance

instance : Caseless Shape.knitOrPurl := by
  unfold Shape.knitOrPurl
  infer_instance

set_option synthInstance.maxSize 10000 in
instance (shape : Shape) : Caseless shape.scan := by
  cases shape <;>
  · dsimp only [Shape.scan]
    infer_instance

theorem Stitch.ofToken?_lower (s : List Char) : ofToken? (lower s) = ofToken? s := by
  unfold ofToken?
  simp only [whole_lower]

/-! ## Forms -/

namespace Body

instance : Unlettered (· == '*') := unlettered (by decide)

instance : Caseless around := by
  unfold around
  infer_instance

set_option synthInstance.maxSize 1000 in
instance : Caseless fromPiece := by
  unfold fromPiece
  infer_instance

instance : Caseless fromBackwards := by
  unfold fromBackwards
  infer_instance

instance : Caseless toPiece := by
  unfold toPiece
  infer_instance

set_option synthInstance.maxSize 1000 in
instance : Caseless timesPiece := by
  unfold timesPiece
  infer_instance

theorem isAround_lower (s : List Char) : isAround (lower s) = isAround s := by
  rw [isAround, isAround, whole_lower]

theorem closedInner?_lower (piece next : List Char) :
    closedInner? (lower piece) (lower next) = (closedInner? piece next).map lower := by
  unfold closedInner?
  rw [whole_lower]
  cases piece with
  | nil => rfl
  | cons c piece =>
    simp only [lower_cons, ne_eq, reduceCtorEq, not_false_eq_true, true_and]
    split <;> rfl

theorem openInner?_lower (piece : List Char) :
    openInner? (lower piece) = (openInner? piece).map lower := by
  have hscan := Caseless.map_lower (q := fromBackwards) piece.reverse
  have hreverse : (lower piece).reverse = lower piece.reverse := List.map_reverse.symm
  unfold openInner?
  rw [hreverse, hscan]
  cases fromBackwards piece.reverse with
  | none => rfl
  | some read =>
    obtain ⟨u, rest⟩ := read
    cases rest with
    | nil => rfl
    | cons c rest =>
      show some (lower (c :: rest)).reverse = some (lower (c :: rest).reverse)
      exact congrArg some List.map_reverse.symm

/-- The inner text of a block with the numeral in the piece after its last star. -/
def withTimes (inner : Option (List Char)) (times : List Char) :
    Option (List Char × List Char) :=
  inner.bind fun inner => (whole timesPiece times).map fun n => (inner, n)

theorem withTimes_lower (inner : Option (List Char)) (times : List Char) :
    withTimes (inner.map lower) (lower times) =
      (withTimes inner times).map (Prod.map lower id) := by
  unfold withTimes
  rw [whole_lower]
  cases inner <;> cases whole timesPiece times <;> rfl

theorem blockOfPieces?_three (a times : List Char) :
    blockOfPieces? [[], a, times] = withTimes (openInner? a) times := by
  unfold blockOfPieces? withTimes
  dsimp only
  cases openInner? a <;> cases whole timesPiece times <;> rfl

theorem blockOfPieces?_four (a b times : List Char) :
    blockOfPieces? [[], a, b, times] =
      withTimes (if (whole toPiece b).isSome then openInner? a else closedInner? a b) times := by
  unfold blockOfPieces? withTimes
  dsimp only
  split
  · cases openInner? a <;> cases whole timesPiece times <;> rfl
  · cases closedInner? a b <;> cases whole timesPiece times <;> rfl

theorem blockOfPieces?_five (a b c times : List Char) :
    blockOfPieces? [[], a, b, c, times] =
      withTimes (if (whole toPiece c).isSome then closedInner? a b else none) times := by
  unfold blockOfPieces? withTimes
  dsimp only
  split
  · cases closedInner? a b <;> cases whole timesPiece times <;> rfl
  · rfl

theorem blockOfPieces?_lower (ps : List (List Char)) :
    blockOfPieces? (ps.map lower) = (blockOfPieces? ps).map (Prod.map lower id) := by
  cases ps with
  | nil => rfl
  | cons p ps =>
    cases p with
    | cons c p => rfl
    | nil =>
      rcases ps with _ | ⟨a, _ | ⟨b, _ | ⟨c, _ | ⟨d, _ | ⟨e, ps⟩⟩⟩⟩⟩
      · rfl
      · rfl
      · show blockOfPieces? [[], lower a, lower b] = _
        rw [blockOfPieces?_three, blockOfPieces?_three, openInner?_lower, withTimes_lower]
      · show blockOfPieces? [[], lower a, lower b, lower c] = _
        rw [blockOfPieces?_four, blockOfPieces?_four, whole_lower, openInner?_lower,
          closedInner?_lower, ← withTimes_lower]
        split <;> rfl
      · show blockOfPieces? [[], lower a, lower b, lower c, lower d] = _
        rw [blockOfPieces?_five, blockOfPieces?_five, whole_lower, closedInner?_lower,
          ← withTimes_lower]
        split <;> rfl
      · rfl

theorem form_lower (s : List Char) : form (lower s) = (form s).seen .caseless := by
  have hpieces : (lower s).splitOn '*' = (s.splitOn '*').map lower := splitOnP_lower s
  unfold form
  rw [isAround_lower, hpieces, blockOfPieces?_lower]
  split
  · rfl
  · cases blockOfPieces? (s.splitOn '*') <;> rfl

end Body

/-! ## What is respected -/

theorem View.respected_caseless : caseless.Respected where
  reference b b' h := by
    rw [← Draft.reference?_lower b, ← Draft.reference?_lower b']
    exact congrArg Draft.reference? h
  form s s' h := by
    rw [← form_lower, ← form_lower, ← trim_lower, ← trim_lower]
    exact congrArg (fun t => form (trim t)) h
  tokens s s' h := by
    show (Token.split s).map lower = (Token.split s').map lower
    rw [← Token.split_lower, ← Token.split_lower]
    exact congrArg Token.split h
  around s s' h := by
    rw [← isAround_lower s, ← isAround_lower s']
    exact congrArg isAround h
  stitch s s' h := by
    rw [← Stitch.ofToken?_lower s, ← Stitch.ofToken?_lower s']
    exact congrArg Stitch.ofToken? h

end KnitPattern
