/-
  Rounds in small letters. A text in small letters has the same significant lines, logical lines
  and sections as the text, in small letters: headers, notes and references are read in either
  case, and a word character stays one.
-/
import KnitPattern.Proofs.Text.Caseless
import KnitPattern.Round.LogicalLine
import KnitPattern.Round.Reference

namespace KnitPattern

open Text Scan

theorem isWordChar_of_isAlpha {c : Char} (hc : c.isAlpha = true) : isWordChar c = true := by
  rw [isAlpha_eq, Bool.or_eq_true] at hc
  rcases hc with hc | hc
  · have hbounds := isUpper_iff.1 hc
    refine List.any_eq_true.2 ⟨(0x41, 0x5A), .tail _ (.head _), ?_⟩
    simpa using hbounds
  · have hbounds := isLower_iff.1 hc
    refine List.any_eq_true.2 ⟨(0x61, 0x7A), .tail _ (.tail _ (.tail _ (.head _))), ?_⟩
    simpa using hbounds

instance : Uncased isWordChar where
  comp_toLower := by
    funext c
    rw [Function.comp_apply]
    rcases toLower_eq_self_or_isAlpha c with hself | ⟨halpha, halpha'⟩
    · rw [hself]
    · rw [isWordChar_of_isAlpha halpha, isWordChar_of_isAlpha halpha']

/-! ## What is read in either case -/

instance : Unlettered (· == ':') := unlettered (by decide)

instance : Unlettered Header.isListChar := unlettered (by decide +kernel)

instance : Caseless Header.keywordScan := by
  unfold Header.keywordScan
  infer_instance

instance : Caseless Header.scan := by
  unfold Header.scan
  infer_instance

instance : Caseless Header.startScan := by
  unfold Header.startScan
  infer_instance

instance : Caseless Line.noteScan := by
  unfold Line.noteScan
  infer_instance

set_option synthInstance.maxSize 1000 in
instance : Caseless Draft.referenceScan := by
  unfold Draft.referenceScan
  infer_instance

/-! ## Sections -/

namespace Section

def lower (s : Section) : Section :=
  ⟨s.header, Text.lower s.written, Text.lower s.body⟩

theorem text_lower (s : Section) : s.lower.text = Text.lower s.text :=
  (lower_append s.written s.body).symm

def Place.lower (p : Place) : Place :=
  ⟨p.char.toLower, p.header.map (Prod.map id Text.lower)⟩

theorem headed?_lower (before : Option Char) (s : List Char) :
    headed? (before.map Char.toLower) (Text.lower s) =
      (headed? before s).map (Prod.map id Text.lower) := by
  have hbefore : (before.map Char.toLower).any isWordChar = before.any isWordChar := by
    cases before with
    | none => rfl
    | some c => exact apply_toLower isWordChar c
  have hscan := Caseless.map_lower (q := Header.scan) s
  unfold headed?
  rw [hscan, hbefore]
  cases Header.scan s with
  | none => rfl
  | some read =>
    obtain ⟨h, rest⟩ := read
    rw [Option.map_some, Prod.map_apply]
    dsimp only
    split
    · rfl
    · rw [length_lower, length_lower, Text.lower, ← List.map_take]
      rfl

theorem places_lower (before : Option Char) (s : List Char) :
    places (before.map Char.toLower) (Text.lower s) = (places before s).map Place.lower := by
  induction s generalizing before with
  | nil => rfl
  | cons c s ih =>
    rw [lower_cons, places, places, List.map_cons, ← lower_cons, headed?_lower]
    exact congrArg (Place.lower ⟨c, headed? before (c :: s)⟩ :: ·) (ih (some c))

theorem cut_lower (skip : Nat) (ps : List Place) :
    cut skip (ps.map Place.lower) =
      (Text.lower (cut skip ps).1, (cut skip ps).2.map Section.lower) := by
  induction ps generalizing skip with
  | nil =>
    rw [List.map_nil, cut]
    rfl
  | cons p ps ih =>
    obtain ⟨c, header⟩ := p
    cases skip with
    | succ skip => exact ih skip
    | zero =>
      cases header with
      | none =>
        have hrest := ih 0
        simp only [List.map_cons, Place.lower, Option.map_none, cut, hrest]
        rfl
      | some head =>
        obtain ⟨h, written⟩ := head
        have hrest := ih (written.length - 1)
        simp only [List.map_cons, Place.lower, Option.map_some, Prod.map_apply, cut, length_lower,
          hrest]
        rfl

theorem ofLine_lower (line : List Char) :
    ofLine (Text.lower line) = (Text.lower (ofLine line).1, (ofLine line).2.map lower) := by
  unfold ofLine
  rw [← cut_lower, ← places_lower]
  rfl

end Section

/-! ## Lines -/

namespace Line

def lower (l : Line) : Line :=
  { l with text := Text.lower l.text }

theorem isNote_lower (l : Line) : l.lower.isNote = l.isNote :=
  isSome_lower l.text

theorem isStart_lower (l : Line) : l.lower.isStart = l.isStart :=
  isSome_lower l.text

theorem significant_lower (text : List Char) :
    significant (Text.lower text) = (significant text).map lower := by
  have hkept : ∀ l : Line, (!l.lower.text.isEmpty && !l.lower.isNote) =
      (!l.text.isEmpty && !l.isNote) := by
    intro l
    rw [isNote_lower, lower, Text.lower, List.isEmpty_map]
  unfold significant
  rw [lines_lower, List.zipIdx_map, List.map_map]
  have hlines : ((lines text).zipIdx 1).map ((fun p => (⟨p.2, trim p.1⟩ : Line)) ∘
      Prod.map Text.lower id) = (((lines text).zipIdx 1).map fun p => ⟨p.2, trim p.1⟩).map lower := by
    rw [List.map_map]
    refine List.map_congr_left fun p _ => ?_
    exact congrArg (Line.mk p.2) (trim_lower p.1)
  refine (congrArg (List.filter _) hlines).trans ?_
  rw [List.filter_map]
  exact congrArg (List.map lower) (List.filter_congr fun l _ => hkept l)

theorem joined_lower (l : Line) (more : List Line) :
    joined l.lower (more.map lower) = (joined l more).lower := by
  have htexts : (l.lower :: more.map lower).map (·.text) =
      ((l :: more).map (·.text)).map Text.lower := by
    rw [← List.map_cons, List.map_map, List.map_map]
    rfl
  rw [joined, htexts]
  exact congrArg (Line.mk l.number) (intercalate_lower [' '] _)

theorem grouped_lower (ls : List Line) :
    grouped (ls.map lower) = ((grouped ls).1.map lower, (grouped ls).2.map lower) := by
  induction ls with
  | nil => rfl
  | cons l ls ih =>
    rw [List.map_cons, grouped, grouped, ih, isStart_lower]
    dsimp only
    split
    · rw [joined_lower]
      rfl
    · rfl

end Line

/-! ## References -/

theorem Draft.reference?_lower (body : String) :
    reference? (String.ofList (Text.lower body.toList)) = reference? body := by
  unfold reference?
  rw [String.toList_ofList, trim_lower, whole_lower]

end KnitPattern
