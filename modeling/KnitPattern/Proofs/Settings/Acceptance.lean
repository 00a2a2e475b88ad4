/-
  Which documents give settings. A document is accepted just if it is well formed: each number is
  the whole number of its field, or its default if the field is absent, and is at least one, and the
  glossary has one entry for each item that is listed (`WellFormed`). What else is wrong with a
  document is told as a bad value, with two exceptions: a field of a number that is infinite, and
  one that is null, a list or a mapping (`refused_as_bad_value`). They are met before any number is
  compared with its least value and before the glossary is looked at.
-/
import KnitPattern.Proofs.Glossary.Listing
import KnitPattern.Settings.OfDocument

namespace KnitPattern.Settings

open Heuristics (HasFields)

variable {d : Document} {fields : List (Scalar × Document)} {field : Field} {n : Int}

/-! ## Well-formed documents -/

/-- The number of a setting where none is given. -/
def Field.default : Field → Int
  | starting => ({} : Settings).starting
  | repeats => ({} : Settings).limits.repeats
  | stitches => ({} : Settings).limits.stitches

/-- The settings whose numbers are read before. -/
def Field.before : Field → List Field
  | starting => []
  | repeats => [starting]
  | stitches => [starting, repeats]

/-- The number of a setting: the whole number of its field, or its default if it is absent. -/
inductive HasNumber (fields : List (Scalar × Document)) (field : Field) : Int → Prop
  | absent (h : Document.field? field.name fields = none) : HasNumber fields field field.default
  | given {v : Document} {n : Int} (h : Document.field? field.name fields = some v)
      (hv : v.toInteger = .ok n) : HasNumber fields field n

/-- The document gives the numbers, all at least one, and the glossary. -/
structure WellFormed (d : Document) (starting : Int) (limits : Limits) (glossary : Glossary) :
    Prop where
  given : ∃ fields, HasFields d fields ∧ HasNumber fields .starting starting ∧
    HasNumber fields .repeats limits.repeats ∧ HasNumber fields .stitches limits.stitches ∧
    Glossary.Lists ((Document.field? "glossary" fields).getD .null) glossary
  one_le_starting : 1 ≤ starting
  one_le_repeats : 1 ≤ limits.repeats
  one_le_stitches : 1 ≤ limits.stitches

theorem number_eq_ok_iff : number fields field field.default = .ok n ↔ HasNumber fields field n := by
  unfold number
  constructor
  · intro h
    split at h
    · next hnone =>
      cases h
      exact .absent hnone
    · next hsome => exact .given hsome (mapError_eq_ok_iff.1 h)
  · intro h
    cases h with
    | absent hnone => rw [hnone]
    | given hsome hv =>
      rw [hsome]
      exact mapError_eq_ok_iff.2 hv

theorem number_eq_error_iff {f : Fault} : number fields field field.default = .error f ↔
    ∃ v g, Document.field? field.name fields = some v ∧ v.toInteger = .error g ∧
      f = .number g := by
  unfold number
  cases Document.field? field.name fields with
  | none => simp
  | some v =>
    dsimp only
    rw [mapError_eq_error_iff]
    constructor
    · rintro ⟨g, hg, rfl⟩
      exact ⟨v, g, rfl, hg, rfl⟩
    · rintro ⟨_, g, hv, hg, rfl⟩
      cases hv
      exact ⟨g, hg, rfl⟩

theorem checked_eq_ok_iff {starting repeats stitches : Int} {glossary : Glossary} {s : Settings} :
    checked starting repeats stitches glossary = .ok s ↔
      s.starting = starting ∧ s.limits = ⟨repeats, stitches⟩ ∧ s.glossary = glossary := by
  unfold checked
  constructor
  · intro h
    split at h
    · split at h
      · split at h
        · cases h
          exact ⟨rfl, rfl, rfl⟩
        · cases h
      · cases h
    · cases h
  · obtain ⟨starting', limits, glossary', h₁, h₂, h₃⟩ := s
    rintro ⟨rfl, rfl, rfl⟩
    rw [dif_pos h₁, dif_pos h₂, dif_pos h₃]

theorem ofFields_eq_ok_iff {s : Settings} : ofFields fields = .ok s ↔
    HasNumber fields .starting s.starting ∧ HasNumber fields .repeats s.limits.repeats ∧
      HasNumber fields .stitches s.limits.stitches ∧
      Glossary.Lists ((Document.field? "glossary" fields).getD .null) s.glossary := by
  constructor
  · intro h
    obtain ⟨starting, hstarting, h⟩ := bind_eq_ok_iff.1 h
    obtain ⟨repeats, hrepeats, h⟩ := bind_eq_ok_iff.1 h
    obtain ⟨stitches, hstitches, h⟩ := bind_eq_ok_iff.1 h
    obtain ⟨glossary, hglossary, h⟩ := bind_eq_ok_iff.1 h
    obtain ⟨rfl, hlimits, rfl⟩ := checked_eq_ok_iff.1 (mapError_eq_ok_iff.1 h)
    rw [hlimits]
    exact ⟨number_eq_ok_iff.1 hstarting, number_eq_ok_iff.1 hrepeats, number_eq_ok_iff.1 hstitches,
      Glossary.ofDocument_eq_ok_iff.1 (mapError_eq_ok_iff.1 hglossary)⟩
  · rintro ⟨hstarting, hrepeats, hstitches, hglossary⟩
    refine bind_eq_ok_iff.2 ⟨_, number_eq_ok_iff.2 hstarting, ?_⟩
    refine bind_eq_ok_iff.2 ⟨_, number_eq_ok_iff.2 hrepeats, ?_⟩
    refine bind_eq_ok_iff.2 ⟨_, number_eq_ok_iff.2 hstitches, ?_⟩
    refine bind_eq_ok_iff.2
      ⟨_, mapError_eq_ok_iff.2 (Glossary.ofDocument_eq_ok_iff.2 hglossary), ?_⟩
    exact mapError_eq_ok_iff.2 (checked_eq_ok_iff.2 ⟨rfl, rfl, rfl⟩)

theorem ofDocument_of_hasFields (h : HasFields d fields) : ofDocument d = ofFields fields := by
  unfold ofDocument
  cases h with
  | nothing h => rw [if_pos h]
  | mapping h =>
    by_cases hd : d.isNothing = true
    · rw [if_pos hd, Document.entries?_of_isNothing hd h]
    · rw [if_neg hd, h]

theorem ofDocument_of_not_hasFields (h : ∀ fields, ¬ HasFields d fields) :
    ofDocument d = .error .notMapping := by
  unfold ofDocument
  split
  · next hd => exact absurd (.nothing hd) (h [])
  · split
    · next fields hfields => exact absurd (.mapping hfields) (h fields)
    · rfl

theorem wellFormed_iff {starting : Int} {limits : Limits} {glossary : Glossary} :
    WellFormed d starting limits glossary ↔
      ∃ s, ofDocument d = .ok s ∧ s.starting = starting ∧ s.limits = limits ∧
        s.glossary = glossary := by
  constructor
  · rintro ⟨⟨fields, hfields, hgiven⟩, hstarting, hrepeats, hstitches⟩
    refine ⟨⟨starting, limits, glossary, hstarting, hrepeats, hstitches⟩, ?_, rfl, rfl, rfl⟩
    rw [ofDocument_of_hasFields hfields, ofFields_eq_ok_iff]
    exact hgiven
  · rintro ⟨s, hs, rfl, rfl, rfl⟩
    by_cases hfields : ∃ fields, HasFields d fields
    · obtain ⟨fields, hfields⟩ := hfields
      rw [ofDocument_of_hasFields hfields, ofFields_eq_ok_iff] at hs
      exact ⟨⟨fields, hfields, hs⟩, s.one_le_starting, s.one_le_repeats, s.one_le_stitches⟩
    · rw [ofDocument_of_not_hasFields (not_exists.1 hfields)] at hs
      cases hs

/-! ## What is told -/

/-- What a document without settings is told to have: a bad value, a value out of range or of the
wrong kind, or one for which there is no room. Only the first is meant to happen. -/
inductive Told where
  | badValue
  | outOfRange
  | wrongKind
  | noRoom
  deriving DecidableEq

/-- What is told of the end of a reading. -/
def Told.ofHalt : Halt → Told
  | .numeralTooLong _ | .numberTooLong => badValue
  | .tooManyCopies => outOfRange
  | .tooManyOperations => noRoom

/-- What is told of a value that is no whole number. -/
def Told.ofIntegerFault : Document.IntegerFault → Told
  | .infinite => outOfRange
  | .numberless _ => wrongKind
  | .notANumber | .text _ => badValue

theorem Told.ofIntegerFault_eq_outOfRange_iff {g : Document.IntegerFault} :
    ofIntegerFault g = outOfRange ↔ g = .infinite := by
  cases g <;> simp [ofIntegerFault]

theorem Told.ofIntegerFault_eq_wrongKind_iff {g : Document.IntegerFault} :
    ofIntegerFault g = wrongKind ↔ ∃ kind, g = .numberless kind := by
  cases g <;> simp [ofIntegerFault]

theorem Told.ofIntegerFault_ne_noRoom (g : Document.IntegerFault) : ofIntegerFault g ≠ noRoom := by
  cases g <;> simp [ofIntegerFault]

/-- What is told of a fault. -/
def Fault.told : Fault → Told
  | number fault => .ofIntegerFault fault
  | glossary (.halted why) | halted why => .ofHalt why
  | notMapping | glossary _ | belowOne .. => .badValue

theorem told_ofBelowOne (field : Field) (n : Int) :
    (Fault.ofBelowOne field n).told = .badValue := by
  unfold Fault.ofBelowOne
  split <;> rfl

/-- A reading comes to the value of a field: the settings before it have numbers. -/
def Meets (d : Document) (field : Field) (v : Document) : Prop :=
  ∃ fields, HasFields d fields ∧ Document.field? field.name fields = some v ∧
    ∀ earlier ∈ field.before, ∃ n, HasNumber fields earlier n

theorem plain_of_hasFields (hd : d.Plain) (hfields : HasFields d fields) {name : String}
    {v : Document} (hv : Document.field? name fields = some v) : v.Plain := by
  cases hfields with
  | nothing _ => cases hv
  | mapping hentries => exact hd.of_entries? hentries hv

theorem Meets.plain {v : Document} (h : Meets d field v) (hd : d.Plain) : v.Plain := by
  obtain ⟨fields, hfields, hv, -⟩ := h
  exact plain_of_hasFields hd hfields hv

/-- A value without a whole number ends the reading that comes to it. -/
theorem Meets.ofDocument_eq {v : Document} {g : Document.IntegerFault} (h : Meets d field v)
    (hv : v.toInteger = .error g) : ofDocument d = .error (.number g) := by
  obtain ⟨fields, hfields, hsome, hbefore⟩ := h
  have hstops : number fields field field.default = .error (.number g) :=
    number_eq_error_iff.2 ⟨v, g, hsome, hv, rfl⟩
  rw [ofDocument_of_hasFields hfields]
  cases field with
  | starting => exact bind_eq_error_iff.2 (.inl hstops)
  | repeats =>
    obtain ⟨starting, hstarting⟩ := hbefore .starting (by simp [Field.before])
    exact bind_eq_error_iff.2 (.inr ⟨_, number_eq_ok_iff.2 hstarting,
      bind_eq_error_iff.2 (.inl hstops)⟩)
  | stitches =>
    obtain ⟨starting, hstarting⟩ := hbefore .starting (by simp [Field.before])
    obtain ⟨repeats, hrepeats⟩ := hbefore .repeats (by simp [Field.before])
    exact bind_eq_error_iff.2 (.inr ⟨_, number_eq_ok_iff.2 hstarting,
      bind_eq_error_iff.2 (.inr ⟨_, number_eq_ok_iff.2 hrepeats,
        bind_eq_error_iff.2 (.inl hstops)⟩)⟩)

theorem told_of_glossary (hd : d.Plain) (hfields : HasFields d fields) {g : Glossary.Fault}
    (h : Glossary.ofDocument ((Document.field? "glossary" fields).getD .null) = .error g) :
    (Fault.glossary g).told = .badValue := by
  have hplain : ((Document.field? "glossary" fields).getD .null).Plain := by
    cases hv : Document.field? "glossary" fields with
    | none => exact .null
    | some v => exact plain_of_hasFields hd hfields hv
  cases g with
  | halted why =>
    rw [Glossary.of_ofDocument_eq_halted hplain h]
    rfl
  | _ => rfl

/-- Where the number of a field is not read, the reading has come to its value. -/
theorem exists_meets {f : Fault} (hfields : HasFields d fields)
    (hbefore : ∀ earlier ∈ field.before, ∃ n, HasNumber fields earlier n)
    (h : number fields field field.default = .error f) :
    ∃ field v g, Meets d field v ∧ v.toInteger = .error g ∧ f = .number g := by
  obtain ⟨v, g, hsome, hv, rfl⟩ := number_eq_error_iff.1 h
  exact ⟨field, v, g, ⟨fields, hfields, hsome, hbefore⟩, hv, rfl⟩

/-- A reading without a result ends at a value without a whole number, or with a bad value. -/
theorem of_ofDocument_eq_error {f : Fault} (hd : d.Plain) (h : ofDocument d = .error f) :
    (∃ field v g, Meets d field v ∧ v.toInteger = .error g ∧ f = .number g) ∨
      f.told = .badValue := by
  by_cases hfields : ∃ fields, HasFields d fields
  case neg =>
    rw [ofDocument_of_not_hasFields (not_exists.1 hfields)] at h
    cases h
    exact .inr rfl
  obtain ⟨fields, hfields⟩ := hfields
  rw [ofDocument_of_hasFields hfields] at h
  -- the numbers are read in turn, then the glossary, and then the numbers are compared
  rcases bind_eq_error_iff.1 h with h | ⟨starting, hstarting, h⟩
  · have hbefore : ∀ earlier ∈ Field.starting.before, ∃ n, HasNumber fields earlier n :=
      List.forall_mem_nil _
    exact .inl (exists_meets hfields hbefore h)
  have hstarting := number_eq_ok_iff.1 hstarting
  rcases bind_eq_error_iff.1 h with h | ⟨repeats, hrepeats, h⟩
  · have hbefore : ∀ earlier ∈ Field.repeats.before, ∃ n, HasNumber fields earlier n :=
      List.forall_mem_singleton.2 ⟨_, hstarting⟩
    exact .inl (exists_meets hfields hbefore h)
  have hrepeats := number_eq_ok_iff.1 hrepeats
  rcases bind_eq_error_iff.1 h with h | ⟨stitches, -, h⟩
  · have hbefore : ∀ earlier ∈ Field.stitches.before, ∃ n, HasNumber fields earlier n :=
      List.forall_mem_cons.2 ⟨⟨_, hstarting⟩, List.forall_mem_singleton.2 ⟨_, hrepeats⟩⟩
    exact .inl (exists_meets hfields hbefore h)
  rcases bind_eq_error_iff.1 h with h | ⟨glossary, -, h⟩
  · obtain ⟨g, hg, rfl⟩ := mapError_eq_error_iff.1 h
    exact .inr (told_of_glossary hd hfields hg)
  · obtain ⟨below, -, rfl⟩ := mapError_eq_error_iff.1 h
    exact .inr (told_ofBelowOne _ _)

/-- A reading is told to have met something out of range just where it meets a value whose whole
number is out of range, and so on. -/
theorem exists_told_iff (hd : d.Plain) {t : Told} (ht : t ≠ .badValue) :
    (∃ f, ofDocument d = .error f ∧ f.told = t) ↔
      ∃ field v g, Meets d field v ∧ v.toInteger = .error g ∧ Told.ofIntegerFault g = t := by
  constructor
  · rintro ⟨f, hf, rfl⟩
    rcases of_ofDocument_eq_error hd hf with ⟨field, v, g, hmeets, hv, rfl⟩ | hbad
    · exact ⟨field, v, g, hmeets, hv, rfl⟩
    · exact absurd hbad ht
  · rintro ⟨field, v, g, hmeets, hv, rfl⟩
    exact ⟨.number g, hmeets.ofDocument_eq hv, rfl⟩

/-- A plain document is accepted just if it is well formed, with the numbers and the glossary that
it gives. A document that is refused is told to have a bad value, unless the reading of its numbers
comes to one that is infinite, which is told as out of range, or to null, a list or a mapping, which
is told as of the wrong kind. -/
theorem refused_as_bad_value {d : Document} (hd : d.Plain) :
    (∀ starting limits glossary, WellFormed d starting limits glossary ↔
      ∃ s, ofDocument d = .ok s ∧ s.starting = starting ∧ s.limits = limits ∧
        s.glossary = glossary) ∧
    ((∃ f, ofDocument d = .error f ∧ f.told = .outOfRange) ↔
      ∃ field negative, Meets d field (.scalar (.real (.infinite negative)))) ∧
    ((∃ f, ofDocument d = .error f ∧ f.told = .wrongKind) ↔
      ∃ field v, Meets d field v ∧
        (v = .null ∨ (∃ items, v = .list items) ∨ ∃ entries, v = .mapping entries)) ∧
    ∀ f, ofDocument d = .error f → f.told ≠ .noRoom := by
  refine ⟨fun _ _ _ => wellFormed_iff, ?range, ?kind, fun f hf htold => ?room⟩
  case range =>
    rw [exists_told_iff hd (by decide)]
    constructor
    · rintro ⟨field, v, g, hmeets, hv, hg⟩
      obtain rfl := Told.ofIntegerFault_eq_outOfRange_iff.1 hg
      obtain ⟨negative, rfl⟩ := (hmeets.plain hd).toInteger_eq_infinite_iff.1 hv
      exact ⟨field, negative, hmeets⟩
    · rintro ⟨field, negative, hmeets⟩
      exact ⟨field, _, .infinite, hmeets, rfl, rfl⟩
  case kind =>
    rw [exists_told_iff hd (by decide)]
    constructor
    · rintro ⟨field, v, g, hmeets, hv, hg⟩
      obtain ⟨kind, rfl⟩ := Told.ofIntegerFault_eq_wrongKind_iff.1 hg
      exact ⟨field, v, hmeets, (hmeets.plain hd).toInteger_eq_numberless_iff.1 ⟨kind, hv⟩⟩
    · rintro ⟨field, v, hmeets, hv⟩
      obtain ⟨kind, hkind⟩ := (hmeets.plain hd).toInteger_eq_numberless_iff.2 hv
      exact ⟨field, v, .numberless kind, hmeets, hkind, rfl⟩
  case room =>
    obtain ⟨field, v, g, -, -, hg⟩ := (exists_told_iff hd (by decide)).1 ⟨f, hf, htold⟩
    exact Told.ofIntegerFault_ne_noRoom g hg

/-- Numbers written in several ways, one of them absent, and a glossary under its entries; and the
same document with null for the absent number, behind which a number below one is not met. -/
theorem refused_as_bad_value_of_null :
    let entry := Document.mapping [(.text "code", .scalar (.text "m1l")),
      (.text "title", .scalar (.bool true)), (.text "detail", .scalar (.bool false))]
    let glossary := Document.mapping [(.text "entries", .list [entry])]
    let fields := fun starting : String => [(Scalar.text "starting_stitches",
        Document.scalar (.text starting)), (.text "max_stitches", .scalar (.bool true)),
      (.text "glossary", glossary)]
    let good := Document.mapping (fields " 9_6 ")
    let bad := Document.mapping ((.text "max_repeat", .null) :: fields "0")
    (good.Plain ∧ ∃ s, ofDocument good = .ok s ∧ s.starting = 96 ∧ s.limits = ⟨10000, 1⟩ ∧
      s.glossary = [⟨"m1l", "True", ""⟩]) ∧
    bad.Plain ∧ ∃ f, ofDocument bad = .error f ∧ f.told = .wrongKind := by
  intro entry glossary fields good bad
  have hentry : entry.Plain := .mapping (by simp) (by simp [Document.Plain.text, Document.Plain.bool])
  have hglossary : glossary.Plain := .mapping (by simp) (by simp [Document.Plain.list, hentry])
  have hgood : good.Plain := .mapping (by simp [fields])
    (by simp [fields, Document.Plain.text, Document.Plain.bool, hglossary])
  have hbad : bad.Plain := .mapping (by simp [fields])
    (by simp [fields, Document.Plain.null, Document.Plain.text, Document.Plain.bool, hglossary])
  refine ⟨⟨hgood, ((refused_as_bad_value hgood).1 96 ⟨10000, 1⟩ _).1 ⟨?_, ?_, ?_, ?_⟩⟩, hbad,
    (refused_as_bad_value hbad).2.2.1.2 ⟨.repeats, .null, ?_, .inl rfl⟩⟩
  · refine ⟨fields " 9_6 ", .mapping rfl, .given rfl (by decide), .absent rfl, .given rfl rfl, ?_⟩
    exact ⟨[entry], .entries rfl rfl rfl,
      .cons ⟨⟨_, _, rfl, rfl, rfl⟩, .nothing rfl⟩ .nil⟩
  · decide
  · decide
  · decide
  · refine ⟨_, .mapping rfl, rfl, ?_⟩
    simp only [Field.before, List.forall_mem_singleton]
    exact ⟨0, .given rfl (by decide)⟩

/-- A document in which nothing else is wrong than that its limit on repeats is null, or infinite:
neither is told to be a bad value. -/
theorem null_and_infinity_not_bad_values :
    let limit := fun v => Document.mapping [(.text "max_repeat", v)]
    (ofDocument (limit .null)).mapError Fault.told = .error .wrongKind ∧
      (ofDocument (limit (.scalar (.real (.infinite false))))).mapError Fault.told =
        .error .outOfRange :=
  ⟨rfl, rfl⟩

end KnitPattern.Settings
