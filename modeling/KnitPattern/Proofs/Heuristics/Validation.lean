/-
  Which documents of labels are accepted. A document is accepted just if it is well formed: its
  parts list pairs, all their keys are codes, and no stem begins with an earlier one
  (`WellFormed`). Any other document is refused with the list of all its problems, those of its
  form first (`Problems`), each on a line of the report (`lines_report`). There is one exception:
  a key or a label that cannot be written ends the work before any problem is told, even in a
  document with which nothing else is wrong (`overlong_label_refused`).
-/
import KnitPattern.Proofs.Document.Written
import KnitPattern.Proofs.Heuristics.Resolution
import KnitPattern.Proofs.Text.Lines
import KnitPattern.Proofs.Text.Quoted

namespace KnitPattern.Heuristics

open Text

/-! ## Reports -/

theorem unbroken_toString (n : Nat) : ∀ c ∈ (toString n).toList, isLineBreak c = false := by
  intro c hc
  rw [Nat.toString_eq_ofList_toDigits, String.toList_ofList] at hc
  have hdigit := isDigit_iff.1 (Nat.isDigit_of_mem_toDigits (by decide) (by decide) hc)
  refine Bool.eq_false_iff.2 fun hbreak => ?_
  simp [isLineBreak] at hbreak
  omega

/-- The message of a fault stands within one line. -/
theorem Fault.unbroken_message (f : Fault) : ∀ c ∈ f.message.toList, isLineBreak c = false := by
  unfold message
  cases f with
  | notMapping => exact unbroken_of_any rfl
  | notList part => cases part <;> exact unbroken_of_any rfl
  | incomplete part entry =>
    have hends : ∀ part : Part, (∀ c ∈ part.singular.toList, isLineBreak c = false) ∧
        ∀ c ∈ part.keyField.toList, isLineBreak c = false := by
      intro part
      cases part <;> exact ⟨unbroken_of_any rfl, unbroken_of_any rfl⟩
    simp only [String.toList_append, List.forall_mem_append]
    exact ⟨⟨⟨⟨⟨(hends part).1, unbroken_of_any rfl⟩, unbroken_toString entry⟩, unbroken_of_any rfl⟩,
      (hends part).2⟩, unbroken_of_any rfl⟩
  | codeNotKey code =>
    simp only [String.toList_append, List.forall_mem_append]
    exact ⟨unbroken_of_any rfl, unbroken_quote code⟩
  | stemNotKey stem =>
    simp only [String.toList_append, List.forall_mem_append]
    exact ⟨unbroken_of_any rfl, unbroken_quote stem⟩
  | shadowed stem earlier =>
    simp only [String.toList_append, List.forall_mem_append]
    exact ⟨⟨⟨unbroken_of_any rfl, unbroken_quote stem⟩, unbroken_of_any rfl⟩,
      unbroken_quote earlier⟩

/-- The lines of a report: the heading, and one for each fault. -/
theorem lines_report (faults : List Fault) :
    lines (report faults).toList = "Label registry validation failed:".toList ::
      faults.map fun f => "  - ".toList ++ f.message.toList := by
  have hlines : ∀ l ∈ faults.map (fun f => "  - ".toList ++ f.message.toList),
      l ≠ [] ∧ ∀ c ∈ l, isLineBreak c = false := by
    intro l hl
    obtain ⟨f, -, rfl⟩ := List.mem_map.1 hl
    refine ⟨by simp, List.forall_mem_append.2 ⟨unbroken_of_any rfl, f.unbroken_message⟩⟩
  have hheading : "Label registry validation failed:\n".toList =
      "Label registry validation failed:".toList ++ ['\n'] := rfl
  have hreport : (report faults).toList = "Label registry validation failed:".toList ++
      '\n' :: ['\n'].intercalate (faults.map fun f => "  - ".toList ++ f.message.toList) := by
    have hbreak : "\n".toList = ['\n'] := rfl
    unfold report
    simp only [String.toList_append, String.toList_intercalate, List.map_map, Function.comp_def,
      hheading, hbreak, List.append_assoc, List.singleton_append]
  rw [hreport, lines_append_newline (unbroken_of_any rfl), lines_intercalate hlines]

/-! ## Well-formed documents -/

/-- The parts of the document list pairs, all their keys are codes, and no stem begins with an
earlier one. -/
structure WellFormed (d : Document) (exact stems : List (String × String)) : Prop where
  listed : ∃ fields, HasFields d fields ∧ Part.exact.Lists fields exact ∧
    Part.stems.Lists fields stems
  exactCodes : ∀ p ∈ exact, IsCode p.1
  stemCodes : ∀ p ∈ stems, IsCode p.1
  reachable : stems.Pairwise fun earlier later => ¬ earlier.1.toList <+: later.1.toList

/-- The problems of a document: that it is no mapping; or else those of the form of its parts, one
for each code that is not in normal form, and for each stem in turn one if it is not in normal form
or one for each earlier stem that begins it. -/
inductive Problems (d : Document) : List Fault → Prop
  | notMapping (hnothing : d.isNothing = false) (hfields : d.entries? = none) :
      Problems d [.notMapping]
  | parts {fields : List (Scalar × Document)} {exact stems : List (String × String)}
      {exactForm stemsForm : List Fault} (hfields : HasFields d fields)
      (hexact : Part.exact.Read fields exact exactForm)
      (hstems : Part.stems.Read fields stems stemsForm) :
      Problems d (exactForm ++ stemsForm ++ ((malformed (exact.map (·.1))).map .codeNotKey ++
        (stems.map (·.1)).zipIdx.flatMap fun s => faultsAfter ((stems.map (·.1)).take s.2) s.1))

/-- The document is a key or a label of an entry. -/
def Writes (d v : Document) : Prop :=
  ∃ fields part, HasFields d fields ∧ Part.Writes part fields v

theorem exists_of_wellFormed {d : Document} {exact stems : List (String × String)}
    (hd : WellFormed d exact stems) :
    ∃ h, ofDocument d = .ok h ∧ h.exact = Table.ofPairs exact ∧ h.stems = stems := by
  obtain ⟨fields, hfields, hexact, hstems⟩ := hd.listed
  have hfaultless : tableFaults (Table.ofPairs exact) stems = [] :=
    tableFaults_ofPairs_eq_nil_iff.2 ⟨hd.exactCodes, hd.stemCodes, hd.reachable⟩
  refine ⟨⟨Table.ofPairs exact, stems, hfaultless⟩, ?_, rfl, rfl⟩
  exact ofDocument_eq_ok_iff.2 ⟨fields, exact, hfields, hexact, hstems, rfl⟩

theorem exists_wellFormed {d : Document} {h : Heuristics} (hd : ofDocument d = .ok h) :
    ∃ exact, WellFormed d exact h.stems ∧ h.exact = Table.ofPairs exact := by
  obtain ⟨fields, exact, hfields, hexact, hstems, htable⟩ := ofDocument_eq_ok_iff.1 hd
  have hfaultless := h.faultless
  rw [htable] at hfaultless
  obtain ⟨hcodes, hstemCodes, hreachable⟩ := tableFaults_ofPairs_eq_nil_iff.1 hfaultless
  exact ⟨exact, ⟨⟨fields, hfields, hexact, hstems⟩, hcodes, hstemCodes, hreachable⟩, htable⟩

/-- A stem that is no exact key has its own label. -/
theorem label?_own {h : Heuristics} {p : String × String} (hp : p ∈ h.stems)
    (hlacks : h.exact.get? p.1 = none) : h.label? p.1 = some p.2 := by
  have hstems := stemFaults_eq_nil_iff.1 (List.append_eq_nil_iff.1 h.faultless).2
  have hcode : IsCode p.1 := hstems.1 p.1 (List.mem_map_of_mem hp)
  have hkey : codeKey p.1 = p.1 := by
    have hisKey := isKey_iff.2 hcode
    rw [isKey, Bool.and_eq_true, beq_iff_eq] at hisKey
    exact hisKey.2.symm
  simp [label?, hkey, hlacks, find?_own h.reachable hp]

theorem ofDocument_eq_faulty_iff {d : Document} {faults : List Fault} :
    ofDocument d = .error (.faulty faults) ↔ Problems d faults ∧ faults ≠ [] := by
  constructor
  · intro herror
    rcases hasFields_or_notMapping d with ⟨fields, hfields⟩ | ⟨hnothing, hfields, heq⟩
    · rw [ofDocument_of_hasFields hfields, ofFields_eq_faulty_iff] at herror
      obtain ⟨hne, exact, exactForm, stems, stemsForm, hexact, hread, rfl⟩ := herror
      refine ⟨?_, hne⟩
      rw [tableFaults, codeFaults_ofPairs, stemFaults_nil]
      exact .parts hfields hexact hread
    · rw [heq] at herror
      obtain rfl := Refusal.faulty.inj (Except.error.inj herror)
      exact ⟨.notMapping hnothing hfields, by simp⟩
  · rintro ⟨hproblems, hne⟩
    cases hproblems with
    | notMapping hnothing hfields =>
      unfold ofDocument
      simp [hnothing, hfields]
    | parts hfields hexact hread =>
      rw [ofDocument_of_hasFields hfields, ofFields_eq_faulty_iff]
      refine ⟨hne, _, _, _, _, hexact, hread, ?_⟩
      rw [tableFaults, codeFaults_ofPairs, stemFaults_nil]

theorem exists_of_halted {d : Document} {why : Halt}
    (h : ofDocument d = .error (.halted why)) : ∃ v, Writes d v ∧ v.toText = .error why := by
  rcases hasFields_or_notMapping d with ⟨fields, hfields⟩ | ⟨-, -, heq⟩
  · rw [ofDocument_of_hasFields hfields] at h
    obtain ⟨part, v, hv, hwhy⟩ := ofFields_eq_halted h
    exact ⟨v, ⟨fields, part, hfields, hv⟩, hwhy⟩
  · rw [heq] at h
    cases h

/-- A document is accepted just if it is well formed, with the tables of its pairs, and then each
stem that is no exact key has its own label. Any other document is refused with all its problems
and one line for each of them, unless a key or a label of an entry cannot be written: then it is
refused for that alone, since there is a number of too many digits or a list or mapping that is
part of itself and cannot be written. -/
theorem documents_validated (d : Document) :
    (∀ exact stems, WellFormed d exact stems →
      ∃ h, ofDocument d = .ok h ∧ h.exact = Table.ofPairs exact ∧ h.stems = stems ∧
        ∀ p ∈ stems, (∀ q ∈ exact, q.1 ≠ p.1) → h.label? p.1 = some p.2) ∧
    (∀ h, ofDocument d = .ok h →
      ∃ exact, WellFormed d exact h.stems ∧ h.exact = Table.ofPairs exact) ∧
    ((∀ v, Writes d v → ∃ s, v.toText = .ok s) → (∀ exact stems, ¬ WellFormed d exact stems) →
      ∃ faults, ofDocument d = .error (.faulty faults)) ∧
    (∀ faults, ofDocument d = .error (.faulty faults) ↔ Problems d faults ∧ faults ≠ []) ∧
    (∀ faults, lines (Refusal.faulty faults).message.toList =
      "Label registry validation failed:".toList ::
        faults.map fun f => "  - ".toList ++ f.message.toList) ∧
    (∀ why, ofDocument d = .error (.halted why) → ∃ v, Writes d v ∧ v.toText = .error why ∧
      (why = .numberTooLong ∨ v.HasKnot (.error why))) ∧
    ∀ v, Writes d v → (∀ s, v.toText ≠ .ok s) → ∃ why, ofDocument d = .error (.halted why) := by
  refine ⟨fun exact stems hd => ?accepted, fun h hd => ?wellFormed, fun hwritten hno => ?refused,
    fun faults => ofDocument_eq_faulty_iff, lines_report, fun why hwhy => ?halted,
    fun v hv hno => ?unwritable⟩
  case accepted =>
    obtain ⟨h, hok, htable, rfl⟩ := exists_of_wellFormed hd
    refine ⟨h, hok, htable, rfl, fun p hp hlacks => label?_own hp ?_⟩
    rw [htable]
    exact Table.get?_ofPairs_eq_none_iff.2 hlacks
  case wellFormed => exact exists_wellFormed hd
  case refused =>
    cases hd : ofDocument d with
    | ok h =>
      obtain ⟨exact, hwell, -⟩ := exists_wellFormed hd
      exact absurd hwell (hno exact h.stems)
    | error r =>
      cases r with
      | faulty faults => exact ⟨faults, rfl⟩
      | halted why =>
        obtain ⟨v, hv, hstop⟩ := exists_of_halted hd
        obtain ⟨s, hs⟩ := hwritten v hv
        rw [hs] at hstop
        cases hstop
  case halted =>
    obtain ⟨v, hv, hstop⟩ := exists_of_halted hwhy
    exact ⟨v, hv, hstop, Document.of_toText_eq_error hstop⟩
  case unwritable =>
    obtain ⟨fields, part, hfields, hv⟩ := hv
    rw [ofDocument_of_hasFields hfields]
    exact ofFields_halts hv hno

/-- Problems of all kinds but that of the whole document: items that are no entries, codes that are
not in normal form, one of them twice, and stems of which one is not in normal form and one begins
with two others. -/
theorem documents_validated_of_flawed :
    let entry := fun name (key : String) => Document.mapping
      [(.text name, .scalar (.text key)), (.text "label", .null)]
    let d := Document.mapping
      [(.text "exact", .list [entry "code" "yo", .null, entry "prefix" "YO", entry "code" "",
        entry "code" "yo"]),
       (.text "prefixes", .list (["K", "k2", "K2", "K2TOG"].map (entry "prefix")))]
    ofDocument d = .error (.faulty [.incomplete .exact 1, .incomplete .exact 2, .codeNotKey "yo",
      .codeNotKey "", .stemNotKey "k2", .shadowed "K2" "K", .shadowed "K2TOG" "K",
      .shadowed "K2TOG" "K2"]) := by
  intro entry d
  have hexact : List.Forall₂ IsPair ([entry "code" "yo", .null, entry "prefix" "YO",
      entry "code" "", entry "code" "yo"].filterMap Part.exact.entry?)
      [("yo", "None"), ("", "None"), ("yo", "None")] :=
    .cons ⟨rfl, rfl⟩ (.cons ⟨rfl, rfl⟩ (.cons ⟨rfl, rfl⟩ .nil))
  have hstems : List.Forall₂ IsPair
      ((["K", "k2", "K2", "K2TOG"].map (entry "prefix")).filterMap Part.stems.entry?)
      [("K", "None"), ("k2", "None"), ("K2", "None"), ("K2TOG", "None")] :=
    .cons ⟨rfl, rfl⟩ (.cons ⟨rfl, rfl⟩ (.cons ⟨rfl, rfl⟩ (.cons ⟨rfl, rfl⟩ .nil)))
  have hproblems : Problems d _ := .parts (.mapping rfl) (.items (.list rfl rfl) hexact)
    (.items (.list rfl rfl) hstems)
  obtain ⟨-, -, -, hfaulty, -⟩ := documents_validated d
  refine (hfaulty _).2 ⟨?_, by simp⟩
  convert hproblems using 1
  decide +kernel

/-- A number of too many digits for a label stops the work, whatever follows it. -/
theorem ofDocument_of_overlong {n : Int} (hn : Halt.isWritable n = false) {code : String}
    {items : List Document} {fields : List (Scalar × Document)}
    (hitems : Part.exact.HasItems fields (.mapping [(.text "code", .scalar (.text code)),
      (.text "label", .scalar (.int n))] :: items)) :
    ofDocument (.mapping fields) = .error (.halted .numberTooLong) := by
  have htext : (Document.scalar (.int n)).toText = .error .numberTooLong := by
    simp [Document.toText, Scalar.toText, Scalar.shown, hn]
  have hpair : pairText (.scalar (.text code)) (.scalar (.int n)) = .error .numberTooLong :=
    bind_eq_error_iff.2 (.inr ⟨code, rfl, bind_eq_error_iff.2 (.inl htext)⟩)
  have hentry : Part.exact.entry? (.mapping [(.text "code", .scalar (.text code)),
      (.text "label", .scalar (.int n))]) = some (.scalar (.text code), .scalar (.int n)) := rfl
  have hread : readPart .exact fields = .error .numberTooLong := by
    rw [readPart_of_hasItems hitems, entries_eq, map_eq_error_iff,
      List.filterMap_cons_some hentry, List.mapM_cons]
    exact bind_eq_error_iff.2 (.inl hpair)
  rw [ofDocument_of_hasFields (.mapping rfl), ofFields_of_halted hread]

/-- The label of the only entry has too many digits to be written: the document is refused though
nothing else is wrong with it, and where there is something else, that is not told. -/
theorem overlong_label_refused :
    let label := Document.scalar (.int (Nat.pow 10 Halt.digitLimit))
    let item := Document.mapping [(.text "code", .scalar (.text "A")), (.text "label", label)]
    let fields := [(Scalar.text "exact", Document.list [item])]
    (Part.exact.HasItems fields [item] ∧
      Part.exact.entry? item = some (.scalar (.text "A"), label) ∧ IsCode "A" ∧
      Part.stems.HasItems fields [] ∧
      ofDocument (.mapping fields) = .error (.halted .numberTooLong)) ∧
    ofDocument (.mapping (fields ++ [(.text "prefixes", .list [.null])])) =
      .error (.halted .numberTooLong) := by
  intro label item fields
  have hlong : Halt.isWritable (Nat.pow 10 Halt.digitLimit) = false := by decide +kernel
  have hitems : Part.exact.HasItems fields [item] := .list rfl rfl
  refine ⟨⟨hitems, rfl, by decide +kernel, .absent rfl, ofDocument_of_overlong hlong hitems⟩, ?_⟩
  exact ofDocument_of_overlong hlong (.list rfl rfl)

end KnitPattern.Heuristics
