/-
  What a document of labels lists. A document has fields, a part of it has items, and an item that
  is a mapping with a key and a label is an entry; the texts of the entries are the pairs of the
  part, and the other items are faults (`Part.Read`, `readPart_eq_ok_iff`). Work on a part stops
  just if an entry has a key or a label that cannot be written. The tables of a document are those
  of the pairs of its parts (`ofFields_eq_ok_iff`), or there is a list of faults
  (`ofFields_eq_faulty_iff`).
-/
import KnitPattern.Heuristics.OfDocument
import KnitPattern.Proofs.Halting

namespace KnitPattern

namespace Document

/-- A list or a mapping that counts as nothing is empty. -/
theorem items?_of_isNothing {d : Document} (hd : d.isNothing = true) {items : List Document}
    (h : d.items? = some items) : items = [] := by
  unfold isNothing at hd
  unfold items? at h
  cases hseen : d.seen <;> simp_all

theorem entries?_of_isNothing {d : Document} (hd : d.isNothing = true)
    {fields : List (Scalar × Document)} (h : d.entries? = some fields) : fields = [] := by
  unfold isNothing at hd
  unfold entries? at h
  cases hseen : d.seen <;> simp_all

end Document

namespace Heuristics

/-! ## Fields, items and entries -/

/-- The fields of a document: none if it counts as nothing, else those of a mapping. -/
inductive HasFields (d : Document) : List (Scalar × Document) → Prop
  | nothing (h : d.isNothing = true) : HasFields d []
  | mapping {fields : List (Scalar × Document)} (h : d.entries? = some fields) :
      HasFields d fields

/-- The items of a part: none if the part is absent or counts as nothing, else those of a list. -/
inductive Part.HasItems (part : Part) (fields : List (Scalar × Document)) : List Document → Prop
  | absent (h : Document.field? part.plural fields = none) : HasItems part fields []
  | nothing {d : Document} (h : Document.field? part.plural fields = some d)
      (hd : d.isNothing = true) : HasItems part fields []
  | list {d : Document} {items : List Document}
      (h : Document.field? part.plural fields = some d) (hd : d.items? = some items) :
      HasItems part fields items

/-- The key and the label of an item that is a mapping with both. -/
def Part.entry? (part : Part) (item : Document) : Option (Document × Document) :=
  item.pair? part.keyField "label"

/-- The texts of a key and a label. -/
def IsPair (e : Document × Document) (p : String × String) : Prop :=
  e.1.toText = .ok p.1 ∧ e.2.toText = .ok p.2

/-- The pairs that a part lists: each item is an entry, and the pairs are their texts. -/
def Part.Lists (part : Part) (fields : List (Scalar × Document))
    (pairs : List (String × String)) : Prop :=
  ∃ items, part.HasItems fields items ∧
    List.Forall₂ (fun item p => ∃ e, part.entry? item = some e ∧ IsPair e p) items pairs

/-! ## What is read of a part -/

/-- One fault for each item that is no entry; the first item has the given number. -/
def Part.incompletes (part : Part) (n : Nat) (items : List Document) : List Fault :=
  ((items.zipIdx n).filter fun i => (part.entry? i.1).isNone).map fun i => .incomplete part i.2

/-- The pairs and the faults that are read of a part. -/
inductive Part.Read (part : Part) (fields : List (Scalar × Document)) :
    List (String × String) → List Fault → Prop
  | items {items : List Document} {pairs : List (String × String)}
      (h : part.HasItems fields items)
      (hpairs : List.Forall₂ IsPair (items.filterMap part.entry?) pairs) :
      Read part fields pairs (part.incompletes 0 items)
  | notList {d : Document} (h : Document.field? part.plural fields = some d)
      (hnothing : d.isNothing = false) (hitems : d.items? = none) :
      Read part fields [] [.notList part]

theorem pairText_eq_ok_iff {e : Document × Document} {p : String × String} :
    pairText e.1 e.2 = .ok p ↔ IsPair e p := by
  constructor
  · intro h
    obtain ⟨key, hkey, h⟩ := bind_eq_ok_iff.1 h
    obtain ⟨label, hlabel, h⟩ := bind_eq_ok_iff.1 h
    obtain rfl := Except.ok.inj h
    exact ⟨hkey, hlabel⟩
  · rintro ⟨hkey, hlabel⟩
    exact bind_eq_ok_iff.2 ⟨p.1, hkey, bind_eq_ok_iff.2 ⟨p.2, hlabel, rfl⟩⟩

theorem of_pairText_eq_error {e : Document × Document} {why : Halt}
    (h : pairText e.1 e.2 = .error why) : e.1.toText = .error why ∨ e.2.toText = .error why := by
  rcases bind_eq_error_iff.1 h with hkey | ⟨key, -, h⟩
  · exact .inl hkey
  rcases bind_eq_error_iff.1 h with hlabel | ⟨label, -, h⟩
  · exact .inr hlabel
  · cases h

/-- The entries of items are read one by one, and the other items are faults. -/
theorem entries_eq (part : Part) (n : Nat) (items : List Document) :
    entries part n items = ((items.filterMap part.entry?).mapM fun e => pairText e.1 e.2).map
      fun pairs => (pairs, part.incompletes n items) := by
  induction items generalizing n with
  | nil => rfl
  | cons item items ih =>
    rw [entries]
    cases hentry : item.pair? part.keyField "label" with
    | none =>
      have hnone : part.entry? item = none := hentry
      rw [ih, List.filterMap_cons_none hnone]
      simp only [Part.incompletes, List.zipIdx_cons]
      rw [List.filter_cons_of_pos (by simp [hnone])]
      cases (items.filterMap part.entry?).mapM fun e => pairText e.1 e.2 <;> rfl
    | some e =>
      have hsome : part.entry? item = some e := hentry
      rw [ih, List.filterMap_cons_some hsome, List.mapM_cons]
      simp only [Part.incompletes, List.zipIdx_cons]
      rw [List.filter_cons_of_neg (by simp [hsome])]
      cases pairText e.1 e.2 with
      | error why => rfl
      | ok p => cases (items.filterMap part.entry?).mapM fun e => pairText e.1 e.2 <;> rfl

theorem readPart_of_hasItems {part : Part} {fields : List (Scalar × Document)}
    {items : List Document} (h : part.HasItems fields items) :
    readPart part fields = entries part 0 items := by
  unfold readPart
  cases h with
  | absent h => rw [h]; rfl
  | @nothing d h hd =>
    rw [h]
    dsimp only
    cases hitems : d.items? with
    | none => simp [hd, entries]
    | some items => rw [Document.items?_of_isNothing hd hitems]
  | list h hd =>
    rw [h]
    dsimp only
    rw [hd]

/-- A part has items, or it is something else than a list. -/
theorem hasItems_or_notList (part : Part) (fields : List (Scalar × Document)) :
    (∃ items, part.HasItems fields items) ∨
      ∃ d, Document.field? part.plural fields = some d ∧ d.isNothing = false ∧ d.items? = none := by
  cases h : Document.field? part.plural fields with
  | none => exact .inl ⟨[], .absent h⟩
  | some d =>
    by_cases hd : d.isNothing = true
    · exact .inl ⟨[], .nothing h hd⟩
    cases hitems : d.items? with
    | none => exact .inr ⟨d, rfl, by simpa using hd, hitems⟩
    | some items => exact .inl ⟨items, .list h hitems⟩

theorem readPart_eq_ok_iff {part : Part} {fields : List (Scalar × Document)}
    {pairs : List (String × String)} {faults : List Fault} :
    readPart part fields = .ok (pairs, faults) ↔ part.Read fields pairs faults := by
  constructor
  · intro h
    rcases hasItems_or_notList part fields with ⟨items, hitems⟩ | ⟨d, hd, hnothing, hitems⟩
    · rw [readPart_of_hasItems hitems, entries_eq] at h
      obtain ⟨ps, hps, heq⟩ := map_eq_ok_iff.1 h
      obtain ⟨rfl, rfl⟩ := Prod.mk.inj heq
      exact .items hitems ((mapM_eq_ok_iff.1 hps).imp fun _ _ => pairText_eq_ok_iff.1)
    · unfold readPart at h
      simp only [hd, hitems, hnothing] at h
      obtain ⟨rfl, rfl⟩ := Prod.mk.inj (Except.ok.inj h)
      exact .notList hd hnothing hitems
  · rintro (⟨hitems, hpairs⟩ | ⟨hd, hnothing, hitems⟩)
    · rw [readPart_of_hasItems hitems, entries_eq]
      refine map_eq_ok_iff.2 ⟨pairs, mapM_eq_ok_iff.2 ?_, rfl⟩
      exact hpairs.imp fun _ _ => pairText_eq_ok_iff.2
    · unfold readPart
      simp [hd, hitems, hnothing]

/-- The document is a key or a label of an entry of the part. -/
def Part.Writes (part : Part) (fields : List (Scalar × Document)) (v : Document) : Prop :=
  ∃ items, part.HasItems fields items ∧ ∃ item ∈ items, ∃ e, part.entry? item = some e ∧
    (v = e.1 ∨ v = e.2)

theorem exists_of_readPart_eq_error {part : Part} {fields : List (Scalar × Document)} {why : Halt}
    (h : readPart part fields = .error why) :
    ∃ v, part.Writes fields v ∧ v.toText = .error why := by
  rcases hasItems_or_notList part fields with ⟨items, hitems⟩ | ⟨d, hd, hnothing, hitems⟩
  · rw [readPart_of_hasItems hitems, entries_eq] at h
    obtain ⟨e, he, hwhy⟩ := exists_of_mapM_eq_error (map_eq_error_iff.1 h)
    obtain ⟨item, hitem, hentry⟩ := List.mem_filterMap.1 he
    rcases of_pairText_eq_error hwhy with hwhy | hwhy
    · exact ⟨e.1, ⟨items, hitems, item, hitem, e, hentry, .inl rfl⟩, hwhy⟩
    · exact ⟨e.2, ⟨items, hitems, item, hitem, e, hentry, .inr rfl⟩, hwhy⟩
  · unfold readPart at h
    simp [hd, hitems] at h

/-- All keys and labels of the entries of a part that was read have texts. -/
theorem Part.Read.exists_text {part : Part} {fields : List (Scalar × Document)}
    {pairs : List (String × String)} {faults : List Fault} (h : part.Read fields pairs faults)
    {v : Document} (hv : part.Writes fields v) : ∃ s, v.toText = .ok s := by
  obtain ⟨items, hitems, item, hitem, e, hentry, hv⟩ := hv
  have hread := readPart_eq_ok_iff.2 h
  rw [readPart_of_hasItems hitems, entries_eq] at hread
  obtain ⟨ps, hps, -⟩ := map_eq_ok_iff.1 hread
  have hpairs : List.Forall₂ (fun p e => IsPair e p) ps (items.filterMap part.entry?) :=
    ((mapM_eq_ok_iff.1 hps).imp fun _ _ => pairText_eq_ok_iff.1).flip
  obtain ⟨p, -, hkey, hlabel⟩ :=
    exists_of_mem_forall₂ hpairs (List.mem_filterMap.2 ⟨item, hitem, hentry⟩)
  rcases hv with rfl | rfl
  · exact ⟨p.1, hkey⟩
  · exact ⟨p.2, hlabel⟩

theorem incompletes_eq_nil_iff {part : Part} {n : Nat} {items : List Document} :
    part.incompletes n items = [] ↔ ∀ item ∈ items, (part.entry? item).isSome = true := by
  rw [Part.incompletes, List.map_eq_nil_iff, List.filter_eq_nil_iff]
  constructor
  · intro h item hitem
    obtain ⟨i, hi, rfl⟩ := List.getElem_of_mem hitem
    have hmem : (items[i], n + i) ∈ items.zipIdx n :=
      List.mk_mem_zipIdx_iff_le_and_getElem?_sub.2 (by simp [hi])
    exact Option.isSome_iff_ne_none.2 (by simpa using h _ hmem)
  · rintro h ⟨item, i⟩ hi
    simpa [← Option.isNone_iff_eq_none] using h item (List.fst_mem_of_mem_zipIdx hi)

theorem forall₂_entry_iff {part : Part} {items : List Document} {pairs : List (String × String)} :
    List.Forall₂ (fun item p => ∃ e, part.entry? item = some e ∧ IsPair e p) items pairs ↔
      (∀ item ∈ items, (part.entry? item).isSome = true) ∧
        List.Forall₂ IsPair (items.filterMap part.entry?) pairs := by
  induction items generalizing pairs with
  | nil => simp
  | cons item items ih =>
    rw [List.forall₂_cons_left_iff, List.forall_mem_cons]
    cases hentry : part.entry? item with
    | none => simp
    | some e =>
      rw [List.filterMap_cons_some hentry, List.forall₂_cons_left_iff]
      constructor
      · rintro ⟨p, ps, ⟨e', he', hp⟩, hps, rfl⟩
        obtain rfl := Option.some.inj he'
        obtain ⟨hsome, hps⟩ := ih.1 hps
        exact ⟨⟨rfl, hsome⟩, p, ps, hp, hps, rfl⟩
      · rintro ⟨⟨-, hsome⟩, p, ps, hp, hps, rfl⟩
        exact ⟨p, ps, ⟨e, rfl, hp⟩, ih.2 ⟨hsome, hps⟩, rfl⟩

/-- A part that was read without faults lists what was read. -/
theorem read_nil_iff {part : Part} {fields : List (Scalar × Document)}
    {pairs : List (String × String)} : part.Read fields pairs [] ↔ part.Lists fields pairs := by
  constructor
  · intro h
    generalize hnone : ([] : List Fault) = faults at h
    cases h with
    | @items items _ hitems hpairs =>
      exact ⟨items, hitems, forall₂_entry_iff.2 ⟨incompletes_eq_nil_iff.1 hnone.symm, hpairs⟩⟩
    | notList => cases hnone
  · rintro ⟨items, hitems, hall⟩
    obtain ⟨hentries, hpairs⟩ := forall₂_entry_iff.1 hall
    rw [← incompletes_eq_nil_iff (n := 0)] at hentries
    rw [← hentries]
    exact .items hitems hpairs

/-! ## The tables of a document -/

theorem checked_eq_ok_iff {formFaults : List Fault} {exact : Table String String}
    {stems : List (String × String)} {h : Heuristics} :
    checked formFaults exact stems = .ok h ↔
      formFaults = [] ∧ h.exact = exact ∧ h.stems = stems := by
  unfold checked
  constructor
  · intro heq
    split at heq
    · cases heq
    · next hform =>
      split at heq
      · cases heq
        exact ⟨by simpa using hform, rfl, rfl⟩
      · cases heq
  · rintro ⟨rfl, rfl, rfl⟩
    simp [h.faultless]

theorem checked_eq_error_iff {formFaults faults : List Fault} {exact : Table String String}
    {stems : List (String × String)} :
    checked formFaults exact stems = .error faults ↔
      faults = formFaults ++ tableFaults exact stems ∧ faults ≠ [] := by
  unfold checked
  by_cases hform : formFaults = []
  · subst hform
    by_cases htables : tableFaults exact stems = []
    · simp [htables]
    · simp only [ne_eq, not_true_eq_false, if_false, dif_neg htables, List.nil_append]
      constructor
      · intro heq
        obtain rfl := Except.error.inj heq
        exact ⟨rfl, htables⟩
      · rintro ⟨rfl, -⟩
        rfl
  · simp only [ne_eq, hform, not_false_eq_true, if_true]
    constructor
    · intro heq
      obtain rfl := Except.error.inj heq
      exact ⟨rfl, by simp [hform]⟩
    · rintro ⟨rfl, -⟩
      rfl

theorem ofDocument_of_hasFields {d : Document} {fields : List (Scalar × Document)}
    (h : HasFields d fields) : ofDocument d = ofFields fields := by
  unfold ofDocument
  cases h with
  | nothing h => rw [if_pos h]
  | mapping h =>
    by_cases hd : d.isNothing = true
    · rw [if_pos hd, Document.entries?_of_isNothing hd h]
    · rw [if_neg hd, h]

theorem ofFields_of_read {fields : List (Scalar × Document)} {exact stems : List (String × String)}
    {exactForm stemsForm : List Fault} (hexact : Part.exact.Read fields exact exactForm)
    (hstems : Part.stems.Read fields stems stemsForm) :
    ofFields fields =
      (checked (exactForm ++ stemsForm) (Table.ofPairs exact) stems).mapError .faulty := by
  unfold ofFields
  rw [readPart_eq_ok_iff.2 hexact, readPart_eq_ok_iff.2 hstems]
  rfl

theorem ofFields_of_halted {fields : List (Scalar × Document)} {why : Halt}
    (h : readPart .exact fields = .error why) : ofFields fields = .error (.halted why) := by
  unfold ofFields
  rw [h]
  rfl

/-- A key or a label cannot be written, or both parts are read and then checked. -/
theorem ofFields_cases (fields : List (Scalar × Document)) :
    (∃ why part v, Part.Writes part fields v ∧ v.toText = .error why ∧
      ofFields fields = .error (.halted why)) ∨
      ∃ exact exactForm stems stemsForm, Part.exact.Read fields exact exactForm ∧
        Part.stems.Read fields stems stemsForm := by
  cases hexact : readPart .exact fields with
  | error why =>
    obtain ⟨v, hv, hwhy⟩ := exists_of_readPart_eq_error hexact
    exact .inl ⟨why, .exact, v, hv, hwhy, ofFields_of_halted hexact⟩
  | ok exact =>
    cases hstems : readPart .stems fields with
    | error why =>
      obtain ⟨v, hv, hwhy⟩ := exists_of_readPart_eq_error hstems
      refine .inl ⟨why, .stems, v, hv, hwhy, ?_⟩
      unfold ofFields
      rw [hexact, hstems]
      rfl
    | ok stems =>
      exact .inr ⟨exact.1, exact.2, stems.1, stems.2, readPart_eq_ok_iff.1 hexact,
        readPart_eq_ok_iff.1 hstems⟩

theorem ofFields_eq_ok_iff {fields : List (Scalar × Document)} {h : Heuristics} :
    ofFields fields = .ok h ↔
      ∃ exact stems, Part.exact.Lists fields exact ∧ Part.stems.Lists fields stems ∧
        h.exact = Table.ofPairs exact ∧ h.stems = stems := by
  constructor
  · intro hok
    rcases ofFields_cases fields with
      ⟨why, -, -, -, -, hwhy⟩ | ⟨exact, exactForm, stems, stemsForm, hexact, hstems⟩
    · rw [hwhy] at hok
      cases hok
    · rw [ofFields_of_read hexact hstems, mapError_eq_ok_iff, checked_eq_ok_iff,
        List.append_eq_nil_iff] at hok
      obtain ⟨⟨rfl, rfl⟩, htable, rfl⟩ := hok
      exact ⟨exact, _, read_nil_iff.1 hexact, read_nil_iff.1 hstems, htable, rfl⟩
  · rintro ⟨exact, stems, hexact, hstems, htable, hsame⟩
    rw [ofFields_of_read (read_nil_iff.2 hexact) (read_nil_iff.2 hstems), mapError_eq_ok_iff,
      checked_eq_ok_iff]
    exact ⟨rfl, htable, hsame⟩

theorem ofFields_eq_faulty_iff {fields : List (Scalar × Document)} {faults : List Fault} :
    ofFields fields = .error (.faulty faults) ↔ faults ≠ [] ∧
      ∃ exact exactForm stems stemsForm, Part.exact.Read fields exact exactForm ∧
        Part.stems.Read fields stems stemsForm ∧
        faults = exactForm ++ stemsForm ++ tableFaults (Table.ofPairs exact) stems := by
  constructor
  · intro herror
    rcases ofFields_cases fields with
      ⟨why, -, -, -, -, hwhy⟩ | ⟨exact, exactForm, stems, stemsForm, hexact, hstems⟩
    · rw [hwhy] at herror
      cases herror
    · rw [ofFields_of_read hexact hstems, mapError_eq_error_iff] at herror
      obtain ⟨_, herror, heq⟩ := herror
      obtain rfl := Refusal.faulty.inj heq
      obtain ⟨hfaults, hne⟩ := checked_eq_error_iff.1 herror
      exact ⟨hne, exact, exactForm, stems, stemsForm, hexact, hstems, hfaults⟩
  · rintro ⟨hne, exact, exactForm, stems, stemsForm, hexact, hstems, hfaults⟩
    rw [ofFields_of_read hexact hstems, mapError_eq_error_iff]
    exact ⟨faults, checked_eq_error_iff.2 ⟨hfaults, hne⟩, rfl⟩

theorem ofFields_eq_halted {fields : List (Scalar × Document)} {why : Halt}
    (h : ofFields fields = .error (.halted why)) :
    ∃ part v, Part.Writes part fields v ∧ v.toText = .error why := by
  rcases ofFields_cases fields with ⟨why', part, v, hv, hwhy, heq⟩ | ⟨_, _, _, _, hexact, hstems⟩
  · rw [heq] at h
    obtain rfl := Refusal.halted.inj (Except.error.inj h)
    exact ⟨part, v, hv, hwhy⟩
  · rw [ofFields_of_read hexact hstems, mapError_eq_error_iff] at h
    obtain ⟨_, -, hno⟩ := h
    cases hno

/-- A key or a label that cannot be written ends the work before any fault is told. -/
theorem ofFields_halts {fields : List (Scalar × Document)} {part : Part} {v : Document}
    (hv : part.Writes fields v) (hno : ∀ s, v.toText ≠ .ok s) :
    ∃ why, ofFields fields = .error (.halted why) := by
  rcases ofFields_cases fields with ⟨why, -, -, -, -, heq⟩ | ⟨_, _, _, _, hexact, hstems⟩
  · exact ⟨why, heq⟩
  · have htext : ∃ s, v.toText = .ok s := by
      cases part with
      | exact => exact hexact.exists_text hv
      | stems => exact hstems.exists_text hv
    obtain ⟨s, hs⟩ := htext
    exact absurd hs (hno s)

/-- A document has fields, or it is something else than a mapping. -/
theorem hasFields_or_notMapping (d : Document) : (∃ fields, HasFields d fields) ∨
    (d.isNothing = false ∧ d.entries? = none ∧ ofDocument d = .error (.faulty [.notMapping])) := by
  by_cases hd : d.isNothing = true
  · exact .inl ⟨[], .nothing hd⟩
  cases hfields : d.entries? with
  | some fields => exact .inl ⟨fields, .mapping hfields⟩
  | none =>
    refine .inr ⟨by simpa using hd, rfl, ?_⟩
    unfold ofDocument
    rw [if_neg hd, hfields]

theorem ofDocument_eq_ok_iff {d : Document} {h : Heuristics} :
    ofDocument d = .ok h ↔ ∃ fields exact, HasFields d fields ∧ Part.exact.Lists fields exact ∧
      Part.stems.Lists fields h.stems ∧ h.exact = Table.ofPairs exact := by
  constructor
  · intro hok
    rcases hasFields_or_notMapping d with ⟨fields, hfields⟩ | ⟨-, -, herror⟩
    · rw [ofDocument_of_hasFields hfields, ofFields_eq_ok_iff] at hok
      obtain ⟨exact, stems, hexact, hstems, htable, rfl⟩ := hok
      exact ⟨fields, exact, hfields, hexact, hstems, htable⟩
    · rw [herror] at hok
      cases hok
  · rintro ⟨fields, exact, hfields, hexact, hstems, htable⟩
    rw [ofDocument_of_hasFields hfields, ofFields_eq_ok_iff]
    exact ⟨exact, h.stems, hexact, hstems, htable, rfl⟩

end Heuristics

end KnitPattern
