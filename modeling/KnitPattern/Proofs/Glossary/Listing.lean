/-
  What a document of a glossary lists. It is a list of items, or a mapping with such a list, or there
  are no items at all (`HasItems`). A glossary has one entry for each item, in order
  (`ofDocument_eq_ok_iff`); where there is no glossary and nothing stopped the writing of a value, an
  item is no entry or there are no items to look at.
-/
import KnitPattern.Glossary.OfDocument
import KnitPattern.Proofs.Document.Plain
import KnitPattern.Proofs.Heuristics.Listing

namespace KnitPattern.Glossary

variable {d item : Document} {g : Glossary}

/-! ## Items and entries -/

/-- The items of a document: those of a list or of the entries of a mapping, and none of null or of
a mapping whose entries are absent or count as nothing. -/
inductive HasItems : Document → List Document → Prop
  | null : HasItems .null []
  | list {d : Document} {items : List Document} (h : d.items? = some items) : HasItems d items
  | absent {d : Document} {fields : List (Scalar × Document)} (h : d.entries? = some fields)
      (hentries : Document.field? "entries" fields = none) : HasItems d []
  | nothing {d v : Document} {fields : List (Scalar × Document)} (h : d.entries? = some fields)
      (hentries : Document.field? "entries" fields = some v) (hv : v.isNothing = true) :
      HasItems d []
  | entries {d v : Document} {fields : List (Scalar × Document)} {items : List Document}
      (h : d.entries? = some fields) (hentries : Document.field? "entries" fields = some v)
      (hv : v.items? = some items) : HasItems d items

/-- The text of a detail, which may be absent or count as nothing. -/
inductive HasDetail : Option Document → String → Prop
  | absent : HasDetail none ""
  | nothing {v : Document} (h : v.isNothing = true) : HasDetail (some v) ""
  | text {v : Document} {s : String} (h : v.isNothing = false) (hs : v.toText = .ok s) :
      HasDetail (some v) (String.ofList (Text.trim s.toList))

/-- The entry of an item: a mapping with a code and a title, and perhaps a detail. -/
structure IsEntry (item : Document) (e : Entry) : Prop where
  named : ∃ code title, item.pair? "code" "title" = some (code, title) ∧
    code.toText = .ok e.code ∧ title.toText = .ok e.title
  detailed : HasDetail (item.entries?.bind (Document.field? "detail")) e.detail

/-- The document lists the entries of the glossary. -/
def Lists (d : Document) (g : Glossary) : Prop :=
  ∃ items, HasItems d items ∧ List.Forall₂ IsEntry items g

/-! ## Glossaries of documents -/

theorem detailText_eq_ok_iff {v : Option Document} {s : String} :
    detailText v = .ok s ↔ HasDetail v s := by
  unfold detailText
  cases v with
  | none =>
    refine ⟨fun h => ?_, fun h => ?_⟩
    · cases h
      exact .absent
    · cases h
      rfl
  | some v =>
    dsimp only
    constructor
    · intro h
      split at h
      · next hnothing =>
        cases h
        exact .nothing hnothing
      · next hsomething =>
        obtain ⟨t, ht, rfl⟩ := map_eq_ok_iff.1 h
        exact .text (by simpa using hsomething) ht
    · rintro (_ | hnothing | ⟨hsomething, hs⟩)
      · rw [if_pos hnothing]
      · rw [if_neg (by simp [hsomething]), hs]
        rfl

theorem entry_eq_ok_iff {position : Nat} {e : Entry} :
    entry position item = .ok e ↔ IsEntry item e := by
  unfold entry
  constructor
  · intro h
    split at h
    · cases h
    · next code title hpair =>
      rw [mapError_eq_ok_iff] at h
      obtain ⟨c, hc, h⟩ := bind_eq_ok_iff.1 h
      obtain ⟨t, ht, h⟩ := bind_eq_ok_iff.1 h
      obtain ⟨x, hx, h⟩ := bind_eq_ok_iff.1 h
      cases h
      exact ⟨⟨code, title, hpair, hc, ht⟩, detailText_eq_ok_iff.1 hx⟩
  · rintro ⟨⟨code, title, hpair, hcode, htitle⟩, hdetail⟩
    rw [hpair]
    dsimp only
    rw [mapError_eq_ok_iff, entryOf, hcode, htitle, detailText_eq_ok_iff.2 hdetail]
    rfl

theorem entries_eq_ok_iff {position : Nat} {items : List Document} :
    entries position items = .ok g ↔ List.Forall₂ IsEntry items g := by
  induction items generalizing position g with
  | nil =>
    rw [List.forall₂_nil_left_iff, entries, Except.ok.injEq, eq_comm]
  | cons item items ih =>
    rw [entries, bind_eq_ok_iff, List.forall₂_cons_left_iff]
    constructor
    · rintro ⟨e, he, h⟩
      obtain ⟨es, hes, h⟩ := bind_eq_ok_iff.1 h
      cases h
      exact ⟨e, es, entry_eq_ok_iff.1 he, ih.1 hes, rfl⟩
    · rintro ⟨e, es, he, hes, rfl⟩
      exact ⟨e, entry_eq_ok_iff.2 he, bind_eq_ok_iff.2 ⟨es, ih.2 hes, rfl⟩⟩

theorem entries?_of_items? {items : List Document} (h : d.items? = some items) :
    d.entries? = none ∧ d ≠ .scalar .null := by
  unfold Document.items? at h
  unfold Document.entries?
  refine ⟨?_, ?_⟩
  · cases hseen : d.seen <;> simp_all
  · rintro rfl
    cases h

theorem ofDocument_of_entries? {fields : List (Scalar × Document)} (h : d.entries? = some fields) :
    ofDocument d = (Document.field? "entries" fields).elim (.ok []) fun v =>
      if v.isNothing then .ok [] else ofItems v := by
  unfold ofDocument
  rw [h]
  split
  · cases h
  · next hnone => cases hnone
  · next hsome =>
    cases hsome
    cases Document.field? "entries" fields <;> rfl

/-- The items of a document are looked at one by one. -/
theorem ofDocument_of_hasItems {items : List Document} (h : HasItems d items) :
    ofDocument d = entries 0 items := by
  cases h with
  | null => rfl
  | list hitems =>
    obtain ⟨hnone, hnull⟩ := entries?_of_items? hitems
    unfold ofDocument
    split
    · exact absurd rfl hnull
    · rw [ofItems, hitems]
    · next hsome =>
      rw [hnone] at hsome
      cases hsome
  | absent hd hentries =>
    rw [ofDocument_of_entries? hd, hentries]
    rfl
  | nothing hd hentries hv =>
    rw [ofDocument_of_entries? hd, hentries, Option.elim_some, if_pos hv]
    rfl
  | entries hd hentries hv =>
    rw [ofDocument_of_entries? hd, hentries, Option.elim_some]
    split
    · next hnothing =>
      rw [Document.items?_of_isNothing hnothing hv]
      rfl
    · rw [ofItems, hv]

theorem ofDocument_of_not_hasItems (h : ∀ items, ¬ HasItems d items) :
    ofDocument d = .error .notList := by
  have hofItems : ∀ v : Document, (∀ items, v.items? ≠ some items) →
      ofItems v = .error .notList := by
    intro v hv
    unfold ofItems
    split
    · next items hitems => exact absurd hitems (hv items)
    · rfl
  unfold ofDocument
  split
  · exact absurd .null (h [])
  · exact hofItems _ fun items hitems => h items (.list hitems)
  · next fields hfields =>
    split
    · next hnone => exact absurd (.absent hfields hnone) (h [])
    · next v hv =>
      split
      · next hnothing => exact absurd (.nothing hfields hv hnothing) (h [])
      · exact hofItems v fun items hitems => h items (.entries hfields hv hitems)

theorem ofDocument_eq_ok_iff : ofDocument d = .ok g ↔ Lists d g := by
  constructor
  · intro hok
    by_cases hitems : ∃ items, HasItems d items
    · obtain ⟨items, hitems⟩ := hitems
      rw [ofDocument_of_hasItems hitems, entries_eq_ok_iff] at hok
      exact ⟨items, hitems, hok⟩
    · rw [ofDocument_of_not_hasItems (not_exists.1 hitems)] at hok
      cases hok
  · rintro ⟨items, hitems, hentries⟩
    rw [ofDocument_of_hasItems hitems, entries_eq_ok_iff]
    exact hentries

/-! ## Glossaries of plain documents -/

variable {why : Halt}

theorem HasItems.plain {items : List Document} (h : HasItems d items) (hd : d.Plain) :
    ∀ item ∈ items, item.Plain := by
  cases h with
  | list hitems => exact hd.of_items? hitems
  | entries hfields hentries hitems => exact (hd.of_entries? hfields hentries).of_items? hitems
  | _ => exact List.forall_mem_nil _

theorem of_detailText_eq_error {v : Option Document} (hv : ∀ w ∈ v, w.Plain)
    (h : detailText v = .error why) : why = .numberTooLong := by
  unfold detailText at h
  split at h
  · next w =>
    split at h
    · cases h
    · exact (hv w rfl).of_toText_eq_error (map_eq_error_iff.1 h)
  · cases h

theorem of_entry_eq_halted {position : Nat} (hitem : item.Plain)
    (h : entry position item = .error (.halted why)) : why = .numberTooLong := by
  unfold entry at h
  split at h
  · cases h
  · next code title hpair =>
    obtain ⟨fields, hfields, hcode, htitle⟩ := Document.pair?_eq_some_iff.1 hpair
    obtain ⟨_, hwhy, heq⟩ := mapError_eq_error_iff.1 h
    obtain rfl := Fault.halted.inj heq
    rcases bind_eq_error_iff.1 hwhy with hwhy | ⟨c, -, hwhy⟩
    · exact (hitem.of_entries? hfields hcode).of_toText_eq_error hwhy
    rcases bind_eq_error_iff.1 hwhy with hwhy | ⟨t, -, hwhy⟩
    · exact (hitem.of_entries? hfields htitle).of_toText_eq_error hwhy
    rcases bind_eq_error_iff.1 hwhy with hwhy | ⟨x, -, hwhy⟩
    · refine of_detailText_eq_error (fun w hw => ?_) hwhy
      rw [hfields] at hw
      exact hitem.of_entries? hfields hw
    · cases hwhy

theorem of_entries_eq_halted {position : Nat} {items : List Document}
    (hitems : ∀ item ∈ items, item.Plain) (h : entries position items = .error (.halted why)) :
    why = .numberTooLong := by
  induction items generalizing position with
  | nil => cases h
  | cons item items ih =>
    obtain ⟨hitem, hrest⟩ := List.forall_mem_cons.1 hitems
    rw [entries] at h
    rcases bind_eq_error_iff.1 h with h | ⟨e, -, h⟩
    · exact of_entry_eq_halted hitem h
    rcases bind_eq_error_iff.1 h with h | ⟨es, -, h⟩
    · exact ih hrest h
    · cases h

/-- Only a number of too many digits stops the reading of a glossary. -/
theorem of_ofDocument_eq_halted (hd : d.Plain) (h : ofDocument d = .error (.halted why)) :
    why = .numberTooLong := by
  by_cases hitems : ∃ items, HasItems d items
  · obtain ⟨items, hitems⟩ := hitems
    rw [ofDocument_of_hasItems hitems] at h
    exact of_entries_eq_halted (hitems.plain hd) h
  · rw [ofDocument_of_not_hasItems (not_exists.1 hitems)] at h
    cases h

end KnitPattern.Glossary
