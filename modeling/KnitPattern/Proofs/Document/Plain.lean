/-
  Plain documents: truth values, numbers and texts, or null, in any nesting of lists and of mappings
  from texts. A plain document is no part of itself, so only a number of too many digits stops its
  writing (`Plain.of_toText_eq_error`). Whether it has a whole number in it is mostly told by its
  kind: null, a list and a mapping have none, and infinity is the one number that has none because
  of its size (`Plain.toInteger_eq_numberless_iff`, `Plain.toInteger_eq_infinite_iff`).
-/
import KnitPattern.Document.Integer
import KnitPattern.Proofs.Document.Written

namespace KnitPattern.Document

/-- Any nesting of null, truth values, numbers, texts, lists, and mappings from texts. -/
inductive Plain : Document → Prop
  | null : Plain .null
  | bool (b : Bool) : Plain (.scalar (.bool b))
  | int (n : Int) : Plain (.scalar (.int n))
  | real (x : Binary64) : Plain (.scalar (.real x))
  | text (s : String) : Plain (.scalar (.text s))
  | list {items : List Document} (h : ∀ d ∈ items, Plain d) : Plain (.list items)
  | mapping {entries : List (Scalar × Document)} (hkeys : ∀ e ∈ entries, ∃ name, e.1 = .text name)
      (hvalues : ∀ e ∈ entries, Plain e.2) : Plain (.mapping entries)

variable {d : Document}

/-! ## Parts of plain documents -/

theorem Plain.seen_eq (h : d.Plain) : d.seen = d := by
  cases h <;> rfl

theorem Plain.of_items? (h : d.Plain) {items : List Document} (hitems : d.items? = some items) :
    ∀ item ∈ items, item.Plain := by
  cases h with
  | list h =>
    cases hitems
    exact h
  | _ => cases hitems

theorem mem_of_field? {name : String} {entries : List (Scalar × Document)} {v : Document}
    (h : field? name entries = some v) : ∃ e ∈ entries, e.2 = v := by
  unfold field? Table.get? at h
  induction entries with
  | nil => cases h
  | cons e entries ih =>
    rw [List.lookup_cons] at h
    cases hkey : Scalar.text name == e.1 with
    | true =>
      rw [hkey] at h
      exact ⟨e, List.mem_cons_self, Option.some.inj h⟩
    | false =>
      rw [hkey] at h
      obtain ⟨e', he', hv⟩ := ih h
      exact ⟨e', List.mem_cons_of_mem e he', hv⟩

theorem Plain.of_entries? (h : d.Plain) {entries : List (Scalar × Document)}
    (hentries : d.entries? = some entries) {name : String} {v : Document}
    (hv : field? name entries = some v) : v.Plain := by
  cases h with
  | mapping _ hvalues =>
    cases hentries
    obtain ⟨e, he, rfl⟩ := mem_of_field? hv
    exact hvalues e he
  | _ => cases hentries

theorem pair?_eq_some_iff {a b : String} {v w : Document} :
    d.pair? a b = some (v, w) ↔
      ∃ entries, d.entries? = some entries ∧ field? a entries = some v ∧
        field? b entries = some w := by
  simp [pair?, Option.bind_eq_some_iff]

/-! ## Writing -/

theorem Plain.not_hasKnot (h : d.Plain) (text : Except Halt String) : ¬ d.HasKnot text := by
  intro hknot
  induction hknot with
  | here => cases h
  | item hd _ ih =>
    cases h with
    | list h => exact ih (h _ hd)
  | value he _ ih =>
    cases h with
    | mapping _ hvalues => exact ih (hvalues _ he)
  | first _ _ => cases h
  | second _ _ => cases h

theorem Plain.of_toText_eq_error (h : d.Plain) {why : Halt} (hwhy : d.toText = .error why) :
    why = .numberTooLong :=
  (Document.of_toText_eq_error hwhy).resolve_right (h.not_hasKnot _)

/-! ## Whole numbers -/

theorem truncate_eq_infinite_iff {x : Binary64} :
    truncate x = .error .infinite ↔ ∃ negative, x = .infinite negative := by
  cases x <;> simp [truncate]

theorem truncate_ne_numberless (x : Binary64) (kind : Numberless) :
    truncate x ≠ .error (.numberless kind) := by
  cases x <;> simp [truncate]

/-- Of plain documents only infinities have no whole number because of their size. -/
theorem Plain.toInteger_eq_infinite_iff (h : d.Plain) :
    d.toInteger = .error .infinite ↔ ∃ negative, d = .scalar (.real (.infinite negative)) := by
  unfold toInteger
  rw [h.seen_eq]
  cases h with
  | real x => simp [integerOfScalar, truncate_eq_infinite_iff]
  | text s => simp [integerOfScalar, mapError_eq_error_iff]
  | _ => simp [integerOfScalar, Document.null]

/-- Of plain documents null, lists and mappings have no whole number because of their kind. -/
theorem Plain.toInteger_eq_numberless_iff (h : d.Plain) :
    (∃ kind, d.toInteger = .error (.numberless kind)) ↔
      d = .null ∨ (∃ items, d = .list items) ∨ ∃ entries, d = .mapping entries := by
  unfold toInteger
  rw [h.seen_eq]
  cases h with
  | real x => simp [integerOfScalar, truncate_ne_numberless, Document.null]
  | text s => simp [integerOfScalar, mapError_eq_error_iff, Document.null]
  | _ => simp [integerOfScalar, Document.null]

end KnitPattern.Document
