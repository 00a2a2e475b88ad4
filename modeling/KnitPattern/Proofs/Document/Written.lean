/-
  Documents that cannot be written. The text of a document is put together from the texts of its
  parts, and of all scalars only a whole number may have none. So what stops the writing of a
  document is a number of too many digits, or a list or mapping that is part of itself and cannot be
  written (`of_toText_eq_error`).
-/
import KnitPattern.Document.Basic
import KnitPattern.Proofs.Halting

namespace KnitPattern

theorem Scalar.eq_numberTooLong_of_shown {s : Scalar} {why : Halt} (h : s.shown = .error why) :
    why = .numberTooLong := by
  cases s with
  | int n =>
    by_cases hn : Halt.isWritable n = true
    · simp [shown, hn] at h
    · simpa [shown, hn, eq_comm] using h
  | _ => cases h

namespace Document

/-- The document, or a part of it at any depth, is a list or mapping that is part of itself and has
the text. -/
inductive HasKnot (text : Except Halt String) : Document → Prop
  | here {seen : Document} : HasKnot text (.knot text seen)
  | item {items : List Document} {d : Document} (h : d ∈ items) (hd : HasKnot text d) :
      HasKnot text (.list items)
  | value {entries : List (Scalar × Document)} {e : Scalar × Document} (h : e ∈ entries)
      (he : HasKnot text e.2) : HasKnot text (.mapping entries)
  | first {a b : Document} (h : HasKnot text a) : HasKnot text (.pair a b)
  | second {a b : Document} (h : HasKnot text b) : HasKnot text (.pair a b)

theorem exists_of_shownItems {ds : List Document} {why : Halt}
    (h : shownItems ds = .error why) : ∃ d ∈ ds, d.shown = .error why := by
  induction ds with
  | nil => cases h
  | cons d ds ih =>
    rw [shownItems] at h
    rcases bind_eq_error_iff.1 h with hd | ⟨s, -, h⟩
    · exact ⟨d, by simp, hd⟩
    rcases bind_eq_error_iff.1 h with hds | ⟨ss, -, h⟩
    · obtain ⟨d', hd', hwhy⟩ := ih hds
      exact ⟨d', by simp [hd'], hwhy⟩
    · cases h

theorem exists_of_shownEntries {es : List (Scalar × Document)} {why : Halt}
    (h : shownEntries es = .error why) :
    ∃ e ∈ es, e.1.shown = .error why ∨ e.2.shown = .error why := by
  induction es with
  | nil => cases h
  | cons e es ih =>
    rw [shownEntries] at h
    rcases bind_eq_error_iff.1 h with hk | ⟨k, -, h⟩
    · exact ⟨e, by simp, .inl hk⟩
    rcases bind_eq_error_iff.1 h with hd | ⟨s, -, h⟩
    · exact ⟨e, by simp, .inr hd⟩
    rcases bind_eq_error_iff.1 h with hes | ⟨ss, -, h⟩
    · obtain ⟨e', he', hwhy⟩ := ih hes
      exact ⟨e', by simp [he'], hwhy⟩
    · cases h

theorem of_shown_eq_error (d : Document) {why : Halt} (h : d.shown = .error why) :
    why = .numberTooLong ∨ d.HasKnot (.error why) := by
  cases d with
  | scalar s => exact .inl (Scalar.eq_numberTooLong_of_shown h)
  | list items =>
    rw [shown] at h
    obtain ⟨d, hd, hwhy⟩ := exists_of_shownItems (map_eq_error_iff.1 h)
    exact (of_shown_eq_error d hwhy).imp_right (.item hd)
  | mapping entries =>
    rw [shown] at h
    obtain ⟨e, he, hk | hwhy⟩ := exists_of_shownEntries (map_eq_error_iff.1 h)
    · exact .inl (Scalar.eq_numberTooLong_of_shown hk)
    · exact (of_shown_eq_error e.2 hwhy).imp_right (.value he)
  | pair a b =>
    rw [shown] at h
    rcases bind_eq_error_iff.1 h with ha | ⟨s, -, h⟩
    · exact (of_shown_eq_error a ha).imp_right .first
    rcases bind_eq_error_iff.1 h with hb | ⟨t, -, h⟩
    · exact (of_shown_eq_error b hb).imp_right .second
    · cases h
  | set members =>
    rw [shown, setText] at h
    split at h
    · cases h
    · obtain ⟨s, -, hs⟩ := exists_of_mapM_eq_error (map_eq_error_iff.1 h)
      exact .inl (Scalar.eq_numberTooLong_of_shown hs)
  | knot text seen =>
    rw [shown] at h
    rw [h]
    exact .inr .here
termination_by sizeOf d
decreasing_by
  all_goals subst_vars
  · have hlt := List.sizeOf_lt_of_mem hd
    rw [list.sizeOf_spec]
    omega
  · have hlt := List.sizeOf_lt_of_mem he
    have hle : sizeOf e.2 < sizeOf e := by
      show sizeOf e.2 < sizeOf (e.1, e.2)
      rw [Prod.mk.sizeOf_spec]
      omega
    rw [mapping.sizeOf_spec]
    omega
  · rw [pair.sizeOf_spec]
    omega
  · rw [pair.sizeOf_spec]
    omega

/-- A document that cannot be written holds a number of too many digits, or a list or mapping that
is part of itself and cannot be written. -/
theorem of_toText_eq_error {d : Document} {why : Halt} (h : d.toText = .error why) :
    why = .numberTooLong ∨ d.HasKnot (.error why) := by
  cases d with
  | scalar s =>
    cases s with
    | text _ | date _ | moment _ => cases h
    | _ =>
      rw [toText, Scalar.toText] at h
      · exact .inl (Scalar.eq_numberTooLong_of_shown h)
      all_goals
        intro _ hother
        cases hother
  | _ => exact of_shown_eq_error _ h

end Document

end KnitPattern
