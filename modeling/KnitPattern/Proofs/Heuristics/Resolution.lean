/-
  What an abbreviation is called. The title of a code is that of the last entry of the glossary
  that gives it one (`title?_eq_some_iff`); the tables that a document lists call a key by the last
  exact pair with it, or else by the longest stem that begins it (`label?_eq_some_iff`); and the
  label of a code is its title, else what the tables call its key unless that is empty, else the
  code (`label_eq_iff`). Nothing here depends on the order of the stems, so tables with the same
  exact keys and the same stems in any order give the same labels.
-/
import KnitPattern.Context
import KnitPattern.Proofs.Heuristics.Listing
import KnitPattern.Proofs.Heuristics.Tables

namespace KnitPattern

open Text

/-! ## Titles -/

namespace Glossary

/-- An entry gives a title to a code: they have one key, which is not empty, and the title is not
blank. -/
def Entry.Titles (code : String) (e : Entry) : Prop :=
  codeKey code ≠ "" ∧ codeKey e.code = codeKey code ∧ trim e.title.toList ≠ []

theorem titleFor?_eq_some_iff {code title : String} {e : Entry} :
    e.titleFor? (codeKey code) = some title ↔
      e.Titles code ∧ title = String.ofList (trim e.title.toList) := by
  unfold Entry.titleFor? Entry.Titles
  simp only [Option.ite_none_right_eq_some, Option.some.injEq]
  exact and_congr_right fun _ => eq_comm

theorem titleFor?_eq_none_iff {code : String} {e : Entry} :
    e.titleFor? (codeKey code) = none ↔ ¬ e.Titles code := by
  unfold Entry.titleFor? Entry.Titles
  simp

theorem title?_eq_some_iff {g : Glossary} {code title : String} :
    g.title? code = some title ↔
      ∃ e, LastOf (Entry.Titles code) g e ∧ title = String.ofList (trim e.title.toList) := by
  rw [title?, List.findSome?_eq_some_iff]
  constructor
  · rintro ⟨after, e, before, hg, he, hafter⟩
    obtain ⟨htitles, rfl⟩ := titleFor?_eq_some_iff.1 he
    refine ⟨e, ⟨before.reverse, after.reverse, ?_, htitles, fun b hb => ?_⟩, rfl⟩
    · rw [← List.reverse_reverse g, hg]
      simp
    · exact titleFor?_eq_none_iff.1 (hafter b (List.mem_reverse.1 hb))
  · rintro ⟨e, ⟨before, after, rfl, htitles, hafter⟩, rfl⟩
    refine ⟨after.reverse, e, before.reverse, by simp, titleFor?_eq_some_iff.2 ⟨htitles, rfl⟩, ?_⟩
    exact fun b hb => titleFor?_eq_none_iff.2 (hafter b (List.mem_reverse.1 hb))

theorem title?_eq_none_iff {g : Glossary} {code : String} :
    g.title? code = none ↔ ∀ e ∈ g, ¬ e.Titles code := by
  simp [title?, List.findSome?_eq_none_iff, titleFor?_eq_none_iff]

end Glossary

/-! ## Heuristic labels -/

namespace Heuristics

/-- What listed pairs call a key: the label of the last exact pair with the key; or, if there is
none, the label of the longest stem that begins the key. -/
inductive Calls (exact stems : List (String × String)) (key : String) : String → Prop
  | exact {label : String} (h : LastOf (·.1 = key) exact (key, label)) :
      Calls exact stems key label
  | stem {p : String × String} (lacks : ∀ q ∈ exact, q.1 ≠ key) (listed : p ∈ stems)
      (begins : p.1.toList <+: key.toList)
      (longest : ∀ q ∈ stems, q.1.toList <+: key.toList → q = p ∨ q.1.length < p.1.length) :
      Calls exact stems key p.2

theorem label?_eq_some_iff {h : Heuristics} {exact : List (String × String)}
    (hexact : h.exact = Table.ofPairs exact) {code label : String} :
    h.label? code = some label ↔ Calls exact h.stems (codeKey code) label := by
  have hstem : ∀ p, h.stems.find? (begins ·.1 (codeKey code)) = some p ↔ _ := fun _ =>
    find?_stem_eq_some_iff h.reachable
  unfold label?
  dsimp only
  rw [hexact]
  cases hlookup : (Table.ofPairs exact).get? (codeKey code) with
  | some l =>
    have hlast := Table.get?_ofPairs_eq_some_iff.1 hlookup
    constructor
    · intro heq
      obtain rfl := Option.some.inj heq
      exact .exact hlast
    · rintro (hlast' | ⟨hlacks, -, -, -⟩)
      · exact hlookup.symm.trans (Table.get?_ofPairs_eq_some_iff.2 hlast')
      · exact absurd rfl (hlacks _ hlast.mem.1)
  | none =>
    have hlacks := Table.get?_ofPairs_eq_none_iff.1 hlookup
    show (h.stems.find? (begins ·.1 (codeKey code))).map (·.2) = some label ↔ _
    rw [Option.map_eq_some_iff]
    constructor
    · rintro ⟨p, hp, rfl⟩
      obtain ⟨hlisted, hbegins, hlongest⟩ := (hstem p).1 hp
      exact .stem hlacks hlisted hbegins hlongest
    · rintro (hlast | ⟨-, hlisted, hbegins, hlongest⟩)
      · exact absurd rfl (hlacks _ hlast.mem.1)
      · exact ⟨_, (hstem _).2 ⟨hlisted, hbegins, hlongest⟩, rfl⟩

/-- Tables that look up exact keys alike and have the same stems, in any order, give the same
labels. -/
theorem label?_eq_of_perm {h h' : Heuristics} (hexact : ∀ key, h'.exact.get? key = h.exact.get? key)
    (hstems : h'.stems.Perm h.stems) (code : String) : h'.label? code = h.label? code := by
  have hfind : h'.stems.find? (begins ·.1 (codeKey code)) =
      h.stems.find? (begins ·.1 (codeKey code)) := by
    refine Option.ext fun p => ?_
    rw [find?_stem_eq_some_iff h'.reachable, find?_stem_eq_some_iff h.reachable]
    simp only [hstems.mem_iff]
  simp only [label?, hexact, hfind]

end Heuristics

/-! ## Labels -/

/-- What a code is called: by the title of the last entry that gives it one; or by what the listed
pairs call its key, if that is not empty; or by itself. -/
inductive Named (glossary : Glossary) (exact stems : List (String × String)) (code : String) :
    String → Prop
  | title {e : Glossary.Entry} (last : LastOf (Glossary.Entry.Titles code) glossary e) :
      Named glossary exact stems code (String.ofList (trim e.title.toList))
  | heuristic {label : String} (untitled : ∀ e ∈ glossary, ¬ e.Titles code)
      (called : Heuristics.Calls exact stems (codeKey code) label) (some : label ≠ "") :
      Named glossary exact stems code label
  | verbatim (untitled : ∀ e ∈ glossary, ¬ e.Titles code)
      (uncalled : ∀ label, Heuristics.Calls exact stems (codeKey code) label → label = "") :
      Named glossary exact stems code code

namespace Context

variable {ctx : Context} {exact : List (String × String)}
  (hexact : ctx.heuristics.exact = Table.ofPairs exact) {code : String}

include hexact

theorem named_label : Named ctx.glossary exact ctx.heuristics.stems code (ctx.label code) := by
  unfold label
  cases htitle : ctx.glossary.title? code with
  | some title =>
    obtain ⟨e, hlast, rfl⟩ := Glossary.title?_eq_some_iff.1 htitle
    exact .title hlast
  | none =>
    have huntitled := Glossary.title?_eq_none_iff.1 htitle
    dsimp only
    cases hlabel : ctx.heuristics.label? code with
    | some label =>
      have hcalled := (Heuristics.label?_eq_some_iff hexact).1 hlabel
      dsimp only
      split
      · next hempty =>
        refine .verbatim huntitled fun label' hcalled' => ?_
        have hlabel' := (Heuristics.label?_eq_some_iff hexact).2 hcalled'
        rw [hlabel] at hlabel'
        exact (Option.some.inj hlabel').symm.trans hempty
      · next hne => exact .heuristic huntitled hcalled hne
    | none =>
      refine .verbatim huntitled fun label' hcalled' => ?_
      rw [(Heuristics.label?_eq_some_iff hexact).2 hcalled'] at hlabel
      cases hlabel

theorem label_eq_of_named {label : String}
    (h : Named ctx.glossary exact ctx.heuristics.stems code label) : ctx.label code = label := by
  unfold Context.label
  cases h with
  | @title e hlast =>
    rw [Glossary.title?_eq_some_iff.2 ⟨e, hlast, rfl⟩]
  | heuristic huntitled hcalled hne =>
    rw [Glossary.title?_eq_none_iff.2 huntitled, (Heuristics.label?_eq_some_iff hexact).2 hcalled]
    exact if_neg hne
  | verbatim huntitled huncalled =>
    rw [Glossary.title?_eq_none_iff.2 huntitled]
    dsimp only
    cases hlabel : ctx.heuristics.label? code with
    | some label =>
      exact if_pos (huncalled label ((Heuristics.label?_eq_some_iff hexact).1 hlabel))
    | none => rfl

theorem label_eq_iff {label : String} :
    ctx.label code = label ↔ Named ctx.glossary exact ctx.heuristics.stems code label := by
  constructor
  · rintro rfl
    exact named_label hexact
  · exact label_eq_of_named hexact

end Context

namespace Heuristics

/-- The tables of a document label a code by the title of the last entry of a glossary that gives it
one; or, if there is none, by the label of the last pair that the document lists for the key of the
code, or of the longest stem listed that begins the key if there is no such pair; or, if there is
no such label or an empty one, by the code itself. Other tables with the same exact keys, and with
the same stems in any order, give all codes the same labels. -/
theorem labels_resolved {d : Document} {h : Heuristics} (hd : ofDocument d = .ok h) :
    (∃ fields exact, HasFields d fields ∧ Part.exact.Lists fields exact ∧
      Part.stems.Lists fields h.stems ∧
      ∀ (glossary : Glossary) (limits : Limits) (code label : String),
        Context.label ⟨glossary, h, limits⟩ code = label ↔
          Named glossary exact h.stems code label) ∧
    ∀ h' : Heuristics, (∀ key, h'.exact.get? key = h.exact.get? key) → h'.stems.Perm h.stems →
      ∀ (glossary : Glossary) (limits : Limits) (code : String),
        Context.label ⟨glossary, h', limits⟩ code = Context.label ⟨glossary, h, limits⟩ code := by
  obtain ⟨fields, exact, hfields, hexact, hstems, htable⟩ := ofDocument_eq_ok_iff.1 hd
  refine ⟨⟨fields, exact, hfields, hexact, hstems, fun glossary limits code label => ?_⟩, ?_⟩
  · have hctx : (Context.mk glossary h limits).heuristics.exact = Table.ofPairs exact := htable
    exact Context.label_eq_iff hctx
  · intro h' hlookup hperm glossary limits code
    simp only [Context.label, label?_eq_of_perm hlookup hperm]

/-- A key listed twice, an empty label, a stem of another stem, and a title that is blank after one
that is not. -/
theorem labels_resolved_of_listed :
    let entry := fun name (p : String × String) => Document.mapping
      [(.text name, .scalar (.text p.1)), (.text "label", .scalar (.text p.2))]
    let d := Document.mapping
      [(.text "exact",
         .list ([("YO", "Over"), ("BO", ""), ("YO", "Yarn over")].map (entry "code"))),
       (.text "prefixes", .list ([("K2TOG", "Decrease"), ("K", "Knit")].map (entry "prefix")))]
    let glossary : Glossary := [⟨"k", " Knit stitch", ""⟩, ⟨"(K)", " ", ""⟩]
    ∃ h, ofDocument d = .ok h ∧ ∃ fields exact, HasFields d fields ∧
      Part.exact.Lists fields exact ∧ Part.stems.Lists fields h.stems ∧
      Named glossary exact h.stems "k" "Knit stitch" ∧
      Named glossary exact h.stems "yo" "Yarn over" ∧
      Named glossary exact h.stems "k2tog tbl" "Decrease" ∧
      Named glossary exact h.stems "bo" "bo" := by
  intro entry d glossary
  have hread : (ofDocument d).toOption.map
      (fun h => ["k", "yo", "k2tog tbl", "bo"].map (Context.label ⟨glossary, h, {}⟩)) =
      some ["Knit stitch", "Yarn over", "Decrease", "bo"] := by
    decide +kernel
  obtain ⟨h, hd, hlabels⟩ := exists_eq_ok_of_toOption hread
  simp only [List.map_cons, List.map_nil, List.cons.injEq, and_true] at hlabels
  obtain ⟨hk, hyo, hdec, hbo⟩ := hlabels
  obtain ⟨⟨fields, exact, hfields, hexact, hstems, hnamed⟩, -⟩ := labels_resolved hd
  exact ⟨h, hd, fields, exact, hfields, hexact, hstems, (hnamed _ _ _ _).1 hk,
    (hnamed _ _ _ _).1 hyo, (hnamed _ _ _ _).1 hdec, (hnamed _ _ _ _).1 hbo⟩

end Heuristics

end KnitPattern
