/-
  The case of letters has no effect on the counts. The rounds of a text in small letters are those
  of the text in small letters, and labels are looked up by keys that have no case, so two texts
  that differ in the case of letters are read alike where case is not seen. What is shown of the
  two patterns differs at most in the case of letters (`same_but_case`).
-/
import KnitPattern.Proofs.Body.Caseless
import KnitPattern.Proofs.Reading.View
import KnitPattern.Proofs.Text.Quoted

namespace KnitPattern

open Text

/-! ## Labels -/

theorem codeKey_lower (code : String) :
    codeKey (String.ofList (lower code.toList)) = codeKey code := by
  have hupper : Char.toUpper ∘ Char.toLower = Char.toUpper := comp_toLower (by decide)
  have halphanum : Char.isAlphanum ∘ Char.toLower = Char.isAlphanum := comp_toLower (by decide)
  unfold codeKey
  rw [String.toList_ofList, lower, List.filter_map, List.map_map, hupper, halphanum]

theorem codeKey_caseless {code code' : String}
    (h : View.caseless.text code = View.caseless.text code') : codeKey code = codeKey code' := by
  rw [← codeKey_lower code, ← codeKey_lower code']
  exact congrArg codeKey h

/-- Codes that differ in the case of letters have one label, or are their own labels. -/
theorem Context.alike_caseless (ctx : Context) : ctx.Alike .caseless ctx where
  limits := rfl
  label code code' h := by
    have hkey := codeKey_caseless h
    have htitle : ctx.glossary.title? code = ctx.glossary.title? code' := by
      rw [Glossary.title?, Glossary.title?, hkey]
    have hlabel : ctx.heuristics.label? code = ctx.heuristics.label? code' := by
      rw [Heuristics.label?, Heuristics.label?, hkey]
    unfold Context.label
    rw [htitle, hlabel]
    cases ctx.glossary.title? code' with
    | some title => rfl
    | none =>
      cases ctx.heuristics.label? code' with
      | none => exact h
      | some label =>
        dsimp only
        split
        · exact h
        · rfl

/-! ## Extractions -/

namespace Extraction

theorem draft_lower (line : Nat) (s : Section) (n : Nat) :
    draft line s.lower n = (draft line s n).seen .caseless := by
  have hbody : oneSpaced s.lower.body = lower (oneSpaced s.body) := oneSpaced_lower s.body
  have hraw : trim s.lower.text = lower (trim s.text) := by
    rw [Section.text_lower, trim_lower]
  simp only [draft, Draft.seen, View.text, String.toList_ofList, hbody, hraw]
  rfl

theorem ofNumbers_lower (line : Nat) (s : Section) (ns : List Nat) :
    ofNumbers line s.lower ns = (ofNumbers line s ns).seen .caseless := by
  cases ns with
  | nil =>
    have hwritten : trim s.lower.written = lower (trim s.written) := trim_lower s.written
    rw [ofNumbers, hwritten]
    rfl
  | cons n ns =>
    rw [ofNumbers, ofNumbers, seen, List.map_map]
    exact congrArg (Extraction.mk · []) (List.map_congr_left fun m _ => draft_lower line s m)

theorem ofSection_lower (line : Nat) (s : Section) :
    ofSection line s.lower = (ofSection line s).map (seen .caseless) := by
  have hheader : s.lower.header = s.header := rfl
  unfold ofSection
  rw [hheader]
  cases s.header.positives with
  | error why => rfl
  | ok ns => exact congrArg Except.ok (ofNumbers_lower line s ns)

theorem seen_concat (v : View) (es : List Extraction) :
    (concat es).seen v = concat (es.map (seen v)) := by
  rw [concat, concat, seen, List.flatMap_map, List.flatMap_map, List.map_flatMap,
    List.map_flatMap]
  rfl

theorem seen_append (v : View) (a b : Extraction) :
    (append a b).seen v = append (a.seen v) (b.seen v) := by
  simp only [append, seen, List.map_append]

theorem ofLine_lower (l : Line) : ofLine l.lower = (ofLine l).map (seen .caseless) := by
  have hsections := congrArg Prod.snd (Section.ofLine_lower l.text)
  have htext : l.lower.text = lower l.text := rfl
  unfold ofLine
  rw [htext, hsections]
  cases (Section.ofLine l.text).2 with
  | nil => rfl
  | cons s ss =>
    have hmap := mapM_map_eq_map (ofSection_lower l.number) (s :: ss)
    show (do return concat (← (List.map Section.lower (s :: ss)).mapM (ofSection l.number))) = _
    rw [hmap]
    dsimp only
    cases (s :: ss).mapM (ofSection l.number) with
    | error why => rfl
    | ok es => exact congrArg Except.ok (seen_concat .caseless es).symm

/-- The rounds of a text in small letters. -/
theorem ofText_lower (text : String) :
    ofText (String.ofList (lower text.toList)) = (ofText text).map (seen .caseless) := by
  have hgrouped := Line.grouped_lower (Line.significant text.toList)
  rw [← Line.significant_lower] at hgrouped
  unfold ofText
  rw [String.toList_ofList, hgrouped]
  dsimp only
  rw [mapM_map_eq_map ofLine_lower]
  cases (Line.grouped (Line.significant text.toList)).2.mapM ofLine with
  | error why => rfl
  | ok es =>
    refine congrArg Except.ok ?_
    rw [seen_append, seen_concat, List.map_map, seen, List.map_map]
    rfl

end Extraction

/-! ## Texts that differ in the case of letters -/

/-- Two texts differ at most in the case of letters of ASCII. -/
def Text.SameButCase (s t : String) : Prop :=
  lower s.toList = lower t.toList

namespace Text.SameButCase

variable {s s' t t' : String}

theorem refl (s : String) : SameButCase s s := rfl

theorem symm (h : SameButCase s t) : SameButCase t s := Eq.symm h

theorem trans (h : SameButCase s s') (h' : SameButCase s' t) : SameButCase s t :=
  Eq.trans h h'

theorem append (h : SameButCase s s') (h' : SameButCase t t') :
    SameButCase (s ++ t) (s' ++ t') := by
  unfold SameButCase
  rw [String.toList_append, String.toList_append, lower_append, lower_append, h, h']

theorem text_caseless (s : String) : SameButCase (View.caseless.text s) s := by
  unfold SameButCase View.text
  rw [String.toList_ofList]
  exact lower_lower s.toList

theorem of_text (h : View.caseless.text s = View.caseless.text t) : SameButCase s t :=
  String.ofList_inj.1 h

end Text.SameButCase

/-! ## Messages -/

theorem Line.Fault.message_seen (line : Nat) (fault : Line.Fault) :
    Text.SameButCase ((fault.seen .caseless).message line) (fault.message line) := by
  cases fault with
  | stray => exact Text.SameButCase.refl (message line stray)
  | noHeader => exact Text.SameButCase.refl (message line noHeader)
  | noNumber header =>
    have hquote : Text.SameButCase (quote (String.ofList (Text.lower header)))
        (quote (String.ofList header)) := by
      have hlower := lower_quote (String.ofList header)
      rwa [String.toList_ofList] at hlower
    rw [seen, message, message]
    exact ((Text.SameButCase.refl _).append hquote).append (.refl _)

theorem Problem.message_seen (b : Problem) :
    Text.SameButCase (b.seen .caseless).message b.message := by
  cases b with
  | line number fault => exact fault.message_seen number
  | round label why => exact .refl _
  | noted text => exact .text_caseless text

theorem Advice.message_seen (a : Advice) :
    Text.SameButCase (a.seen .caseless).message a.message := by
  cases a with
  | round label remark =>
    refine (Text.SameButCase.refl (label ++ ": ")).append ?_
    cases remark with
    | clamped times limit => exact .refl _
    | operation remark =>
      cases remark with
      | unrecognized code =>
        exact ((Text.SameButCase.refl _).append (.text_caseless code)).append (.refl _)
      | tooWide code limit =>
        exact ((((Text.SameButCase.refl _).append (.text_caseless code)).append (.refl _)).append
          (.refl _)).append (.refl _)
      | noted text => exact .text_caseless text
  | noted text => exact .text_caseless text

/-! ## Rows -/

/-- Two steps have the same count, and codes and labels that differ at most in case. -/
structure Step.SameButCase (s t : Step) : Prop where
  code : Text.SameButCase s.code t.code
  label : Text.SameButCase s.label t.label
  count : s.count = t.count

/-- Two rows have the same names and counts, and texts that differ at most in case. -/
structure Row.SameButCase (r s : Row) : Prop where
  id : r.id = s.id
  label : r.label = s.label
  startCount : r.startCount = s.startCount
  endCount : r.endCount = s.endCount
  total : r.total = s.total
  sequence : List.Forall₂ Step.SameButCase r.sequence s.sequence
  raw : Text.SameButCase r.raw s.raw

theorem Step.sameButCase_of_seen {s t : Step} (h : s.seen .caseless = t.seen .caseless) :
    s.SameButCase t := by
  obtain ⟨hcode, hlabel, hcount⟩ := Step.mk.inj h
  exact ⟨.of_text hcode, String.ofList_inj.1 hlabel, hcount⟩

theorem Row.total_seen (v : View) (r : Row) : (r.seen v).total = r.total := by
  rw [total, total, seen, List.map_map]
  rfl

theorem Row.sameButCase_of_seen {r s : Row} (h : r.seen .caseless = s.seen .caseless) :
    r.SameButCase s := by
  have htotal : r.total = s.total := by
    rw [← total_seen .caseless, h, total_seen]
  obtain ⟨hindex, hnumber, hraw, hlabel, hsequence, hstart, hend⟩ := Row.mk.inj h
  have hid : r.id = s.id := by
    rw [id, id, hindex, hnumber]
  have hsteps := (map_eq_map_iff_forall₂.1 hsequence).imp fun _ _ => Step.sameButCase_of_seen
  exact ⟨hid, hlabel, hstart, hend, htotal, hsteps, .of_text hraw⟩

/-! ## Whole patterns -/

/-- Two patterns have rows and problems that differ at most in case, one by one, and advice that
differs at most in case, but for its order and number. -/
structure Pattern.SameButCase (p q : Pattern) : Prop where
  rows : List.Forall₂ Row.SameButCase p.rows q.rows
  problems : List.Forall₂ (fun b c => Text.SameButCase b.message c.message) p.problems q.problems
  advice : ∀ a ∈ p.advice, ∃ b ∈ q.advice, Text.SameButCase a.message b.message
  advice' : ∀ b ∈ q.advice, ∃ a ∈ p.advice, Text.SameButCase a.message b.message

namespace Pattern

/-- Of advice that looks alike something is left, and its message differs at most in case. -/
theorem exists_advice_of_seen {p q : Progress}
    (h : p.advice.map (Advice.seen .caseless) = q.advice.map (Advice.seen .caseless)) :
    ∀ a ∈ (ofProgress p).advice, ∃ b ∈ (ofProgress q).advice,
      Text.SameButCase a.message b.message := by
  intro a ha
  have hseen : a.seen .caseless ∈ q.advice.map (Advice.seen .caseless) := by
    rw [← h]
    exact List.mem_map_of_mem (firstsBy_sublist.subset ha)
  obtain ⟨c, hc, hlook⟩ := List.mem_map.1 hseen
  have hmessage : c.message ∈ (firstsBy Advice.message q.advice).map Advice.message :=
    mem_map_firstsBy.2 (List.mem_map_of_mem hc)
  obtain ⟨b, hb, heq⟩ := List.mem_map.1 hmessage
  refine ⟨b, hb, ?_⟩
  have hcase := c.message_seen
  rw [hlook] at hcase
  rw [heq]
  exact a.message_seen.symm.trans hcase

theorem sameButCase_ofProgress {p q : Progress} (h : p.seen .caseless = q.seen .caseless) :
    (ofProgress p).SameButCase (ofProgress q) := by
  obtain ⟨-, -, hrows, hproblems, hadvice⟩ := Progress.mk.inj h
  rw [map_eq_map_iff_forall₂] at hrows hproblems
  refine ⟨hrows.imp fun _ _ => Row.sameButCase_of_seen, hproblems.imp fun b c hlook => ?_,
    exists_advice_of_seen hadvice, fun b hb => ?_⟩
  · have hcase := b.message_seen
    rw [hlook] at hcase
    exact hcase.symm.trans c.message_seen
  · obtain ⟨a, ha, hcase⟩ := exists_advice_of_seen hadvice.symm b hb
    exact ⟨a, ha, hcase.symm⟩

/-- If a text is read, then so is every text that differs from it in the case of letters of ASCII,
and the two patterns differ at most in the case of letters: they have the same rows with the same
counts, problem for problem the same, and no advice of one is missing in the other. -/
theorem same_but_case {text text' : String} {settings : Settings} {heuristics : Heuristics}
    {glossary : Option Glossary} {starting : Option Int} {pat : Pattern}
    (htext : Text.SameButCase text text')
    (h : ofText text settings heuristics glossary starting = .ok pat) :
    ∃ pat', ofText text' settings heuristics glossary starting = .ok pat' ∧
      pat.SameButCase pat' := by
  obtain ⟨e, last, he, hrun, rfl⟩ := ofText_eq_ok_iff.1 h
  have hextracted : (Extraction.ofText text').map (Extraction.seen .caseless) =
      .ok (e.seen .caseless) := by
    rw [← Extraction.ofText_lower, ← htext, Extraction.ofText_lower, he]
    rfl
  obtain ⟨e', he', hlook⟩ := map_eq_ok_iff.1 hextracted
  have hread := seen_run_start View.respected_caseless
    (Context.alike_caseless (context settings heuristics glossary))
    (starting.getD settings.starting) hlook
  rw [hrun] at hread
  obtain ⟨last', hrun', hseen⟩ := map_eq_ok_iff.1 hread
  exact ⟨ofProgress last', ofText_eq_ok_iff.2 ⟨e', last', he', hrun', rfl⟩,
    sameButCase_ofProgress hseen.symm⟩

/-- Instructions that no shape fits, spelled in two ways and in one, a header without a number, a
note and a reference, in two mixtures of capital and small letters. -/
theorem same_but_case_of_mixed :
    let text := "Rnd 1: K2, yo, zz, ZZ\nRow 0: k1\nNote: Row 5\nRND 3: See rnd 1"
    let text' := "RND 1: k2, YO, Zz, Zz\nROW 0: K1\nNOTE: row 5\nrnd 3: SEE Rnd 1"
    Text.SameButCase text text' ∧ ∃ pat pat', ofText text = .ok pat ∧ ofText text' = .ok pat' ∧
      (pat.rows.length, pat.problems.length, pat.advice.length) = (2, 1, 4) ∧
      pat'.advice.length = 2 ∧ pat.SameButCase pat' := by
  intro text text'
  have htext : Text.SameButCase text text' := by
    unfold Text.SameButCase
    decide +kernel
  have hread : (ofText text).toOption.map (fun pat =>
      (pat.rows.length, pat.problems.length, pat.advice.length)) = some (2, 1, 4) := by
    decide +kernel
  have hread' : (ofText text').toOption.map (·.advice.length) = some 2 := by
    decide +kernel
  cases h : ofText text with
  | error why =>
    rw [h] at hread
    cases hread
  | ok pat =>
    rw [h] at hread
    obtain ⟨pat', h', hsame⟩ := same_but_case htext h
    rw [h'] at hread'
    exact ⟨htext, pat, pat', rfl, h', Option.some.inj hread, Option.some.inj hread', hsame⟩

end Pattern

end KnitPattern
