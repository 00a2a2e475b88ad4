/-
  Views: what is seen of operations by one who does not tell all characters apart, or all labels.
  The arithmetic of a text reads neither, so texts whose operations look alike look alike as a
  whole (`seen_expand`). Views are used to compare two readings, of two texts or under two
  sets of labels.
-/
import KnitPattern.Proofs.Body.Unrolling
import KnitPattern.Round.Reference

namespace KnitPattern

open Text Body

/-- As what a character and a label are seen. -/
structure View where
  char : Char → Char
  label : String → String

/-- A text as it is seen. -/
def View.text (v : View) (s : String) : String :=
  String.ofList (s.toList.map v.char)

variable (v : View)

/-! ## Operations as they are seen -/

def Operation.Remark.seen : Operation.Remark → Operation.Remark
  | unrecognized code => unrecognized (v.text code)
  | tooWide code limit => tooWide (v.text code) limit
  | noted text => noted (v.text text)

def Operation.seen (op : Operation) : Operation :=
  { op with code := v.text op.code, label := v.label op.label,
            remark := op.remark.map (Remark.seen v) }

def Body.Remark.seen : Body.Remark → Body.Remark
  | clamped times limit => clamped times limit
  | operation remark => operation (remark.seen v)

def Expansion.seen (e : Expansion) : Expansion :=
  ⟨e.operations.map (Operation.seen v), e.remarks.map (Body.Remark.seen v)⟩

/-- The form of a text as it is seen; the numeral of a block is seen as it is. -/
def Body.Form.seen : Form → Form
  | around => around
  | block inner times => block (inner.map v.char) times
  | plain text => plain (text.map v.char)

/-- Texts that look alike are read alike. -/
structure View.Respected (v : View) : Prop where
  reference : ∀ b b', v.text b = v.text b' → Draft.reference? b = Draft.reference? b'
  form : ∀ s s', s.map v.char = s'.map v.char → (form (trim s)).seen v = (form (trim s')).seen v
  tokens : ∀ s s', s.map v.char = s'.map v.char →
    (Token.split s).map (List.map v.char) = (Token.split s').map (List.map v.char)
  around : ∀ s s', s.map v.char = s'.map v.char → isAround s = isAround s'
  stitch : ∀ s s', s.map v.char = s'.map v.char → Stitch.ofToken? s = Stitch.ofToken? s'

/-- Two contexts with the same limits give labels that look alike. -/
structure Context.Alike (v : View) (ctx ctx' : Context) : Prop where
  limits : ctx'.limits = ctx.limits
  label : ∀ code code', v.text code = v.text code' →
    v.label (ctx.label code) = v.label (ctx'.label code')

namespace Operation

variable {v} {ops ops' : List Operation}

theorem totalUnits_seen (ops : List Operation) :
    totalUnits (ops.map (seen v)) = totalUnits ops := by
  rw [totalUnits, totalUnits, List.map_map]
  rfl

theorem remarks_seen (ops : List Operation) :
    remarks (ops.map (seen v)) = (remarks ops).map (Body.Remark.seen v) := by
  unfold remarks
  rw [List.filterMap_map, List.map_map, List.map_filterMap, List.map_filterMap]
  refine List.filterMap_congr fun op _ => ?_
  exact Option.map_map ..

/-- Operations that look alike fill the same cells. -/
theorem totalUnits_eq_of_seen (h : ops.map (seen v) = ops'.map (seen v)) :
    totalUnits ops = totalUnits ops' := by
  rw [← totalUnits_seen (v := v), h, totalUnits_seen]

theorem remarks_eq_of_seen (h : ops.map (seen v) = ops'.map (seen v)) :
    (remarks ops).map (Body.Remark.seen v) = (remarks ops').map (Body.Remark.seen v) := by
  rw [← remarks_seen, h, remarks_seen]

/-- The message of a remark can be written if that of the remark as it is seen can be. -/
theorem map_seen_written (op : Operation) : op.written.map (seen v) = (op.seen v).written := by
  have hremark : ∀ r : Remark, (r.seen v).isWritable = r.isWritable := by
    intro r
    cases r <;> rfl
  have hall : (op.seen v).remark.all Remark.isWritable = op.remark.all Remark.isWritable := by
    rw [seen, Option.all_map]
    exact congrArg (op.remark.all ·) (funext hremark)
  unfold written
  rw [hall]
  split <;> rfl

theorem length_eq_of_seen (h : ops.map (seen v) = ops'.map (seen v)) :
    ops.length = ops'.length := by
  simpa using congrArg List.length h

end Operation

theorem map_copies {α β : Type} (f : α → β) (n : Nat) (as : List α) :
    (copies n as).map f = copies n (as.map f) := by
  rw [copies_eq, copies_eq, List.map_flatten, List.map_replicate]

/-! ## Expansions -/

namespace Context

variable {v : View} {ctx ctx' : Context} {live : Int}

section Limits

variable (hlimits : ctx'.limits = ctx.limits)
include hlimits

theorem checkStitches_congr (units : Int) : ctx'.checkStitches units = ctx.checkStitches units := by
  unfold checkStitches
  rw [hlimits]

variable {s s' : List Char}
  (hops : (ctx.operations live s).map (List.map (Operation.seen v)) =
    (ctx'.operations live s').map (List.map (Operation.seen v)))
include hops

theorem seen_expandPlain :
    (ctx.expandPlain live s).map (Expansion.seen v) =
      (ctx'.expandPlain live s').map (Expansion.seen v) := by
  refine bind_map_eq hops fun ops ops' h => ?_
  rw [checkStitches_congr hlimits, Operation.totalUnits_eq_of_seen h]
  cases ctx.checkStitches (Operation.totalUnits ops') with
  | error why => rfl
  | ok u =>
    show Except.ok (Expansion.seen v ⟨ops, _⟩) = Except.ok (Expansion.seen v ⟨ops', _⟩)
    rw [Expansion.seen, Expansion.seen, h, Operation.remarks_eq_of_seen h]

theorem seen_expandBlock (times : List Char) :
    (ctx.expandBlock live s times).map (Expansion.seen v) =
      (ctx'.expandBlock live s' times).map (Expansion.seen v) := by
  have hallowed : ctx'.allowed times = ctx.allowed times := by
    rw [allowed, allowed, hlimits]
  have hclamp : ∀ asked, ctx'.clamp asked = ctx.clamp asked := by
    intro asked
    rw [clamp, clamp, hlimits]
  by_cases hlen : times.length ≤ Halt.digitLimit
  · rw [ctx.expandBlock_eq_bind live s hlen, ctx'.expandBlock_eq_bind live s' hlen, hallowed,
      hclamp]
    refine bind_map_eq hops fun ops ops' h => ?_
    rw [checkStitches_congr hlimits, Operation.totalUnits_eq_of_seen h,
      Operation.length_eq_of_seen h]
    cases ctx.clamp (Numeral.value times) with
    | error why => rfl
    | ok clamped =>
      cases ctx.checkStitches (Operation.totalUnits ops' * ctx.allowed times) with
      | error why => rfl
      | ok u =>
        show Except.map _ (ite _ _ _) = Except.map _ (ite _ _ _)
        split
        · rfl
        split
        · rfl
        · show Except.ok (Expansion.seen v _) = Except.ok (Expansion.seen v _)
          rw [Expansion.seen, Expansion.seen, map_copies, map_copies, h, List.map_append,
            List.map_append, Operation.remarks_eq_of_seen h]
  · -- a numeral that is too long halts both
    refine bind_map_eq hops fun ops ops' h => ?_
    rw [Numeral.read, if_neg hlen]
    rfl

end Limits

/-! ### Labels and characters -/

variable (w : ctx.Alike v ctx')
include w

theorem seen_around : (ctx.around live).map (Operation.seen v) =
    (ctx'.around live).map (Operation.seen v) := by
  unfold around
  rw [checkStitches_congr w.limits]
  cases ctx.checkStitches live with
  | error why => rfl
  | ok u =>
    show Except.ok (Operation.seen v _) = Except.ok (Operation.seen v _)
    simp only [Operation.seen, aroundOperation, w.label _ _ rfl]

theorem seen_guess {code code' : String} (hcode : v.text code = v.text code')
    {remark remark' : Operation.Remark} (hremark : remark.seen v = remark'.seen v) :
    (Operation.guess code (ctx.label code) remark).seen v =
      (Operation.guess code' (ctx'.label code') remark').seen v := by
  simp only [Operation.seen, Operation.guess, Option.map_some, hcode, hremark,
    w.label _ _ hcode]

theorem seen_limited {code code' : String} (hcode : v.text code = v.text code')
    (c : Stitch.Counts) :
    (ctx.limited code c).seen v = (ctx'.limited code' c).seen v := by
  unfold limited
  rw [w.limits]
  split
  · refine seen_guess w hcode ?_
    rw [Operation.Remark.seen, Operation.Remark.seen, hcode]
  · simp only [Operation.seen, Option.map_none, hcode, w.label _ _ hcode]

variable (hv : v.Respected) {s s' : List Char} (hs : s.map v.char = s'.map v.char)
include hv hs

theorem seen_classify :
    (ctx.classify (String.ofList s)).map (Operation.seen v) =
      (ctx'.classify (String.ofList s')).map (Operation.seen v) := by
  have hcode : v.text (String.ofList s) = v.text (String.ofList s') := by
    rw [View.text, View.text, String.toList_ofList, String.toList_ofList, hs]
  unfold classify
  rw [String.toList_ofList, String.toList_ofList, hv.stitch s s' hs]
  cases Stitch.ofToken? s' with
  | none =>
    refine congrArg Except.ok (seen_guess w hcode ?_)
    rw [Operation.Remark.seen, Operation.Remark.seen, hcode]
  | some stitch =>
    dsimp only
    cases stitch.counts with
    | error why => rfl
    | ok c =>
      show (ctx.limited _ c).written.map _ = (ctx'.limited _ c).written.map _
      rw [Operation.map_seen_written, Operation.map_seen_written, seen_limited w hcode c]

theorem seen_operation :
    (ctx.operation live s).map (Operation.seen v) =
      (ctx'.operation live s').map (Operation.seen v) := by
  unfold operation
  rw [hv.around s s' hs]
  split
  · exact seen_around w
  · rw [liftM_map, liftM_map, seen_classify w hv hs]

theorem seen_operations :
    (ctx.operations live s).map (List.map (Operation.seen v)) =
      (ctx'.operations live s').map (List.map (Operation.seen v)) := by
  have htokens := map_eq_map_iff_forall₂.1 (hv.tokens s s' hs)
  exact mapM_map_eq (htokens.imp fun t t' ht => seen_operation w hv ht)

omit hs in
/-- Texts that look alike have expansions that look alike. -/
theorem seen_expand {body body' : String} (hbody : v.text body = v.text body') :
    (ctx.expand live body).map (Expansion.seen v) =
      (ctx'.expand live body').map (Expansion.seen v) := by
  have hform := hv.form body.toList body'.toList (String.ofList_inj.1 hbody)
  rw [expand_eq, expand_eq]
  generalize form (trim body.toList) = f at hform ⊢
  generalize form (trim body'.toList) = f' at hform ⊢
  cases f with
  | around =>
    cases f' with
    | around =>
      refine bind_map_eq (seen_around w) fun op op' hop => ?_
      show Except.ok (Expansion.seen v ⟨[op], []⟩) = Except.ok (Expansion.seen v ⟨[op'], []⟩)
      rw [Expansion.seen, Expansion.seen, List.map_singleton, List.map_singleton, hop]
    | _ => cases hform
  | block inner times =>
    cases f' with
    | block inner' times' =>
      obtain ⟨hinner, rfl⟩ := Form.block.inj hform
      exact seen_expandBlock w.limits (seen_operations w hv hinner) times
    | _ => cases hform
  | plain text =>
    cases f' with
    | plain text' =>
      exact seen_expandPlain w.limits (seen_operations w hv (Form.plain.inj hform))
    | _ => cases hform

end Context

end KnitPattern
