/-
  Bodies at two live counts. An instruction to knit around covers as many stitches as are live and
  changes their number by none; no other instruction reads the live count. So where a body has
  operations at both counts, these match one by one in everything but the stitches that they cover
  (`matches_of_expand`), and together they change the live count alike (`totalDelta_eq_of_matches`).
-/
import KnitPattern.Proofs.Body.Size

namespace KnitPattern

open Text Body

/-! ## Operations that match -/

namespace Operation

/-- The operations are written, called and remarked about alike, and make the same net change;
the cells that they fill may differ. -/
structure Matches (op op' : Operation) : Prop where
  code : op'.code = op.code
  label : op'.label = op.label
  remark : op'.remark = op.remark
  delta : op'.delta = op.delta

theorem Matches.refl (op : Operation) : op.Matches op :=
  ⟨rfl, rfl, rfl, rfl⟩

variable {ops ops' : List Operation}

theorem totalDelta_eq_of_matches (h : List.Forall₂ Matches ops ops') :
    totalDelta ops' = totalDelta ops := by
  induction h with
  | nil => rfl
  | @cons op op' ops ops' hop _ ih =>
    show op'.delta + totalDelta ops' = op.delta + totalDelta ops
    rw [hop.delta, ih]

theorem remarks_eq_of_matches (h : List.Forall₂ Matches ops ops') : remarks ops' = remarks ops := by
  have hmap : ops.map remark = ops'.map remark :=
    map_eq_map_iff_forall₂.2 (h.imp fun _ _ hop => hop.remark.symm)
  have hremarks (os : List Operation) : os.filterMap remark = (os.map remark).filterMap id := by
    simp [List.filterMap_map]
  rw [remarks, remarks, hremarks ops, hremarks ops', hmap]

theorem matches_copies (n : Nat) (h : List.Forall₂ Matches ops ops') :
    List.Forall₂ Matches (copies n ops) (copies n ops') := by
  rw [copies_eq, copies_eq]
  induction n with
  | zero => exact .nil
  | succ n ih =>
    simp only [List.replicate_succ, List.flatten_cons]
    exact List.rel_append h ih

end Operation

/-! ## One text at two counts -/

namespace Context

variable {ctx : Context} {live live' : Int}

theorem delta_aroundOperation (ctx : Context) (live : Int) : (ctx.aroundOperation live).delta = 0 :=
  Int.sub_self _

theorem matches_of_operation {token : List Char} {op op' : Operation}
    (h : ctx.operation live token = .ok op) (h' : ctx.operation live' token = .ok op') :
    op.Matches op' := by
  unfold operation at h h'
  by_cases haround : isAround token = true
  · rw [if_pos haround] at h h'
    obtain ⟨-, rfl⟩ := around_eq_ok_iff.1 h
    obtain ⟨-, rfl⟩ := around_eq_ok_iff.1 h'
    exact ⟨rfl, rfl, rfl, by simp [delta_aroundOperation]⟩
  · rw [if_neg haround] at h h'
    obtain rfl := Except.ok.inj (h.symm.trans h')
    exact .refl op

theorem matches_of_operations {text : List Char} {ops ops' : List Operation}
    (h : ctx.operations live text = .ok ops) (h' : ctx.operations live' text = .ok ops') :
    List.Forall₂ Operation.Matches ops ops' := by
  have htokens := mapM_eq_ok_iff.1 h
  have htokens' := mapM_eq_ok_iff.1 h'
  clear h h'
  generalize Token.split text = tokens at htokens htokens'
  induction htokens generalizing ops' with
  | nil =>
    cases htokens'
    exact .nil
  | cons hop _ ih =>
    cases htokens' with
    | cons hop' hrest => exact .cons (matches_of_operation hop hop') (ih hrest)

/-- A body with operations at two live counts has operations that match, with the same remarks. -/
theorem matches_of_expand {body : String} {e e' : Expansion} (h : ctx.expand live body = .ok e)
    (h' : ctx.expand live' body = .ok e') :
    List.Forall₂ Operation.Matches e.operations e'.operations ∧ e'.remarks = e.remarks := by
  rw [ctx.expand_eq] at h h'
  generalize form (trim body.toList) = f at h h'
  cases f with
  | around =>
    obtain ⟨op, hop, h⟩ := bind_eq_ok_iff.1 h
    obtain ⟨op', hop', h'⟩ := bind_eq_ok_iff.1 h'
    cases h
    cases h'
    obtain ⟨-, rfl⟩ := around_eq_ok_iff.1 hop
    obtain ⟨-, rfl⟩ := around_eq_ok_iff.1 hop'
    exact ⟨.cons ⟨rfl, rfl, rfl, by simp [delta_aroundOperation]⟩ .nil, rfl⟩
  | block inner times =>
    obtain ⟨-, -, ops, hops, -, -, -, rfl⟩ := expandBlock_eq_ok_iff.1 h
    obtain ⟨-, -, ops', hops', -, -, -, rfl⟩ := expandBlock_eq_ok_iff.1 h'
    have hmatch := matches_of_operations hops hops'
    exact ⟨Operation.matches_copies _ hmatch, by rw [Operation.remarks_eq_of_matches hmatch]⟩
  | plain text =>
    obtain ⟨ops, hops, -, rfl⟩ := expandPlain_eq_ok_iff.1 h
    obtain ⟨ops', hops', -, rfl⟩ := expandPlain_eq_ok_iff.1 h'
    have hmatch := matches_of_operations hops hops'
    exact ⟨hmatch, Operation.remarks_eq_of_matches hmatch⟩

end Context

end KnitPattern
