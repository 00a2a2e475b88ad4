/-
  The values before. A counter keeps them as a stack: an increment that changes the value puts it
  on the stack, and going back takes the latest value off again (`Step`, which says all that an
  action can do). So the number of values before is told by the actions (`length_past_of_trace`),
  and where every undo takes back an increment of the same run, the run ends where it began
  (`Above.finish`), since whatever was on the stack at first is never reached.
-/
import KnitPattern.Proofs.Timeline.Linked
import KnitPattern.Proofs.Text.Trim
import Mathlib.Data.List.Infix

namespace KnitPattern

namespace Counter

variable {c c' : Counter}

/-! ## Counters that can be built -/

/-- The counter has a label, and no negative value to go back to. (Its own value is never
negative.) -/
structure Sound (c : Counter) : Prop where
  titled : Text.trim c.label.toList ≠ []
  past_nonneg : ∀ v ∈ c.past, 0 ≤ v

theorem value?_eq_ok_iff {given : Int} {value : Nat} :
    value? given = .ok value ↔ given = value := by
  unfold value?
  split
  · next hneg =>
    refine ⟨nofun, fun h => ?_⟩
    omega
  · next hnonneg =>
    rw [Except.ok.injEq]
    omega

theorem Kind.trim_label_ne_nil (kind : Kind) : Text.trim kind.label.toList ≠ [] := by
  cases kind <;> decide

/-- What is built from no negative values is sound. -/
theorem Sound.of_new {id label : String} {kind : Kind} {value : Int} {past : List Int}
    {linked : Bool} (h : new id kind label value past linked = .ok c)
    (hpast : ∀ v ∈ past, 0 ≤ v) : c.Sound := by
  obtain ⟨n, -, h⟩ := bind_eq_ok_iff.1 h
  cases h
  refine ⟨?_, hpast⟩
  dsimp only
  split
  · exact kind.trim_label_ne_nil
  · next htitled => exact htitled

/-- The sound counters are those that are built from their own fields. -/
theorem sound_iff_new : c.Sound ↔
    new c.id c.kind c.label c.value c.past c.linked = .ok c ∧ ∀ v ∈ c.past, 0 ≤ v := by
  constructor
  · rintro ⟨htitled, hpast⟩
    refine ⟨?_, hpast⟩
    unfold new
    rw [if_neg htitled, value?_eq_ok_iff.2 rfl]
    rfl
  · rintro ⟨hnew, hpast⟩
    exact .of_new hnew hpast

/-! ## Actions -/

/-- What can be done to a counter. -/
inductive Action where
  | increment (amount : Int)
  | undo
  | setValue (value : Int)
  | rename (label : String)
  | incrementLinked (amount : Int) (rows : List Row) (cursor : Cursor)
  deriving DecidableEq

/-- Whether an action adds an amount. -/
def Action.isIncrement : Action → Bool
  | increment _ | incrementLinked .. => true
  | _ => false

/-- What an action makes of a counter. -/
def act (c : Counter) : Action → Except Fault Counter
  | .increment amount => .ok (c.increment amount)
  | .undo => c.undo
  | .setValue value => .ok (c.setValue value)
  | .rename label => .ok (c.rename label)
  | .incrementLinked amount rows cursor => .ok (c.incrementLinked amount rows cursor).1

/-- All that an action can do to a counter. -/
inductive Step (c : Counter) : Action → Counter → Prop
  | recorded {a : Action} {value : Nat} (ha : a.isIncrement = true) (hne : value ≠ c.value) :
      Step c a { c with value, past := c.value :: c.past }
  | unchanged {a : Action} (ha : a.isIncrement = true) : Step c a c
  | undone {value : Nat} {past : List Int} (h : c.past = (value : Int) :: past) :
      Step c .undo { c with value, past }
  | nothingToUndo (h : c.past = []) : Step c .undo c
  | set (given : Int) (value : Nat) : Step c (.setValue given) { c with value }
  | renamed {given label : String} (h : Text.trim label.toList ≠ []) :
      Step c (.rename given) { c with label }
  | sameName (given : String) : Step c (.rename given) c

theorem Step.of_increment {a : Action} (ha : a.isIncrement = true) (amount : Int) :
    c.Step a (c.increment amount) := by
  unfold increment
  dsimp only
  split
  · exact .unchanged ha
  · next hne => exact .recorded ha hne

theorem Step.of_rename (given : String) : c.Step (.rename given) (c.rename given) := by
  unfold rename
  dsimp only
  split
  · exact .sameName given
  · next hne =>
    refine .renamed ?_
    rw [String.toList_ofList, Text.trim_trim]
    exact hne

theorem Step.of_undo (h : c.undo = .ok c') : c.Step .undo c' := by
  unfold undo at h
  split at h
  · next hpast =>
    cases h
    exact .nothingToUndo hpast
  · next v past hpast =>
    obtain ⟨value, hvalue, h⟩ := bind_eq_ok_iff.1 h
    cases h
    rw [value?_eq_ok_iff.1 hvalue] at hpast
    exact .undone hpast

theorem Step.of_act {a : Action} (h : c.act a = .ok c') : c.Step a c' := by
  cases a with
  | undo => exact .of_undo h
  | increment amount =>
    cases h
    exact .of_increment rfl amount
  | setValue value =>
    cases h
    exact .set value value.toNat
  | rename label =>
    cases h
    exact .of_rename label
  | incrementLinked amount rows cursor =>
    rw [act, fst_incrementLinked] at h
    cases h
    exact .of_increment rfl amount

/-- Only going back to a negative value fails. -/
theorem Sound.exists_act (hc : c.Sound) (a : Action) : ∃ c', c.act a = .ok c' := by
  cases a with
  | undo =>
    show ∃ c', c.undo = .ok c'
    unfold undo
    split
    · exact ⟨c, rfl⟩
    · next v past hpast =>
      have hv : 0 ≤ v := hc.past_nonneg v (by rw [hpast]; exact List.mem_cons_self)
      rw [value?_eq_ok_iff.2 (Int.toNat_of_nonneg hv).symm]
      exact ⟨_, rfl⟩
  | _ => exact ⟨_, rfl⟩

theorem Sound.step {a : Action} (hc : c.Sound) (h : c.Step a c') : c'.Sound := by
  cases h with
  | recorded ha hne =>
    exact ⟨hc.titled, List.forall_mem_cons.2 ⟨Int.natCast_nonneg _, hc.past_nonneg⟩⟩
  | undone h =>
    have hpast := hc.past_nonneg
    rw [h] at hpast
    exact ⟨hc.titled, (List.forall_mem_cons.1 hpast).2⟩
  | set given value => exact ⟨hc.titled, hc.past_nonneg⟩
  | renamed h => exact ⟨h, hc.past_nonneg⟩
  | unchanged ha => exact hc
  | nothingToUndo h => exact hc
  | sameName given => exact hc

/-- What no action changes. -/
theorem Step.same {a : Action} (h : c.Step a c') :
    c'.id = c.id ∧ c'.kind = c.kind ∧ c'.linked = c.linked := by
  cases h <;> exact ⟨rfl, rfl, rfl⟩

/-! ## Actions one after another -/

/-- An action, with the counter before it and the counter after it. -/
structure Moment where
  before : Counter
  action : Action
  after : Counter
  deriving DecidableEq

/-- The action is an increment that changes the value. -/
def Moment.changes (m : Moment) : Bool :=
  m.action.isIncrement && m.after.value != m.before.value

/-- The action is to go back. -/
def Moment.isUndo (m : Moment) : Bool :=
  m.action == .undo

/-- The action is to go back, and there is a value to go back to. -/
def Moment.goesBack (m : Moment) : Bool :=
  m.isUndo && !m.before.past.isEmpty

theorem Moment.isUndo_of_isIncrement {m : Moment} (h : m.action.isIncrement = true) :
    m.isUndo = false := by
  unfold isUndo
  cases ha : m.action with
  | undo =>
    rw [ha] at h
    cases h
  | _ => rfl

theorem Moment.changes_of_isUndo {m : Moment} (h : m.isUndo = true) : m.changes = false := by
  have hnot : m.action.isIncrement = false := by
    rw [isUndo, beq_iff_eq] at h
    rw [h]
    rfl
  rw [changes, hnot, Bool.false_and]

/-- The moments of a run of actions. -/
def trace (c : Counter) : List Action → Except Fault (List Moment)
  | [] => .ok []
  | a :: as => do
    let c' ← c.act a
    return ⟨c, a, c'⟩ :: (← trace c' as)

/-- The counter after the last moment. -/
def finish (c : Counter) (t : List Moment) : Counter :=
  t.foldl (fun _ m => m.after) c

theorem trace_cons_eq_ok_iff {a : Action} {as : List Action} {t : List Moment} :
    c.trace (a :: as) = .ok t ↔
      ∃ c' rest, c.act a = .ok c' ∧ c'.trace as = .ok rest ∧ t = ⟨c, a, c'⟩ :: rest := by
  rw [trace]
  constructor
  · intro h
    obtain ⟨c', hact, h⟩ := bind_eq_ok_iff.1 h
    obtain ⟨rest, hrest, h⟩ := bind_eq_ok_iff.1 h
    cases h
    exact ⟨c', rest, hact, hrest, rfl⟩
  · rintro ⟨c', rest, hact, hrest, rfl⟩
    exact bind_eq_ok_iff.2 ⟨c', hact, bind_eq_ok_iff.2 ⟨rest, hrest, rfl⟩⟩

theorem Sound.exists_trace (hc : c.Sound) (as : List Action) : ∃ t, c.trace as = .ok t := by
  induction as generalizing c with
  | nil => exact ⟨[], rfl⟩
  | cons a as ih =>
    obtain ⟨c', hact⟩ := hc.exists_act a
    obtain ⟨rest, hrest⟩ := ih (hc.step (.of_act hact))
    exact ⟨_, trace_cons_eq_ok_iff.2 ⟨c', rest, hact, hrest, rfl⟩⟩

/-- What every action keeps holds after every moment of a run. -/
theorem forall_after_of_trace {P : Counter → Prop} (hP : P c)
    (hstep : ∀ c a c', P c → Step c a c' → P c') {as : List Action} {t : List Moment}
    (h : c.trace as = .ok t) : ∀ m ∈ t, P m.after := by
  induction as generalizing c t with
  | nil =>
    cases h
    exact List.forall_mem_nil _
  | cons a as ih =>
    obtain ⟨c', rest, hact, hrest, rfl⟩ := trace_cons_eq_ok_iff.1 h
    have hP' : P c' := hstep c a c' hP (.of_act hact)
    exact List.forall_mem_cons.2 ⟨hP', ih hP' hrest⟩

/-! ## The number of values before -/

theorem length_past_of_step {a : Action} (h : c.Step a c') :
    c'.past.length + (if Moment.goesBack ⟨c, a, c'⟩ then 1 else 0) =
      c.past.length + (if Moment.changes ⟨c, a, c'⟩ then 1 else 0) := by
  cases h with
  | recorded ha hne =>
    simp [Moment.goesBack, Moment.isUndo_of_isIncrement, Moment.changes, ha, hne]
  | unchanged ha => simp [Moment.goesBack, Moment.isUndo_of_isIncrement, Moment.changes, ha]
  | undone h => simp [Moment.goesBack, Moment.isUndo, Moment.changes, Action.isIncrement, h]
  | nothingToUndo h => simp [Moment.goesBack, Moment.changes, h]
  | _ => simp [Moment.goesBack, Moment.isUndo, Moment.changes, Action.isIncrement]

theorem length_past_of_trace {as : List Action} {t : List Moment} (h : c.trace as = .ok t) :
    (c.finish t).past.length + t.countP Moment.goesBack =
      c.past.length + t.countP Moment.changes := by
  induction as generalizing c t with
  | nil =>
    cases h
    rfl
  | cons a as ih =>
    obtain ⟨c', rest, hact, hrest, rfl⟩ := trace_cons_eq_ok_iff.1 h
    have hone := length_past_of_step (.of_act hact)
    have hall := ih hrest
    rw [List.countP_cons, List.countP_cons]
    show (c'.finish rest).past.length + _ = _
    omega

/-! ## Undos that take back increments -/

/-- The value of a counter and the values before, latest first. -/
def values (c : Counter) : List Int :=
  c.value :: c.past

/-- The counter is another one with `n` more values on top of its values. -/
structure Above (c : Counter) (n : Nat) (c' : Counter) : Prop where
  id : c'.id = c.id
  kind : c'.kind = c.kind
  label : c'.label = c.label
  linked : c'.linked = c.linked
  values : ∃ newer, newer.length = n ∧ c'.values = newer ++ c.values

variable {n : Nat}

theorem Above.refl (c : Counter) : c.Above 0 c :=
  ⟨rfl, rfl, rfl, rfl, [], rfl, rfl⟩

theorem Above.eq (h : c.Above 0 c') : c' = c := by
  obtain ⟨hid, hkind, hlabel, hlinked, newer, hlen, hvalues⟩ := h
  rw [List.length_eq_zero_iff.1 hlen, List.nil_append] at hvalues
  obtain ⟨hvalue, hpast⟩ := List.cons.inj hvalues
  have hvalue : c'.value = c.value := Int.ofNat.inj hvalue
  calc c' = ⟨c'.id, c'.kind, c'.label, c'.value, c'.past, c'.linked⟩ := rfl
    _ = c := by rw [hid, hkind, hlabel, hvalue, hpast, hlinked]

/-- An increment that changes the value adds one on top. -/
theorem Above.increment {a : Action} {c'' : Counter} (h : c.Above n c')
    (ha : a.isIncrement = true) (hstep : c'.Step a c'') :
    c.Above (n + if Moment.changes ⟨c', a, c''⟩ then 1 else 0) c'' := by
  obtain ⟨hid, hkind, hlabel, hlinked, newer, hlen, hvalues⟩ := h
  cases hstep with
  | @recorded _ value _ hne =>
    have hchanges : Moment.changes ⟨c', a, { c' with value, past := c'.value :: c'.past }⟩ :=
      by simp [Moment.changes, ha, hne]
    rw [if_pos hchanges]
    refine ⟨hid, hkind, hlabel, hlinked, value :: newer, congrArg (· + 1) hlen, ?_⟩
    exact congrArg ((value : Int) :: ·) hvalues
  | unchanged _ =>
    have hsame : Moment.changes ⟨c', a, c'⟩ = false := by simp [Moment.changes]
    simpa [hsame] using (⟨hid, hkind, hlabel, hlinked, newer, hlen, hvalues⟩ : c.Above n c')
  | _ => cases ha

/-- Going back takes the topmost value off, which is none of those below. -/
theorem Above.undo {c'' : Counter} (h : c.Above (n + 1) c') (hstep : c'.Step .undo c'') :
    c.Above n c'' := by
  obtain ⟨hid, hkind, hlabel, hlinked, newer, hlen, hvalues⟩ := h
  obtain ⟨v, newer, rfl⟩ := List.exists_of_length_succ newer hlen
  obtain ⟨-, hpast⟩ := List.cons.inj hvalues
  cases hstep with
  | undone hundone =>
    rw [hundone] at hpast
    exact ⟨hid, hkind, hlabel, hlinked, newer, Nat.succ.inj hlen, hpast⟩
  | nothingToUndo hnone =>
    rw [hnone] at hpast
    exact absurd hpast.symm (by simp [Counter.values])
  | recorded ha _ => cases ha
  | unchanged ha => cases ha

/-- The moments are increments and undos. At no point there have been more undos than increments
that changed the value, and at the end as many. -/
structure Balanced (t : List Moment) : Prop where
  actions : ∀ m ∈ t, m.action.isIncrement = true ∨ m.isUndo = true
  not_more : ∀ u ∈ t.inits, u.countP Moment.isUndo ≤ u.countP Moment.changes
  as_many : t.countP Moment.isUndo = t.countP Moment.changes

/-- What bounds each beginning of a run bounds those of its rest, with the first moment counted. -/
theorem countP_le_of_cons {p q : Moment → Bool} {m : Moment} {t : List Moment}
    (h : ∀ u ∈ (m :: t).inits, u.countP p ≤ n + u.countP q) :
    ∀ u ∈ t.inits, u.countP p + (if p m then 1 else 0) ≤
      n + (u.countP q + if q m then 1 else 0) := by
  intro u hu
  rw [← List.countP_cons, ← List.countP_cons]
  refine h _ ?_
  rw [List.mem_inits] at hu ⊢
  exact List.cons_prefix_cons.2 ⟨rfl, hu⟩

/-- A run that takes off just the values on top of a counter ends with that counter. -/
theorem Above.finish {as : List Action} {t : List Moment} (h : c.Above n c')
    (htrace : c'.trace as = .ok t)
    (hactions : ∀ m ∈ t, m.action.isIncrement = true ∨ m.isUndo = true)
    (hnot : ∀ u ∈ t.inits, u.countP Moment.isUndo ≤ n + u.countP Moment.changes)
    (hall : t.countP Moment.isUndo = n + t.countP Moment.changes) : c'.finish t = c := by
  -- `n` is what may still be taken off: it grows with a change and shrinks with an undo
  induction as generalizing c' n t with
  | nil =>
    cases htrace
    have hzero : 0 = n := hall
    subst hzero
    exact h.eq
  | cons a as ih =>
    obtain ⟨c'', rest, hact, hrest, rfl⟩ := trace_cons_eq_ok_iff.1 htrace
    have hstep := Step.of_act hact
    obtain ⟨hfirst, hothers⟩ := List.forall_mem_cons.1 hactions
    have hfirst : a.isIncrement = true ∨ Moment.isUndo ⟨c', a, c''⟩ = true := hfirst
    have hlater := countP_le_of_cons hnot
    rw [List.countP_cons, List.countP_cons] at hall
    show c''.finish rest = c
    rcases hfirst with hincrement | hundo
    · have hnotUndo : Moment.isUndo ⟨c', a, c''⟩ = false :=
        Moment.isUndo_of_isIncrement hincrement
      simp only [hnotUndo, Bool.false_eq_true, if_false] at hlater hall
      refine ih (h.increment hincrement hstep) hrest hothers (fun u hu => ?_) (by omega)
      have := hlater u hu
      omega
    · have hunchanged := Moment.changes_of_isUndo hundo
      obtain rfl : a = .undo := by simpa [Moment.isUndo] using hundo
      simp only [hundo, hunchanged, Bool.false_eq_true, if_false, if_true] at hlater hall
      -- one of the values on top is left to be taken off
      obtain ⟨k, rfl⟩ : ∃ k, n = k + 1 := by
        have := hlater [] ((List.mem_inits _ _).2 List.nil_prefix)
        simp only [List.countP_nil] at this
        exact ⟨n - 1, by omega⟩
      refine ih (h.undo hstep) hrest hothers (fun u hu => ?_) (by omega)
      have := hlater u hu
      omega

/-- The values before are a stack that undo takes from. Let a counter be built from no negative
values. No action on it fails: after each of any run of actions the counter is sound and has the id,
the kind and the link that it had; and the number of values before has grown by the increments that
changed the value, less the undos that had a value to go back to. If the run is of increments and
undos only, and the undos take back just the increments that changed the value, none before it was
made, it ends with the very counter it began with. -/
theorem undo_takes_back {id label : String} {kind : Kind} {value : Int} {past : List Int}
    {linked : Bool} {c : Counter} (hbuilt : new id kind label value past linked = .ok c)
    (hpast : ∀ v ∈ past, 0 ≤ v) (actions : List Action) :
    ∃ t, c.trace actions = .ok t ∧
      (∀ m ∈ t, m.after.Sound ∧ m.after.id = c.id ∧ m.after.kind = c.kind ∧
        m.after.linked = c.linked) ∧
      (c.finish t).past.length + t.countP Moment.goesBack =
        c.past.length + t.countP Moment.changes ∧
      (Balanced t → c.finish t = c) := by
  have hc : c.Sound := .of_new hbuilt hpast
  obtain ⟨t, ht⟩ := hc.exists_trace actions
  refine ⟨t, ht, ?kept, length_past_of_trace ht, fun hbalanced => ?taken⟩
  case kept =>
    refine forall_after_of_trace
      (P := fun b => b.Sound ∧ b.id = c.id ∧ b.kind = c.kind ∧ b.linked = c.linked)
      ⟨hc, rfl, rfl, rfl⟩ (fun b a b' hb hstep => ?_) ht
    obtain ⟨hsound, hid, hkind, hlinked⟩ := hb
    obtain ⟨hid', hkind', hlinked'⟩ := hstep.same
    exact ⟨hsound.step hstep, hid'.trans hid, hkind'.trans hkind, hlinked'.trans hlinked⟩
  case taken =>
    refine (Above.refl c).finish ht hbalanced.actions (fun u hu => ?_) ?_
    · rw [Nat.zero_add]
      exact hbalanced.not_more u hu
    · rw [Nat.zero_add]
      exact hbalanced.as_many

/-- A counter with values before: an increment that is cut off at zero, one that then changes
nothing, and a linked one are taken back; the same counter is undone beyond its last value, set
and renamed. -/
theorem undo_takes_back_floored :
    let c : Counter := ⟨"s", .row, "Sleeve", 3, [5], true⟩
    let there := [Action.increment (-9), .increment (-1), .incrementLinked 4 [] ⟨7, -1⟩, .undo,
      .undo]
    let beyond := [Action.undo, .undo, .setValue (-2), .rename " ", .increment 1, .rename " Cuff "]
    (new "s" .row "Sleeve" 3 [5] true = .ok c ∧ ∀ v ∈ ([5] : List Int), 0 ≤ v) ∧
      (∃ t, c.trace there = .ok t ∧ Balanced t ∧ t.countP Moment.changes = 2 ∧ c.finish t = c) ∧
      ∃ t, c.trace beyond = .ok t ∧ t.countP Moment.goesBack = 1 ∧
        (c.finish t).past.length + 1 = 1 + t.countP Moment.changes ∧
        c.finish t = ⟨"s", .row, "Cuff", 1, [0], true⟩ := by
  intro c there beyond
  have hbuilt : new "s" .row "Sleeve" 3 [5] true = .ok c := by decide
  have hpast : ∀ v ∈ ([5] : List Int), 0 ≤ v := by decide
  refine ⟨⟨hbuilt, hpast⟩, ?_, ?_⟩
  · obtain ⟨t, ht, -, -, htaken⟩ := undo_takes_back hbuilt hpast there
    have hbalanced : Balanced t := by
      cases ht
      exact ⟨by decide, by decide, by decide⟩
    exact ⟨t, ht, hbalanced, by cases ht; decide, htaken hbalanced⟩
  · obtain ⟨t, ht, -, hlength, -⟩ := undo_takes_back hbuilt hpast beyond
    have hback : t.countP Moment.goesBack = 1 := by
      cases ht
      decide
    rw [hback] at hlength
    exact ⟨t, ht, hback, hlength, by cases ht; decide⟩

end Counter

end KnitPattern
