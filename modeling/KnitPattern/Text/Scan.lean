/-
  Scanners: functions that read a value off the front of a text and leave the rest. Every
  form of the notation (headers, instructions, repeat clauses, references) is a scanner
  made of the ones below, and reads without going back. What a scanner reads is the front
  of the text (`Keeps`), and one that reads at least a character shortens it (`Consumes`).
-/
import KnitPattern.Text.Blank
import KnitPattern.Text.Digit
import KnitPattern.Text.Letter

namespace KnitPattern.Text

/-- Reads a value off the front of a text, or fails. -/
abbrev Scan := StateT (List Char) Option

namespace Scan

/-- One character that stands for a value. -/
def pick {α : Type} (f : Char → Option α) : Scan α
  | [] => none
  | c :: cs => (f c).map fun a => (a, cs)

/-- One character of a class. -/
def char (p : Char → Bool) : Scan Char :=
  pick (Option.guard p)

/-- The longest run, possibly empty, of characters of a class. -/
def run (p : Char → Bool) : Scan (List Char) := fun s =>
  some (s.takeWhile p, s.dropWhile p)

/-- A run of at least one character of a class. -/
def run1 (p : Char → Bool) : Scan (List Char) := do
  let c ← char p
  let cs ← run p
  return c :: cs

/-- The given characters, small letters in either case. -/
def letters : List Char → Scan Unit
  | [] => pure ()
  | l :: ls => do
    let _ ← char (foldCase · == l)
    letters ls

/-- A word in small letters, read in either case. -/
def word (w : String) : Scan Unit :=
  letters w.toList

/-- Any number of blanks. -/
def blanks : Scan Unit := do
  let _ ← run isBlank

/-- At least one blank. -/
def blanks1 : Scan Unit := do
  let _ ← run1 isBlank

/-- Words with blanks between them. -/
def phrase : List String → Scan Unit
  | [] => pure ()
  | [w] => word w
  | w :: ws => do
    word w
    blanks1
    phrase ws

/-- A run of decimal digits. -/
def digits1 : Scan (List Char) :=
  run1 isDigit

/-- What a scanner reads if it can, else nothing. -/
def optional (p : Scan Unit) : Scan Unit :=
  p <|> pure ()

/-- The value of a scanner that reads a whole text. -/
def whole {α : Type} (p : Scan α) (s : List Char) : Option α :=
  match p s with
  | some (a, []) => some a
  | _ => none

/-! ## What is read is the front of the text -/

/-- The scanner leaves an end of the text. -/
def Keeps {α : Type} (p : Scan α) : Prop :=
  ∀ s a r, p s = some (a, r) → ∃ w, s = w ++ r

/-- The scanner reads at least one character and leaves an end of the text. -/
def Consumes {α : Type} (p : Scan α) : Prop :=
  ∀ s a r, p s = some (a, r) → ∃ w, w ≠ [] ∧ s = w ++ r

variable {α β : Type}

theorem Consumes.keeps {p : Scan α} (h : Consumes p) : Keeps p := by
  intro s a r hs
  obtain ⟨w, -, hw⟩ := h s a r hs
  exact ⟨w, hw⟩

theorem bind_eq_some {p : Scan α} {f : α → Scan β} {s r : List Char} {b : β} :
    (p >>= f) s = some (b, r) ↔ ∃ a t, p s = some (a, t) ∧ f a t = some (b, r) := by
  show (p s).bind (fun x => f x.1 x.2) = some (b, r) ↔ _
  rw [Option.bind_eq_some_iff]
  exact ⟨fun ⟨⟨a, t⟩, h⟩ => ⟨a, t, h⟩, fun ⟨a, t, h⟩ => ⟨(a, t), h⟩⟩

theorem keeps_pure (a : α) : Keeps (pure a : Scan α) := by
  intro s b r h
  cases h
  exact ⟨[], rfl⟩

theorem Keeps.bind {p : Scan α} {f : α → Scan β} (hp : Keeps p) (hf : ∀ a, Keeps (f a)) :
    Keeps (p >>= f) := by
  intro s b r h
  obtain ⟨a, t, h1, h2⟩ := bind_eq_some.1 h
  obtain ⟨v, rfl⟩ := hp s a t h1
  obtain ⟨w, rfl⟩ := hf a t b r h2
  exact ⟨v ++ w, by simp⟩

theorem Consumes.bind {p : Scan α} {f : α → Scan β} (hp : Consumes p)
    (hf : ∀ a, Keeps (f a)) : Consumes (p >>= f) := by
  intro s b r h
  obtain ⟨a, t, h1, h2⟩ := bind_eq_some.1 h
  obtain ⟨v, hv, rfl⟩ := hp s a t h1
  obtain ⟨w, rfl⟩ := hf a t b r h2
  exact ⟨v ++ w, by simp [hv], by simp⟩

theorem orElse_eq_some {p q : Scan α} {s r : List Char} {a : α} :
    (p <|> q) s = some (a, r) ↔ p s = some (a, r) ∨ (p s = none ∧ q s = some (a, r)) := by
  show (p s <|> q s) = some (a, r) ↔ _
  cases h : p s <;> simp

theorem Keeps.orElse {p q : Scan α} (hp : Keeps p) (hq : Keeps q) : Keeps (p <|> q) := by
  intro s a r h
  rcases orElse_eq_some.1 h with h | ⟨-, h⟩
  · exact hp s a r h
  · exact hq s a r h

theorem Consumes.orElse {p q : Scan α} (hp : Consumes p) (hq : Consumes q) :
    Consumes (p <|> q) := by
  intro s a r h
  rcases orElse_eq_some.1 h with h | ⟨-, h⟩
  · exact hp s a r h
  · exact hq s a r h

theorem consumes_pick (f : Char → Option α) : Consumes (pick f) := by
  intro s a r h
  cases s with
  | nil => cases h
  | cons c cs =>
    obtain ⟨b, -, hb⟩ := Option.map_eq_some_iff.1 h
    cases hb
    exact ⟨[c], by simp, rfl⟩

theorem consumes_char (p : Char → Bool) : Consumes (char p) :=
  consumes_pick _

theorem keeps_run (p : Char → Bool) : Keeps (run p) := by
  intro s a r h
  cases h
  exact ⟨s.takeWhile p, List.takeWhile_append_dropWhile.symm⟩

theorem keeps_letters : ∀ ls, Keeps (letters ls)
  | [] => keeps_pure ()
  | _ :: ls => (consumes_char _).keeps.bind fun _ => keeps_letters ls

theorem consumes_letters (l : Char) (ls : List Char) : Consumes (letters (l :: ls)) :=
  (consumes_char _).bind fun _ => keeps_letters ls

theorem keeps_optional {p : Scan Unit} (h : Keeps p) : Keeps (optional p) :=
  h.orElse (keeps_pure ())

end Scan

end KnitPattern.Text
