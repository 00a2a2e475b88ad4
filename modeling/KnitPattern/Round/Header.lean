/-
  Round headers and the sections they head. A header is `Rnd` or `Row`, perhaps with an `s`,
  a list of numbers and a colon, where no word character stands before it; a section is a
  header with the text up to the next header. Cutting a text into sections loses nothing
  but the text before the first header (`Section.ofLine_eq`).
-/
import KnitPattern.Numeral
import KnitPattern.Text.WordChar

namespace KnitPattern

open Text Scan

/-- The word that begins a header. -/
inductive Keyword where
  | rnd
  | row
  deriving DecidableEq

def Keyword.toString : Keyword → String
  | rnd => "Rnd"
  | row => "Row"

/-- The header of a section: its word, and what stands between it and the colon. -/
structure Header where
  keyword : Keyword
  numbers : List Char
  deriving DecidableEq

namespace Header

/-- `Rnd` or `Row`, perhaps with an `s`. -/
def keywordScan : Scan Keyword := do
  let k ← (do word "rnd"; return .rnd) <|> (do word "row"; return .row)
  optional (word "s")
  return k

/-- The characters of a list of numbers. -/
def isListChar (c : Char) : Bool :=
  isDigit c || c == ',' || isBlank c

/-- A header with its colon. -/
def scan : Scan Header := do
  let keyword ← keywordScan
  let numbers ← run isListChar
  let _ ← char (· == ':')
  return ⟨keyword, numbers⟩

/-- How a line that starts a round begins: the word of a header, and a digit. -/
def startScan : Scan Unit := do
  let _ ← keywordScan
  blanks
  let _ ← char isDigit

/-- The numerals of a list of numbers: its longest runs of digits. -/
def numerals (h : Header) : List (List Char) :=
  (h.numbers.splitOnP (!isDigit ·)).filter (!·.isEmpty)

/-- The positive numbers of a header. -/
def positives (h : Header) : Except Halt (List Nat) := do
  let ns ← h.numerals.mapM Numeral.read
  return ns.filter (0 < ·)

theorem consumes_keywordScan : Consumes keywordScan := by
  have rnd : Consumes (word "rnd") := consumes_letters 'r' ['n', 'd']
  have row : Consumes (word "row") := consumes_letters 'r' ['o', 'w']
  exact ((rnd.bind fun _ => keeps_pure _).orElse (row.bind fun _ => keeps_pure _)).bind
    fun _ => (keeps_optional (keeps_letters _)).bind fun _ => keeps_pure _

theorem consumes_scan : Consumes scan :=
  consumes_keywordScan.bind fun _ => (keeps_run _).bind fun _ =>
    (consumes_char _).keeps.bind fun _ => keeps_pure _

end Header

/-- A header, its characters as written, and the text up to the next header. -/
structure Section where
  header : Header
  written : List Char
  body : List Char

namespace Section

/-- The text of a section, header and all. -/
def text (s : Section) : List Char :=
  s.written ++ s.body

/-- The header that begins a text, and its characters. No header begins after the word
character `before`. -/
def headed? (before : Option Char) (s : List Char) : Option (Header × List Char) :=
  match Header.scan s with
  | some (h, rest) =>
    if before.any isWordChar then none else some (h, s.take (s.length - rest.length))
  | none => none

/-- A character of a line, and the header that begins with it. -/
structure Place where
  char : Char
  header : Option (Header × List Char)

/-- The places of a text that follows the character `before`. -/
def places (before : Option Char) : List Char → List Place
  | [] => []
  | c :: cs => ⟨c, headed? before (c :: cs)⟩ :: places (some c) cs

/-- Cuts a text into what comes before the first header and the sections, leaving out the
first `skip` characters. -/
def cut : (skip : Nat) → List Place → List Char × List Section
  | _, [] => ([], [])
  | n + 1, _ :: ps => cut n ps
  | 0, ⟨_, some (header, written)⟩ :: ps =>
    let (body, more) := cut (written.length - 1) ps
    ([], ⟨header, written, body⟩ :: more)
  | 0, ⟨c, none⟩ :: ps =>
    let (text, more) := cut 0 ps
    (c :: text, more)

/-- The text before the first header of a line, and its sections. -/
def ofLine (line : List Char) : List Char × List Section :=
  cut 0 (places none line)

theorem headed?_eq {before : Option Char} {s w : List Char} {h : Header}
    (hs : headed? before s = some (h, w)) :
    w ≠ [] ∧ ∃ rest, s = w ++ rest ∧ Header.scan s = some (h, rest) := by
  unfold headed? at hs
  split at hs
  · rename_i h' rest hscan
    split at hs
    · cases hs
    · cases hs
      obtain ⟨v, hv, rfl⟩ := Header.consumes_scan _ _ _ hscan
      exact ⟨by simpa using hv, rest, by simp, hscan⟩
  · cases hs

theorem cut_eq (before : Option Char) (skip : Nat) (s : List Char) :
    (cut skip (places before s)).1 ++ ((cut skip (places before s)).2.map text).flatten =
      s.drop skip := by
  induction s generalizing before skip with
  | nil => simp [places, cut]
  | cons c cs ih =>
    cases skip with
    | succ n => simpa [places, cut] using ih (some c) n
    | zero =>
      cases hs : headed? before (c :: cs) with
      | none => simpa [places, cut, hs] using ih (some c) 0
      | some hw =>
        obtain ⟨h, w⟩ := hw
        obtain ⟨hne, rest, he, -⟩ := headed?_eq hs
        obtain ⟨d, ds, rfl⟩ := List.exists_cons_of_ne_nil hne
        rw [List.cons_append] at he
        obtain ⟨rfl, rfl⟩ := List.cons.inj he
        have := ih (some c) ds.length
        rw [List.drop_left] at this
        simp [places, cut, hs, text, this]

theorem ofLine_eq (line : List Char) :
    (ofLine line).1 ++ ((ofLine line).2.map text).flatten = line :=
  cut_eq none 0 line

end Section

end KnitPattern
