import MacConsent.Text.Blank
import MacConsent.Text.Lines

/-!
# MacConsent.Text.LineCount

How many rows a text is expected to take at a given width. Each line of the
text is filled with its words, one blank between two of them; a word that no
longer fits goes to the next row, and a word longer than a row is broken. A
character counts as one column. An empty text takes one row.
-/

namespace MacConsent.Text

/-- Rows begun so far and columns taken in the last of them. -/
structure Fill where
  rows : Nat
  used : Nat
deriving DecidableEq, Repr

namespace Fill

/-- An empty first row. -/
def start : Fill := ⟨1, 0⟩

/-- Goes to a new row if a word of `len` columns does not fit behind a blank. -/
def makeRoom (width len : Nat) (f : Fill) : Fill :=
  if 0 < f.used ∧ width < f.used + 1 + len then ⟨f.rows + 1, 0⟩ else f

/-- Breaks what is longer than a row until the last row is not over-full. -/
def breakLong (width : Nat) (f : Fill) : Fill :=
  let breaks := (f.used - 1) / width
  ⟨f.rows + breaks, f.used - breaks * width⟩

/-- Adds a word of `len` columns. -/
def add (width : Nat) (f : Fill) (len : Nat) : Fill :=
  let f := f.makeRoom width len
  breakLong width ⟨f.rows, (if 0 < f.used then f.used + 1 else 0) + len⟩

end Fill

/-- The rows that one line of a text takes. -/
def lineRows (width : Nat) (line : List Char) : Nat :=
  ((words line).foldl (fun f word => f.add width word.length) Fill.start).rows

/-- The rows that a text takes, at least one. -/
def lineCount (width : Nat) (text : List Char) : Nat :=
  max 1 ((lines text).foldl (fun n line => n + lineRows width line) 0)

/-- After a break no row is over-full. -/
theorem Fill.used_breakLong_le {width : Nat} (h : 0 < width) (f : Fill) :
    (f.breakLong width).used ≤ width := by
  have hdiv := Nat.div_add_mod (f.used - 1) width
  have hmod := Nat.mod_lt (f.used - 1) h
  have hcomm := Nat.mul_comm width ((f.used - 1) / width)
  simp only [Fill.breakLong]
  omega

end MacConsent.Text
