import MacConsent.Text.Cluster
import MacConsent.Text.Width

/-!
# MacConsent.Proofs.Printable

Printable ASCII on a screen.  A reader takes each of these characters for one
(`clusters_of_printable`), and up to U+00A0 a character alone fills one column
(`displayWidth_of_latin`).
-/

namespace MacConsent.Text

/-- Whether a character is the space or one of the signs, digits and letters of ASCII. -/
def IsPrintable (c : Char) : Prop := 0x20 ≤ c.toNat ∧ c.toNat < 0x7F

instance (c : Char) : Decidable (IsPrintable c) := inferInstanceAs (Decidable (_ ∧ _))

/-! ## clusters -/

theorem breakClass_of_printable {c : Char} (h : IsPrintable c) : breakClass c = .other := by
  have hreturn : c.toNat ≠ 0x0D := by
    have := h.1
    omega
  have hfeed : c.toNat ≠ 0x0A := by
    have := h.1
    omega
  have hrange : 0x20 ≤ c.toNat ∧ c.toNat < 0x7F := h
  simp [breakClass, hreturn, hfeed, hrange]

theorem isPictographic_of_printable {c : Char} (h : IsPrintable c) : isPictographic c = false := by
  have hlt : c.toNat < 0xA9 := Nat.lt_trans h.2 (by decide)
  simp [isPictographic, hlt]

theorem isConjunctConsonant_of_printable {c : Char} (h : IsPrintable c) :
    isConjunctConsonant c = false := by
  have hlt : c.toNat < 0x915 := Nat.lt_trans h.2 (by decide)
  simp [isConjunctConsonant, hlt]

namespace Seam

/-- Behind a printable character nothing is left to join. -/
def plain : Seam := ⟨.other, false, false, false, .none⟩

theorem ofFirst_of_printable {c : Char} (h : IsPrintable c) : ofFirst c = plain := by
  simp [ofFirst, plain, breakClass_of_printable h, isPictographic_of_printable h,
    isConjunctConsonant_of_printable h]

theorem joins_of_printable {c : Char} (h : IsPrintable c) : plain.joins c = false := by
  simp [joins, plain, breakClass_of_printable h]

theorem push_of_printable {c : Char} (h : IsPrintable c) : plain.push c = plain := by
  simp [push, plain, conjunctAfter, breakClass_of_printable h, isPictographic_of_printable h,
    isConjunctConsonant_of_printable h]

end Seam

theorem clustersFrom_of_printable {cs : List Char} (h : ∀ c ∈ cs, IsPrintable c)
    (done : List (List Char)) (current : List Char) :
    clustersFrom done current Seam.plain cs =
      done.reverse ++ current.reverse :: cs.map fun c => [c] := by
  induction cs generalizing done current with
  | nil => simp [clustersFrom]
  | cons c cs ih =>
      obtain ⟨hc, hcs⟩ := List.forall_mem_cons.1 h
      rw [clustersFrom, Seam.joins_of_printable hc, Seam.push_of_printable hc]
      simp [ih hcs]

/-- **Each printable character stands for itself.** -/
theorem clusters_of_printable {cs : List Char} (h : ∀ c ∈ cs, IsPrintable c) :
    clusters cs = cs.map fun c => [c] := by
  cases cs with
  | nil => rfl
  | cons c cs =>
      obtain ⟨hc, hcs⟩ := List.forall_mem_cons.1 h
      rw [clusters, Seam.ofFirst_of_printable hc, clustersFrom_of_printable hcs]
      rfl

/-! ## columns -/

/-- A character up to U+00A0 fills one column. -/
theorem displayWidth_of_latin {c : Char} (h : c.toNat ≤ 0xA0) : displayWidth [c] = 1 := by
  have hwidth : (latinWidth c Follows.nothing).1 = 1 := by
    unfold latinWidth
    split
    · rfl
    · split
      · next hreturn => exact absurd hreturn.2 (by decide)
      · rfl
  have hadded : addedWidth c Follows.nothing = latinWidth c Follows.nothing := by
    simp [addedWidth, Follows.nothing, h]
  simp [displayWidth, hadded, hwidth]

end MacConsent.Text
