import MacConsent.Network.Id
import MacConsent.Text.Blank

/-!
# MacConsent.Proofs.Decimal

Written numbers read back.  A reader's value of a run of digits is the value
that the digits denote (`readDigits_eq`), as long as it stays within the limit;
so a signed number within its limits reads back (`readSigned_ofInt`), and so
does an id (`ofText?_text`).  No digit is blank, so trimming leaves a number as
it is.
-/

namespace MacConsent

namespace Decimal

/-! ## digits -/

theorem digit?_of_isDigit {c : Char} (h : c.isDigit = true) :
    digit? 10 c = some (c.toNat - 48) := by
  have hc : '0' ≤ c ∧ c ≤ '9' := by simpa [Char.isDigit, Char.le_def] using h
  have hlt : c.toNat - 48 < 10 := by
    have h9 : c.toNat ≤ 57 := hc.2
    omega
  simp only [digit?, hc, and_self, if_true, hlt]

/-- More digits never make a number smaller. -/
theorem le_ofDigitChars (cs : List Char) (value : Nat) : value ≤ Nat.ofDigitChars 10 cs value := by
  rw [Nat.ofDigitChars_eq_ofDigitChars_zero]
  have hpos : 0 < 10 ^ cs.length := Nat.pow_pos (by decide)
  exact Nat.le_trans (Nat.le_mul_of_pos_left value hpos) (Nat.le_add_right _ _)

/-- Reading digits gives the number that they denote, if it is within the limit. -/
theorem readDigits_eq {limit : Nat} {past : Fault} {cs : List Char} {value : Nat}
    (hd : ∀ c ∈ cs, c.isDigit = true) (hle : Nat.ofDigitChars 10 cs value ≤ limit) :
    readDigits 10 limit past value cs = .ok (Nat.ofDigitChars 10 cs value) := by
  induction cs generalizing value with
  | nil => simp [readDigits]
  | cons c cs ih =>
      rw [Nat.ofDigitChars_cons] at hle ⊢
      have hstep : 10 * value + (c.toNat - 48) ≤ limit :=
        Nat.le_trans (le_ofDigitChars cs _) hle
      rw [readDigits, digit?_of_isDigit (hd c List.mem_cons_self)]
      simp only [hstep, if_true]
      exact ih (fun d hmem => hd d (List.mem_cons_of_mem c hmem)) hle

/-! ## signed numbers -/

theorem isDigit_of_mem_toDigits {n : Nat} {c : Char} (h : c ∈ Nat.toDigits 10 n) :
    c.isDigit = true :=
  Nat.isDigit_of_mem_toDigits (by decide) (by decide) h

theorem readDigits_toDigits {limit n : Nat} {past : Fault} (hle : n ≤ limit) :
    readDigits 10 limit past 0 (Nat.toDigits 10 n) = .ok n := by
  have hval : Nat.ofDigitChars 10 (Nat.toDigits 10 n) 0 = n := Nat.ofDigitChars_ten_toDigits
  rw [readDigits_eq (fun c => isDigit_of_mem_toDigits) (by rw [hval]; exact hle), hval]

/-- A text that begins with a digit is read as a number without a sign. -/
theorem readSigned_digits {limit : Nat} {c : Char} {cs : List Char} (h : c.isDigit = true) :
    readSigned limit (c :: cs) = (readDigits 10 limit .tooLarge 0 (c :: cs)).map Int.ofNat := by
  have hminus : c ≠ '-' := by rintro rfl; exact absurd h (by decide)
  have hplus : c ≠ '+' := by rintro rfl; exact absurd h (by decide)
  unfold readSigned
  split <;> simp_all

/-- A text of a minus sign and digits is read as a negative number. -/
theorem readSigned_minus {limit : Nat} {cs : List Char} (h : cs ≠ []) :
    readSigned limit ('-' :: cs) =
      (readDigits 10 (limit + 1) .tooSmall 0 cs).map fun n => -(n : Int) := by
  unfold readSigned
  split <;> simp_all

/-- **Signed numbers read back**, within the limits of their reader. -/
theorem readSigned_ofInt {limit : Nat} {n : Int} (hmin : -(limit : Int) - 1 ≤ n)
    (hmax : n ≤ limit) : readSigned limit (ofInt n) = .ok n := by
  unfold ofInt
  split
  · next hneg =>
      rw [readSigned_minus Nat.toDigits_ne_nil, readDigits_toDigits (by omega)]
      have hval : -(n.natAbs : Int) = n := by omega
      exact congrArg Except.ok hval
  · next hpos =>
      obtain ⟨c, cs, hcs⟩ := List.exists_cons_of_ne_nil (Nat.toDigits_ne_nil (n := n.natAbs) (b := 10))
      have hc : c.isDigit = true := isDigit_of_mem_toDigits (by rw [hcs]; exact List.mem_cons_self)
      rw [hcs, readSigned_digits hc, ← hcs, readDigits_toDigits (by omega)]
      have hval : (n.natAbs : Int) = n := by omega
      exact congrArg Except.ok hval

/-- No character of a written number is blank. -/
theorem not_isBlank_of_mem_ofInt {n : Int} {c : Char} (h : c ∈ ofInt n) :
    Text.isBlank c = false := by
  have digit {d : Char} (hd : d.isDigit = true) : Text.isBlank d = false := by
    have hrange : 48 ≤ d.toNat ∧ d.toNat ≤ 57 := by
      simpa [Char.isDigit, UInt32.le_iff_toNat_le] using hd
    simp [Text.isBlank]
    omega
  unfold ofInt at h
  split at h
  · rcases List.mem_cons.1 h with rfl | h
    · decide
    · exact digit (isDigit_of_mem_toDigits h)
  · exact digit (isDigit_of_mem_toDigits h)

end Decimal

/-! ## ids -/

namespace NetworkId

/-- **Ids read back**. -/
theorem ofText?_text (a : NetworkId) : ofText? a.text = some a := by
  have hmin := a.min_le
  have hmax := a.le_max
  unfold ofText? text
  rw [String.toList_ofList, Decimal.readSigned_ofInt (by omega) (by omega)]
  exact ofInt?_val a

end NetworkId

end MacConsent
