import Mathlib.Data.List.Nodup
import MacConsent.Dialog.Key

/-!
# MacConsent.Proofs.Dialog.Keys

Which button is selected after any keys, and which keys decide.

1. A form stands `At` a number if that is the number of its selected button,
   counted around the buttons that are shown.  Moving by some steps adds them
   (`At.move`), one step back is as many steps as there are buttons but one, and
   other keys add nothing (`At.press`).
2. So the selected button follows from the keys that go to the right and from those
   that go to the left alone (`At.afterKeys`).
3. Only the first button accepts (`At.accept_iff`).  A key that decides leaves the
   form as it is (`press_eq_of_decides`).
-/

namespace MacConsent.Dialog

namespace KeyPress

/-- Whether a key goes to the button on the right. -/
def goesRight (k : KeyPress) : Bool := [.tab, .right, .char 'l'].contains k.key

/-- Whether a key goes to the button on the left. -/
def goesLeft (k : KeyPress) : Bool := [.backTab, .left, .char 'h'].contains k.key

/-- How far keys go to the right, less how far they go to the left. -/
def drift (ks : List KeyPress) : Int := ks.countP goesRight - ks.countP goesLeft

@[simp] theorem drift_nil : drift [] = 0 := rfl

/-- Each key moves by one button or not at all. -/
theorem drift_cons (k : KeyPress) (ks : List KeyPress) :
    drift (k :: ks) =
      (if k.goesRight then 1 else 0) - (if k.goesLeft then 1 else 0) + drift ks := by
  simp only [drift, List.countP_cons]
  grind

/-- A key goes to the right, to the left, or nowhere. -/
theorem command_cases (k : KeyPress) :
    (k.command = .next ∧ k.goesRight = true ∧ k.goesLeft = false) ∨
      (k.command = .previous ∧ k.goesRight = false ∧ k.goesLeft = true) ∨
      (k.command ≠ .next ∧ k.command ≠ .previous ∧ k.goesRight = false ∧ k.goesLeft = false) := by
  obtain ⟨key, control⟩ := k
  cases key with
  | char c =>
      simp only [command, goesRight, goesLeft, List.contains_cons, List.contains_nil]
      grind
  | _ => decide +revert

/-- One key accepts by itself. -/
theorem command_eq_accept_iff {k : KeyPress} :
    k.command = .decide .accepted ↔ k.key = .char 'y' := by
  obtain ⟨key, control⟩ := k
  cases key with
  | char c => grind [command]
  | _ => simp [command]

/-- The keys that cancel. -/
theorem command_eq_cancel_iff {k : KeyPress} :
    k.command = .decide .cancelled ↔
      k.key = .escape ∨ k.key = .char 'q' ∨
        k.control = true ∧ (k.key = .char 'c' ∨ k.key = .char '[') := by
  obtain ⟨key, control⟩ := k
  cases key with
  | char c => grind [command]
  | _ => simp [command]

/-- The keys that press the selected button. -/
theorem command_eq_press_iff {k : KeyPress} :
    k.command = .press ↔ k.key = .enter ∨ k.key = .char ' ' := by
  obtain ⟨key, control⟩ := k
  cases key with
  | char c => grind [command]
  | _ => simp [command]

end KeyPress

open KeyPress

namespace Form

variable {f : Form} {i : Int}

/-- The form after keys that go on after a choice. -/
def afterKeys (f : Form) (ks : List KeyPress) : Form := ks.foldl (fun f k => (f.press k).1) f

/-! ## the buttons around -/

/-- A form has two buttons or three. -/
theorem length_buttons (f : Form) : f.buttons.length = 2 ∨ f.buttons.length = 3 := by
  cases h : f.request.neutralText <;> simp [buttons, h]

/-- No button stands twice in its row. -/
theorem nodup_buttons (f : Form) : f.buttons.Nodup := by
  cases h : f.request.neutralText <;> simp [buttons, h]

/-- A button has one place in its row. -/
theorem eq_of_getElem?_buttons {j k : Nat} {b : Button} (hj : f.buttons[j]? = some b)
    (hk : f.buttons[k]? = some b) : j = k := by
  obtain ⟨_, hj⟩ := List.getElem?_eq_some_iff.1 hj
  obtain ⟨_, hk⟩ := List.getElem?_eq_some_iff.1 hk
  exact (nodup_buttons f).getElem_inj_iff.1 (hj.trans hk.symm)

/-- The position is the place of the selected button. -/
theorem position_eq {j : Nat} (h : f.buttons[j]? = some f.selected) : f.position = j := by
  obtain ⟨hj, hget⟩ := List.getElem?_eq_some_iff.1 h
  have hfind : f.buttons.idxOf? f.selected = some j := by
    rw [List.idxOf?, List.findIdx?_eq_some_iff_getElem]
    refine ⟨hj, by simpa using hget, fun k hk hsame => ?_⟩
    have hkj := eq_of_getElem?_buttons (List.getElem?_eq_some_iff.2 ⟨_, beq_iff_eq.1 hsame⟩) h
    omega
  rw [position, hfind, Option.getD_some]

/-- The selected button has number `i`, counted around the buttons. -/
def At (f : Form) (i : Int) : Prop := f.buttons[(i % f.buttons.length).toNat]? = some f.selected

/-- A new form selects its first button. -/
theorem At.new (request : Request) (icons : IconSet) : (Form.mk request icons .accept).At 0 := by
  simp [At, buttons]

/-- **Steps to the right add up, around the buttons.** -/
theorem At.move (h : f.At i) {steps : Nat} {d : Int}
    (hd : (d - steps) % f.buttons.length = 0) : (f.move steps).At (i + d) := by
  have hindex : (f.position + steps) % f.buttons.length =
      ((i + d) % f.buttons.length).toNat := by
    rw [position_eq h]
    rcases length_buttons f with hlen | hlen <;> rw [hlen] at hd ⊢ <;> omega
  have hlt : (f.position + steps) % f.buttons.length < f.buttons.length :=
    Nat.mod_lt _ (by have := length_buttons f; omega)
  have hsame : (f.move steps).buttons = f.buttons := rfl
  rw [At, hsame, ← hindex, Form.move, List.getD_eq_getElem?_getD, List.getElem?_eq_getElem hlt,
    Option.getD_some]

theorem At.next (h : f.At i) : f.next.At (i + 1) := h.move (by simp)

/-- A step back is as many steps as there are buttons, but one. -/
theorem At.previous (h : f.At i) : f.previous.At (i - 1) := by
  refine h.move (d := -1) ?_
  rcases length_buttons f with hlen | hlen <;> rw [hlen] <;> rfl

/-! ## keys -/

/-- A key that decides leaves the form as it is. -/
theorem press_eq_of_decides {k : KeyPress} (h : (f.press k).2.isSome) : (f.press k).1 = f := by
  unfold press at h ⊢
  split <;> simp_all

/-- **A key changes the number by its drift.** -/
theorem At.press (h : f.At i) (k : KeyPress) : (f.press k).1.At (i + drift [k]) := by
  rw [drift_cons, drift_nil]
  rcases command_cases k with ⟨hk, hright, hleft⟩ | ⟨hk, hright, hleft⟩ | ⟨hnext, hback, hright, hleft⟩
  · simpa [Form.press, hk, hright, hleft] using h.next
  · simpa [Form.press, hk, hright, hleft, Int.sub_eq_add_neg] using h.previous
  · have hstay : (f.press k).1 = f := by
      unfold Form.press
      split <;> simp_all
    simpa [hstay, hright, hleft] using h

/-- **Keys move the selection by their drift**, around the row. -/
theorem At.afterKeys (h : f.At i) (ks : List KeyPress) : (f.afterKeys ks).At (i + drift ks) := by
  induction ks generalizing f i with
  | nil => simpa [Form.afterKeys] using h
  | cons k ks ih =>
      have hdrift : drift (k :: ks) = drift [k] + drift ks := by simp [drift_cons k]
      rw [hdrift, ← Int.add_assoc]
      exact ih (h.press k)

/-- No key changes what the form asks. -/
theorem request_press (f : Form) (k : KeyPress) :
    (f.press k).1.request = f.request ∧ (f.press k).1.icons = f.icons := by
  unfold press
  split <;> exact ⟨rfl, rfl⟩

theorem request_afterKeys (f : Form) (ks : List KeyPress) :
    (f.afterKeys ks).request = f.request ∧ (f.afterKeys ks).icons = f.icons := by
  induction ks generalizing f with
  | nil => exact ⟨rfl, rfl⟩
  | cons k ks ih => grind [afterKeys, request_press]

/-- Only the first button accepts. -/
theorem At.accept_iff (h : f.At i) : f.selected.choice = .accepted ↔ i % f.buttons.length = 0 := by
  have hfirst : f.buttons[0]? = some .accept := rfl
  have hpos : 0 ≤ i % f.buttons.length := by
    rcases length_buttons f with hlen | hlen <;> rw [hlen] <;> omega
  have hchoice : f.selected.choice = .accepted ↔ f.selected = .accept := by
    cases f.selected <;> decide
  rw [hchoice]
  constructor
  · intro haccept
    rw [At, haccept] at h
    have := eq_of_getElem?_buttons h hfirst
    omega
  · intro hzero
    rw [At, hzero] at h
    exact Option.some.inj (h.symm.trans hfirst)

/-- A key decides by itself or by the selected button. -/
theorem press_eq_some_iff {k : KeyPress} {choice : Choice} :
    (f.press k).2 = some choice ↔
      k.command = .decide choice ∨ k.command = .press ∧ f.selected.choice = choice := by
  unfold press
  split <;> simp_all

/-- **Keys settle the selection, and consent is never by accident.**  The selected button is the one
as far around from the first as the keys drift to the right; only `y` accepts, and a key that
presses the selected button while the drift leads to the first.  The keys that cancel always do, and
a key that decides leaves the form as it is. -/
theorem selected_afterKeys (request : Request) (icons : IconSet) (ks : List KeyPress) :
    let f := ({ request, icons } : Form).afterKeys ks
    f.request = request ∧ f.icons = icons ∧
    f.buttons[(drift ks % f.buttons.length).toNat]? = some f.selected ∧
    f.selected ∈ f.buttons ∧
    ∀ k : KeyPress,
      ((f.press k).2 = some .accepted ↔
        k.key = .char 'y' ∨
          (k.key = .enter ∨ k.key = .char ' ') ∧ drift ks % f.buttons.length = 0) ∧
      ((f.press k).2 = some .cancelled ↔
        k.key = .escape ∨ k.key = .char 'q' ∨
          k.control = true ∧ (k.key = .char 'c' ∨ k.key = .char '[')) ∧
      ((f.press k).2 = none ∨ (f.press k).1 = f) := by
  intro f
  obtain ⟨hrequest, hicons⟩ := request_afterKeys { request, icons } ks
  have hat : f.At (drift ks) := by
    simpa using (At.new request icons).afterKeys ks
  have hbutton : f.selected.choice ≠ .cancelled := by
    cases f.selected <;> decide
  refine ⟨hrequest, hicons, hat, List.mem_of_getElem? hat, fun k => ⟨?_, ?_, ?_⟩⟩
  · rw [press_eq_some_iff, command_eq_accept_iff, command_eq_press_iff, hat.accept_iff]
  · rw [press_eq_some_iff, command_eq_cancel_iff]
    simp only [hbutton, and_false, or_false]
  · by_cases hnone : (f.press k).2 = none
    · exact .inl hnone
    · exact .inr (press_eq_of_decides (Option.isSome_iff_ne_none.2 hnone))

end Form

end MacConsent.Dialog
