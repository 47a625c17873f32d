import MacConsent.Text.Decimal

/-!
# MacConsent.Network.Id

The key of a saved network: a signed number of 32 bits. Ids are handed out in
ascending order, so the successor of the largest one is the next free id, and
there is none after 2147483647.
-/

namespace MacConsent

/-- A signed number of 32 bits. -/
structure NetworkId where
  val : Int
  min_le : -2147483648 ≤ val := by omega
  le_max : val ≤ 2147483647 := by omega
deriving DecidableEq

namespace NetworkId

theorem ext_val {a b : NetworkId} (h : a.val = b.val) : a = b := by
  cases a; cases b; cases h; rfl

instance : LT NetworkId := ⟨fun a b => a.val < b.val⟩

instance (a b : NetworkId) : Decidable (a < b) := inferInstanceAs (Decidable (a.val < b.val))

theorem lt_def {a b : NetworkId} : a < b ↔ a.val < b.val := Iff.rfl

/-- The id of a number, if it has one. -/
def ofInt? (n : Int) : Option NetworkId :=
  if h : -2147483648 ≤ n ∧ n ≤ 2147483647 then some ⟨n, h.1, h.2⟩ else none

/-- The id that a store without profiles hands out. -/
def first : NetworkId := ⟨0, by omega, by omega⟩

/-- The id that an event without an id is taken to name. -/
def invalid : NetworkId := ⟨-1, by omega, by omega⟩

/-- The next id up, unless this one is the largest. -/
def next? (a : NetworkId) : Option NetworkId := ofInt? (a.val + 1)

/-- An id in decimal digits. -/
def text (a : NetworkId) : String := String.ofList (Decimal.ofInt a.val)

/-- The id that a decimal text names: an optional sign, then digits, within 32 bits. -/
def ofText? (s : String) : Option NetworkId :=
  match Decimal.readSigned 2147483647 s.toList with
  | .ok n => ofInt? n
  | .error _ => none

theorem ofInt?_val (a : NetworkId) : ofInt? a.val = some a := by
  simp [ofInt?, a.min_le, a.le_max]

theorem val_of_ofInt? {n : Int} {a : NetworkId} (h : ofInt? n = some a) : a.val = n := by
  unfold ofInt? at h
  split at h
  · cases h; rfl
  · cases h

/-- The next id is larger by one. -/
theorem val_of_next? {a b : NetworkId} (h : a.next? = some b) : b.val = a.val + 1 :=
  val_of_ofInt? h

/-- Only the largest id has no next one. -/
theorem next?_eq_none_iff {a : NetworkId} : a.next? = none ↔ a.val = 2147483647 := by
  have h1 := a.min_le
  have h2 := a.le_max
  unfold next? ofInt?
  split
  · simp; omega
  · simp; omega

end NetworkId

end MacConsent
