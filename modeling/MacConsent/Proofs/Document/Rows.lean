import MacConsent.Document.Writer
import MacConsent.Proofs.Document.Pieces
import MacConsent.Proofs.Trim

/-!
# MacConsent.Proofs.Document.Rows

Rows that are read inside a profile.  A row opens an element, closes one, or
hands a value to the draft; the line break and the blanks in front of it never
reach a field, because the next tag forgets them or they stand before the end of
an element that holds none.  So a run of rows can be followed on the draft alone
(`follow`), and reading the rows does the same (`readFrom_follow`).
-/

namespace MacConsent.Document

open Markup

/-! ## rows on a draft -/

/-- A row that a reader takes as it was written, and that neither begins nor ends a profile. -/
def Fits : Row → Prop
  | .start name space => IsTagName name ∧ IsSpaceName space ∧ name ≠ profileName
  | .field name _ => IsTagName name ∧ name ≠ profileName
  | .finish name => IsTagName name ∧ name ≠ profileName

/-- The draft with the value of an element, if the element holds a field. -/
def Draft.record (d : Draft) (parent leaf value : String) : Except ContentFault Draft :=
  match Field.at? parent leaf with
  | none => .ok d
  | some field => d.set field (Text.trimmed value)

/-- The elements that are open, innermost first, and the draft. -/
abbrev Stage := List String × Draft

/-- The stage after a row.  There is none if a value is refused, or if an element is closed
that is not the innermost one or that holds a field. -/
def followRow (s : Stage) : Row → Option Stage
  | .start name _ => some (name :: s.1, s.2)
  | .field leaf value =>
    match s.1 with
    | [] => none
    | parent :: outer =>
      match s.2.record parent leaf value with
      | .error _ => none
      | .ok d => some (parent :: outer, d)
  | .finish last =>
    match s.1 with
    | name :: parent :: outer =>
      if last = name ∧ Field.at? parent name = none then some (parent :: outer, s.2) else none
    | _ => none

/-- The stage after rows. -/
def follow (s : Stage) (rows : List (Nat × Row)) : Option Stage :=
  rows.foldlM (fun s row => followRow s row.2) s

theorem follow_nil (s : Stage) : follow s [] = some s := rfl

theorem follow_cons (s : Stage) (depth : Nat) (row : Row) (rows : List (Nat × Row)) :
    follow s ((depth, row) :: rows) = (followRow s row).bind fun s => follow s rows := rfl

theorem follow_append (s : Stage) (xs ys : List (Nat × Row)) :
    follow s (xs ++ ys) = (follow s xs).bind fun s => follow s ys :=
  List.foldlM_append

namespace Walk

/-- The walk right behind a tag; the names of the open elements are local as they stand. -/
def behind (opened : List String) (draft : Option Draft) (done : List Profile) : Walk :=
  ⟨opened, { path := opened, draft, done }⟩

/-! ## one row -/

/-- The line break and the blanks in front of a row are text. -/
theorem readFrom_render (w : Walk) (depth : Nat) (row : Row) (rest : List Char) :
    w.readFrom (row.render depth ++ rest) =
      (w.push ('\n' :: List.replicate (2 * depth) ' ')).readFrom (row.body ++ rest) := by
  have hplain : ∀ c ∈ '\n' :: List.replicate (2 * depth) ' ', Token.isPlain c = true := by
    intro c hc
    rcases List.mem_cons.1 hc with rfl | hc
    · decide
    · rw [List.eq_of_mem_replicate hc]
      decide
  rw [Row.render, List.append_assoc, readFrom_text hplain]

/-- A row that starts an element; a profile's element begins a draft afresh. -/
theorem readFrom_start {name : String} {space : Option String} (h : IsTagName name)
    (hs : IsSpaceName space) (depth : Nat) (opened : List String) (draft : Option Draft)
    (done : List Profile) (rest : List Char) :
    (behind opened draft done).readFrom ((Row.start name space).render depth ++ rest) =
      (behind (name :: opened) (if name = profileName then some {} else draft) done).readFrom
        rest := by
  rw [readFrom_render, Row.body, readFrom_startTag h hs]
  rfl

/-- An end tag inside a profile hands the text before it to the draft. -/
theorem readFrom_leaf {leaf parent : String} (h : IsTagName leaf) (hleaf : leaf ≠ profileName)
    (outer : List String) (d : Draft) (done : List Profile) (value rest : List Char) :
    ((behind (leaf :: parent :: outer) (some d) done).push value).readFrom
        (Row.endTag leaf ++ rest) =
      match d.record parent leaf (String.ofList value) with
      | .error f => .error (.content f)
      | .ok d => (behind (parent :: outer) (some d) done).readFrom rest := by
  rw [readFrom_endTag h rfl]
  simp only [behind, push, Reader.push, Reader.leave, if_neg hleaf, Reader.take, Draft.record,
    String.empty_append, Text.trimmed]
  cases Field.at? parent leaf with
  | none => rfl
  | some field =>
      simp only
      cases d.set field (String.ofList (Text.trim (String.ofList value).toList)) with
      | error f => rfl
      | ok d => rfl

/-- **A row that fits is read as it is followed.** -/
theorem readFrom_followRow {row : Row} (hfits : Fits row) {s s' : Stage}
    (h : followRow s row = some s') (depth : Nat) (done : List Profile) (rest : List Char) :
    (behind s.1 (some s.2) done).readFrom (row.render depth ++ rest) =
      (behind s'.1 (some s'.2) done).readFrom rest := by
  obtain ⟨opened, d⟩ := s
  cases row with
  | start name space =>
      obtain ⟨hname, hspace, hne⟩ := hfits
      cases h
      rw [readFrom_start hname hspace, if_neg hne]
  | field leaf value =>
      obtain ⟨hname, hne⟩ := hfits
      cases opened with
      | nil => simp [followRow] at h
      | cons parent outer =>
          have henter : (behind (parent :: outer) (some d) done).enter leaf =
              behind (leaf :: parent :: outer) (some d) done := by
            simp [enter, behind, Reader.enter, hne]
          simp only [followRow] at h
          rw [readFrom_render, Row.body, List.append_assoc, List.append_assoc,
            readFrom_startTag hname isSpaceName_none, enter_push, readFrom_escape,
            henter, readFrom_leaf hname hne, String.ofList_toList]
          cases hd : d.record parent leaf value with
          | error f => simp [hd] at h
          | ok d =>
              simp only [hd, Option.some.injEq] at h
              rw [← h]
  | finish last =>
      obtain ⟨hname, hne⟩ := hfits
      rcases opened with _ | ⟨name, _ | ⟨parent, outer⟩⟩
      · simp [followRow] at h
      · simp [followRow] at h
      · simp only [followRow] at h
        split at h
        · next hlast =>
            obtain ⟨rfl, hat⟩ := hlast
            cases h
            rw [readFrom_render, Row.body, readFrom_leaf hname hne]
            simp only [Draft.record, hat]
        · cases h

/-! ## runs of rows -/

/-- **Rows that fit are read as they are followed.** -/
theorem readFrom_follow {rows : List (Nat × Row)} (hfits : ∀ row ∈ rows, Fits row.2)
    {s s' : Stage} (h : follow s rows = some s') (done : List Profile) (rest : List Char) :
    (behind s.1 (some s.2) done).readFrom ((rows.flatMap fun r => r.2.render r.1) ++ rest) =
      (behind s'.1 (some s'.2) done).readFrom rest := by
  induction rows generalizing s with
  | nil =>
      rw [follow_nil] at h
      cases h
      rfl
  | cons row rows ih =>
      obtain ⟨t, hrow, hrows⟩ := Option.bind_eq_some_iff.1 h
      rw [List.flatMap_cons, List.append_assoc,
        readFrom_followRow (hfits row List.mem_cons_self) hrow,
        ih (fun r hr => hfits r (List.mem_cons_of_mem row hr)) hrows]

end Walk

end MacConsent.Document
