import MacConsent.Document.Reader

/-!
# MacConsent.Proofs.Document.Walk

Reading a document in one pass.  A reader follows the events of a document, and
the events come from its tokens; a walk does the three steps at once, token by
token, so what it makes of a document can be said piece by piece, whatever
stands behind the piece.  Both ways give the same profiles and the same faults
(`read_eq`).

What a reader can do when an element ends is said once (`Reader.leave_cases`).
-/

namespace MacConsent.Document

open Markup (Token Event)

/-! ## the end of an element -/

section Except

variable {ε ε' α β : Type}

theorem map_eq_ok {f : α → β} {x : Except ε α} {b : β} (h : x.map f = .ok b) :
    ∃ a, x = .ok a ∧ f a = b := by
  cases x with
  | error e => cases h
  | ok a => exact ⟨a, rfl, Except.ok.inj h⟩

theorem map_eq_error {f : α → β} {x : Except ε α} {e : ε} (h : x.map f = .error e) :
    x = .error e := by
  cases x with
  | error e => cases h; rfl
  | ok a => cases h

theorem mapError_eq_ok {f : ε → ε'} {x : Except ε α} {a : α} (h : x.mapError f = .ok a) :
    x = .ok a := by
  cases x with
  | error e => cases h
  | ok b => cases h; rfl

theorem mapError_eq_error {f : ε → ε'} {x : Except ε α} {e' : ε'} (h : x.mapError f = .error e') :
    ∃ e, x = .error e ∧ f e = e' := by
  cases x with
  | error e => exact ⟨e, rfl, Except.error.inj h⟩
  | ok b => cases h

end Except

namespace Reader

variable {r r' : Reader} {leaf : String}

/-- The draft turns into a profile, if there is one. -/
theorem finish_cases (h : r.finish = .ok r') :
    r' = r ∨ ∃ d p, r.draft = some d ∧ d.profile? = .ok p ∧
      r' = { r with draft := none, done := p :: r.done } := by
  unfold finish at h
  split at h
  · cases h
    exact .inl rfl
  · next d hdraft =>
      split at h
      · cases h
      · next p hprofile =>
          cases h
          exact .inr ⟨d, p, hdraft, hprofile, rfl⟩

/-- The draft takes the trimmed text, if there is one and the element is a field. -/
theorem take_cases (h : r.take leaf = .ok r') :
    r' = r ∨ ∃ d field d', r.draft = some d ∧
      d.set field (String.ofList (Text.trim r.text.toList)) = .ok d' ∧
      r' = { r with draft := some d' } := by
  unfold take at h
  split at h
  · next d parent outer hdraft hpath =>
      split at h
      · cases h
        exact .inl rfl
      · next field hfield =>
          split at h
          · cases h
          · next d' hset =>
              cases h
              exact .inr ⟨d, field, d', hdraft, hset, rfl⟩
  · cases h
    exact .inl rfl

/-- What is done at the end of an element, inside the elements that are still open. -/
theorem leave_eq {outer : List String} (hpath : r.path = leaf :: outer) :
    r.leave = (if leaf = profileName then finish { r with path := outer }
      else take { r with path := outer } leaf).map fun r => { r with text := "" } := by
  rw [leave, hpath]

/-- Leaving an element takes its name off the path and drops the text; a profile is finished, or
the draft is given a value. -/
theorem leave_cases (h : r.leave = .ok r') :
    ∃ leaf outer behind, r.path = leaf :: outer ∧ r' = { behind with text := "" } ∧
      (finish { r with path := outer } = .ok behind ∨
        take { r with path := outer } leaf = .ok behind) := by
  cases hpath : r.path with
  | nil =>
      rw [leave, hpath] at h
      cases h
  | cons leaf outer =>
      rw [leave_eq hpath] at h
      obtain ⟨behind, hafter, rfl⟩ := map_eq_ok h
      refine ⟨leaf, outer, behind, rfl, rfl, ?_⟩
      split at hafter
      · exact .inl hafter
      · exact .inr hafter

end Reader

/-! ## a walk through tokens -/

/-- A reader, and the full names of the elements that are open, innermost first. -/
structure Walk where
  opened : List String := []
  reader : Reader := {}

namespace Walk

/-- Follows one token. -/
def step (w : Walk) (t : Token) : Except Fault Walk :=
  match Event.ofToken w.opened t with
  | .error f => .error (.markup f)
  | .ok (e, opened) =>
    match w.reader.step e with
    | .error f => .error f
    | .ok reader => .ok ⟨opened, reader⟩

/-- Cuts tokens off a text and follows them, up to the end or to the first fault. -/
def readFrom (w : Walk) (text : List Char) : Except Fault (List Profile) :=
  match text with
  | [] => .ok w.reader.done.reverse
  | c :: cs =>
    match _h : Token.cut c cs with
    | .error f => .error (.markup f)
    | .ok (t, rest) =>
      match w.step t with
      | .error f => .error f
      | .ok w => readFrom w rest
termination_by text.length
decreasing_by exact Token.length_rest_lt _h

/-! ## tokens and events without their accumulators -/

theorem scanFrom_cons (done : List Token) (c : Char) (cs : List Char) :
    Token.scanFrom done (c :: cs) =
      match Token.cut c cs with
      | .error f => ⟨done.reverse, some f⟩
      | .ok (t, rest) => Token.scanFrom (t :: done) rest := by
  rw [Token.scanFrom]
  split
  · next f heq => rw [heq]
  · next t rest heq => rw [heq]

/-- The tokens found so far stand in front of those to come. -/
theorem scanFrom_eq (done : List Token) (text : List Char) :
    Token.scanFrom done text =
      ⟨done.reverse ++ (Token.scanFrom [] text).items, (Token.scanFrom [] text).fault⟩ := by
  induction hn : text.length using Nat.strongRecOn generalizing done text with
  | ind n ih =>
      cases text with
      | nil => simp [Token.scanFrom]
      | cons c cs =>
          rw [scanFrom_cons done, scanFrom_cons []]
          cases hcut : Token.cut c cs with
          | error f => simp
          | ok p =>
              have hlt : p.2.length < n := hn ▸ Token.length_rest_lt (t := p.1) hcut
              simp only
              rw [ih _ hlt (p.1 :: done) p.2 rfl, ih _ hlt [p.1] p.2 rfl]
              simp

/-- The events found so far stand in front of those to come. -/
theorem ofTokensFrom_eq (fault : Option Markup.Fault) (done : List Event) (opened : List String)
    (ts : List Token) :
    Event.ofTokensFrom fault done opened ts =
      ⟨done.reverse ++ (Event.ofTokensFrom fault [] opened ts).items,
        (Event.ofTokensFrom fault [] opened ts).fault⟩ := by
  induction ts generalizing done opened with
  | nil => simp [Event.ofTokensFrom]
  | cons t ts ih =>
      rw [Event.ofTokensFrom, Event.ofTokensFrom]
      cases Event.ofToken opened t with
      | error f => simp
      | ok p =>
          simp only
          rw [ih (p.1 :: done), ih [p.1]]
          simp

/-! ## both ways of reading -/

/-- What a reader makes of events and of the fault that ends them. -/
def conclude (r : Reader) (events : Markup.Reading Event Markup.Fault) :
    Except Fault (List Profile) :=
  match r.run events.items with
  | .error f => .error f
  | .ok r =>
    match events.fault with
    | some f => .error (.markup f)
    | none => .ok r.done.reverse

/-- A reader that is told of a token does what a walk does. -/
theorem conclude_cons (fault : Option Markup.Fault) (w : Walk) (t : Token) (ts : List Token) :
    conclude w.reader (Event.ofTokensFrom fault [] w.opened (t :: ts)) =
      match w.step t with
      | .error f => .error f
      | .ok w => conclude w.reader (Event.ofTokensFrom fault [] w.opened ts) := by
  rw [step, Event.ofTokensFrom]
  cases Event.ofToken w.opened t with
  | error f => rfl
  | ok p =>
      obtain ⟨e, opened⟩ := p
      dsimp only
      rw [ofTokensFrom_eq, List.reverse_singleton, List.singleton_append, conclude, Reader.run]
      cases w.reader.step e with
      | error f => rfl
      | ok reader => rfl

/-- The events of a text while the elements `opened` are open. -/
def events (opened : List String) (text : List Char) : Markup.Reading Event Markup.Fault :=
  Event.ofTokensFrom (Token.scanFrom [] text).fault [] opened (Token.scanFrom [] text).items

theorem readFrom_cons (w : Walk) (c : Char) (cs : List Char) :
    w.readFrom (c :: cs) =
      match Token.cut c cs with
      | .error f => .error (.markup f)
      | .ok (t, rest) =>
        match w.step t with
        | .error f => .error f
        | .ok w => w.readFrom rest := by
  rw [readFrom]
  split
  · next heq => rw [heq]
  · next heq => rw [heq]

/-- A walk does what a reader does with all events of the text. -/
theorem readFrom_eq (w : Walk) (text : List Char) :
    w.readFrom text = conclude w.reader (events w.opened text) := by
  induction hn : text.length using Nat.strongRecOn generalizing w text with
  | ind n ih =>
      cases text with
      | nil => simp [readFrom, events, Token.scanFrom, Event.ofTokensFrom, conclude, Reader.run]
      | cons c cs =>
          rw [readFrom_cons, events, scanFrom_cons]
          cases hcut : Token.cut c cs with
          | error f => simp [Event.ofTokensFrom, conclude, Reader.run]
          | ok p =>
              have hlt : p.2.length < n := hn ▸ Token.length_rest_lt (t := p.1) hcut
              simp only
              rw [scanFrom_eq [p.1] p.2, List.reverse_singleton, List.singleton_append,
                conclude_cons]
              cases w.step p.1 with
              | error f => rfl
              | ok behind => exact ih _ hlt behind p.2 rfl

/-- What is read of a document: all of it behind a byte order mark. -/
def behindMark : List Char → List Char
  | '\ufeff' :: cs => cs
  | cs => cs

/-- **Reading in one pass**: a document is read by a walk. -/
theorem read_eq_readFrom (document : String) :
    Document.read document = readFrom {} (behindMark document.toList) := by
  have hscan (cs : List Char) : Token.scan cs = Token.scanFrom [] (behindMark cs) := by
    unfold behindMark
    split
    · rfl
    · next hmark =>
        rw [Token.scan]
        exact hmark
  rw [readFrom_eq, Document.read, Event.read, hscan]
  rfl

theorem read_eq {document : String} (h : document.toList.head? ≠ some '\ufeff') :
    Document.read document = readFrom {} document.toList := by
  have hbehind : behindMark document.toList = document.toList := by
    unfold behindMark
    split
    · next heq => rw [heq] at h; exact absurd rfl h
    · rfl
  rw [read_eq_readFrom, hbehind]

end Walk

end MacConsent.Document
