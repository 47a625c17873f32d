import MacConsent.Markup.Fault

/-!
# MacConsent.Markup.Token

A document cut into tokens: runs of text, references, tags, and the parts that
carry no data. The cuts depend on delimiters alone. Text ends at the next tag or
reference; a tag ends at the first closing bracket outside quotes; a comment, a
character-data section and an instruction end at their own closing marks; a
document type declaration ends where its brackets balance.

Every token takes at least one character (`length_rest_lt`), so cutting ends.
-/

namespace MacConsent.Markup

/-- A piece of a document. -/
inductive Token
  | text (content : List Char)
  /-- What stands between the ampersand and the semicolon. -/
  | reference (name : List Char)
  /-- What stands between the brackets of a start tag. -/
  | startTag (content : List Char)
  /-- What stands between the slash and the closing bracket of an end tag. -/
  | endTag (content : List Char)
  /-- An empty element, comment, character-data section, instruction or declaration. -/
  | ignored
deriving DecidableEq, Repr

namespace Token

/-- The blanks that separate the parts of a tag. -/
def isTagBlank (c : Char) : Bool := c == ' ' || c == '\t' || c == '\r' || c == '\n'

/-! ## Finding where a token ends -/

/-- The first closing bracket outside quotes. The result holds what stands before it, last
character first, and what stands after it. -/
def closeTag (quote : Option Char) (before : List Char) :
    List Char → Option (List Char × List Char)
  | [] => none
  | c :: cs =>
    match quote with
    | some q => closeTag (if c = q then none else some q) (c :: before) cs
    | none =>
      if c = '>' then some (before, cs)
      else if c = '\'' ∨ c = '"' then closeTag (some c) (c :: before) cs
      else closeTag none (c :: before) cs

/-- The first closing bracket that what stands before it, last character first, lets close. -/
def closeAfter (closes : List Char → Bool) (before : List Char) :
    List Char → Option (List Char × List Char)
  | [] => none
  | c :: cs =>
    if c = '>' ∧ closes before = true then some (before, cs)
    else closeAfter closes (c :: before) cs

/-- The closing bracket that balances; `depth` brackets are open besides the first. -/
def closeBalanced (depth : Nat) (before : List Char) :
    List Char → Option (List Char × List Char)
  | [] => none
  | c :: cs =>
    if c = '<' then closeBalanced (depth + 1) (c :: before) cs
    else if c = '>' then
      match depth with
      | 0 => some (before, cs)
      | depth + 1 => closeBalanced depth (c :: before) cs
    else closeBalanced depth (c :: before) cs

/-- Two hyphens close a comment, unless they are those that open it. -/
def closesComment (before : List Char) : Bool :=
  decide (4 < before.length) && ['-', '-'].isPrefixOf before

/-- Two brackets close a character-data section. -/
def closesCData (before : List Char) : Bool := [']', ']'].isPrefixOf before

/-- A question mark closes an instruction. -/
def closesInstruction (before : List Char) : Bool := ['?'].isPrefixOf before

/-! ## Cutting one token -/

/-- A token and the characters after it, or the fault that is met instead. -/
abbrev Cut := Except Fault (Token × List Char)

/-- Whether a character belongs to a run of text. -/
def isPlain (c : Char) : Bool := c != '<' && c != '&'

/-- A reference, cut behind its ampersand. -/
def cutReference (cs : List Char) : Cut :=
  match cs.dropWhile fun c => c != ';' && isPlain c with
  | ';' :: rest => .ok (.reference (cs.takeWhile fun c => c != ';' && isPlain c), rest)
  | _ => .error .unclosedReference

/-- A start tag or an empty element, cut behind its opening bracket. -/
def cutStart (cs : List Char) : Cut :=
  match closeTag none [] cs with
  | none => .error .unclosedTag
  | some ('/' :: _, rest) => .ok (.ignored, rest)
  | some (before, rest) => .ok (.startTag before.reverse, rest)

/-- An end tag, cut behind its slash. -/
def cutEnd (cs : List Char) : Cut :=
  match closeTag none [] cs with
  | none => .error .unclosedTag
  | some (before, rest) => .ok (.endTag before.reverse, rest)

/-- An instruction or declaration, cut behind its opening bracket. -/
def cutInstruction (cs : List Char) : Cut :=
  match closeAfter closesInstruction [] cs with
  | none => .error .unclosedInstruction
  | some (before, rest) =>
    if 1 < before.length then .ok (.ignored, rest) else .error .unclosedInstruction

/-- A comment, cut behind its opening bracket. -/
def cutComment (cs : List Char) : Cut :=
  match closeAfter closesComment [] cs with
  | none => .error .unclosedComment
  | some (before, rest) =>
    if ['!', '-', '-'].isPrefixOf before.reverse then .ok (.ignored, rest)
    else .error .unclosedComment

/-- A character-data section, cut behind its opening bracket. -/
def cutCData (cs : List Char) : Cut :=
  match closeAfter closesCData [] cs with
  | none => .error .unclosedCData
  | some (before, rest) =>
    if ['!', '[', 'C', 'D', 'A', 'T', 'A', '['].isPrefixOf before.reverse then
      .ok (.ignored, rest)
    else .error .unclosedCData

/-- A document type declaration, cut behind its opening bracket; its keyword may be written
in any case, and something must follow it. -/
def cutDoctype (cs : List Char) : Cut :=
  match closeBalanced 0 [] cs with
  | none => .error .unclosedDoctype
  | some (before, rest) =>
    let content := before.reverse
    if (content.take 8).map Char.toUpper = ['!', 'D', 'O', 'C', 'T', 'Y', 'P', 'E'] then
      if (content.drop 8).all isTagBlank then .error .namelessDoctype
      else .ok (.ignored, rest)
    else .error .unclosedDoctype

/-- What an opening bracket starts, cut behind the bracket. -/
def cutMarkup : List Char → Cut
  | [] => .error .unclosedTag
  | '!' :: '[' :: cs => cutCData ('!' :: '[' :: cs)
  | '!' :: '-' :: cs => cutComment ('!' :: '-' :: cs)
  | '!' :: 'D' :: cs => cutDoctype ('!' :: 'D' :: cs)
  | '!' :: 'd' :: cs => cutDoctype ('!' :: 'd' :: cs)
  | '!' :: _ => .error .unknownMarkup
  | '?' :: cs => cutInstruction ('?' :: cs)
  | '/' :: cs => cutEnd cs
  | cs => cutStart cs

/-- The token that a text begins with; the first character is given apart. -/
def cut (c : Char) (cs : List Char) : Cut :=
  if c = '<' then cutMarkup cs
  else if c = '&' then cutReference cs
  else .ok (.text (c :: cs.takeWhile isPlain), cs.dropWhile isPlain)

/-! ## Every token takes a character -/

/-- The end of a tag is cut off, so less is left. -/
theorem length_closeTag {q : Option Char} {before cs b rest : List Char}
    (h : closeTag q before cs = some (b, rest)) : rest.length < cs.length := by
  induction cs generalizing q before with
  | nil => cases q <;> simp [closeTag] at h
  | cons c cs ih =>
    cases q with
    | some q => exact Nat.lt_succ_of_lt (ih h)
    | none =>
      simp only [closeTag] at h
      split at h
      · cases h; exact Nat.lt_succ_self _
      · split at h
        · exact Nat.lt_succ_of_lt (ih h)
        · exact Nat.lt_succ_of_lt (ih h)

theorem length_closeAfter {closes : List Char → Bool} {before cs b rest : List Char}
    (h : closeAfter closes before cs = some (b, rest)) : rest.length < cs.length := by
  induction cs generalizing before with
  | nil => simp [closeAfter] at h
  | cons c cs ih =>
    rw [closeAfter] at h
    split at h
    · cases h; exact Nat.lt_succ_self _
    · exact Nat.lt_succ_of_lt (ih h)

/-- The end of a declaration is cut off, so less is left. -/
theorem length_closeBalanced {depth : Nat} {before cs b rest : List Char}
    (h : closeBalanced depth before cs = some (b, rest)) : rest.length < cs.length := by
  induction cs generalizing depth before with
  | nil => simp [closeBalanced] at h
  | cons c cs ih =>
    cases depth with
    | zero =>
      simp only [closeBalanced] at h
      split at h
      · exact Nat.lt_succ_of_lt (ih h)
      · split at h
        · cases h; exact Nat.lt_succ_self _
        · exact Nat.lt_succ_of_lt (ih h)
    | succ depth =>
      simp only [closeBalanced] at h
      split at h
      · exact Nat.lt_succ_of_lt (ih h)
      · split at h <;> exact Nat.lt_succ_of_lt (ih h)

theorem length_dropWhile_le (p : Char → Bool) (cs : List Char) :
    (cs.dropWhile p).length ≤ cs.length := by
  induction cs with
  | nil => simp
  | cons c cs ih =>
    rw [List.dropWhile_cons]
    split
    · exact Nat.le_succ_of_le ih
    · exact Nat.le_refl _

/-- A reference is cut off, so less is left. -/
theorem length_cutReference {cs rest : List Char} {t : Token}
    (h : cutReference cs = .ok (t, rest)) : rest.length < cs.length := by
  unfold cutReference at h
  split at h
  · next r heq =>
    cases h
    have := length_dropWhile_le (fun c => c != ';' && isPlain c) cs
    rw [heq] at this
    exact this
  · cases h

/-- A start tag is cut off, so less is left. -/
theorem length_cutStart {cs rest : List Char} {t : Token}
    (h : cutStart cs = .ok (t, rest)) : rest.length < cs.length := by
  unfold cutStart at h
  split at h
  · cases h
  · next heq => cases h; exact length_closeTag heq
  · next heq => cases h; exact length_closeTag heq

/-- An end tag is cut off, so less is left. -/
theorem length_cutEnd {cs rest : List Char} {t : Token}
    (h : cutEnd cs = .ok (t, rest)) : rest.length < cs.length := by
  unfold cutEnd at h
  split at h
  · cases h
  · next heq => cases h; exact length_closeTag heq

theorem length_cutInstruction {cs rest : List Char} {t : Token}
    (h : cutInstruction cs = .ok (t, rest)) : rest.length < cs.length := by
  unfold cutInstruction at h
  split at h
  · cases h
  · next heq =>
    split at h
    · cases h; exact length_closeAfter heq
    · cases h

theorem length_cutComment {cs rest : List Char} {t : Token}
    (h : cutComment cs = .ok (t, rest)) : rest.length < cs.length := by
  unfold cutComment at h
  split at h
  · cases h
  · next heq =>
    split at h
    · cases h; exact length_closeAfter heq
    · cases h

theorem length_cutCData {cs rest : List Char} {t : Token}
    (h : cutCData cs = .ok (t, rest)) : rest.length < cs.length := by
  unfold cutCData at h
  split at h
  · cases h
  · next heq =>
    split at h
    · cases h; exact length_closeAfter heq
    · cases h

theorem length_cutDoctype {cs rest : List Char} {t : Token}
    (h : cutDoctype cs = .ok (t, rest)) : rest.length < cs.length := by
  unfold cutDoctype at h
  split at h
  · cases h
  · next heq =>
    simp only at h
    split at h
    · split at h
      · cases h
      · cases h; exact length_closeBalanced heq
    · cases h

/-- **Whatever markup is cut off, less is left.** -/
theorem length_cutMarkup {cs rest : List Char} {t : Token}
    (h : cutMarkup cs = .ok (t, rest)) : rest.length < cs.length := by
  unfold cutMarkup at h
  split at h
  · cases h
  · exact length_cutCData h
  · exact length_cutComment h
  · exact length_cutDoctype h
  · exact length_cutDoctype h
  · cases h
  · exact length_cutInstruction h
  · exact Nat.lt_succ_of_lt (length_cutEnd h)
  · exact length_cutStart h

/-- What is left behind a token is shorter than the text that it was cut off. -/
theorem length_rest_lt {c : Char} {cs rest : List Char} {t : Token}
    (h : cut c cs = .ok (t, rest)) : rest.length < (c :: cs).length := by
  unfold cut at h
  split at h
  · exact Nat.lt_succ_of_lt (length_cutMarkup h)
  · split at h
    · exact Nat.lt_succ_of_lt (length_cutReference h)
    · cases h
      exact Nat.lt_succ_of_le (length_dropWhile_le isPlain cs)

/-! ## Cutting a document -/

/-- Cuts tokens until the text ends or a fault is met; `done` holds those so far, last first. -/
def scanFrom (done : List Token) (text : List Char) : Reading Token Fault :=
  match text with
  | [] => ⟨done.reverse, none⟩
  | c :: cs =>
    match _h : cut c cs with
    | .error f => ⟨done.reverse, some f⟩
    | .ok (t, rest) => scanFrom (t :: done) rest
termination_by text.length
decreasing_by exact length_rest_lt _h

/-- The tokens of a document. One byte order mark at the start is no part of it. -/
def scan : List Char → Reading Token Fault
  | '\ufeff' :: cs => scanFrom [] cs
  | cs => scanFrom [] cs

end Token

end MacConsent.Markup
