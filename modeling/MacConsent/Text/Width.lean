import MacConsent.Text.Emoji
import MacConsent.Text.Wide
import MacConsent.Text.ZeroWidth

/-!
# MacConsent.Text.Width

The columns that a text fills on a screen. A character alone fills none (marks,
joiners, invisible signs), one or two. Next to others it may fill less or more:
a picture selector widens its base to two columns, a text selector narrows it to
one, a skin tone and a joined picture share the columns of their neighbours, and
some letters of Arabic, Hebrew, Khmer, Buginese, Tifinagh, Lisu and Old Turkic
are drawn as one with the next. What a character fills depends on what
stands to its right, so a text is measured from its end.

Up to U+00A0 every character fills one column, controls included; only the two
characters of a line end share one.
-/

namespace MacConsent.Text

/-! ## Single characters -/

/-- Whether a character may stand inside a joined pair of letters unseen. -/
def isVeiled (c : Char) : Bool :=
  let n := c.toNat
  n == 0x34F || (0x17B4 ≤ n && n ≤ 0x17B5) || (0x180B ≤ n && n ≤ 0x180D) || n == 0x180F ||
    (0xFE00 ≤ n && n ≤ 0xFE0F) || (0xE0100 ≤ n && n ≤ 0xE01EF)

/-- Code points of the Arabic letter alef in its forms. -/
def alefs : RangeTable :=
  #[(0x622, 0x623), (0x625, 0x625), (0x627, 0x627), (0x671, 0x673), (0x675, 0x675),
    (0x773, 0x774), (0x870, 0x882)]

/-- Code points of the Arabic letter lam in its forms. -/
def lams : RangeTable :=
  #[(0x644, 0x644), (0x6B5, 0x6B8), (0x76A, 0x76A), (0x8A6, 0x8A6), (0x8C7, 0x8C7)]

/-- Code points of the Khmer letters that hang below the one before. -/
def subscribable : RangeTable :=
  #[(0x1780, 0x1782), (0x1784, 0x1787), (0x1789, 0x178C), (0x178E, 0x1793), (0x1795, 0x1798),
    (0x179B, 0x179D), (0x17A0, 0x17A0), (0x17A2, 0x17A2), (0x17A7, 0x17A7), (0x17AB, 0x17AC),
    (0x17AF, 0x17AF)]

/-- Whether a character is a Tifinagh consonant. -/
def isTifinagh (c : Char) : Bool := (0x2D31 ≤ c.toNat && c.toNat ≤ 0x2D65) || c.toNat == 0x2D6F

/-! ## What stands to the right -/

/-- A letter that may be drawn as one with the letter before it. -/
inductive Joining
  | alef
  | lamed
  | khmer
  | ya
  | vowelAndYa
  | tifinagh
  | joinedTifinagh
  | lisuTone
  | orkhonI
deriving DecidableEq, Repr

/-- The part of a joined picture to the right of its joiner. -/
inductive Joined
  | picture
  | keycap
  | flag
  | evenFlags
  | oddFlags
  /-- Tag letters and tag digits before the tag that ends them. -/
  | tags (letters digits : Nat)
deriving DecidableEq, Repr

/-- What stands to the right, as far as the next character to the left can tell. -/
inductive Neighbour
  | plain
  | lineFeed
  | skinTone
  | flagHalf
  | flagHalves
  | picture
  | joined (j : Joined)
  /-- A letter, and whether a joiner stands before it. -/
  | letter (l : Joining) (joiner : Bool)
deriving DecidableEq, Repr

/-- A variation selector that waits for its base. -/
inductive Selector
  | none
  | text
  | picture
deriving DecidableEq, Repr

/-- The right-hand side of the character under measure. -/
structure Follows where
  neighbour : Neighbour
  selector : Selector
deriving DecidableEq, Repr

namespace Follows

/-- Nothing of note to the right. -/
def nothing : Follows := ⟨.plain, .none⟩

/-- A neighbour without a selector before it. -/
def just (n : Neighbour) : Follows := ⟨n, .none⟩

/-- The neighbour behind a picture selector; only letters and joined pictures show through. -/
def pictured (f : Follows) : Follows :=
  match f.neighbour with
  | .letter .. => ⟨f.neighbour, .picture⟩
  | .joined .picture => ⟨f.neighbour, .picture⟩
  | .joined .keycap => ⟨f.neighbour, .picture⟩
  | _ => ⟨.plain, .picture⟩

/-- The neighbour behind a text selector; only letters show through. -/
def texted (f : Follows) : Follows :=
  match f.neighbour with
  | .letter .. => ⟨f.neighbour, .text⟩
  | _ => ⟨.plain, .text⟩

/-- The neighbour once its selector has found no base. -/
def unselected (f : Follows) : Follows :=
  match f.neighbour with
  | .letter .. => ⟨f.neighbour, .none⟩
  | _ => nothing

end Follows

/-! ## Measuring -/

/-- The columns of a character that its right-hand side leaves alone. -/
def ownWidth (c : Char) : Int × Follows :=
  let n := c.toNat
  if n = 0xFE0E then (0, ⟨.plain, .text⟩)
  else if n = 0xFE0F then (0, ⟨.plain, .picture⟩)
  else if n = 0x5DC then (1, .just (.letter .lamed false))
  else if n = 0x1A10 then (1, .just (.letter .ya false))
  else if n = 0x10C03 then (1, .just (.letter .orkhonI false))
  else if n = 0xA4FC ∨ n = 0xA4FD then (1, .just (.letter .lisuTone false))
  else if n = 0x17A4 then (2, .nothing)
  else if n = 0x17D8 then (3, .nothing)
  else if isRegionalIndicator c then (1, .just .flagHalf)
  else if isEmojiModifier c then (2, .just .skinTone)
  else if alefs.mem c then (1, .just (.letter .alef false))
  else if subscribable.mem c then (1, .just (.letter .khmer false))
  else if isTifinagh c then (1, .just (.letter .tifinagh false))
  else if isZeroWidth c then (0, .nothing)
  else if isEmojiPresentation c then (2, .just .picture)
  else if isWide c then (2, .nothing)
  else (1, .nothing)

/-- The change of width where a letter is drawn as one with the letter to its right. -/
def letterWidth? (c : Char) (l : Joining) (joiner : Bool) : Option (Int × Follows) :=
  let n := c.toNat
  match l with
  | .alef =>
    if lams.mem c then some (0, .nothing)
    else if isTransparent c then some (0, .just (.letter .alef joiner))
    else none
  | .lamed => if joiner && n == 0x5D0 then some (0, .nothing) else none
  | .khmer => if n = 0x17D2 then some (-1, .nothing) else none
  | .ya => if joiner && n == 0x1A17 then some (0, .just (.letter .vowelAndYa false)) else none
  | .vowelAndYa => if n = 0x1A15 then some (0, .nothing) else none
  | .tifinagh =>
    if n = 0x2D7F then some (1, .just (.letter .joinedTifinagh false))
    else if joiner && isTifinagh c then some (0, .nothing)
    else none
  | .joinedTifinagh => if isTifinagh c then some (-1, .nothing) else none
  | .lisuTone => if 0xA4F8 ≤ n ∧ n ≤ 0xA4FB then some (0, .nothing) else none
  | .orkhonI => if joiner && n == 0x10C32 then some (0, .nothing) else none

/-- The change of width in front of a joined picture. -/
def joinedWidth? (c : Char) (j : Joined) : Option (Int × Follows) :=
  let n := c.toNat
  match j with
  | .picture =>
    if n = 0x20E3 then some (0, .just (.joined .keycap))
    else if isRegionalIndicator c then some (1, .just (.joined .flag))
    else if isEmojiModifier c then some (0, .just .skinTone)
    else if n = 0xE007F then some (0, .just (.joined (.tags 0 0)))
    else if isEmojiPresentation c then some (0, .just .picture)
    else none
  | .keycap => none
  | .flag =>
    if isRegionalIndicator c then some (-1, .just (.joined .evenFlags)) else none
  | .evenFlags =>
    if isRegionalIndicator c then some (3, .just (.joined .oddFlags))
    else if n = 0x200D then some (0, .just (.joined .picture))
    else none
  | .oddFlags =>
    if isRegionalIndicator c then some (-1, .just (.joined .evenFlags))
    else if n = 0x200D then some (0, .just (.joined .picture))
    else none
  | .tags letters digits =>
    if 0xE0061 ≤ n ∧ n ≤ 0xE007A ∧ digits = 0 ∧ letters < 6 then
      some (0, .just (.joined (.tags (letters + 1) 0)))
    else if 0xE0030 ≤ n ∧ n ≤ 0xE0039 ∧ digits < 3 ∧ letters ≤ 4 then
      some (0, .just (.joined (.tags letters (digits + 1))))
    else if n = 0x1F3F4 ∧ (digits = 3 ∨ (digits = 0 ∧ 3 ≤ letters)) then
      some (0, .just .picture)
    else none

/-- The change of width that what stands to the right brings about, if it does. -/
def pairWidth? (c : Char) (f : Follows) : Option (Int × Follows) :=
  match f.neighbour with
  | .letter l joiner => letterWidth? c l joiner
  | .joined j => joinedWidth? c j
  | .skinTone =>
    if isEmojiModifierBase c then some (0, .just .picture)
    else if c.toNat = 0x200D then some (0, .just (.joined .picture))
    else none
  | .picture => if c.toNat = 0x200D then some (0, .just (.joined .picture)) else none
  | .flagHalf => if isRegionalIndicator c then some (1, .just .flagHalves) else none
  | .flagHalves =>
    if isRegionalIndicator c then some (1, .just .flagHalves)
    else if c.toNat = 0x200D then some (0, .just (.joined .picture))
    else none
  | .lineFeed => none
  | .plain => none

/-- The columns of a character beyond U+00A0, once no selector waits. -/
def freeWidth (c : Char) (f : Follows) : Int × Follows :=
  if c.toNat = 0xFE0F then (0, f.pictured)
  else if c.toNat = 0xFE0E then (0, f.texted)
  else
    match f.neighbour with
    | .letter .alef _ => (pairWidth? c f).getD (ownWidth c)
    | .letter l joiner =>
      if c.toNat = 0x200D then (0, .just (.letter l true))
      else if isVeiled c then (0, .just (.letter l joiner))
      else (pairWidth? c f).getD (ownWidth c)
    | _ => (pairWidth? c f).getD (ownWidth c)

/-- The columns of a character up to U+00A0. -/
def latinWidth (c : Char) (f : Follows) : Int × Follows :=
  if c = '\n' then (1, .just .lineFeed)
  else if c = '\r' ∧ f = .just .lineFeed then (0, .nothing)
  else (1, .nothing)

/-- The columns that a character adds in front of its right-hand side. -/
def addedWidth (c : Char) (f : Follows) : Int × Follows :=
  if f.selector = .picture ∧ hasPictureVariant c = true then
    let shared := f.neighbour = .joined .picture ∨ f.neighbour = .joined .keycap
    (if shared then 0 else 2, .just .picture)
  else
    let f := if f.selector = .picture then f.unselected else f
    if c.toNat ≤ 0xA0 then latinWidth c f
    else if f.selector = .text ∧ c.toNat ≠ 0xFE0F ∧ c.toNat ≠ 0xFE0E then
      if hasTextVariant c then (1, .nothing) else freeWidth c f.unselected
    else freeWidth c f

/-- The columns that a text fills. -/
def displayWidth (cs : List Char) : Nat :=
  (cs.foldr (fun c s => let (w, f) := addedWidth c s.2; (s.1 + w, f))
    ((0 : Int), Follows.nothing)).1.toNat

end MacConsent.Text
