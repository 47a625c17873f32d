/-!
# MacConsent.Text.Decimal

Numbers as text. A number is written with the fewest digits and a minus sign
when it is negative. A reader takes the digits from left to right and stops at
the first fault: a character that is no digit, or a value past the limit.
-/

namespace MacConsent.Decimal

/-! ## Writing -/

/-- A signed number in decimal digits. -/
def ofInt (n : Int) : List Char :=
  if n < 0 then '-' :: Nat.toDigits 10 n.natAbs else Nat.toDigits 10 n.natAbs

/-! ## Reading -/

/-- Why a text is not a number. -/
inductive Fault
  | empty
  | invalidDigit
  | tooLarge
  | tooSmall
deriving DecidableEq, Repr

/-- The wording of a fault. -/
def Fault.message : Fault → String
  | .empty => "cannot parse integer from empty string"
  | .invalidDigit => "invalid digit found in string"
  | .tooLarge => "number too large to fit in target type"
  | .tooSmall => "number too small to fit in target type"

/-- The value of a digit in a base of at most sixteen. -/
def digit? (base : Nat) (c : Char) : Option Nat :=
  let d :=
    if '0' ≤ c ∧ c ≤ '9' then c.toNat - 48
    else if 'a' ≤ c ∧ c ≤ 'f' then c.toNat - 87
    else if 'A' ≤ c ∧ c ≤ 'F' then c.toNat - 55
    else base
  if d < base then some d else none

/-- Reads digits on top of `value`; `past` is the fault of a value over `limit`. -/
def readDigits (base limit : Nat) (past : Fault) (value : Nat) : List Char → Except Fault Nat
  | [] => .ok value
  | c :: cs =>
    match digit? base c with
    | none => .error .invalidDigit
    | some d =>
      if base * value + d ≤ limit then readDigits base limit past (base * value + d) cs
      else .error past

/-- An unsigned number of at most `limit`; no sign is taken. -/
def readUnsigned (base limit : Nat) : List Char → Except Fault Nat
  | [] => .error .empty
  | cs => readDigits base limit .tooLarge 0 cs

/-- A decimal number from `-limit - 1` to `limit`, with an optional sign. -/
def readSigned (limit : Nat) : List Char → Except Fault Int
  | [] => .error .empty
  | ['-'] => .error .invalidDigit
  | ['+'] => .error .invalidDigit
  | '-' :: cs => (readDigits 10 (limit + 1) .tooSmall 0 cs).map fun n => -(n : Int)
  | '+' :: cs => (readDigits 10 limit .tooLarge 0 cs).map Int.ofNat
  | cs => (readDigits 10 limit .tooLarge 0 cs).map Int.ofNat

/-! ## Numbers with a fraction -/

/-- A text without a sign at its start. -/
def dropSign : List Char → List Char
  | '+' :: cs => cs
  | '-' :: cs => cs
  | cs => cs

/-- Whether a text is an exponent, or empty. -/
def isExponent : List Char → Bool
  | [] => true
  | c :: cs =>
    let digits := dropSign cs
    (c == 'e' || c == 'E') && !digits.isEmpty && digits.all Char.isDigit

/-- Whether a text gives a number in decimal digits: with a sign, a point and an exponent if it
likes, and a digit on at least one side of the point. The words for what is infinite and for
what is no number are taken too, in any case. -/
def isReal (cs : List Char) : Bool :=
  let cs := dropSign cs
  let whole := cs.takeWhile Char.isDigit
  let (fraction, rest) :=
    match cs.dropWhile Char.isDigit with
    | '.' :: cs => (cs.takeWhile Char.isDigit, cs.dropWhile Char.isDigit)
    | cs => ([], cs)
  ["inf", "infinity", "nan"].contains (String.ofList (cs.map Char.toLower)) ||
    (!(whole ++ fraction).isEmpty && isExponent rest)

end MacConsent.Decimal
