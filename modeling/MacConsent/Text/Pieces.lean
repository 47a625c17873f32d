/-!
# MacConsent.Text.Pieces

A text cut at a separator. Cutting leaves the separators out and keeps empty
pieces, so there is one piece more than there are separators, and the pieces
with separators between are the text again.
-/

namespace MacConsent.Text

/-- Puts a character before a text of which the first piece and the others are known. -/
def pieceStep (sep c : Char) (piece : List Char) (rest : List (List Char)) :
    List Char × List (List Char) :=
  if c = sep then ([], piece :: rest) else (c :: piece, rest)

/-- The first piece of a text, and the others. -/
def firstPiece (sep : Char) (cs : List Char) : List Char × List (List Char) :=
  cs.foldr (fun c s => pieceStep sep c s.1 s.2) ([], [])

/-- The pieces of a text, in order; there is at least one. -/
def pieces (sep : Char) (cs : List Char) : List (List Char) :=
  (firstPiece sep cs).1 :: (firstPiece sep cs).2

/-- Pieces with a separator between. -/
def joinPieces (sep : Char) : List (List Char) → List Char
  | [] => []
  | [piece] => piece
  | piece :: rest => piece ++ sep :: joinPieces sep rest

/-- Joining the pieces gives the text back. -/
theorem joinPieces_pieces (sep : Char) (cs : List Char) : joinPieces sep (pieces sep cs) = cs := by
  induction cs with
  | nil => rfl
  | cons c cs ih =>
    have step : firstPiece sep (c :: cs) =
        pieceStep sep c (firstPiece sep cs).1 (firstPiece sep cs).2 := rfl
    unfold pieces at ih ⊢
    rw [step]
    unfold pieceStep
    split
    · next h => subst h; simpa [joinPieces] using ih
    · revert ih
      cases (firstPiece sep cs).2 with
      | nil => intro ih; simp only [joinPieces] at ih ⊢; rw [ih]
      | cons q qs => intro ih; simp only [joinPieces, List.cons_append] at ih ⊢; rw [ih]

end MacConsent.Text
