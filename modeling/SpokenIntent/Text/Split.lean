/-!
Cutting sequences at a separator: at every occurrence, with the separator left out, or after every
occurrence, with the separator kept at the end of its piece.
-/

namespace SpokenIntent.Text

variable {α : Type} [DecidableEq α]

/-- The pieces between separators. There is always at least one, and it may be empty. -/
def splitAt (separator : α) : List α → List (List α)
  | [] => [[]]
  | c :: rest =>
    if c = separator then [] :: splitAt separator rest
    else
      match splitAt separator rest with
      | [] => [[c]]
      | piece :: more => (c :: piece) :: more

/-- The pieces that end with a separator, and what is left after the last one. No piece is empty. -/
def splitAfter (separator : α) : List α → List (List α)
  | [] => []
  | c :: rest =>
    if c = separator then [c] :: splitAfter separator rest
    else
      match splitAfter separator rest with
      | [] => [[c]]
      | piece :: more => (c :: piece) :: more

def pieces (separator : Char) (s : String) : List String :=
  (splitAt separator s.toList).map String.ofList

theorem splitAt_whole {separator : α} {piece : List α} (whole : separator ∉ piece) :
    splitAt separator piece = [piece] := by
  induction piece with
  | nil => rfl
  | cons c rest ih =>
    rw [List.mem_cons, not_or] at whole
    simp [splitAt, Ne.symm whole.1, ih whole.2]

/-- A piece without a separator is cut off at the first one after it. -/
theorem splitAt_piece {separator : α} {piece : List α} (whole : separator ∉ piece) (rest : List α) :
    splitAt separator (piece ++ separator :: rest) = piece :: splitAt separator rest := by
  induction piece with
  | nil => simp [splitAt]
  | cons c more ih =>
    rw [List.mem_cons, not_or] at whole
    simp [splitAt, Ne.symm whole.1, ih whole.2]

end SpokenIntent.Text
