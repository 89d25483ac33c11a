/-!
# Splitting a text

A text cut at every occurrence of a mark.  There is one part more than there are marks, so empty
parts stand at the ends and between neighbouring marks.
-/
namespace EngineSync.Text

/-- The parts of a text between the marks. -/
def splitAt (mark : Char) : List Char → List (List Char)
  | [] => [[]]
  | c :: rest =>
    if c = mark then [] :: splitAt mark rest
    else
      match splitAt mark rest with
      | [] => [[c]]
      | first :: more => (c :: first) :: more

theorem splitAt_ne_nil (mark : Char) (text : List Char) : splitAt mark text ≠ [] := by
  cases text with
  | nil => simp [splitAt]
  | cons c rest =>
    unfold splitAt
    split
    · simp
    · split <;> simp

end EngineSync.Text
