/-!
# A text cut at a separator

`pieces` cuts a text at every occurrence of one character, so that there is always one piece more
than there are separators, and `join` puts pieces together again. Main statement: joining the
pieces gives the text back.
-/

namespace ClusterProbe.Text

/-- The stretches between the separators, in order; an empty text is one empty piece. -/
def pieces (sep : Char) : List Char → List (List Char)
  | [] => [[]]
  | c :: r =>
    if c = sep then [] :: pieces sep r
    else match pieces sep r with
      | [] => [[c]]
      | p :: ps => (c :: p) :: ps

/-- The pieces with the separator between each two. -/
def join (sep : List Char) : List (List Char) → List Char
  | [] => []
  | [p] => p
  | p :: q :: ps => p ++ sep ++ join sep (q :: ps)

/-- There is always a first piece. -/
theorem pieces_ne_nil (sep : Char) (cs : List Char) : pieces sep cs ≠ [] := by
  cases cs with
  | nil => simp [pieces]
  | cons c r =>
    simp only [pieces]
    split
    · simp
    · split <;> simp

/-- Joining the pieces gives the text back. -/
theorem join_pieces (sep : Char) (cs : List Char) : join [sep] (pieces sep cs) = cs := by
  induction cs with
  | nil => rfl
  | cons c r ih =>
    have hne := pieces_ne_nil sep r
    simp only [pieces]
    split
    next h =>
      subst h
      match hp : pieces c r with
      | [] => exact absurd hp hne
      | p :: ps => rw [hp] at ih; simp [join, ih]
    next h =>
      match hp : pieces sep r with
      | [] => exact absurd hp hne
      | [p] => rw [hp] at ih; simp [join] at ih ⊢; exact ih
      | p :: q :: ps => rw [hp] at ih; simp [join] at ih ⊢; exact ih

/-- The lines of a text: its stretches between line feeds. -/
def lines (s : String) : List String := (pieces '\n' s.toList).map String.ofList

/-- The texts with a separator between each two. -/
def joinWith (sep : String) (parts : List String) : String :=
  String.ofList (join sep.toList (parts.map String.toList))

end ClusterProbe.Text
