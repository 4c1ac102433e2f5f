/-!
# Cutting text

Pieces of a text around a separator, and the text without a given beginning or end.
-/

namespace GatewayRegistrar

/-- The pieces between the occurrences of `sep`; there is always at least one. -/
def piecesAt (sep : Char) : List Char → List (List Char)
  | [] => [[]]
  | c :: cs =>
    if c = sep then [] :: piecesAt sep cs
    else
      match piecesAt sep cs with
      | [] => [[c]]
      | piece :: rest => (c :: piece) :: rest

/-- The two sides of the only occurrence of `sep`; `none` when it occurs more than once or not at all. -/
def splitOnce? (sep : Char) (cs : List Char) : Option (List Char × List Char) :=
  match piecesAt sep cs with
  | [before, after] => some (before, after)
  | _ => none

/-- What follows `start` in a text that begins with it. -/
def dropStart? : List Char → List Char → Option (List Char)
  | [], cs => some cs
  | _ :: _, [] => none
  | x :: start, c :: cs => if x = c then dropStart? start cs else none

/-- What stands before `ending` in a text that ends with it. -/
def dropEnding? (ending cs : List Char) : Option (List Char) :=
  (dropStart? ending.reverse cs.reverse).map List.reverse

/-- Whether the text begins with `start`. -/
def startsWith (start cs : List Char) : Bool := (dropStart? start cs).isSome

@[simp] theorem dropStart?_append (start cs : List Char) : dropStart? start (start ++ cs) = some cs := by
  induction start with
  | nil => rfl
  | cons x start ih => simp [dropStart?, ih]

theorem eq_append_of_dropStart? {start cs rest : List Char} (h : dropStart? start cs = some rest) :
    cs = start ++ rest := by
  induction start generalizing cs with
  | nil => simpa [dropStart?] using h
  | cons x start ih =>
    cases cs with
    | nil => simp [dropStart?] at h
    | cons c cs =>
      by_cases hx : x = c
      · subst hx
        simpa using ih (by simpa [dropStart?] using h)
      · simp [dropStart?, hx] at h

theorem dropStart?_eq_some_iff {start cs rest : List Char} : dropStart? start cs = some rest ↔ cs = start ++ rest :=
  ⟨eq_append_of_dropStart?, fun h => h ▸ dropStart?_append start rest⟩

theorem dropEnding?_eq_some_iff {ending cs rest : List Char} :
    dropEnding? ending cs = some rest ↔ cs = rest ++ ending := by
  simp only [dropEnding?, Option.map_eq_some_iff, dropStart?_eq_some_iff]
  constructor
  · rintro ⟨front, h, rfl⟩
    rw [← List.reverse_reverse cs, h]
    simp
  · rintro rfl
    exact ⟨rest.reverse, by simp, by simp⟩

/-- The lines among the pieces between line feeds. A line ends with a line feed, or with a carriage return and a line
feed; the last piece is a line only when it is not empty. -/
def linesOfPieces : List (List Char) → List (List Char)
  | [] => []
  | [last] => if last.isEmpty then [] else [last]
  | piece :: rest => (if piece.getLast? = some '\r' then piece.dropLast else piece) :: linesOfPieces rest

/-- The lines of a text, without their line ends. -/
def linesOf (cs : List Char) : List (List Char) := linesOfPieces (piecesAt '\n' cs)

end GatewayRegistrar
