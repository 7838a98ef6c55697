/-!
# Looking into texts

Prefixes, substrings and pieces, on characters and on strings.  Every filter of the report is one
of the first two; paths and receivers are taken apart with the third.

* `startsWith` and `contains` are the two filter tests.
* `splitOn` cuts at every occurrence of one character, so that empty pieces occur.
* `lines` cuts at the line ends of running text, with no piece for a line that was not begun.
-/

namespace FunctionChurn.Text

/-! ## Tests -/

/-- Whether `term` begins the text. -/
def startsWith (text term : String) : Bool := term.toList.isPrefixOf text.toList

/-- Whether the characters `term` stand together somewhere in a list of characters. -/
def occursIn (term : List Char) : List Char → Bool
  | [] => term.isEmpty
  | c :: rest => term.isPrefixOf (c :: rest) || occursIn term rest

/-- **Substring test.**  The empty term is in every text. -/
def contains (text term : String) : Bool := occursIn term.toList text.toList

/-- The test says what it means: the term is a stretch of the text. -/
theorem occursIn_iff {term : List Char} :
    ∀ {cs : List Char}, occursIn term cs ↔ term <:+: cs
  | [] => by
      cases term with
      | nil => simp [occursIn]
      | cons a r => simp [occursIn]
  | c :: rest => by
      rw [occursIn, Bool.or_eq_true, List.isPrefixOf_iff_prefix, @occursIn_iff term rest,
        List.infix_cons_iff]

/-- `startsWith` on characters. -/
theorem startsWith_iff {text term : String} :
    startsWith text term ↔ term.toList <+: text.toList := by
  rw [startsWith, List.isPrefixOf_iff_prefix]

/-- `contains` on characters. -/
theorem contains_iff {text term : String} :
    contains text term ↔ term.toList <:+: text.toList := occursIn_iff

/-! ## Pieces -/

/-- **The pieces between the occurrences of one character.**  There is always at least one. -/
def splitOn (mark : Char) : List Char → List (List Char)
  | [] => [[]]
  | c :: rest =>
      if c = mark then [] :: splitOn mark rest
      else match splitOn mark rest with
        | [] => [[c]]
        | piece :: pieces => (c :: piece) :: pieces

/-- The pieces put together again, with the character between them. -/
def joinWith (mark : Char) : List (List Char) → List Char
  | [] => []
  | [piece] => piece
  | piece :: pieces => piece ++ mark :: joinWith mark pieces

/-- Every text has a piece. -/
theorem splitOn_ne_nil (mark : Char) : ∀ cs : List Char, splitOn mark cs ≠ []
  | [] => by simp [splitOn]
  | c :: rest => by
      rw [splitOn]
      split
      · simp
      · split <;> simp

/-- Cutting loses nothing but the marks. -/
theorem joinWith_splitOn (mark : Char) : ∀ cs : List Char, joinWith mark (splitOn mark cs) = cs
  | [] => rfl
  | c :: rest => by
      have ih := joinWith_splitOn mark rest
      have hne := splitOn_ne_nil mark rest
      rw [splitOn]
      split
      · next h =>
        subst h
        cases hp : splitOn c rest with
        | nil => exact absurd hp hne
        | cons p ps => rw [hp] at ih; simp [joinWith, ih]
      · cases hp : splitOn mark rest with
        | nil => exact absurd hp hne
        | cons p ps =>
          rw [hp] at ih
          cases ps with
          | nil => simpa [joinWith] using ih
          | cons q qs => simpa [joinWith] using ih

/-- The pieces of a text. -/
def pieces (mark : Char) (s : String) : List String :=
  (splitOn mark s.toList).map String.ofList

/-- **Lines of running text** under a test for line ends, where a carriage return and the line feed
after it end one line.  The last line is given only if something stands in it. -/
def linesBy (ends : Char → Bool) : List Char → List Char → List (List Char)
  | current, [] => if current.isEmpty then [] else [current.reverse]
  | current, '\r' :: '\n' :: rest =>
      if ends '\r' then current.reverse :: linesBy ends [] rest
      else linesBy ends ('\n' :: '\r' :: current) rest
  | current, c :: rest =>
      if ends c then current.reverse :: linesBy ends [] rest
      else linesBy ends (c :: current) rest

end FunctionChurn.Text
