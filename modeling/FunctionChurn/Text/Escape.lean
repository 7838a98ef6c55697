import FunctionChurn.Text.Blank

/-!
# Terminal escapes

A text may hold escapes that a terminal does not show: colours, and links.  They take no room in a
table.

* `visible` is a text as a terminal shows it.
* `hasEscape` tells whether there is anything that is not shown.

A colour escape begins with the escape character and `[`, and ends with a letter or one of a few
marks. A link is opened and closed by escapes with `]8;`, and its text between them is shown.
-/

namespace FunctionChurn.Text

/-- The escape character. -/
def escapeChar : Char := '\x1b'

/-- The length of a colour escape, behind its first two characters. -/
def colourLength? (cs : List Char) : Option Nat :=
  let parameters := cs.takeWhile fun c => '0' ≤ c && c ≤ '?'
  let rest := cs.drop parameters.length
  let between := rest.takeWhile fun c => ' ' ≤ c && c ≤ '/'
  match rest.drop between.length with
  | c :: _ =>
      if '@' ≤ c && c ≤ '~' then some (parameters.length + between.length + 1) else none
  | [] => none

/-- Whether a character can stand in the parameters of a link. -/
def isParameterChar (c : Char) : Bool := c.isAlphanum || c == '_' || ('\x7f' < c && !isBlank c)

/-- Whether runs of characters are those between the equal signs of settings, each of which has a
key and a value. -/
def areSettings : (first : Bool) → List Nat → Bool
  | first, [n] => !first && 1 ≤ n
  | first, n :: rest => (if first then 1 ≤ n else 2 ≤ n) && areSettings false rest
  | _, [] => false

/-- The lengths of the pieces between the occurrences of a character. -/
def pieceLengths (mark : Char) (cs : List Char) : List Nat :=
  match cs.foldr (fun c (n, ns) => if c = mark then (0, n :: ns) else (n + 1, ns)) (0, []) with
  | (n, ns) => n :: ns

/-- Whether characters are settings behind each other, where a colon may follow a setting.
`current` is the part since the last colon, in reverse. -/
def areParameters : (current : List Char) → List Char → Bool
  | current, [] => current.isEmpty || areSettings true (pieceLengths '=' current.reverse)
  | current, c :: rest =>
      if c = ':' then
        areSettings true (pieceLengths '=' current.reverse) && areParameters [] rest
      else (c == '=' || isParameterChar c) && areParameters (c :: current) rest

/-- **A link**, behind its first two characters: its length, and the text that is shown. -/
def link? (cs : List Char) : Option (Nat × List Char) :=
  match cs with
  | '8' :: ';' :: rest =>
      let parameters := rest.takeWhile (· != ';')
      match rest.drop parameters.length with
      | ';' :: rest =>
          let address := rest.takeWhile (· != escapeChar)
          match rest.drop address.length with
          | _ :: '\\' :: rest =>
              let shown := rest.takeWhile (· != escapeChar)
              match rest.drop shown.length with
              | _ :: ']' :: '8' :: ';' :: ';' :: e :: '\\' :: _ =>
                  if e = escapeChar && areParameters [] parameters && !address.isEmpty
                      && !shown.isEmpty then
                    some (2 + parameters.length + 1 + address.length + 2 + shown.length + 7, shown)
                  else none
              | _ => none
          | _ => none
      | _ => none
  | _ => none

/-- **An escape at the front of a text**: how many characters follow its first one, and what is
shown in its place. -/
def escape? : List Char → Option (Nat × List Char)
  | c :: '[' :: rest =>
      if c = escapeChar then (colourLength? rest).map fun n => (1 + n, []) else none
  | c :: ']' :: rest =>
      if c = escapeChar then (link? rest).map fun (n, shown) => (1 + n, shown) else none
  | _ => none

/-- A text as it is shown, the first `skipped` characters being the rest of an escape. -/
def visibleFrom : (skipped : Nat) → List Char → List Char
  | _, [] => []
  | n + 1, _ :: rest => visibleFrom n rest
  | 0, c :: rest =>
      match escape? (c :: rest) with
      | some (n, shown) => shown ++ visibleFrom n rest
      | none => c :: visibleFrom 0 rest

/-- **A text as a terminal shows it.** -/
def visible (cs : List Char) : List Char := visibleFrom 0 cs

/-- **Whether a text holds an escape.** -/
def hasEscape : List Char → Bool
  | [] => false
  | c :: rest => (escape? (c :: rest)).isSome || hasEscape rest

end FunctionChurn.Text
