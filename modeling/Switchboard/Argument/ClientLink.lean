import Switchboard.Text.Digit
import Switchboard.Text.Fold

/-!
# Argument — Client link

References to clients.  A client is named by its unique id, twenty-seven characters of base 64 and
an equals sign, either bare or inside a link:

    [URL=client://<number>/<unique id>~<nickname>]<nickname>[/URL]

Case does not count, not even in the id.  A link ends with the last closing tag of its line before
which a bracket closes the opening tag.
-/

namespace Switchboard.ClientLink

/-- What a link begins with. -/
def opening : List Char := "[URL=client://".toList

/-- What a link ends with. -/
def closing : List Char := "[/URL]".toList

/-- Whether the character may stand in a unique id: a digit, a sign of base 64, or a letter that
counts as an ASCII letter when case does not count. -/
def isIdChar (c : Char) : Bool :=
  c == '/' || c == '+' || ('0' ≤ c && c ≤ '9') ||
    (Text.kin (Text.plainLower c.toNat)).any fun n => 97 ≤ n && n ≤ 122

/-- The unique id at the start of a text, and what follows it. -/
def splitId? (cs : List Char) : Option (List Char × List Char) :=
  let id := cs.take 27
  if id.length == 27 && id.all isIdChar then
    match cs.drop 27 with
    | '=' :: rest => some (id ++ ['='], rest)
    | _ => none
  else none

/-- What follows the last closing tag of a line, `found` being what follows the last one before
the line; `closed` says whether a bracket has closed the opening tag. -/
def afterClosing (closed : Bool) (found : Option (List Char)) : List Char → Option (List Char)
  | [] => found
  | c :: cs =>
      if c == '\n' then found
      else
        let found := if closed then (Text.dropSame? closing (c :: cs)).or found else found
        afterClosing (closed || c == ']') found cs

/-- The unique id of the link that a text begins with, and what follows the link. -/
def splitLink? (cs : List Char) : Option (List Char × List Char) := do
  let cs ← Text.dropSame? opening cs
  match cs.dropWhile Text.isDecimal with
  | '/' :: cs =>
      let (id, cs) ← splitId? cs
      match cs with
      | '~' :: cs => return (id, ← afterClosing false none cs)
      | _ => none
  | _ => none

/-- The unique id of the client that a text begins with, and what follows the spaces after the
reference. -/
def split? (cs : List Char) : Option (List Char × List Char) := do
  let (id, rest) ← (splitLink? cs).or (splitId? cs)
  return (id, rest.dropWhile (· == ' '))

end Switchboard.ClientLink
