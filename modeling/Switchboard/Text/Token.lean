/-!
# Text — Token

The first token of a text is what stands before its first space.  The split drops that one space
and keeps the rest as it is, so two spaces in a row leave an empty token between them.
-/

namespace Switchboard.Text

/-- The first token and what follows the space after it. -/
def splitToken (cs : List Char) : List Char × List Char :=
  (cs.takeWhile (· != ' '), (cs.dropWhile (· != ' ')).drop 1)

end Switchboard.Text
