import Switchboard.Text.Blank
import Switchboard.Text.Fold
import Switchboard.Text.Word

/-!
# Line

Taking a line apart.  A line for a switchboard begins with the marker, in any case of its letters.
The word right after the marker names a command; what follows the spaces after it is the text of
the arguments, as it stands.
-/

namespace Switchboard.Line

/-- Line ends. -/
def isLineEnd (c : Char) : Bool := c == '\r' || c == '\n'

/-- The command word and the argument text of a line without its line ends, if it begins with the
marker. -/
def split? (marker line : List Char) : Option (List Char × List Char) :=
  (Text.dropSame? marker (Text.dropEndWhile isLineEnd line)).map fun rest =>
    (rest.takeWhile Text.isWord, (rest.dropWhile Text.isWord).dropWhile (· == ' '))

end Switchboard.Line
