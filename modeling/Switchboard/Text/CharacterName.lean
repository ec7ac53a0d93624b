import Switchboard.Text.CharacterNameTable
import Switchboard.Text.Ranges

/-!
# Text — Character name

The character that a name stands for.  The name of a Hangul syllable is put together from its
sounds, and the names of ideographs and of the characters of two other scripts end in their code
points; every other name stands in the table.  The names of Hangul syllables and unified ideographs
are known in upper case only, all others in any case.
-/

namespace Switchboard.Text

/-! ### The table -/

/-- A part of the table. -/
inductive NamePart where
  /-- A row begins, with so many words from the row before. -/
  | row (shared : Nat)
  /-- The code point of the row. -/
  | code (n : Nat)
  | word (w : String)

/-- Puts a character of the table in front of what follows it: the word or number that the character
ends, and the parts after that. -/
def readNamePart (c : Char) : List Char × List NamePart → List Char × List NamePart
  | (run, parts) =>
    let behind := if run.isEmpty then parts else .word (String.ofList run) :: parts
    if c.isWhitespace then ([], behind)
    else if c == ':' then ([], .code (Nat.ofDigitChars 10 run 0) :: parts)
    else if nameMarks.contains c then ([], .row (nameMarks.idxOf c) :: behind)
    else if 0x100 ≤ c.toNat then ([], .word (frequentWords.getD (c.toNat - 0x100) "") :: behind)
    else (c :: run, parts)

/-- The parts of a table, which begins with a mark. -/
def nameParts (table : List Char) : List NamePart :=
  (table.foldr readNamePart ([], [])).2

/-- The code point of the name with the given words, from a row on whose code point and first words
are known. -/
def findName (sought : List String) (code : Nat) (words : List String) :
    List NamePart → Option Nat
  | [] => if words = sought then some code else none
  | .row shared :: parts =>
      if words = sought then some code else findName sought (code + 1) (words.take shared) parts
  | .code n :: parts => findName sought n words parts
  | .word w :: parts => findName sought code (words ++ [w]) parts

/-- The code point of a name of the table, which is given in upper case. -/
def listedCode? (name : List Char) : Option Nat :=
  findName ((String.ofList name).splitOn " ") 0 [] (nameParts nameRows.toList)

/-! ### Names that end in a code point -/

/-- The code point that four or five hexadecimal digits in upper case denote. -/
def shortHexNumber? (digits : List Char) : Option Nat :=
  if (digits.length == 4 || digits.length == 5) &&
      digits.all fun c => c.isDigit || ('A' ≤ c && c ≤ 'F') then
    some (digits.foldl (fun n c => n * 16 + (c.toNat - if c.isDigit then 48 else 55)) 0)
  else none

/-- The unified ideographs. -/
def unifiedIdeographs : Ranges := [
  (0x3400, 0x4DBF), (0x4E00, 0x9FFF), (0x20000, 0x2A6DF), (0x2A700, 0x2B738), (0x2B740, 0x2B81D),
  (0x2B820, 0x2CEA1), (0x2CEB0, 0x2EBE0), (0x30000, 0x3134A)]

/-- The other characters whose names end in their code points, under what the names begin with. -/
def numberedNames : List (String × Ranges) := [
  ("CJK COMPATIBILITY IDEOGRAPH-", [(0xF900, 0xFA6D), (0xFA70, 0xFAD9), (0x2F800, 0x2FA1D)]),
  ("KHITAN SMALL SCRIPT CHARACTER-", [(0x18B00, 0x18CD5)]),
  ("NUSHU CHARACTER-", [(0x1B170, 0x1B2FB)])]

/-- The code point at the end of a name in upper case, which is written without a zero in front. -/
def numberedCode? (name : List Char) : Option Nat :=
  numberedNames.findSome? fun (front, codes) => do
    let digits ← front.toList.isPrefixOf? name
    if digits.head? == some '0' then none
    else (shortHexNumber? digits).filter codes.holds

/-! ### Hangul syllables -/

/-- The sounds that a syllable begins with. -/
def initialSounds : List String :=
  ["G", "GG", "N", "D", "DD", "R", "M", "B", "BB", "S", "SS", "", "J", "JJ", "C", "K", "T", "P", "H"]

/-- The vowels. -/
def vowelSounds : List String :=
  ["A", "AE", "YA", "YAE", "EO", "E", "YEO", "YE", "O", "WA", "WAE", "OE", "YO", "U", "WEO", "WE",
    "WI", "YU", "EU", "YI", "I"]

/-- The sounds that a syllable ends with. -/
def finalSounds : List String :=
  ["", "G", "GG", "GS", "N", "NJ", "NH", "D", "L", "LG", "LM", "LB", "LS", "LT", "LP", "LH", "M",
    "B", "BS", "S", "SS", "NG", "J", "C", "K", "T", "P", "H"]

/-- The place of the longest sound that a text begins with, and what is left of the text. -/
def longestSound? (sounds : List String) (cs : List Char) : Option (Nat × List Char) :=
  let longer (longest : Option (Nat × List Char)) : String × Nat → Option (Nat × List Char)
    | (sound, place) =>
      match sound.toList.isPrefixOf? cs, longest with
      | some rest, some (_, left) =>
          if rest.length < left.length then some (place, rest) else longest
      | some rest, none => some (place, rest)
      | none, _ => longest
  sounds.zipIdx.foldl longer none

/-- The syllable that a row of sounds makes. -/
def syllableCode? (sounds : List Char) : Option Nat := do
  let (first, sounds) ← longestSound? initialSounds sounds
  let (vowel, sounds) ← longestSound? vowelSounds sounds
  let (last, sounds) ← longestSound? finalSounds sounds
  if sounds.isEmpty then
    some (0xAC00 + (first * vowelSounds.length + vowel) * finalSounds.length + last)
  else none

/-! ### All names -/

/-- The code point of the character that a name or an alias stands for. -/
def codeOfName? (name : List Char) : Option Nat :=
  match "HANGUL SYLLABLE ".toList.isPrefixOf? name,
      "CJK UNIFIED IDEOGRAPH-".toList.isPrefixOf? name with
  | some sounds, _ => syllableCode? sounds
  | none, some digits => (shortHexNumber? digits).filter unifiedIdeographs.holds
  | none, none =>
      let name := name.map Char.toUpper
      numberedCode? name <|> listedCode? name

/-- The sounds are read greedily: `GGAG` is the double initial, not two of them. -/
example : codeOfName? "HANGUL SYLLABLE GGAG".toList = some 0xAE4D := by decide

end Switchboard.Text
