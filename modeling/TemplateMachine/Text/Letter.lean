import TemplateMachine.Text.Ranges
import TemplateMachine.Text.CaseTable

/-!
# Upper and lower case

Full case mapping: a letter may become several, and a capital sigma that ends a word becomes the
final form of the small one. No mapping depends on a language.
-/

namespace TemplateMachine

/-- The code point that a list of runs moves a code point to, itself if no run holds it. -/
def moveByRuns (code : Nat) : List (Nat × Nat × Nat × Int) → Nat
  | [] => code
  | (first, last, step, offset) :: rest =>
    if code < first then code
    else if code ≤ last && (code - first) % step == 0 then (Int.ofNat code + offset).toNat
    else moveByRuns code rest

/-- The letters that a character maps to, given its expansions and its runs. -/
def mapLetter (expansions : List (Nat × List Nat)) (runs : List (Nat × Nat × Nat × Int))
    (c : Char) : List Char :=
  match expansions.lookup c.toNat with
  | some codes => codes.map Char.ofNat
  | none => [Char.ofNat (moveByRuns c.toNat runs)]

/-- The upper case of one character. -/
def upperLetters (c : Char) : List Char :=
  if c.toNat < 0x80 then [c.toUpper] else mapLetter upperExpansions upperRuns c

/-- The lower case of one character, taken alone. -/
def lowerLetters (c : Char) : List Char :=
  if c.toNat < 0x80 then [c.toLower] else mapLetter lowerExpansions lowerRuns c

/-- Whether the first character that is not case-ignorable is a cased letter. -/
def meetsCased : List Char → Bool
  | [] => false
  | c :: rest =>
    if inRanges c.toNat caseIgnorableRanges then meetsCased rest
    else inRanges c.toNat casedRanges

/-- The lower case of the characters after `before`, which holds what precedes them in reverse. -/
def lowerAfter (before : List Char) : List Char → List Char
  | [] => []
  | c :: rest =>
    if c = 'Σ' then
      (if meetsCased before && !meetsCased rest then 'ς' else 'σ') ::
        lowerAfter (c :: before) rest
    else lowerLetters c ++ lowerAfter (c :: before) rest

/-- A text in upper case. -/
def upperText (text : String) : String :=
  String.ofList (text.toList.flatMap upperLetters)

/-- A text in lower case. -/
def lowerText (text : String) : String :=
  String.ofList (lowerAfter [] text.toList)

/-- A text with its first character in upper case. -/
def capitalizeText (text : String) : String :=
  match text.toList with
  | [] => text
  | c :: rest => String.ofList (upperLetters c ++ rest)

end TemplateMachine
