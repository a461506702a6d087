import TemplateMachine.Text.Ranges
import TemplateMachine.Text.WidthTable
import TemplateMachine.Text.Emoji

/-!
# Ligatures

In some scripts two letters merge into one glyph of one column. A ligature is read from its end:
a `LigatureTail` is the letter that may take in the one before it, and `LigatureTail.extend?` tells
which characters it takes in. Marks that only choose a glyph do not stand in the way.
-/

namespace TemplateMachine

/-- The forms of the Arabic letter alef. -/
def isAlef (code : Nat) : Bool :=
  inRanges code [(0x622, 0x623), (0x625, 0x625), (0x627, 0x627), (0x671, 0x673), (0x675, 0x675),
    (0x773, 0x774), (0x870, 0x882)]

/-- The forms of the Arabic letter lam. -/
def isLam (code : Nat) : Bool :=
  inRanges code [(0x644, 0x644), (0x6b5, 0x6b8), (0x76a, 0x76a), (0x8a6, 0x8a6), (0x8c7, 0x8c7)]

/-- Marks through which Arabic letters join. -/
def isJoiningMark (code : Nat) : Bool :=
  inRanges code zeroWidthRanges && !inRanges code joinBreakingRanges

/-- Khmer letters that a coeng puts below the letter before it. -/
def isCoengLetter (code : Nat) : Bool :=
  inRanges code [(0x1780, 0x1782), (0x1784, 0x1787), (0x1789, 0x178c), (0x178e, 0x1793),
    (0x1795, 0x1798), (0x179b, 0x179d), (0x17a0, 0x17a0), (0x17a2, 0x17a2), (0x17a7, 0x17a7),
    (0x17ab, 0x17ac), (0x17af, 0x17af)]

/-- Tifinagh consonants that may be written in pairs as one glyph. -/
def isTifinaghConsonant (code : Nat) : Bool :=
  inRanges code [(0x2d31, 0x2d65), (0x2d6f, 0x2d6f)]

/-- Invisible marks that a ligature ignores. -/
def isIgnoredMark (code : Nat) : Bool :=
  inRanges code [(0x34f, 0x34f), (0x17b4, 0x17b5), (0x180b, 0x180d), (0x180f, 0x180f),
    (0xfe00, 0xfe0f), (0xe0100, 0xe01ef)]

/-- Letters, and ends of longer ligatures, that may merge with what is before them. -/
inductive LigatureLetter where
  /-- Arabic alef, which a lam before it takes in. -/
  | alef
  /-- Hebrew lamed. -/
  | lamed
  /-- Khmer letter with a form below the line. -/
  | coengLetter
  /-- Buginese ya. -/
  | ya
  /-- Buginese vowel i before a ya. -/
  | vowelYa
  /-- Tifinagh consonant. -/
  | tifinagh
  /-- Tifinagh joiner before a consonant. -/
  | tifinaghJoiner
  /-- The second of two Lisu tones. -/
  | lowTone
  /-- Old Turkic i. -/
  | orkhonI
deriving DecidableEq, Repr

/-- The end of a ligature: its letter, and whether a joiner stands before it. -/
structure LigatureTail where
  letter : LigatureLetter
  joined : Bool
deriving DecidableEq, Repr

namespace LigatureTail

/-- The ligature that a character may end. -/
def ofCode? (code : Nat) : Option LigatureTail :=
  if isAlef code then some ⟨.alef, false⟩
  else if code == 0x5dc then some ⟨.lamed, false⟩
  else if isCoengLetter code then some ⟨.coengLetter, false⟩
  else if code == 0x1a10 then some ⟨.ya, false⟩
  else if isTifinaghConsonant code then some ⟨.tifinagh, false⟩
  else if code == 0xa4fc || code == 0xa4fd then some ⟨.lowTone, false⟩
  else if code == 0x10c03 then some ⟨.orkhonI, false⟩
  else none

/-- The columns that a character adds to the letters of a ligature, and the tail that is left if
the ligature may grow further. The columns are negative where the letter and a mark that is
written in the same place were counted apart. -/
def merge? (tail : LigatureTail) (code : Nat) : Option (Int × Option LigatureTail) :=
  match tail.letter with
  | .alef => if isLam code then some (0, none) else none
  | .lamed => if tail.joined && code == 0x5d0 then some (0, none) else none
  | .coengLetter => if code == 0x17d2 then some (-1, none) else none
  | .ya => if tail.joined && code == 0x1a17 then some (0, some ⟨.vowelYa, true⟩) else none
  | .vowelYa => if code == 0x1a15 then some (0, none) else none
  | .tifinagh =>
    if code == 0x2d7f then some (1, some ⟨.tifinaghJoiner, true⟩)
    else if tail.joined && isTifinaghConsonant code then some (0, none)
    else none
  | .tifinaghJoiner => if isTifinaghConsonant code then some (-1, none) else none
  | .lowTone => if 0xa4f8 ≤ code && code ≤ 0xa4fb then some (0, none) else none
  | .orkhonI => if tail.joined && code == 0x10c32 then some (0, none) else none

/-- The columns that a character adds before the tail and the tail that is left, or nothing if the
character does not belong to the ligature. -/
def extend? (tail : LigatureTail) (code : Nat) : Option (Int × Option LigatureTail) :=
  if tail.letter = .alef then
    if isJoiningMark code then some (0, some tail) else tail.merge? code
  else if code == zeroWidthJoiner then some (0, some { tail with joined := true })
  else if isIgnoredMark code then some (0, some tail)
  else tail.merge? code

end LigatureTail

end TemplateMachine
