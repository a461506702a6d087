import TemplateMachine.Text.Ranges
import TemplateMachine.Text.WidthTable

/-!
# Emoji sequences

Several characters may make one emoji: a skin tone follows a person, joiners chain emoji, two
letters make a flag, tags name the flag of a region. A sequence is read from its end: an
`EmojiTail` is what has been read of it, and `EmojiTail.extend?` tells which characters before it
belong to it.
-/

namespace TemplateMachine

/-- The character that joins the glyphs around it. -/
def zeroWidthJoiner : Nat := 0x200d

/-- The letters that make a flag in pairs. -/
def isFlagLetter (code : Nat) : Bool :=
  0x1f1e6 ≤ code && code ≤ 0x1f1ff

/-- The five skin tones. -/
def isSkinTone (code : Nat) : Bool :=
  0x1f3fb ≤ code && code ≤ 0x1f3ff

/-- The invisible letters of a region's name. -/
def isTagLetter (code : Nat) : Bool :=
  0xe0061 ≤ code && code ≤ 0xe007a

/-- The invisible digits of a region's name. -/
def isTagDigit (code : Nat) : Bool :=
  0xe0030 ≤ code && code ≤ 0xe0039

/-- The tag that ends a region's name. -/
def cancelTag : Nat := 0xe007f

/-- The flag that tags turn into the flag of a region. -/
def blackFlag : Nat := 0x1f3f4

/-- The mark that puts the character before it on a key. -/
def enclosingKeycap : Nat := 0x20e3

/-- A row of flag letters before a joiner: one letter, pairs, or pairs and one letter. -/
inductive FlagRow where
  | single
  | pairs
  | pairsAndOne
deriving DecidableEq, Repr

/-- The end of an emoji sequence. The joined forms follow a joiner that something before them has
to complete. -/
inductive EmojiTail where
  /-- An emoji. -/
  | whole
  /-- A skin tone, which also stands as an emoji alone. -/
  | skinTone
  /-- A letter of a flag. -/
  | flagLetter
  /-- Two or more letters of flags. -/
  | flagLetters
  /-- A joiner before an emoji. -/
  | joined
  /-- A keycap before a joiner. -/
  | joinedKeycap
  /-- Letters of flags before a joiner. -/
  | joinedFlag (row : FlagRow)
  /-- The end of a region's name before a joiner: so many letters, then so many digits, counted
  from the end, where the digits stand before the letters. -/
  | joinedTags (letters digits : Nat)
deriving DecidableEq, Repr

namespace EmojiTail

/-- The sequence that a character ends by itself. -/
def ofCode? (code : Nat) : Option EmojiTail :=
  if isFlagLetter code then some .flagLetter
  else if isSkinTone code then some .skinTone
  else if inRanges code emojiRanges then some .whole
  else none

/-- Whether an emoji before the tail is a part of the same glyph. -/
def isJoined : EmojiTail → Bool
  | .joined | .joinedKeycap => true
  | _ => false

/-- The columns that a character adds before the tail and the longer tail, or nothing if the
character does not belong to the sequence. The columns may be negative: what was counted apart has
become one glyph. -/
def extend? (tail : EmojiTail) (code : Nat) : Option (Int × EmojiTail) :=
  match tail with
  | .whole => if code == zeroWidthJoiner then some (0, .joined) else none
  | .skinTone =>
    if code == zeroWidthJoiner then some (0, .joined)
    else if inRanges code emojiModifierBaseRanges then some (0, .whole)
    else none
  | .flagLetter => if isFlagLetter code then some (1, .flagLetters) else none
  | .flagLetters =>
    if code == zeroWidthJoiner then some (0, .joined)
    else if isFlagLetter code then some (1, .flagLetters)
    else none
  | .joined =>
    if code == enclosingKeycap then some (0, .joinedKeycap)
    else if code == cancelTag then some (0, .joinedTags 0 0)
    else if isFlagLetter code then some (1, .joinedFlag .single)
    else if isSkinTone code then some (0, .skinTone)
    else if inRanges code emojiRanges then some (0, .whole)
    else none
  | .joinedKeycap => none
  | .joinedFlag .single => if isFlagLetter code then some (-1, .joinedFlag .pairs) else none
  | .joinedFlag .pairs =>
    if code == zeroWidthJoiner then some (0, .joined)
    else if isFlagLetter code then some (3, .joinedFlag .pairsAndOne)
    else none
  | .joinedFlag .pairsAndOne =>
    if code == zeroWidthJoiner then some (0, .joined)
    else if isFlagLetter code then some (-1, .joinedFlag .pairs)
    else none
  | .joinedTags letters digits =>
    if isTagLetter code && digits == 0 && letters < 6 then some (0, .joinedTags (letters + 1) 0)
    else if isTagDigit code && (if digits == 0 then letters ≤ 4 else digits < 3 : Bool) then
      some (0, .joinedTags letters (digits + 1))
    else if code == blackFlag && (if digits == 0 then 3 ≤ letters else digits == 3 : Bool) then
      some (0, .whole)
    else none

end EmojiTail

end TemplateMachine
