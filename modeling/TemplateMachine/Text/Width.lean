import TemplateMachine.Text.Ranges
import TemplateMachine.Text.WidthTable
import TemplateMachine.Text.Emoji
import TemplateMachine.Text.Ligature

/-!
# Display width

How many columns a text takes on a terminal. The width of a character may depend on what follows it:
a selector chooses between the text and the emoji form, and letters and emoji merge with what they
are joined to. A text is therefore measured from its end, and a character may take back a column
that was counted before.
-/

namespace TemplateMachine

/-- The glyph to the right of a character, as far as the character may become a part of it. -/
inductive NextGlyph where
  | plain
  | lineFeed
  | ligature (tail : LigatureTail)
  | emoji (tail : EmojiTail)
deriving DecidableEq, Repr

/-- A mark that chooses the form of the character before it. -/
inductive StyleSelector where
  | text
  | emoji
deriving DecidableEq, Repr

/-- What stands to the right of a character: a glyph, and a selector before it. -/
structure WidthContext where
  next : NextGlyph
  selector : Option StyleSelector
deriving DecidableEq, Repr

/-- Whether a text selector after the character narrows it. -/
def takesTextSelector (code : Nat) : Bool :=
  inRanges code emojiRanges && inRanges code emojiStyleRanges &&
    !(0x1f200 ≤ code && code ≤ 0x1f2ff)

/-- The columns of a character that stands alone. -/
def charWidth (code : Nat) : Nat :=
  if code == 0x17d8 then 3
  else if code == 0x17a4 then 2
  else if inRanges code zeroWidthRanges then 0
  else if inRanges code wideRanges then 2
  else 1

namespace NextGlyph

/-- The glyph that a character starts by itself. -/
def ofCode (code : Nat) : NextGlyph :=
  match LigatureTail.ofCode? code, EmojiTail.ofCode? code with
  | some tail, _ => .ligature tail
  | none, some tail => .emoji tail
  | none, none => .plain

/-- The columns that a character adds before the glyph and the longer glyph, or nothing if the
character does not become a part of it. -/
def extend? (next : NextGlyph) (code : Nat) : Option (Int × NextGlyph) :=
  match next with
  | .plain | .lineFeed => none
  | .ligature tail =>
    (tail.extend? code).map fun (columns, rest) => (columns, (rest.map .ligature).getD .plain)
  | .emoji tail => (tail.extend? code).map fun (columns, rest) => (columns, .emoji rest)

/-- What is left of the glyph for characters before a selector: only a ligature ignores it. -/
def throughSelector : NextGlyph → NextGlyph
  | .ligature tail => .ligature tail
  | _ => .plain

/-- What is left of the glyph for the character that an emoji selector belongs to: that character
may also be joined to the glyph. -/
def behindEmojiSelector : NextGlyph → NextGlyph
  | .emoji tail => if tail.isJoined then .emoji tail else .plain
  | next => next.throughSelector

/-- Whether an emoji before the glyph is a part of it. -/
def isJoined : NextGlyph → Bool
  | .emoji tail => tail.isJoined
  | _ => false

/-- The columns that a character adds before a glyph, and the context that it makes. Control
characters count like letters, but the end of a line does not count. -/
def step (next : NextGlyph) (code : Nat) : Int × WidthContext :=
  if code == 0x0a then (0, ⟨.lineFeed, none⟩)
  else if code == 0x0d && next = .lineFeed then (0, ⟨.plain, none⟩)
  else if code ≤ 0xa0 then (1, ⟨.plain, none⟩)
  else if code == 0xfe0f then (0, ⟨next.behindEmojiSelector, some .emoji⟩)
  else if code == 0xfe0e then (0, ⟨next.throughSelector, some .text⟩)
  else match next.extend? code with
    | some (columns, longer) => (columns, ⟨longer, none⟩)
    | none => (charWidth code, ⟨ofCode code, none⟩)

end NextGlyph

/-- The columns that a character adds before the given context, and the context that it makes. -/
def widthStep (code : Nat) (right : WidthContext) : Int × WidthContext :=
  match right.selector with
  | none => right.next.step code
  | some .text =>
    if takesTextSelector code then (1, ⟨.plain, none⟩) else right.next.throughSelector.step code
  | some .emoji =>
    if inRanges code emojiStyleRanges then
      (if right.next.isJoined then 0 else 2, ⟨.emoji .whole, none⟩)
    else right.next.throughSelector.step code

/-- The columns of a sequence of characters, and the context for what stands before it. -/
def measureWidth (chars : List Char) : Int × WidthContext :=
  chars.foldr (fun c (columns, right) =>
    let (added, context) := widthStep c.toNat right
    (columns + added, context)) (0, ⟨.plain, none⟩)

/-- The columns of a sequence of characters. -/
def displayWidthChars (chars : List Char) : Nat :=
  (measureWidth chars).1.toNat

/-- The columns of a text. -/
def displayWidth (text : String) : Nat :=
  displayWidthChars text.toList

/-- Ideographs take two columns and marks none. -/
example : displayWidth "日本" = 4 ∧ displayWidth "e\u0301" = 1 := by
  decide +kernel

/-- Joined emoji are one glyph, and a selector widens a sign to an emoji. -/
example : displayWidth "👩\u200d🚀" = 2 ∧ displayWidth "❤\ufe0f" = 2 ∧ displayWidth "❤" = 1 := by
  decide +kernel

/-- A letter of a flag takes one column, a flag two, also when a joiner follows it. -/
example : displayWidth "🇺" = 1 ∧ displayWidth "🇺🇸" = 2 ∧ displayWidth "🇺🇸\u200d👩" = 2 := by
  decide +kernel

/-- An alef merges with the lam before it, and a lamed with the alef that is joined to it. -/
example : displayWidth "\u0644\u0627" = 1 ∧ displayWidth "\u05d0\u200d\u05dc" = 1 ∧
    displayWidth "\u05d0\u05dc" = 2 := by
  decide +kernel

end TemplateMachine
