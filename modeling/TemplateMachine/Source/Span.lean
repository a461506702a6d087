/-!
# Positions in a source text

A span is a range of bytes in the UTF-8 form of a source text. Cutting a text at a byte inside a
character fails. A position is also given as a line and a column, where the column counts
characters.
-/

namespace TemplateMachine

/-- A range of bytes, from `start` up to but not including `stop`. -/
structure Span where
  start : Nat
  stop : Nat
deriving DecidableEq, Repr

/-- A source text with the span in it that something is about. -/
structure SourceSite where
  source : String
  span : Span
deriving DecidableEq, Repr

/-- The characters that take up the first `bytes` bytes. -/
def takeBytes : Nat → List Char → Option (List Char)
  | 0, _ => some []
  | _ + 1, [] => none
  | bytes + 1, c :: rest =>
    if c.utf8Size ≤ bytes + 1 then (takeBytes (bytes + 1 - c.utf8Size) rest).map (c :: ·) else none

/-- The characters after the first `bytes` bytes. -/
def dropBytes : Nat → List Char → Option (List Char)
  | 0, chars => some chars
  | _ + 1, [] => none
  | bytes + 1, c :: rest =>
    if c.utf8Size ≤ bytes + 1 then dropBytes (bytes + 1 - c.utf8Size) rest else none

/-- The number of bytes that characters take up. -/
def byteLength : List Char → Nat
  | [] => 0
  | c :: rest => c.utf8Size + byteLength rest

/-- The characters of a source that a span covers, if both of its ends lie between characters. -/
def Span.slice? (span : Span) (source : List Char) : Option (List Char) :=
  if span.start ≤ span.stop then
    (dropBytes span.start source).bind (takeBytes (span.stop - span.start))
  else none

/-- The text of a source that a span covers, empty if the span cannot be cut out. -/
def Span.text (span : Span) (source : String) : String :=
  String.ofList ((span.slice? source.toList).getD [])

/-- The characters behind the last newline. -/
def lastLine (chars : List Char) : List Char :=
  (chars.reverse.takeWhile (· ≠ '\n')).reverse

/-- The line and the column, both counted from zero, at which a span starts. A start inside a
character or beyond the text counts as the end of the text. -/
def Span.lineColumn (span : Span) (source : String) : Nat × Nat :=
  let before := (takeBytes span.start source.toList).getD source.toList
  (before.count '\n', (lastLine before).length)

end TemplateMachine
