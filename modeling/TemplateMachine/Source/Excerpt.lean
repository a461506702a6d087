import TemplateMachine.Source.Span
import TemplateMachine.Text.Width

/-!
# Source excerpts

A diagnostic shows the line of the source that it is about, with the number of the line before it
and carets under the part that the span covers. The carets are placed by display width; how wide
characters are is a parameter until the last definition.
-/

namespace TemplateMachine

/-- The lines of a text: the parts between newlines, without an empty part at the end. -/
def sourceLines : List Char → List (List Char)
  | [] => []
  | c :: rest =>
    if c = '\n' then [] :: sourceLines rest
    else match sourceLines rest with
      | [] => [[c]]
      | line :: lines => (c :: line) :: lines

/-- The index of the line that holds a byte offset, and the display column of the offset on it.
An offset inside a character counts its bytes as columns; an offset beyond the last line is put at
the end of that line, on the line after it. -/
def locateOffset (width : List Char → Nat) : List (List Char) → Nat → Nat × Nat
  | [], _ => (0, 0)
  | line :: rest, offset =>
    if offset < byteLength line + 1 then
      (0, ((takeBytes offset line).map width).getD offset)
    else
      match rest with
      | [] => (1, width line)
      | _ :: _ =>
        let (index, column) := locateOffset width rest (offset - (byteLength line + 1))
        (index + 1, column)

/-- The excerpt of a source at a span with a message behind the carets, for a given measure of
width. There is at least one caret. -/
def excerptBy (width : List Char → Nat) (message source : String) (span : Span) : String :=
  let lines := sourceLines source.toList
  let (line, column) := locateOffset width lines span.start
  let covered := max 1 (width ((span.slice? source.toList).getD []))
  let code := (lines[line]?).getD (lines.getLast?.getD [])
  let number := toString (line + 1)
  let margin := String.ofList (List.replicate number.length ' ')
  let carets := String.ofList (List.replicate column ' ' ++ List.replicate covered '^')
  "\n " ++ margin ++ " |\n " ++ number ++ " | " ++ String.ofList code ++ "\n " ++ margin ++ " | " ++
    carets ++ " " ++ message ++ "\n"

/-- The excerpt of a source at a span with a message behind the carets. -/
def sourceExcerpt (message source : String) (span : Span) : String :=
  excerptBy displayWidthChars message source span

/-- The message stands behind the carets. -/
example : sourceExcerpt "not an identifier" "hello <1x>" ⟨7, 9⟩ =
    "\n   |\n 1 | hello <1x>\n   |        ^^ not an identifier\n" := by
  decide +kernel

end TemplateMachine
