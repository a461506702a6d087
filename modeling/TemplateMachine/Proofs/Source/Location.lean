import TemplateMachine.Proofs.Source.Lines
import TemplateMachine.Render.Message

/-!
# Locations and excerpts

A message gives its place twice: as a line and a column, found by counting newlines in the text in
front of the place, and in an excerpt, found by adding up the lengths of lines. The excerpt agrees
with the location when its row shows that line under that number and its carets start under the
text in front of the place.

They agree at every place between characters but one. Behind the newline at the end of a text
another line begins, which has no characters. The lengths of lines do not reach it, and the excerpt
shows the line before it under its number.
-/

namespace TemplateMachine

/-! ### Rows -/

/-- The rows of an excerpt: a line with its number, and carets from a column on with a message
behind them. -/
def excerptRows (message : String) (number : Nat) (code : List Char) (column carets : Nat) :
    String :=
  let margin := String.ofList (List.replicate (toString number).length ' ')
  "\n " ++ margin ++ " |\n " ++ toString number ++ " | " ++ String.ofList code ++ "\n " ++ margin ++
    " | " ++ String.ofList (List.replicate column ' ' ++ List.replicate carets '^') ++ " " ++
    message ++ "\n"

/-- The line and the column of the carets can be read off the rows. -/
theorem excerptRows_inj {message : String} {number column column' carets : Nat}
    {code code' : List Char} (free : '\n' ∉ code) (free' : '\n' ∉ code') (some_caret : 0 < carets)
    (same : excerptRows message number code column carets =
      excerptRows message number code' column' carets) :
    code = code' ∧ column = column' := by
  unfold excerptRows at same
  have chars := congrArg String.toList same
  simp only [String.toList_append, String.toList_ofList, List.append_assoc,
    List.append_cancel_left_eq] at chars
  have text_free {chars : List Char} (free : '\n' ∉ chars) :
      ∀ c ∈ chars, decide (c ≠ '\n') = true :=
    fun c mem => by simpa using fun same : c = '\n' => free (same ▸ mem)
  have newline (rest : List Char) : Stops (fun c => decide (c ≠ '\n')) ("\n ".toList ++ rest) := by
    rintro c ⟨⟩
    rfl
  have caret (rest : List Char) : Stops (· == ' ') (List.replicate carets '^' ++ rest) := by
    obtain ⟨more, rfl⟩ := Nat.exists_eq_succ_of_ne_zero some_caret.ne'
    rintro c ⟨⟩
    rfl
  have blanks (n : Nat) : ∀ c ∈ List.replicate n ' ', (c == ' ') = true :=
    fun c mem => by simp [List.eq_of_mem_replicate mem]
  obtain ⟨code_eq, chars⟩ :=
    run_unique (text_free free) (newline _) (text_free free') (newline _) chars
  simp only [List.append_cancel_left_eq] at chars
  obtain ⟨blanks_eq, -⟩ := run_unique (blanks _) (caret _) (blanks _) (caret _) chars
  exact ⟨code_eq, by simpa using congrArg List.length blanks_eq⟩

/-- The excerpt as rows. -/
theorem excerptBy_eq_excerptRows (width : List Char → Nat) (message source : String)
    (span : Span) :
    excerptBy width message source span =
      excerptRows message ((locateOffset width (sourceLines source.toList) span.start).1 + 1)
        (((sourceLines source.toList)[(locateOffset width (sourceLines source.toList)
          span.start).1]?).getD ((sourceLines source.toList).getLast?.getD []))
        (locateOffset width (sourceLines source.toList) span.start).2
        (max 1 (width ((span.slice? source.toList).getD []))) :=
  rfl

/-! ### Adding up lines -/

@[simp] theorem byteLength_ended_cons (line : List Char) (lines : List (List Char)) :
    byteLength (ended (line :: lines)) = byteLength line + 1 + byteLength (ended lines) := by
  have newline : '\n'.utf8Size = 1 := rfl
  simp only [ended_cons, byteLength_append, byteLength, newline]
  omega

section

variable (width : List Char → Nat) {line : List Char} {others : List (List Char)} {offset : Nat}

/-- An offset on the first line or on its newline. -/
theorem locateOffset_within (within : offset < byteLength line + 1) :
    locateOffset width (line :: others) offset =
      (0, ((takeBytes offset line).map width).getD offset) := by
  rw [locateOffset.eq_def]
  exact if_pos within

/-- A line that ends in front of an offset is passed, if others follow. -/
theorem locateOffset_cons (follow : others ≠ []) :
    locateOffset width (line :: others) (byteLength line + 1 + offset) =
      ((locateOffset width others offset).1 + 1, (locateOffset width others offset).2) := by
  obtain ⟨next, others, rfl⟩ := List.exists_cons_of_ne_nil follow
  rw [locateOffset.eq_def]
  simp only [Nat.add_sub_cancel_left]
  exact if_neg (by omega)

/-- All lines that end in front of an offset are passed. -/
theorem locateOffset_append (lines : List (List Char)) (follow : others ≠ []) :
    locateOffset width (lines ++ others) (byteLength (ended lines) + offset) =
      ((locateOffset width others offset).1 + lines.length,
        (locateOffset width others offset).2) := by
  induction lines with
  | nil => simp [byteLength]
  | cons line lines ih =>
    rw [List.cons_append, byteLength_ended_cons, Nat.add_assoc,
      locateOffset_cons width (by simp [follow]), ih]
    simp [Nat.add_assoc]

/-- Behind the last line, the end of that line is found under the number that would follow. -/
theorem locateOffset_ended (lines : List (List Char)) (last : List Char) :
    locateOffset width (lines ++ [last]) (byteLength (ended (lines ++ [last]))) =
      ((lines ++ [last]).length, width last) := by
  have behind : locateOffset width [last] (byteLength last + 1) = (1, width last) := by
    rw [locateOffset.eq_def]
    exact if_neg (Nat.lt_irrefl _)
  rw [ended_append, byteLength_append, locateOffset_append width lines (List.cons_ne_nil last []),
    byteLength_ended_cons, ended_nil, byteLength, Nat.add_zero, behind]
  simp [Nat.add_comm]

end

/-! ### Places -/

/-- A place in a text, given by the lines in front of it, the two parts of its own line and what
stands behind that. -/
structure Place where
  lines : List (List Char)
  start : List Char
  more : List Char
  rest : List Char
  lines_free : ∀ line ∈ lines, '\n' ∉ line
  line_free : '\n' ∉ start ++ more
  behind : Stops (fun c => decide (c ≠ '\n')) rest

namespace Place

/-- The text that the place is in. -/
def source (place : Place) : List Char :=
  ended place.lines ++ (place.start ++ (place.more ++ place.rest))

/-- The bytes in front of the place. -/
def offset (place : Place) : Nat :=
  byteLength (ended place.lines ++ place.start)

/-- The line of the place. -/
def line (place : Place) : List Char :=
  place.start ++ place.more

/-- Every cut between characters is a place. -/
theorem exists_of_takeBytes {bytes : Nat} {chars before : List Char}
    (cut : takeBytes bytes chars = some before) :
    ∃ place : Place, place.source = chars ∧ place.offset = bytes := by
  obtain ⟨length, after, rfl⟩ := takeBytes_eq_some_iff.mp cut
  obtain ⟨lines, start, rfl, free, start_free⟩ := exists_ended before
  have more_free : '\n' ∉ after.takeWhile (fun c => decide (c ≠ '\n')) :=
    fun mem => by simpa using List.mem_takeWhile_imp mem
  let place : Place := {
    lines := lines
    start := start
    more := after.takeWhile fun c => decide (c ≠ '\n')
    rest := after.dropWhile fun c => decide (c ≠ '\n')
    lines_free := free
    line_free := fun mem => (List.mem_append.mp mem).elim start_free more_free
    behind := stops_dropWhile after }
  refine ⟨place, ?_, length⟩
  simp only [source, place, List.takeWhile_append_dropWhile, List.append_assoc]

variable (place : Place)

theorem start_free : '\n' ∉ place.start :=
  fun mem => place.line_free (List.mem_append_left _ mem)

theorem source_eq : place.source = ended place.lines ++ (place.line ++ place.rest) := by
  rw [source, line, List.append_assoc]

theorem source_eq_append :
    place.source = (ended place.lines ++ place.start) ++ (place.more ++ place.rest) := by
  rw [source, List.append_assoc]

/-- The location of a place counts the lines in front of it and the characters in front of it on
its own line. -/
theorem lineColumn {source : String} {span : Span} (text : place.source = source.toList)
    (start : place.offset = span.start) :
    span.lineColumn source = (place.lines.length, place.start.length) := by
  have before : takeBytes span.start source.toList = some (ended place.lines ++ place.start) := by
    rw [← text, ← start, source_eq_append]
    exact takeBytes_append _ _
  rw [Span.lineColumn, before, Option.getD_some,
    count_newline_ended place.lines_free place.start_free, lastLine_ended place.start_free]

/-- The line of a place stands between newlines behind the lines in front of it. -/
theorem getElem?_splitOn :
    (place.source.splitOn '\n')[place.lines.length]? = some place.line := by
  rw [source_eq, splitOn_ended_append place.lines_free,
    List.getElem?_append_right (Nat.le_refl _), Nat.sub_self, ← List.head?_eq_getElem?]
  exact head?_splitOn_line place.line_free place.behind

/-- Adding up lines comes out at the line of the place, if there is anything on or behind it. -/
theorem locateOffset_eq (width : List Char → Nat) (others : List (List Char)) :
    locateOffset width (place.lines ++ place.line :: others) place.offset =
      (place.lines.length, width place.start) := by
  have within : byteLength place.start < byteLength place.line + 1 := by
    rw [line, byteLength_append]
    omega
  rw [offset, byteLength_append, locateOffset_append width _ (List.cons_ne_nil _ _),
    locateOffset_within width within, line, takeBytes_append, Option.map_some, Option.getD_some,
    Nat.zero_add]

/-- With something on the line of the place or behind it, adding up lines finds that line. -/
theorem sourceLines_eq (something : place.line ++ place.rest ≠ []) :
    ∃ others, sourceLines place.source = place.lines ++ place.line :: others := by
  obtain ⟨others, first⟩ := exists_sourceLines_line place.line_free place.behind something
  exact ⟨others, by rw [source_eq, sourceLines_ended_append place.lines_free, line, first]⟩

/-- With nothing there, the lines in front of the place are all that is added up. -/
theorem sourceLines_of_nothing (nothing : place.line ++ place.rest = []) :
    sourceLines place.source = place.lines := by
  rw [source_eq, nothing, sourceLines_ended_append place.lines_free, sourceLines, List.append_nil]

end Place

/-! ### Agreement -/

/-- Behind the newline at the end of a text, where that newline ends a line that is not empty. -/
def BehindLastLine (source : List Char) (start : Nat) : Prop :=
  start = byteLength source ∧ ∃ front c, c ≠ '\n' ∧ source = front ++ [c, '\n']

/-- A place with something on its line or behind it is not behind the last line. -/
theorem Place.not_behindLastLine (place : Place) (something : place.line ++ place.rest ≠ []) :
    ¬ BehindLastLine place.source place.offset := by
  rintro ⟨offset, front, c, -, ends⟩
  rw [source_eq_append, byteLength_append, Place.offset] at offset
  obtain ⟨more, rest⟩ : place.more = [] ∧ place.rest = [] := by
    rw [← List.append_eq_nil_iff, ← byteLength_eq_zero]
    omega
  rw [Place.source, more, rest, List.append_nil, List.append_nil] at ends
  have start : place.start ≠ [] := by simpa [line, more, rest] using something
  obtain ⟨init, d, start_eq⟩ := place.start.eq_nil_or_concat.resolve_left start
  obtain rfl : d = '\n' := by simpa [start_eq] using congrArg List.getLast? ends
  exact place.start_free (by simp [start_eq])

/-- The place behind lines is behind the last line if that is not empty. -/
theorem behindLastLine_ended_iff {lines : List (List Char)} {last : List Char}
    (last_free : '\n' ∉ last) :
    BehindLastLine (ended (lines ++ [last])) (byteLength (ended (lines ++ [last]))) ↔
      last ≠ [] := by
  constructor
  · rintro ⟨-, front, c, ne, ends⟩ rfl
    rcases lines.eq_nil_or_concat with rfl | ⟨lines, line, rfl⟩
    · simpa using congrArg List.length ends
    · obtain ⟨newline, -⟩ : c = '\n' ∧ front = ended lines ++ line := by
        simpa using (congrArg List.reverse ends).symm
      exact ne newline
  · intro something
    obtain ⟨init, c, rfl⟩ := last.eq_nil_or_concat.resolve_left something
    refine ⟨rfl, ended lines ++ init, c, ?_, by simp⟩
    rintro rfl
    exact last_free (by simp)

/-- The excerpt at the end of lines shows the last of them, with carets behind it, under the number
of the empty line that follows. -/
theorem excerptRows_behind_iff (width : List Char → Nat) (message : String) {carets : Nat}
    (some_caret : 0 < carets) {lines : List (List Char)} (free : ∀ line ∈ lines, '\n' ∉ line) :
    excerptRows message ((locateOffset width lines (byteLength (ended lines))).1 + 1)
        ((lines[(locateOffset width lines (byteLength (ended lines))).1]?).getD
          (lines.getLast?.getD []))
        (locateOffset width lines (byteLength (ended lines))).2 carets =
      excerptRows message (lines.length + 1) [] (width []) carets ↔
    ¬ BehindLastLine (ended lines) (byteLength (ended lines)) ∧
      (ended lines = [] → width [] = 0) := by
  rcases lines.eq_nil_or_concat with rfl | ⟨lines, last, rfl⟩
  · have before : ¬ BehindLastLine [] 0 := by
      rintro ⟨-, front, c, -, ends⟩
      simp at ends
    refine ⟨fun same => ⟨before, fun _ => ?_⟩, fun ⟨_, measure⟩ => ?_⟩
    · exact (excerptRows_inj (List.not_mem_nil) (List.not_mem_nil) some_caret same).2.symm
    · rw [measure rfl]
      rfl
  · rw [List.concat_eq_append] at free ⊢
    have last_free := free last (by simp)
    rw [locateOffset_ended, behindLastLine_ended_iff last_free]
    simp only [List.getElem?_eq_none (Nat.le_refl _), List.getLast?_concat, Option.getD_none,
      Option.getD_some]
    constructor
    · intro same
      obtain ⟨rfl, -⟩ := excerptRows_inj last_free (List.not_mem_nil) some_caret same
      exact ⟨fun something => something rfl, by simp⟩
    · rintro ⟨empty, -⟩
      rw [not_not.mp empty]

/-- At every place between characters there is one line of the source with the number that the
location gives. The excerpt shows it under that number, with the carets under the text in front of
the column that the location gives, unless the place is behind the last line or the source is empty
and the measure gives width to nothing. -/
theorem excerptBy_agrees_iff (width : List Char → Nat) (message source : String) (span : Span)
    (boundary : (takeBytes span.start source.toList).isSome) :
    ∃ number column code,
      (∀ found : Message, found.site = some ⟨source, span⟩ →
        found.lineColumn? = some (number + 1, column)) ∧
      (source.toList.splitOn '\n')[number]? = some code ∧
      (excerptBy width message source span =
          excerptRows message (number + 1) code (width (code.take column))
            (max 1 (width ((span.slice? source.toList).getD []))) ↔
        ¬ BehindLastLine source.toList span.start ∧ (source = "" → width [] = 0)) := by
  obtain ⟨before, cut⟩ := Option.isSome_iff_exists.mp boundary
  obtain ⟨place, text, start⟩ := Place.exists_of_takeBytes cut
  refine ⟨place.lines.length, place.start.length, place.line, ?_, ?_, ?_⟩
  · intro found site
    rw [Message.lineColumn?, site, Option.map_some, place.lineColumn text start]
  · rw [← text]
    exact place.getElem?_splitOn
  · have front : place.line.take place.start.length = place.start := List.take_left
    rw [excerptBy_eq_excerptRows, front, ← String.toList_eq_nil_iff, ← text, ← start]
    -- The end of the text behind a newline is a line for the location, and none for the excerpt.
    by_cases nothing : place.line ++ place.rest = []
    · obtain ⟨line, rest⟩ := List.append_eq_nil_iff.mp nothing
      obtain ⟨start, -⟩ := List.append_eq_nil_iff.mp line
      have source : place.source = ended place.lines := by
        rw [place.source_eq, nothing, List.append_nil]
      have offset : place.offset = byteLength (ended place.lines) := by
        rw [Place.offset, start, List.append_nil]
      rw [place.sourceLines_of_nothing nothing, source, offset, line, start]
      exact excerptRows_behind_iff width message (by omega) place.lines_free
    · obtain ⟨others, lines⟩ := place.sourceLines_eq nothing
      have found : place.source ≠ [] := by
        rw [place.source_eq]
        exact List.append_ne_nil_of_right_ne_nil _ nothing
      rw [lines, place.locateOffset_eq, List.getElem?_append_right (Nat.le_refl _), Nat.sub_self]
      exact iff_of_true rfl ⟨place.not_behindLastLine nothing, fun empty => absurd empty found⟩

/-- At the end of a line with its newline, the second line is located and the first one shown. -/
theorem sourceExcerpt_behind_newline :
    ∃ number column code,
      (∀ found : Message, found.site = some ⟨"abc\n", ⟨4, 4⟩⟩ →
        found.lineColumn? = some (number + 1, column)) ∧
      ("abc\n".toList.splitOn '\n')[number]? = some code ∧
      sourceExcerpt "" "abc\n" ⟨4, 4⟩ ≠
        excerptRows "" (number + 1) code (displayWidthChars (code.take column))
          (max 1 (displayWidthChars (((⟨4, 4⟩ : Span).slice? "abc\n".toList).getD []))) := by
  obtain ⟨number, column, code, location, line, agrees_iff⟩ :=
    excerptBy_agrees_iff displayWidthChars "" "abc\n" ⟨4, 4⟩ (by decide)
  refine ⟨number, column, code, location, line, fun agrees => ?_⟩
  exact (agrees_iff.mp agrees).1 ⟨by decide, ['a', 'b'], 'c', by decide, by decide⟩

end TemplateMachine
