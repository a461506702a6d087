import TemplateMachine.Proofs.Text.Runs
import TemplateMachine.Source.Excerpt

/-!
# The lines in front of a place in a text

What stands in front of a place is a number of lines, each with its newline, and the start of one
more line. Counting newlines, looking for the last one, cutting a text at its newlines and cutting
it at the ends of its lines are all functions of that. The two ways to cut differ in what they make
of the end: behind the last newline there is an empty line for the first and none for the second.
-/

namespace TemplateMachine

/-! ### Bytes -/

@[simp] theorem byteLength_append (chars more : List Char) :
    byteLength (chars ++ more) = byteLength chars + byteLength more := by
  induction chars with
  | nil => simp [byteLength]
  | cons c chars ih => simp [byteLength, ih, Nat.add_assoc]

@[simp] theorem byteLength_eq_zero {chars : List Char} : byteLength chars = 0 ↔ chars = [] := by
  cases chars with
  | nil => simp [byteLength]
  | cons c chars => simp [byteLength, c.utf8Size_pos.ne']

/-- The characters in the first bytes of a text are the start of it that takes up these bytes. -/
theorem takeBytes_eq_some_iff {bytes : Nat} {chars before : List Char} :
    takeBytes bytes chars = some before ↔
      byteLength before = bytes ∧ ∃ after, chars = before ++ after := by
  fun_induction takeBytes bytes chars generalizing before with
  | case1 chars =>
    constructor
    · rintro ⟨⟩
      exact ⟨rfl, chars, rfl⟩
    · rintro ⟨length, -⟩
      rw [byteLength_eq_zero.mp length]
  | case2 bytes =>
    simp only [reduceCtorEq, false_iff]
    rintro ⟨length, after, same⟩
    obtain ⟨rfl, -⟩ := List.append_eq_nil_iff.mp same.symm
    simp [byteLength] at length
  | case3 bytes c rest fits ih =>
    rw [Option.map_eq_some_iff]
    constructor
    · rintro ⟨start, taken, rfl⟩
      obtain ⟨length, after, rfl⟩ := ih.mp taken
      refine ⟨?_, after, rfl⟩
      rw [byteLength, length]
      omega
    · rintro ⟨length, after, same⟩
      cases before with
      | nil => simp [byteLength] at length
      | cons d before =>
        obtain ⟨rfl, rest_eq⟩ := List.cons.inj same
        rw [byteLength] at length
        exact ⟨before, ih.mpr ⟨by omega, after, rest_eq⟩, rfl⟩
  | case4 bytes c rest wide =>
    simp only [reduceCtorEq, false_iff]
    rintro ⟨length, after, same⟩
    cases before with
    | nil => simp [byteLength] at length
    | cons d before =>
      obtain ⟨rfl, -⟩ := List.cons.inj same
      rw [byteLength] at length
      omega

/-- The start of a text is cut off by the bytes that it takes up. -/
theorem takeBytes_append (before after : List Char) :
    takeBytes (byteLength before) (before ++ after) = some before :=
  takeBytes_eq_some_iff.mpr ⟨rfl, after, rfl⟩

/-! ### Lines -/

/-- Lines with a newline behind each. -/
def ended (lines : List (List Char)) : List Char :=
  lines.flatMap (· ++ ['\n'])

@[simp] theorem ended_nil : ended [] = [] :=
  rfl

@[simp] theorem ended_cons (line : List Char) (lines : List (List Char)) :
    ended (line :: lines) = line ++ '\n' :: ended lines := by
  simp [ended]

@[simp] theorem ended_append (lines others : List (List Char)) :
    ended (lines ++ others) = ended lines ++ ended others :=
  List.flatMap_append

/-- A text is made of lines with newlines and the start of one more line. -/
theorem exists_ended (chars : List Char) :
    ∃ lines start, chars = ended lines ++ start ∧ (∀ line ∈ lines, '\n' ∉ line) ∧
      '\n' ∉ start := by
  induction chars with
  | nil => exact ⟨[], [], rfl, by simp, by simp⟩
  | cons c chars ih =>
    obtain ⟨lines, start, rfl, free, free'⟩ := ih
    -- A newline begins a line of its own; another character goes on the first line there is.
    by_cases newline : c = '\n'
    · subst newline
      exact ⟨[] :: lines, start, by simp, by simpa using free, free'⟩
    · cases lines with
      | nil => exact ⟨[], c :: start, rfl, by simp, by simp [free', Ne.symm newline]⟩
      | cons line lines =>
        refine ⟨(c :: line) :: lines, start, by simp, ?_, free'⟩
        simpa [Ne.symm newline] using free

section

variable {lines : List (List Char)} {start line rest chars : List Char}

theorem ne_newline (line_free : '\n' ∉ line) : ∀ c ∈ line, (c == '\n') = false := by
  intro c mem
  simpa using fun same : c = '\n' => line_free (same ▸ mem)

theorem count_newline_ended (free : ∀ line ∈ lines, '\n' ∉ line) (start_free : '\n' ∉ start) :
    (ended lines ++ start).count '\n' = lines.length := by
  induction lines with
  | nil => simpa using List.count_eq_zero.mpr start_free
  | cons line lines ih =>
    obtain ⟨line_free, free⟩ := List.forall_mem_cons.mp free
    simp [List.count_eq_zero.mpr line_free, ← ih free, List.count_append]

/-- The start of a line is what stands behind the last newline. -/
theorem lastLine_ended (start_free : '\n' ∉ start) : lastLine (ended lines ++ start) = start := by
  have all : ∀ c ∈ start.reverse, decide (c ≠ '\n') = true := by
    intro c mem
    simpa using fun same : c = '\n' => start_free (same ▸ List.mem_reverse.mp mem)
  have stop : Stops (fun c => decide (c ≠ '\n')) (ended lines).reverse := by
    rcases lines.eq_nil_or_concat with rfl | ⟨lines, line, rfl⟩
    · simp [Stops]
    · simp [Stops, ended]
  rw [lastLine, List.reverse_append, takeWhile_run all stop, List.reverse_reverse]

/-- Cutting at newlines takes lines off one by one. -/
theorem splitOn_ended_append (free : ∀ line ∈ lines, '\n' ∉ line) (chars : List Char) :
    (ended lines ++ chars).splitOn '\n' = lines ++ chars.splitOn '\n' := by
  induction lines with
  | nil => rfl
  | cons line lines ih =>
    obtain ⟨line_free, free⟩ := List.forall_mem_cons.mp free
    rw [ended_cons, List.append_assoc, List.cons_append, List.splitOn,
      List.splitOnP_append_cons_of_forall_mem (ne_newline line_free) _ rfl, List.cons_append,
      ← ih free]
    rfl

/-- Lines with a newline behind each can be told from these newlines. -/
theorem ended_inj {others : List (List Char)} (free : ∀ line ∈ lines, '\n' ∉ line)
    (free' : ∀ line ∈ others, '\n' ∉ line) (same : ended lines = ended others) :
    lines = others := by
  have hcut := splitOn_ended_append free []
  rw [same, splitOn_ended_append free'] at hcut
  exact (List.append_cancel_right hcut).symm

/-- A line is what stands in front of the first newline. -/
theorem head?_splitOn_line (line_free : '\n' ∉ line)
    (behind : Stops (fun c => decide (c ≠ '\n')) rest) :
    ((line ++ rest).splitOn '\n').head? = some line := by
  cases rest with
  | nil => rw [List.append_nil, List.splitOn_eq_singleton line_free, List.head?_cons]
  | cons c rest =>
    obtain rfl : c = '\n' := by simpa using behind c rfl
    rw [List.splitOn, List.splitOnP_append_cons_of_forall_mem (ne_newline line_free) _ rfl,
      List.head?_cons]

/-- A line with its end is the first one of a text. -/
theorem sourceLines_append_newline (line_free : '\n' ∉ line) :
    sourceLines (line ++ '\n' :: chars) = line :: sourceLines chars := by
  induction line with
  | nil => rfl
  | cons c line ih =>
    obtain ⟨ne, line_free⟩ : '\n' ≠ c ∧ '\n' ∉ line := by simpa using line_free
    rw [List.cons_append, sourceLines, if_neg (Ne.symm ne), ih line_free]

/-- The start of a line is a line of its own at the end of a text. -/
theorem sourceLines_start (start_free : '\n' ∉ start) (something : start ≠ []) :
    sourceLines start = [start] := by
  induction start with
  | nil => contradiction
  | cons c start ih =>
    obtain ⟨ne, start_free⟩ : '\n' ≠ c ∧ '\n' ∉ start := by simpa using start_free
    rw [sourceLines, if_neg (Ne.symm ne)]
    cases start with
    | nil => rfl
    | cons d start => rw [ih start_free (List.cons_ne_nil d start)]

/-- Cutting at the ends of lines takes lines off one by one. -/
theorem sourceLines_ended_append (free : ∀ line ∈ lines, '\n' ∉ line) (chars : List Char) :
    sourceLines (ended lines ++ chars) = lines ++ sourceLines chars := by
  induction lines with
  | nil => rfl
  | cons line lines ih =>
    obtain ⟨line_free, free⟩ := List.forall_mem_cons.mp free
    rw [ended_cons, List.append_assoc, List.cons_append, sourceLines_append_newline line_free,
      ih free, List.cons_append]

/-- The line at the start of a text that is not empty. -/
theorem exists_sourceLines_line (line_free : '\n' ∉ line)
    (behind : Stops (fun c => decide (c ≠ '\n')) rest) (something : line ++ rest ≠ []) :
    ∃ more, sourceLines (line ++ rest) = line :: more := by
  cases rest with
  | nil =>
    rw [List.append_nil] at something ⊢
    exact ⟨[], sourceLines_start line_free something⟩
  | cons c rest =>
    obtain rfl : c = '\n' := by simpa using behind c rfl
    exact ⟨_, sourceLines_append_newline line_free⟩

end

end TemplateMachine
