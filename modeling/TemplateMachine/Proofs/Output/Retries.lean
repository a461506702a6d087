import Mathlib.Data.List.Chain
import TemplateMachine.Proofs.Output.Lines

/-!
# Indenting a line again

A sink may refuse any piece of a margin: an indentation, or the padding if there is an anchor. The
indenting writer then breaks off, and it goes on noting that the line starts, for it drops that note only
after the whole margin was taken. The next character that is written begins with the whole margin again,
also with the pieces of it that the sink has taken before. So a line is indented twice if its margin was
broken off after the first piece. A margin of one piece cannot be broken off there.

What the sink takes is followed here character by character, through writes that fail and the writes
after them, whatever the sink refuses. Wrap texts and changes of the layout in between are left out.
-/

namespace TemplateMachine

open Attempt

/-- What a sink takes when a character is written: the first pieces of the margin, the character
itself, or the newline text. -/
inductive Portion where
  | margin (count : Nat)
  | char (c : Char)
  | newline
deriving DecidableEq

namespace Portion

/-- The pieces of a portion, given the margin. -/
def pieces (margin : List Piece) : Portion → List Piece
  | .margin count => margin.take count
  | .char c => [.text (String.singleton c)]
  | .newline => [.newline]

/-- Whether a portion has the piece of the margin at an index. -/
def indents (i : Nat) : Portion → Bool
  | .margin count => i < count
  | .char _ | .newline => false

end Portion

/-- How a portion changes the note of whether a line starts, given the number of pieces of the margin. A
margin that was broken off leaves the line to be started, and only a whole one lets characters follow. -/
inductive Portion.Moves (size : Nat) : Bool → Portion → Bool → Prop
  | broken {count : Nat} (short : count < size) : Moves size true (.margin count) true
  | whole : Moves size true (.margin size) false
  | char {c : Char} : Moves size false (.char c) false
  | newline {start : Bool} : Moves size start .newline true

/-- Portions that come one after the other, given the number of pieces of the margin and whether a line
starts before and after them. -/
inductive Orderly (size : Nat) : Bool → List Portion → Bool → Prop
  | nil {start : Bool} : Orderly size start [] start
  | cons {start mid stop : Bool} {portion : Portion} {rest : List Portion}
    (moves : portion.Moves size start mid) (follows : Orderly size mid rest stop) :
    Orderly size start (portion :: rest) stop

namespace Orderly

variable {size : Nat} {start stop : Bool} {first second line : List Portion}

/-- One portion is in order by itself. -/
theorem single {portion : Portion} (moves : portion.Moves size start stop) :
    Orderly size start [portion] stop :=
  .cons moves .nil

/-- Portions that go on where others stop are in order after them. -/
theorem append {mid : Bool} (h : Orderly size start first mid) (h' : Orderly size mid second stop) :
    Orderly size start (first ++ second) stop := by
  induction h with
  | nil => exact h'
  | cons moves follows ih => exact .cons moves (ih h')

/-- Either part of portions in order is in order. -/
theorem split (h : Orderly size start (first ++ second) stop) :
    ∃ mid, Orderly size start first mid ∧ Orderly size mid second stop := by
  induction first generalizing start with
  | nil => exact ⟨start, .nil, h⟩
  | cons portion rest ih =>
    obtain _ | ⟨moves, follows⟩ := h
    obtain ⟨mid, hfirst, hsecond⟩ := ih follows
    exact ⟨mid, .cons moves hfirst, hsecond⟩

/-- A line that has begun goes on with characters. -/
theorem eq_char (h : Orderly size false line stop) (stays : .newline ∉ line) :
    ∀ portion ∈ line, ∃ c, portion = .char c := by
  induction line with
  | nil => simp
  | cons portion rest ih =>
    obtain _ | ⟨moves, follows⟩ := h
    cases moves with
    | char => simpa using ih follows (List.not_mem_of_not_mem_cons stays)
    | newline => simp at stays

/-- What stands before a margin on its line is a margin that was broken off. -/
theorem margins (h : Orderly size start line stop) (stays : .newline ∉ line) :
    line.Pairwise fun earlier later =>
      ∀ count, later = .margin count → ∃ short < size, earlier = .margin short := by
  induction h with
  | nil => exact .nil
  | cons moves follows ih =>
    have hrest := List.not_mem_of_not_mem_cons stays
    refine .cons (fun later hlater count hcount => ?_) (ih hrest)
    -- A margin comes later only if the line is still to be started.
    cases moves with
    | broken short => exact ⟨_, short, rfl⟩
    | newline => simp at stays
    | whole | char =>
      obtain ⟨c, hc⟩ := follows.eq_char hrest later hlater
      simp [hc] at hcount

/-- What stands right before a character on its line is a character or the whole margin. -/
theorem chars (h : Orderly size start line stop) (stays : .newline ∉ line) :
    line.IsChain fun earlier later =>
      ∀ c, later = .char c → earlier = .margin size ∨ ∃ d, earlier = .char d := by
  induction h with
  | nil => exact .nil
  | cons moves follows ih =>
    refine List.isChain_cons.mpr
      ⟨fun later hlater c hc => ?_, ih (List.not_mem_of_not_mem_cons stays)⟩
    cases moves with
    | whole => exact .inl rfl
    | char => exact .inr ⟨_, rfl⟩
    | newline => simp at stays
    | broken short =>
      obtain _ | ⟨moves, -⟩ := follows
      · cases hlater
      · cases moves <;> simp_all

end Orderly

/-- Some piece of the margin is on a line twice exactly if two margins on it have any. -/
theorem Portion.exists_countP_indents_iff (line : List Portion) :
    (∃ i, 1 < line.countP (indents i)) ↔
      ∃ count count', [.margin count, .margin count'].Sublist line ∧ 0 < count ∧ 0 < count' := by
  constructor
  · rintro ⟨i, htwice⟩
    rw [List.countP_eq_length_filter] at htwice
    match hline : line.filter (indents i) with
    | [] => simp [hline] at htwice
    | [_] => simp [hline] at htwice
    | earlier :: later :: rest =>
      have hfilter : (earlier :: later :: rest).Sublist line := hline ▸ List.filter_sublist
      have hpair : [earlier, later].Sublist line :=
        (List.sublist_append_left [earlier, later] rest).trans hfilter
      have hindents : ∀ portion ∈ [earlier, later], indents i portion = true := by
        intro portion hportion
        have hmem : portion ∈ line.filter (indents i) := by
          rw [hline]
          exact List.mem_append_left rest hportion
        exact List.of_mem_filter hmem
      cases earlier <;> cases later <;> simp [indents] at hindents
      exact ⟨_, _, hpair, by omega, by omega⟩
  · -- Whichever margins have any piece have the outermost one.
    rintro ⟨count, count', hpair, hcount, hcount'⟩
    have htwice := hpair.countP_le (p := indents 0)
    simp only [List.countP_cons, List.countP_nil, indents, hcount, hcount', decide_true,
      if_true] at htwice
    exact ⟨0, htwice⟩

namespace IndentingWriter

/-- A text that stays on the line leaves the note of whether it starts. -/
theorem keeps_start_put (start : Bool) (text : String) :
    Keeps (fun w => w.atLineStart = start) (put text) := by
  intro w hw
  rw [outcome_put]
  split <;> exact hw

/-- Texts that stay on the line leave the note of whether it starts. -/
theorem keeps_start_putAll (start : Bool) (texts : List String) :
    Keeps (fun w => w.atLineStart = start) (putAll texts) := by
  induction texts with
  | nil => exact keeps_pure 0
  | cons text rest ih =>
    exact (keeps_start_put start text).bind fun n => ih.bind fun m => keeps_pure (n + m)

/-- Indenting a line leaves the note of whether it starts, be the margin taken or not. -/
theorem keeps_start_indentLine (start : Bool) :
    Keeps (fun w => w.atLineStart = start) indentLine := by
  refine keeps_get_bind fun w => (keeps_start_putAll start _).bind fun n => ?_
  split
  · split
    · exact (keeps_start_put start _).bind fun m => keeps_pure (n + m)
    · exact keeps_pure n
  · exact keeps_pure n

/-- Indenting a line comes to offering the margin, and fails if not all of it is taken. -/
theorem outcome_indentLine (w : IndentingWriter) :
    outcome indentLine w =
      (if w.taken w.margin = w.margin then .ok (Piece.count w.newline w.margin) else .error .refused,
        w.offerAll w.margin) := by
  have hoffers := w.offers_indentLine
  split
  · rename_i whole
    rw [hoffers.taken whole, Nat.zero_add, noting_offerAll_self]
  · rename_i broken
    obtain ⟨start, hends⟩ := hoffers.refused broken
    have hstart := keeps_start_indentLine w.atLineStart w rfl
    rw [hends] at hstart
    obtain rfl : start = w.atLineStart := hstart
    rw [hends, noting_offerAll_self]

/-- What the sink takes of a character that goes on with a line. -/
def charPortion (w : IndentingWriter) (c : Char) : List Portion :=
  if w.takes (.text (String.singleton c)) then [.char c] else []

/-- What the sink takes when a character is written. -/
def charPortions (w : IndentingWriter) (c : Char) : List Portion :=
  if c = '\r' then []
  else if c = '\n' then if w.takes .newline then [.newline] else []
  else if w.atLineStart then
    .margin (w.taken w.margin).length ::
      if w.taken w.margin = w.margin then (w.offerAll w.margin).charPortion c else []
  else w.charPortion c

/-- What the sink takes when characters are written up to the first one that fails. -/
def textPortions : IndentingWriter → List Char → List Portion
  | _, [] => []
  | w, c :: rest =>
    match outcome (writeChar c) w with
    | (.ok _, v) => w.charPortions c ++ v.textPortions rest
    | (.error _, _) => w.charPortions c

/-- What the sink takes when texts are written, each of them whether or not the one before failed. -/
def portions : IndentingWriter → List String → List Portion
  | _, [] => []
  | w, text :: rest => w.textPortions text.toList ++ (w.afterText text).portions rest

/-- The writer after texts are written, each of them whether or not the one before failed. -/
def afterTexts (w : IndentingWriter) (texts : List String) : IndentingWriter :=
  texts.foldl afterText w

/-- What becomes of a writer when its sink takes portions in order. -/
structure Extends (w : IndentingWriter) (portions : List Portion) (v : IndentingWriter) : Prop where
  newline : v.newline = w.newline
  margin : v.margin = w.margin
  log : v.sink.log.reverse = w.sink.log.reverse ++
    (portions.flatMap (Portion.pieces w.margin)).map (Piece.content w.newline)
  orderly : Orderly w.margin.length w.atLineStart portions v.atLineStart

namespace Extends

variable {w v u : IndentingWriter} {first second : List Portion}

/-- Nothing is taken. -/
theorem nil (w : IndentingWriter) : Extends w [] w :=
  ⟨rfl, rfl, (List.append_nil _).symm, .nil⟩

/-- What is taken in two goes is taken. -/
theorem append (h : Extends w first v) (h' : Extends v second u) : Extends w (first ++ second) u where
  newline := h'.newline.trans h.newline
  margin := h'.margin.trans h.margin
  log := by simp [h'.log, h.log, h.margin, h.newline]
  orderly := h.orderly.append (h.margin ▸ h'.orderly)

/-- Pieces are offered, and the note of whether a line starts goes with what is taken of them. -/
theorem offerAll {offered : List Piece} {start : Bool}
    (takes : first.flatMap (Portion.pieces w.margin) = w.taken offered)
    (orderly : Orderly w.margin.length w.atLineStart first start) :
    Extends w first ((w.offerAll offered).noting start) where
  newline := w.newline_offerAll offered
  margin := w.margin_noting_offerAll offered start
  log := takes ▸ w.log_offerAll offered
  orderly := orderly

end Extends

/-- A character that goes on with a line is taken or not. -/
theorem extends_put {w : IndentingWriter} (begun : w.atLineStart = false) (c : Char) :
    Extends w (w.charPortion c) (outcome (put (String.singleton c)) w).2 := by
  rw [outcome_put_eq_offer, ← offerAll_singleton, ← noting_offerAll_self, charPortion]
  refine .offerAll ?_ ?_
  · rw [taken_singleton]
    split <;> rfl
  · rw [begun]
    split
    · exact .single .char
    · exact .nil

/-- The newline text is taken or not, and a line starts after it if it is. -/
theorem extends_newline (w : IndentingWriter) :
    Extends w (w.charPortions '\n') (outcome (writeChar '\n') w).2 := by
  have hwrite : writeChar '\n' = (do
      let n ← putNewline
      modify fun w => { w with atLineStart := true }
      pure n) := rfl
  have hportions : w.charPortions '\n' = if w.takes .newline then [.newline] else [] := rfl
  rw [hwrite, hportions, outcome_bind, outcome_putNewline_eq_offer, ← offerAll_singleton]
  cases htakes : w.takes .newline with
  | true => exact .offerAll (by rw [taken_singleton, htakes]; rfl) (.single .newline)
  | false =>
    change Extends w [] (w.offerAll [.newline])
    rw [← noting_offerAll_self]
    exact .offerAll (by rw [taken_singleton, htakes]; rfl) .nil

/-- A character that begins a line comes after the margin, if all of that is taken. -/
theorem extends_margin {w : IndentingWriter} (starts : w.atLineStart = true) (c : Char) :
    Extends w (.margin (w.taken w.margin).length ::
        if w.taken w.margin = w.margin then (w.offerAll w.margin).charPortion c else [])
      (outcome (do
        let n ← indentLine
        modify fun w => { w with atLineStart := false }
        let m ← put (String.singleton c)
        pure (n + m)) w).2 := by
  have hfront := w.taken_prefix w.margin
  have hpieces : [Portion.margin (w.taken w.margin).length].flatMap (Portion.pieces w.margin) =
      w.taken w.margin := by
    simpa [Portion.pieces] using (List.prefix_iff_eq_take.mp hfront).symm
  rw [outcome_bind, outcome_indentLine]
  by_cases whole : w.taken w.margin = w.margin
  · rw [if_pos whole, if_pos whole]
    have hmargin : Extends w [.margin (w.taken w.margin).length]
        ((w.offerAll w.margin).noting false) :=
      .offerAll hpieces (by rw [starts, whole]; exact .single .whole)
    have hchar := extends_put (w := (w.offerAll w.margin).noting false) rfl c
    refine hmargin.append ?_
    change Extends _ _ (outcome (put (String.singleton c) >>= fun m => pure (_ + m))
      ((w.offerAll w.margin).noting false)).2
    rw [outcome_bind]
    rcases hends : outcome (put (String.singleton c)) ((w.offerAll w.margin).noting false)
      with ⟨error | m, v⟩ <;> rw [hends] at hchar <;> exact hchar
  · rw [if_neg whole, if_neg whole]
    have hshort : (w.taken w.margin).length < w.margin.length :=
      lt_of_le_of_ne hfront.length_le fun same => whole (hfront.eq_of_length same)
    have hmargin : Extends w [.margin (w.taken w.margin).length] (w.offerAll w.margin) := by
      rw [← noting_offerAll_self]
      exact .offerAll hpieces (by rw [starts]; exact .single (.broken hshort))
    exact hmargin

/-- Writing a character extends what the sink has taken by the portions of the character. -/
theorem extends_writeChar (w : IndentingWriter) (c : Char) :
    Extends w (w.charPortions c) (outcome (writeChar c) w).2 := by
  by_cases dropped : c = '\r'
  · subst dropped
    exact .nil w
  by_cases ends : c = '\n'
  · subst ends
    exact w.extends_newline
  rw [writeChar, charPortions, if_neg dropped, if_neg ends, if_neg dropped, if_neg ends,
    outcome_get_bind]
  cases starts : w.atLineStart with
  | false => exact extends_put starts c
  | true => exact extends_margin starts c

/-- Writing characters extends what the sink has taken, up to the first one that fails. -/
theorem extends_writeChars (w : IndentingWriter) (count : Nat) (chars : List Char) :
    Extends w (w.textPortions chars) (outcome (writeChars count chars) w).2 := by
  induction chars generalizing w count with
  | nil => exact .nil w
  | cons c rest ih =>
    have hchar := w.extends_writeChar c
    rw [writeChars, outcome_bind, textPortions]
    rcases hends : outcome (writeChar c) w with ⟨error | n, v⟩ <;> rw [hends] at hchar
    · exact hchar
    · exact hchar.append (ih v (count + n))

/-- Writing texts extends what the sink has taken, whichever of them fail. -/
theorem extends_afterTexts (w : IndentingWriter) (texts : List String) :
    Extends w (w.portions texts) (w.afterTexts texts) := by
  induction texts generalizing w with
  | nil => exact .nil w
  | cons text rest ih =>
    exact (w.extends_writeChars 0 text.toList).append (ih (w.afterText text))

/-- Whatever the sink refuses and whichever writes fail: what the sink takes of texts are portions of
lines. On every line, what stands before a margin is a margin that was broken off, and what stands right
before a character is a character or the whole margin. Some piece of the margin is taken twice on a line
exactly if a margin was broken off there after the first piece and another one came as far as that. -/
theorem lines_indented_twice_iff (w : IndentingWriter) (texts : List String) :
    (w.afterTexts texts).sink.log.reverse = w.sink.log.reverse ++
        ((w.portions texts).flatMap (Portion.pieces w.margin)).map (Piece.content w.newline) ∧
      ∀ before line after, w.portions texts = before ++ line ++ after → .newline ∉ line →
        (line.Pairwise fun earlier later => ∀ count, later = .margin count →
            ∃ short < w.margin.length, earlier = .margin short) ∧
          (line.IsChain fun earlier later => ∀ c, later = .char c →
            earlier = .margin w.margin.length ∨ ∃ d, earlier = .char d) ∧
          ((∃ i, 1 < line.countP (Portion.indents i)) ↔
            ∃ short count, [.margin short, .margin count].Sublist line ∧
              0 < short ∧ short < w.margin.length ∧ 0 < count) := by
  have hextends := w.extends_afterTexts texts
  refine ⟨hextends.log, fun before line after hsplit stays => ?_⟩
  have horderly := hextends.orderly
  rw [hsplit] at horderly
  obtain ⟨mid, hlines, -⟩ := horderly.split
  obtain ⟨start, -, hline⟩ := hlines.split
  have hmargins := hline.margins stays
  refine ⟨hmargins, hline.chars stays, (Portion.exists_countP_indents_iff line).trans ?_⟩
  constructor
  · rintro ⟨short, count, hpair, hshort, hcount⟩
    obtain ⟨_, hbroken, ⟨⟩⟩ := List.pairwise_iff_forall_sublist.mp hmargins hpair count rfl
    exact ⟨short, count, hpair, hshort, hbroken, hcount⟩
  · rintro ⟨short, count, hpair, hshort, -, hcount⟩
    exact ⟨short, count, hpair, hshort, hcount⟩

/-- A writer with two indentations whose sink refuses the second piece that it is offered, and no
other. -/
def stumbling : IndentingWriter :=
  { ofSink (.ofRule fun offered _ _ => offered ≠ 1) "\n" with indents := ["\t", "  "] }

/-- The first write fails within the indentation, the second one succeeds, and the line has the outer
indentation twice. -/
theorem stumbling_line_indented_twice :
    stumbling.anchors = [] ∧
      (outcome (write "a") stumbling).1 = .error .refused ∧
      (outcome (write "b") (stumbling.afterText "a")).1 = .ok 4 ∧
      stumbling.portions ["a", "b"] = [.margin 1, .margin 2, .char 'b'] ∧
      (stumbling.afterTexts ["a", "b"]).sink.log.reverse = ["  ", "  ", "\t", "b"] ∧
      ∃ i, 1 < (stumbling.portions ["a", "b"]).countP (Portion.indents i) := by
  obtain ⟨hlog, hlines⟩ := stumbling.lines_indented_twice_iff ["a", "b"]
  have hportions : stumbling.portions ["a", "b"] = [.margin 1, .margin 2, .char 'b'] := by
    decide +kernel
  refine ⟨rfl, by decide +kernel, by decide +kernel, hportions, ?_, ?_⟩
  · rw [hlog, hportions]
    decide +kernel
  · obtain ⟨-, -, htwice⟩ := hlines [] [.margin 1, .margin 2, .char 'b'] [] hportions (by decide)
    rw [hportions, htwice]
    exact ⟨1, 2, by decide, by decide, by decide, by decide⟩

end IndentingWriter

end TemplateMachine
