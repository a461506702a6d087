import TemplateMachine.Output.Sink

/-!
# A sink that is cut off

A sink that takes everything beside a sink that takes a number of pieces only, a piece being a text
that is not empty. As long as both take all that they are offered they have the same pieces, and no
more than the limit. The first piece beyond the limit sets them apart: from then on the limited sink
keeps what it has, which is as much of the pieces of the other one as the limit allows, and it
remembers that it refused something. What either of them is offered after that makes no difference,
so they may as well be offered different texts.
-/

namespace TemplateMachine

namespace Sink

/-- The texts that a sink took, but for empty ones, with the oldest first. -/
def pieces (sink : Sink) : List String :=
  sink.log.reverse.filter fun text => !text.isEmpty

/-- What a sink took is its pieces one after the other. -/
theorem text_eq_join_pieces (sink : Sink) : sink.text = String.join sink.pieces := by
  unfold text pieces
  induction sink.log.reverse with
  | nil => rfl
  | cons text rest ih =>
    by_cases hempty : text.isEmpty = true
    · have htext : text = "" := by simpa using hempty
      simp [htext, String.join_cons, ih]
    · simp [hempty, String.join_cons, ih]

/-- A piece that is taken comes last. -/
theorem pieces_offer (sink : Sink) (text : String) :
    (sink.offer text).pieces =
      if sink.accepts text && !text.isEmpty then sink.pieces ++ [text] else sink.pieces := by
  cases htaken : sink.accepts text <;> cases hempty : text.isEmpty <;>
    simp [pieces, offer, htaken, hempty]

/-- A piece that is taken is counted. -/
theorem taken_offer (sink : Sink) (text : String) :
    (sink.offer text).taken =
      if sink.accepts text && !text.isEmpty then sink.taken + 1 else sink.taken := by
  cases htaken : sink.accepts text <;> cases hempty : text.isEmpty <;> simp [offer, htaken, hempty]

/-- A sink remembers that it refused something. -/
theorem refused_offer (sink : Sink) (text : String) :
    (sink.offer text).refused = (sink.refused || !sink.accepts text) := by
  cases htaken : sink.accepts text <;> simp [offer, htaken]

/-- What is offered to a sink leaves its rule alone. -/
theorem admits_offer (sink : Sink) (text : String) : (sink.offer text).admits = sink.admits := by
  cases htaken : sink.accepts text <;> simp [offer, htaken]

/-- A sink that takes everything and one that takes a limited number of pieces, both of which have
taken all that they were offered. -/
structure InStep (limit : Nat) (full cut : Sink) : Prop where
  boundless : full.admits = boundless.admits
  limited : cut.admits = (limited limit).admits
  pieces : cut.pieces = full.pieces
  taken : cut.taken = full.pieces.length
  within : full.pieces.length ≤ limit
  fine : cut.refused = false

/-- A sink that has taken more pieces than a limit, and a sink that has reached the limit with the
same pieces and has refused something. -/
structure Apart (limit : Nat) (full cut : Sink) : Prop where
  limited : cut.admits = (limited limit).admits
  pieces : cut.pieces = full.pieces.take limit
  beyond : limit < full.pieces.length
  reached : limit ≤ cut.taken
  refused : cut.refused = true

variable {limit : Nat} {full cut : Sink}

/-- A fresh boundless sink and a fresh limited one are in step. -/
theorem inStep_start (limit : Nat) : InStep limit boundless (Sink.limited limit) :=
  ⟨rfl, rfl, rfl, rfl, Nat.zero_le limit, rfl⟩

/-- A text that is offered to sinks that are in step is taken by both, or the limited one refuses
it, which sets them apart. -/
theorem InStep.offer (h : InStep limit full cut) (text : String) :
    full.accepts text = true ∧
      (cut.accepts text = true ∧ InStep limit (full.offer text) (cut.offer text) ∨
        cut.accepts text = false ∧ Apart limit (full.offer text) (cut.offer text)) := by
  have hfull : full.accepts text = true := by rw [accepts, h.boundless]; rfl
  have hcut : cut.accepts text = (text.isEmpty || decide (cut.taken < limit)) := by
    rw [accepts, h.limited]; rfl
  have htaken := h.taken
  have hwithin := h.within
  refine ⟨hfull, ?_⟩
  cases haccepts : cut.accepts text with
  | true =>
    refine Or.inl ⟨rfl, ?_⟩
    have hroom : text.isEmpty = true ∨ cut.taken < limit := by simpa [haccepts] using hcut.symm
    exact {
      boundless := (admits_offer full text).trans h.boundless
      limited := (admits_offer cut text).trans h.limited
      pieces := by rw [pieces_offer, pieces_offer, hfull, haccepts, h.pieces]
      taken := by
        rw [taken_offer, pieces_offer, hfull, haccepts]
        cases text.isEmpty <;> simp [htaken]
      within := by
        rw [pieces_offer, hfull]
        cases hempty : text.isEmpty with
        | true => simpa using hwithin
        | false =>
          have hless : cut.taken < limit := by simpa [hempty] using hroom
          simp only [Bool.not_false, Bool.and_self, if_true, List.length_append,
            List.length_singleton]
          omega
      fine := by rw [refused_offer, haccepts, h.fine]; rfl }
  | false =>
    refine Or.inr ⟨rfl, ?_⟩
    -- The limited sink only refuses a piece, and only when it is full.
    obtain ⟨hpiece, hfilled⟩ : text.isEmpty = false ∧ limit ≤ cut.taken := by
      simpa [haccepts] using hcut.symm
    have hlength : full.pieces.length = limit := by omega
    exact {
      limited := (admits_offer cut text).trans h.limited
      pieces := by
        rw [pieces_offer, pieces_offer, hfull, haccepts, hpiece, h.pieces]
        simp [← hlength]
      beyond := by
        rw [pieces_offer, hfull, hpiece]
        simp [hlength]
      reached := by simpa [taken_offer, haccepts] using hfilled
      refused := by simp [refused_offer, haccepts] }

/-- What more is offered to the sink beyond the limit makes no difference. -/
theorem Apart.offer_full (h : Apart limit full cut) (text : String) :
    Apart limit (full.offer text) cut := by
  have hbeyond := h.beyond
  obtain ⟨more, hmore⟩ : ∃ more, (full.offer text).pieces = full.pieces ++ more := by
    rw [pieces_offer]
    split
    · exact ⟨[text], rfl⟩
    · exact ⟨[], (List.append_nil _).symm⟩
  exact { h with
    pieces := by rw [hmore, List.take_append_of_le_length (Nat.le_of_lt hbeyond), h.pieces]
    beyond := by rw [hmore, List.length_append]; omega }

/-- What more is offered to the sink that has reached the limit makes no difference. -/
theorem Apart.offer_cut (h : Apart limit full cut) (text : String) :
    Apart limit full (cut.offer text) := by
  have hcut : cut.accepts text = text.isEmpty := by
    rw [accepts, h.limited]
    simp [Sink.limited, ofRule, Nat.not_lt.mpr h.reached]
  have hnone : ¬ (cut.accepts text && !text.isEmpty) = true := by simp [hcut]
  exact {
    limited := (admits_offer cut text).trans h.limited
    pieces := by rw [pieces_offer, if_neg hnone, h.pieces]
    beyond := h.beyond
    reached := by rw [taken_offer, if_neg hnone]; exact h.reached
    refused := by rw [refused_offer, h.refused]; rfl }

/-- A limited sink holds as many of the pieces of the other one as the limit allows, and it refused
nothing exactly if that is all of them. -/
structure CutOff (limit : Nat) (full cut : Sink) : Prop where
  pieces : cut.pieces = full.pieces.take limit
  refused : cut.refused = false ↔ full.pieces.length ≤ limit

/-- Nothing is cut off as long as the sinks are in step. -/
theorem InStep.cutOff (h : InStep limit full cut) : CutOff limit full cut :=
  ⟨by rw [h.pieces, List.take_of_length_le h.within], by simp [h.fine, h.within]⟩

/-- Something is cut off once the sinks are apart. -/
theorem Apart.cutOff (h : Apart limit full cut) : CutOff limit full cut :=
  ⟨h.pieces, by simp [h.refused, Nat.not_le.mpr h.beyond]⟩

end Sink

end TemplateMachine
