/-!
# Sinks

A sink takes the pieces of an output one by one and may refuse any of them as a whole. What it does
with a piece depends on the piece, on how many pieces were offered before it and on how many of
those that were not empty it took. A sink remembers what it took.
-/

namespace TemplateMachine

/-- A sink and what has happened to it. The texts that it took are kept with the newest first. -/
structure Sink where
  admits : (offered taken : Nat) → String → Bool
  offered : Nat
  taken : Nat
  log : List String
  refused : Bool

namespace Sink

/-- A sink with a given rule to which nothing has happened. -/
def ofRule (admits : (offered taken : Nat) → String → Bool) : Sink :=
  ⟨admits, 0, 0, [], false⟩

/-- A sink that takes everything. -/
def boundless : Sink :=
  ofRule fun _ _ _ => true

/-- A sink that takes a number of texts that are not empty and refuses the ones after them. An empty
text is always taken. -/
def limited (limit : Nat) : Sink :=
  ofRule fun _ taken text => text.isEmpty || taken < limit

/-- Whether the sink takes a text that is offered now. -/
def accepts (sink : Sink) (text : String) : Bool :=
  sink.admits sink.offered sink.taken text

/-- The sink after a text is offered. -/
def offer (sink : Sink) (text : String) : Sink :=
  if sink.accepts text then
    { sink with
      offered := sink.offered + 1
      taken := if text.isEmpty then sink.taken else sink.taken + 1
      log := text :: sink.log }
  else { sink with offered := sink.offered + 1, refused := true }

/-- Everything that the sink took. -/
def text (sink : Sink) : String :=
  String.join sink.log.reverse

/-- A text that is taken comes last. -/
theorem text_offer {sink : Sink} {text : String} (taken : sink.accepts text = true) :
    (sink.offer text).text = sink.text ++ text := by
  simp [offer, taken, Sink.text, String.join]

/-- A text that is refused leaves no trace in what was taken. -/
theorem text_offer_of_refused {sink : Sink} {text : String} (refused : sink.accepts text = false) :
    (sink.offer text).text = sink.text := by
  simp [offer, refused, Sink.text]

/-- A boundless sink takes everything. -/
@[simp] theorem accepts_boundless (text : String) : boundless.accepts text = true := rfl

end Sink

end TemplateMachine
