import TemplateMachine.Render.Machine

/-!
# Rendering an instance

A render runs an instance from the outside: with a writer on a given sink, with or without events,
and with settings that take the place of what the group says. Its result is the output, the events
and the messages. Fuel bounds the work; a render that needs more has no result.
-/

namespace TemplateMachine

/-- The settings of a render. An unset depth is that of the group; an unset line width means that
lines are never wrapped. -/
structure RenderSettings where
  lineWidth : Option Nat
  locale : String
  newline : String
  maxDepth : Option Nat
  indent : Bool

/-- The settings of a render unless it is told otherwise. -/
def RenderSettings.standard : RenderSettings :=
  ⟨none, "en", "\n", none, true⟩

/-- The result of a render: the characters counted, the writer at the end, the events and the
messages, both oldest first. -/
structure Rendering where
  count : Nat
  writer : Writer
  events : List Event
  messages : List Message

namespace Rendering

/-- The output that reached the sink. -/
def text (rendering : Rendering) : String :=
  rendering.writer.text

/-- Whether the sink refused a part of the output. -/
def failed (rendering : Rendering) : Bool :=
  rendering.writer.sink.refused

end Rendering

namespace RenderSettings

/-- The writer of a render on a sink. -/
def writer (settings : RenderSettings) (sink : Sink) : Writer :=
  if settings.indent then
    .indenting { IndentingWriter.ofSink sink settings.newline with lineWidth := settings.lineWidth }
  else .verbatim (.ofSink sink)

/-- What stays the same during a render of an instance. -/
def setting (settings : RenderSettings) (catalog : Catalog) (inst : Instance) : Setting :=
  ⟨catalog, settings.locale, settings.maxDepth.getD (catalog.group inst.group).maxDepth⟩

end RenderSettings

/-- Run an instance from the outside: the characters counted unless the fuel runs out, and the state
in which the render ends or stops. -/
def Instance.execute (inst : Instance) (catalog : Catalog) (settings : RenderSettings)
    (sink : Sink) (withEvents : Bool) (fuel : Nat) : Option Nat × RenderState :=
  (exec (settings.setting catalog inst) fuel (.root inst)).run.run
    (.start (settings.writer sink) withEvents)

/-- Render an instance to a sink. -/
def Instance.render (inst : Instance) (catalog : Catalog) (settings : RenderSettings)
    (sink : Sink) (withEvents : Bool) (fuel : Nat) : Option Rendering :=
  match inst.execute catalog settings sink withEvents fuel with
  | (none, _) => none
  | (some count, finish) =>
    some ⟨count, finish.writer, (finish.events.getD []).reverse, finish.messages.reverse⟩

/-- The messages of a render that the listener of the instance's group keeps. -/
def Rendering.heard (rendering : Rendering) (catalog : Catalog) (inst : Instance) : List Message :=
  match (catalog.group inst.group).listener with
  | .record => rendering.messages
  | .log => []

end TemplateMachine
