import TemplateMachine.Proofs.Output.Layout

/-!
# Writers side by side

Two writers to which the same things are done. They are in step as long as everything comes to the
same on both, and they can fall apart when only one of them fails. What is then written to one of
them may no longer be written to the other, so being apart has to survive what either of them writes
alone. Indentations and anchors are begun and ended on both all the same.

When writers fall apart is up to the relation; nothing here brings them together again.
-/

namespace TemplateMachine

variable {ω α β : Type}

namespace Attempt

/-- An operation that comes to the same on writers that are in step, or else leaves them apart.
Writers that are apart stay so if it is done to either of them. -/
structure Coupled (B : Bool → ω → ω → Prop) (operation : Attempt ω α) : Prop where
  inStep {w w' : ω} (h : B true w w') :
    (outcome operation w).1 = (outcome operation w').1 ∧
        B true (outcome operation w).2 (outcome operation w').2 ∨
      B false (outcome operation w).2 (outcome operation w').2
  left (w' : ω) : Keeps (fun w => B false w w') operation
  right (w : ω) : Keeps (fun w' => B false w w') operation

section Coupled

variable {B : Bool → ω → ω → Prop} {operation : Attempt ω α}

/-- A pure operation comes to the same. -/
theorem coupled_pure (a : α) : Coupled B (pure a : Attempt ω α) :=
  ⟨fun h => Or.inl ⟨rfl, h⟩, fun _ => keeps_pure a, fun _ => keeps_pure a⟩

/-- A sequence comes to the same if its parts do. Where the first part leaves the writers apart, the
second part is done to those writers on which the first one succeeded. -/
theorem Coupled.bind (h : Coupled B operation) {f : α → Attempt ω β} (hf : ∀ a, Coupled B (f a)) :
    Coupled B (operation >>= f) where
  inStep {w w'} hw := by
    have hfirst := h.inStep hw
    rw [outcome_bind, outcome_bind]
    rcases hends : outcome operation w with ⟨error | a, v⟩ <;>
      rcases hends' : outcome operation w' with ⟨error' | a', v'⟩ <;>
      rw [hends, hends'] at hfirst <;> dsimp only at hfirst ⊢
    -- A side that failed stops, and the other one goes on alone.
    · exact hfirst.imp_left fun ⟨hsame, hv⟩ => ⟨congrArg Except.error (Except.error.inj hsame), hv⟩
    · obtain ⟨hsame, -⟩ | happart := hfirst
      · simp at hsame
      · exact Or.inr ((hf a').right v v' happart)
    · obtain ⟨hsame, -⟩ | happart := hfirst
      · simp at hsame
      · exact Or.inr ((hf a).left v' v happart)
    · obtain ⟨hsame, hv⟩ | happart := hfirst
      · obtain rfl := Except.ok.inj hsame
        exact (hf a).inStep hv
      · exact Or.inr ((hf a').right _ v' ((hf a).left v' v happart))
  left w' := (h.left w').bind fun a => (hf a).left w'
  right w := (h.right w).bind fun a => (hf a).right w

/-- An operation that sees the same in writers that are in step comes to the same. -/
theorem coupled_get_bind {f : ω → Attempt ω β} (hsame : ∀ w w', B true w w' → f w = f w')
    (hf : ∀ w, Coupled B (f w)) : Coupled B (get >>= f) where
  inStep {w w'} hw := by
    rw [outcome_get_bind, outcome_get_bind, ← hsame w w' hw]
    exact (hf w).inStep hw
  left w' := keeps_get_bind fun w => (hf w).left w'
  right w := keeps_get_bind fun w' => (hf w').right w

/-- A change of the writer that leaves the relation alone comes to the same. -/
theorem coupled_modify {f : ω → ω} (hinStep : ∀ w w', B true w w' → B true (f w) (f w'))
    (hleft : ∀ w w', B false w w' → B false (f w) w')
    (hright : ∀ w w', B false w w' → B false w (f w')) :
    Coupled B (modify f : Attempt ω PUnit) :=
  ⟨fun h => Or.inl ⟨rfl, hinStep _ _ h⟩, fun w' => keeps_modify fun w => hleft w w',
    fun w => keeps_modify fun w' => hright w w'⟩

end Coupled

/-- An operation that fails on both of two writers or on neither, and leaves them in step or apart
as they were. -/
def Matched (B : Bool → ω → ω → Prop) (operation : Attempt ω α) : Prop :=
  ∀ i w w', B i w w' →
    (outcome operation w).1.map (fun _ => ()) = (outcome operation w').1.map (fun _ => ()) ∧
      B i (outcome operation w).2 (outcome operation w').2

end Attempt

open Attempt

namespace Writer

/-- An operation comes to the same if it does for either sort of writer, and only writers that fork
alike, and so are of the same sort, are related. -/
theorem coupled_dispatch {B : Bool → Writer → Writer → Prop}
    {indenting : Attempt IndentingWriter α} {verbatim : Attempt VerbatimWriter α}
    (hfork : ∀ i w w', B i w w' → w.fork = w'.fork)
    (hindenting : Coupled (fun i w w' => B i (.indenting w) (.indenting w')) indenting)
    (hverbatim : Coupled (fun i w w' => B i (.verbatim w) (.verbatim w')) verbatim) :
    Coupled B (dispatch indenting verbatim) where
  inStep {w w'} h := by
    cases w <;> cases w'
    case indenting.indenting => simpa using hindenting.inStep h
    case verbatim.verbatim => simpa using hverbatim.inStep h
    all_goals simpa [fork] using hfork _ _ _ h
  left w' w h := by
    cases w <;> cases w'
    case indenting.indenting => exact hindenting.left _ _ h
    case verbatim.verbatim => exact hverbatim.left _ _ h
    all_goals simpa [fork] using hfork _ _ _ h
  right w w' h := by
    cases w <;> cases w'
    case indenting.indenting => exact hindenting.right _ _ h
    case verbatim.verbatim => exact hverbatim.right _ _ h
    all_goals simpa [fork] using hfork _ _ _ h

end Writer

namespace IndentingWriter

/-- What comes to the same by the two ways of offering comes to the same by everything that writes
or wraps, if writers that are in step differ in their sinks only. -/
theorem Wrapping.coupled {B : Bool → IndentingWriter → IndentingWriter → Prop}
    (hsink : ∀ w w', B true w w' → w' = { w with sink := w'.sink })
    (hstart : ∀ i w w' atLineStart atLineStart', B i w w' → (i = true → atLineStart = atLineStart') →
      B i { w with atLineStart := atLineStart } { w' with atLineStart := atLineStart' })
    (hput : ∀ text, Coupled B (IndentingWriter.put text))
    (hnewline : Coupled B IndentingWriter.putNewline) :
    Wrapping fun _ operation => Coupled B operation where
  pure := coupled_pure
  bind h hf := h.bind hf
  look {_ f} blind hf := coupled_get_bind (fun w w' h =>
    ((congrArg f (hsink w w' h)).trans (blind w w'.sink w.lineWidth)).symm) hf
  lookWidth {_ f} blind hf :=
    coupled_get_bind (fun w w' h => ((congrArg f (hsink w w' h)).trans (blind w w'.sink)).symm) hf
  start atLineStart := coupled_modify (fun w w' h => hstart _ w w' _ _ h fun _ => rfl)
    (fun w w' h => hstart _ w w' _ w'.atLineStart h (by simp))
    (fun w w' h => hstart _ w w' w.atLineStart _ h (by simp))
  put := hput
  putNewline := hnewline

end IndentingWriter

/-- A relation of writers that is a simulation: writing on writers that are in step comes to the same
or leaves them apart, and whatever else the machine does to writers leaves them related as they
were. -/
structure Simulation (B : Bool → Writer → Writer → Prop) : Prop where
  fork {i : Bool} {w w' : Writer} (h : B i w w') : w.fork = w'.fork
  write (text : String) : Coupled B (Writer.write text)
  writeWrap (wrap : Option String) : Coupled B (Writer.writeWrap wrap)
  pushIndentation {i : Bool} {w w' : Writer} (indent : String) (h : B i w w') :
    B i (w.pushIndentation indent) (w'.pushIndentation indent)
  pushAnchor {i : Bool} {w w' : Writer} (h : B i w w') : B i w.pushAnchor w'.pushAnchor
  popIndentation : Matched B Writer.popIndentation
  popAnchor : Matched B Writer.popAnchor

namespace Simulation

/-- Writing after a wrap comes to the same. -/
theorem writeWrapped {B : Bool → Writer → Writer → Prop} (sim : Simulation B) (text : String)
    (wrap : Option String) : Coupled B (Writer.writeWrapped text wrap) :=
  (sim.writeWrap wrap).bind fun n => (sim.write text).bind fun m => coupled_pure (n + m)

/-- Two writers that are the same. They never fall apart. -/
def Same (i : Bool) (w w' : Writer) : Prop :=
  i = true ∧ w = w'

/-- Whatever is done to the same writer comes to the same. -/
theorem coupled_same (operation : Attempt Writer α) : Coupled Same operation where
  inStep h := Or.inl (by rw [h.2]; exact ⟨rfl, rfl, rfl⟩)
  left _ _ h := by simp [Same] at h
  right _ _ h := by simp [Same] at h

/-- Whatever is done to the same writer fails on both sides or on neither. -/
theorem matched_same (operation : Attempt Writer α) : Matched Same operation := by
  rintro i w _ ⟨hi, rfl⟩
  exact ⟨rfl, hi, rfl⟩

/-- Being the same writer is a simulation. -/
theorem same : Simulation Same where
  fork h := congrArg Writer.fork h.2
  write _ := coupled_same _
  writeWrap _ := coupled_same _
  pushIndentation indent h := ⟨h.1, congrArg (Writer.pushIndentation indent) h.2⟩
  pushAnchor h := ⟨h.1, congrArg Writer.pushAnchor h.2⟩
  popIndentation := matched_same _
  popAnchor := matched_same _

end Simulation

end TemplateMachine
