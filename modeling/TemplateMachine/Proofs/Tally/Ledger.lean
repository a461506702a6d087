import TemplateMachine.Proofs.Anchors.Machine
import TemplateMachine.Proofs.Output.Calls
import TemplateMachine.Proofs.Render.Course

/-!
# The count as a ledger

The machine counts the characters that it writes by hand: what each part of it counts is handed to
the part that asked for it, which adds it to what it has counted itself. A ledger is a relation
between the states before and after some work that says what such counting comes to. If it is kept by
every single thing that the machine does, then it holds of whatever the machine is asked to do. The
induction over the parts of the machine is done here once, for all ledgers.

A template that a fault abandons hands on nothing, whatever it has counted until then. A step that
faults has counted nothing itself: it faults before it writes, as the anchor that a write takes away
is always there.

A run that is out of fuel hands on nothing and is not the subject here.
-/

namespace TemplateMachine

variable {α β : Type}

/-- A relation between the states before and after some work, in which the characters counted go from
one number to another, that is kept by every single thing that the machine does. -/
structure Ledger (A : (before after : Nat) → RenderState → RenderState → Prop) : Prop where
  refl (n : Nat) (s : RenderState) : A n n s s
  trans {before after last : Nat} {s t u : RenderState} (first : A before after s t)
    (second : A after last t u) : A before last s u
  shift {before after : Nat} {s t : RenderState} (extra : Nat) (h : A before after s t) :
    A (extra + before) (extra + after) s t
  report (n : Nat) (frame : Frame) (problems : List Problem) (s : RenderState) :
    A n n s { s with messages := (problems.map frame.message).reverse ++ s.messages }
  marked (n : Nat) (frame : Frame) {deed : Deed}
    (goesOn : ∀ cursor fault, deed ≠ .abandoned cursor fault) (s : RenderState) :
    A n n s (s.marked frame deed)
  recorded (n : Nat) (frame : Frame) (kind : EventKind) (start : Nat) (s : RenderState) :
    A n n s (s.recorded frame kind start)
  pushIndentation (n : Nat) (indent : String) (s : RenderState) :
    A n n s { s with writer := s.writer.pushIndentation indent }
  popIndentation (n : Nat) (s : RenderState) :
    A n n s { s with writer := (Attempt.outcome Writer.popIndentation s.writer).2 }
  pushAnchor (n : Nat) (s : RenderState) : A n n s { s with writer := s.writer.pushAnchor }
  popAnchor (n : Nat) (s : RenderState) :
    A n n s { s with writer := (Attempt.outcome Writer.popAnchor s.writer).2 }
  written (call : TextCall) {s : RenderState} {n : Nat} {w : Writer}
    (ends : Attempt.outcome call.attempt s.writer = (.ok n, w)) : A 0 n s { s with writer := w }
  refused (frame : Frame) (call : TextCall) {s : RenderState} {error : WriterError} {w : Writer}
    (ends : Attempt.outcome call.attempt s.writer = (.error error, w)) :
    A 0 0 s { s with
      writer := w
      messages := frame.message (.ioError error) :: s.messages }
  aside (n : Nat) {before after : Nat} {s t : RenderState} (inner : A before after s.forked t) :
    A n n s (s.rejoined t)
  abandoned {before : Nat} {s t : RenderState} (frame : Frame) (cursor : Cursor) (fault : Fault)
    (until_here : A before cursor.count s t) :
    A before 0 s { t.marked frame (.abandoned cursor fault) with
      messages := frame.message (.internalError fault) :: t.messages }

/-- A computation that goes on from a count, and whose result says what has been counted after it. -/
def Render.Books (A : Nat → Nat → RenderState → RenderState → Prop) (before : Nat)
    (action : Render α) (count : α → Nat) : Prop :=
  ∀ s, Render.Spec action s (fun a t => A before (count a) s t) fun _ => True

namespace Render.Books

variable {A : Nat → Nat → RenderState → RenderState → Prop} (ledger : Ledger A) {before : Nat}
  {action : Render α} {count : α → Nat} {frame : Frame}

include ledger

/-- A pure computation counts nothing. -/
theorem pure {a : α} (h : count a = before) : Books A before (pure a) count :=
  fun s => h ▸ ledger.refl (count a) s

/-- What is counted by the parts of a sequence adds up. -/
theorem bind (h : Books A before action count) {f : α → Render β} {count' : β → Nat}
    (hf : ∀ a, Books A (count a) (f a) count') : Books A before (action >>= f) count' := by
  intro s
  exact Render.Spec.bind (h s) fun a t first =>
    (hf a t).mono (fun _ _ second => ledger.trans first second) fun _ => id

/-- What was counted before is counted on. -/
theorem shift (h : Books A before action count) (extra : Nat) :
    Books A (extra + before) action fun a => extra + count a :=
  fun s => (h s).mono (fun _ _ first => ledger.shift extra first) fun _ => id

omit ledger in
/-- A computation that ends in a state that the ledger allows. -/
theorem of_ends (h : ∀ s, ∃ a t, outcome action s = (some a, t) ∧ A before (count a) s t) :
    Books A before action count := by
  intro s
  obtain ⟨a, t, hends, hbooked⟩ := h s
  exact spec_of_eq hends hbooked

/-- Reporting counts nothing. -/
theorem report {problems : List Problem} :
    Books A before (Render.report frame problems) fun _ => before :=
  of_ends fun s => ⟨_, _, outcome_report frame problems s, ledger.report before frame problems s⟩

/-- Leaving a mark counts nothing, unless it is of an abandoned template. -/
theorem mark {deed : Deed} (goesOn : ∀ cursor fault, deed ≠ .abandoned cursor fault) :
    Books A before (Render.mark frame deed) fun _ => before :=
  of_ends fun s => ⟨_, _, outcome_mark frame deed s, ledger.marked before frame goesOn s⟩

/-- Recording counts nothing. -/
theorem record {kind : EventKind} {start : Nat} :
    Books A before (Render.record frame kind start) fun _ => before :=
  of_ends fun s =>
    ⟨_, _, outcome_record frame kind start s, ledger.recorded before frame kind start s⟩

/-- Reading the position counts nothing. -/
theorem position : Books A before Render.position fun _ => before :=
  of_ends fun s => ⟨_, _, outcome_position s, ledger.refl before s⟩

/-- Beginning an indentation counts nothing. -/
theorem pushIndentation {indent : String} :
    Books A before (Render.pushIndentation indent) fun _ => before :=
  of_ends fun s =>
    ⟨_, _, outcome_pushIndentation indent s, ledger.pushIndentation before indent s⟩

/-- Putting an anchor counts nothing. -/
theorem pushAnchor : Books A before Render.pushAnchor fun _ => before :=
  of_ends fun s => ⟨_, _, outcome_pushAnchor s, ledger.pushAnchor before s⟩

/-- Looking out for nesting that is too deep counts nothing. -/
theorem tooDeep {setting : Setting} :
    Books A before (Render.tooDeep setting frame) fun _ => before := by
  unfold Render.tooDeep
  split
  · exact (report ledger).bind ledger fun _ => pure ledger rfl
  · exact pure ledger rfl

/-- A call that writes counts what is written. If it fails, it counts nothing. -/
theorem emit (call : TextCall) : Books A 0 (Render.emit frame call.attempt) id := by
  intro s
  unfold Render.Spec
  rw [outcome_emit]
  rcases hends : Attempt.outcome call.attempt s.writer with ⟨error | n, w⟩
  · exact ledger.refused frame call hends
  · exact ledger.written call hends

/-- Writing a scalar value counts its text. -/
theorem writeScalar {setting : Setting} {value : Value} {options : OptionRow String} :
    Books A 0 (Render.writeScalar setting frame value options) id :=
  emit ledger (.writeWrapped _ _)

/-- Writing a separator, or none, counts it. -/
theorem separate {options : OptionRow String} {seen : Bool} :
    Books A 0 (TemplateMachine.separate frame options seen) id := by
  unfold TemplateMachine.separate
  split
  · split
    · exact emit ledger (.writeSeparator _)
    · exact pure ledger rfl
  · exact pure ledger rfl

/-- What is rendered to a text of its own is not counted. -/
theorem aside {inner : Render Nat} {before' : Nat} {count' : Nat → Nat}
    (h : Books A before' inner count') : Books A before (Render.aside inner) fun _ => before := by
  intro s
  have hinner := h s.forked
  unfold Render.Spec at hinner ⊢
  rw [outcome_aside_forked]
  rcases hends : outcome inner s.forked with ⟨_ | n, t⟩ <;> rw [hends] at hinner
  · trivial
  · exact ledger.aside before hinner

end Render.Books

/-- A step that goes on from a count and does not fault, unless there is no anchor to take away. What
has been counted after it is related to its result. -/
def Step.BooksSurely (A : Nat → Nat → RenderState → RenderState → Prop) (before : Nat)
    (action : Step α) (Q : Nat → α → Prop) : Prop :=
  ∀ s, Render.Spec action.run s
    (fun result t =>
      match result with
      | .ok a => ∃ n, A before n s t ∧ Q n a
      | .error fault => fault = .writer .noAnchor)
    fun _ => True

/-- A step that goes on from a count and has counted nothing if it faults, unless there is no anchor
to take away. What has been counted after it is related to its result. -/
def Step.Books (A : Nat → Nat → RenderState → RenderState → Prop) (before : Nat) (action : Step α)
    (Q : Nat → α → Prop) : Prop :=
  ∀ s, Render.Spec action.run s
    (fun result t =>
      match result with
      | .ok a => ∃ n, A before n s t ∧ Q n a
      | .error fault => fault = .writer .noAnchor ∨ A before before s t)
    fun _ => True

namespace Step.BooksSurely

variable {A : Nat → Nat → RenderState → RenderState → Prop} (ledger : Ledger A) {before : Nat}
  {action : Step α} {P : Nat → α → Prop} {Q : Nat → β → Prop}

/-- A step that does not fault has counted nothing if it does. -/
theorem books (h : BooksSurely A before action P) : Step.Books A before action P := by
  refine fun s => (h s).mono (fun result t booked => ?_) fun _ => id
  cases result with
  | ok a => exact booked
  | error fault => exact Or.inl booked

/-- A render counts the same as a step. -/
theorem asStep {action : Render α} {count : α → Nat} (h : Render.Books A before action count) :
    BooksSurely A before action.asStep fun n a => n = count a :=
  fun s => Render.Spec.bind (h s) fun a _ booked => ⟨count a, booked, rfl⟩

include ledger

/-- A pure step counts nothing. -/
theorem pure {a : α} (h : P before a) : BooksSurely A before (pure a) P :=
  fun s => ⟨before, ledger.refl before s, h⟩

/-- What is counted by the parts of a sequence adds up. -/
theorem bind (h : BooksSurely A before action P) {f : α → Step β}
    (hf : ∀ n a, P n a → BooksSurely A n (f a) Q) : BooksSurely A before (action >>= f) Q := by
  intro s
  refine Render.Spec.bind (h s) fun result t first => ?_
  cases result with
  | error fault => exact first
  | ok a =>
    obtain ⟨n, hn, ha⟩ := first
    refine (hf n a ha t).mono (fun last u second => ?_) fun _ => id
    cases last with
    | error fault => exact second
    | ok b =>
      obtain ⟨m, hm, hb⟩ := second
      exact ⟨m, ledger.trans hn hm, hb⟩

/-- A render in front of a step counts what it counts. -/
theorem asStep_bind {action : Render α} {count : α → Nat} (h : Render.Books A before action count)
    {f : α → Step β} (hf : ∀ a, BooksSurely A (count a) (f a) Q) :
    BooksSurely A before (action.asStep >>= f) Q :=
  (asStep h).bind ledger fun _ a counted => counted ▸ hf a

/-- Taking an anchor away counts nothing. It fails only where there is none. -/
theorem popAnchor : BooksSurely A before (Step.require Writer.popAnchor) fun n _ => n = before := by
  intro s
  have hbooked := ledger.popAnchor before s
  have hends := s.writer.outcome_popAnchor
  unfold Render.Spec
  rw [outcome_run_require]
  cases hanchors : s.writer.layout.anchors with
  | nil =>
    rw [hanchors] at hends
    rw [hends]
  | cons anchor outer =>
    rw [hanchors] at hends
    obtain ⟨w, hends, -, -⟩ := hends
    rw [hends] at hbooked ⊢
    exact ⟨before, hbooked, rfl⟩

end Step.BooksSurely

namespace Step.Books

variable {A : Nat → Nat → RenderState → RenderState → Prop} (ledger : Ledger A) {before : Nat}
  {Q : Nat → β → Prop}

/-- A step that keeps the anchors always has one to take away, and so it has counted nothing if it
faults. -/
theorem counted {action : Step β} (h : Books A before action Q) (keeps : action.KeepsAnchors)
    (s : RenderState) :
    Render.Spec action.run s
      (fun result t =>
        match result with
        | .ok a => ∃ n, A before n s t ∧ Q n a
        | .error _ => A before before s t)
      fun _ => True := by
  refine ((h s).and (keeps s)).mono (fun result t both => ?_) fun _ _ => trivial
  obtain ⟨booked, -, hanchor⟩ := both
  cases result with
  | ok a => exact booked
  | error fault => exact booked.resolve_left fun missing => hanchor (congrArg Except.error missing)

include ledger

/-- A value or a fault in front of a step counts nothing. -/
theorem ofExcept_bind {result : Except Fault α} {f : α → Step β}
    (hf : ∀ a, Books A before (f a) Q) : Books A before (Step.ofExcept result >>= f) Q := by
  cases result with
  | ok a => exact hf a
  | error fault => exact fun s => Or.inr (ledger.refl before s)

/-- Ending an indentation in front of a step counts nothing, whether there is one to end or not. -/
theorem popIndentation_bind {f : String → Step β} (hf : ∀ a, Books A before (f a) Q) :
    Books A before (Step.require Writer.popIndentation >>= f) Q := by
  intro s
  have hbooked := ledger.popIndentation before s
  unfold Render.Spec
  rw [outcome_run_bind, outcome_run_require]
  rcases hends : Attempt.outcome Writer.popIndentation s.writer with ⟨error | a, w⟩ <;>
    rw [hends] at hbooked
  · exact Or.inr hbooked
  · refine (hf a { s with writer := w }).mono (fun result t booked => ?_) fun _ => id
    cases result with
    | ok b =>
      obtain ⟨n, hn, hb⟩ := booked
      exact ⟨n, ledger.trans hbooked hn, hb⟩
    | error fault => exact booked.imp_right (ledger.trans hbooked)

end Step.Books

/-- What an instruction does to the counts of a cursor that has counted a number of characters by it:
they are added to both, but a newline instruction starts anew. -/
def Cursor.Counts (cursor : Cursor) (instr : Instr) (n : Nat) (moved : Cursor) : Prop :=
  moved.count = cursor.count + n ∧
    moved.sinceNewline = if instr = .newline then 0 else cursor.sinceNewline + n

/-- With a certain amount of fuel, a ledger holds of all that the machine can be asked to do. -/
structure MachineBooks (A : Nat → Nat → RenderState → RenderState → Prop) (setting : Setting)
    (fuel : Nat) : Prop where
  exec (frame : Frame) : Render.Books A 0 (exec setting fuel frame) id
  run (frame : Frame) (cursor : Cursor) :
    Render.Books A cursor.count (run setting fuel frame cursor) id
  step (frame : Frame) (cursor : Cursor) (instr : Instr) :
    Step.Books A 0 (step setting fuel frame cursor instr) (cursor.Counts instr)
  writeWith (frame : Frame) (value : Value) (options : OptionRow Value) :
    Step.BooksSurely A 0 (writeWith setting fuel frame value options) Eq
  optionTexts (frame : Frame) (options : OptionRow Value) :
    Render.Books A 0 (optionTexts setting fuel frame options) fun _ => 0
  optionText (frame : Frame) (value : Option Value) :
    Render.Books A 0 (optionText setting fuel frame value) fun _ => 0
  writeValue (frame : Frame) (value : Value) (options : OptionRow String) :
    Render.Books A 0 (writeValue setting fuel frame value options) id
  writeItems (frame : Frame) (items : List Value) (options : OptionRow String) (count : Nat)
    (seen : Bool) : Render.Books A count (writeItems setting fuel frame items options count seen) id
  toText (frame : Frame) (value : Value) :
    Render.Books A 0 (toText setting fuel frame value) fun _ => 0
  giveDefaults (frame : Frame) (args : List FormalArg) :
    Render.Books A 0 (giveDefaults setting fuel frame args) fun _ => 0
  defaultValue (frame : Frame) (default : DefaultValue) :
    Render.Books A 0 (defaultValue setting fuel frame default) fun _ => 0

namespace MachineBooks

variable {A : Nat → Nat → RenderState → RenderState → Prop} {setting : Setting} {fuel : Nat}

/-- Without fuel the machine does nothing. -/
theorem zero : MachineBooks A setting 0 := by
  constructor <;> intros <;> exact fun _ => trivial

section Succ

variable (ledger : Ledger A) (ih : MachineBooks A setting fuel)

include ledger ih

/-- Running a template counts what its program counts. -/
theorem exec_succ (frame : Frame) :
    Render.Books A 0 (TemplateMachine.exec setting (fuel + 1) frame) id := by
  rw [TemplateMachine.exec]
  apply (Render.Books.mark ledger (by simp)).bind ledger
  intro _
  apply (ih.giveDefaults frame frame.template.args).bind ledger
  intro given
  apply (Render.Books.position ledger).bind ledger
  intro start
  apply (ih.run given .start).bind ledger
  intro count
  exact (Render.Books.record ledger).bind ledger fun _ => Render.Books.pure ledger rfl

/-- Running a program counts what its instructions count. A program that faults hands on nothing. -/
theorem run_succ (frame : Frame) (cursor : Cursor) :
    Render.Books A cursor.count (TemplateMachine.run setting (fuel + 1) frame cursor) id := by
  rw [TemplateMachine.run]
  split
  · exact Render.Books.pure ledger rfl
  · rename_i instr _
    let here : Frame := { frame with ip := cursor.ip }
    apply (Render.Books.mark ledger (by simp)).bind ledger
    intro _ s
    have hstep := (ih.step here cursor instr).counted
      ((MachineKeepsAnchors.all fuel).step here cursor instr) s
    refine Render.Spec.bind hstep fun result t first => ?_
    cases result with
    | ok moved =>
      obtain ⟨n, hn, hcount, -⟩ := first
      have hshifted := ledger.shift cursor.count hn
      rw [← hcount] at hshifted
      exact (ih.run frame moved t).mono (fun _ _ second => ledger.trans hshifted second)
        fun _ => id
    | error fault =>
      exact Render.spec_of_eq rfl
        (ledger.abandoned here cursor fault (ledger.shift cursor.count first))

/-- Writing with options counts what is written, but not the texts of the options. -/
theorem writeWith_succ (frame : Frame) (value : Value) (options : OptionRow Value) :
    Step.BooksSurely A 0 (TemplateMachine.writeWith setting (fuel + 1) frame value options) Eq := by
  rw [TemplateMachine.writeWith]
  apply Step.BooksSurely.asStep_bind ledger (ih.optionTexts frame options)
  intro texts
  have hwrite := ih.writeValue frame value texts
  split
  · apply Step.BooksSurely.asStep_bind ledger (Render.Books.pushAnchor ledger)
    intro _
    apply Step.BooksSurely.asStep_bind ledger hwrite
    intro n
    apply (Step.BooksSurely.popAnchor ledger).bind ledger
    intro m _ hm
    exact Step.BooksSurely.pure ledger hm
  · exact Step.BooksSurely.asStep hwrite

/-- Executing an instruction counts what it writes. -/
theorem step_succ (frame : Frame) (cursor : Cursor) (instr : Instr) :
    Step.Books A 0 (TemplateMachine.step setting (fuel + 1) frame cursor instr)
      (cursor.Counts instr) := by
  cases instr with
  | write =>
    rw [TemplateMachine.step]
    apply Step.Books.ofExcept_bind ledger
    intro top
    apply Step.BooksSurely.books
    apply Step.BooksSurely.asStep_bind ledger (Render.Books.position ledger)
    intro start
    apply Step.BooksSurely.asStep_bind ledger (ih.writeValue frame _ .empty)
    intro n
    apply Step.BooksSurely.asStep_bind ledger (Render.Books.record ledger)
    intro _
    exact Step.BooksSurely.pure ledger ⟨rfl, rfl⟩
  | writeOpt =>
    rw [TemplateMachine.step]
    apply Step.Books.ofExcept_bind ledger
    intro options
    apply Step.Books.ofExcept_bind ledger
    intro top
    apply Step.BooksSurely.books
    apply Step.BooksSurely.asStep_bind ledger (Render.Books.position ledger)
    intro start
    apply (ih.writeWith frame _ _).bind ledger
    rintro n _ rfl
    apply Step.BooksSurely.asStep_bind ledger (Render.Books.record ledger)
    intro _
    exact Step.BooksSurely.pure ledger ⟨rfl, rfl⟩
  | writeStr index =>
    rw [TemplateMachine.step]
    apply Step.Books.ofExcept_bind ledger
    intro text
    apply Step.BooksSurely.books
    apply Step.BooksSurely.asStep_bind ledger (Render.Books.emit ledger (.write text))
    intro n
    exact Step.BooksSurely.pure ledger ⟨rfl, rfl⟩
  | writeLocal index =>
    rw [TemplateMachine.step]
    apply Step.Books.ofExcept_bind ledger
    intro value
    apply Step.BooksSurely.books
    apply Step.BooksSurely.asStep_bind ledger (ih.writeValue frame value .empty)
    intro n
    exact Step.BooksSurely.pure ledger ⟨rfl, rfl⟩
  | toStr =>
    rw [TemplateMachine.step]
    apply Step.Books.ofExcept_bind ledger
    intro top
    dsimp only
    apply Step.BooksSurely.books
    split
    · exact Step.BooksSurely.pure ledger ⟨rfl, rfl⟩
    · exact Step.BooksSurely.pure ledger ⟨rfl, rfl⟩
    · apply Step.BooksSurely.asStep_bind ledger (ih.toText frame _)
      intro text
      exact Step.BooksSurely.pure ledger ⟨rfl, rfl⟩
  | indent index =>
    rw [TemplateMachine.step]
    apply Step.Books.ofExcept_bind ledger
    intro text
    apply Step.BooksSurely.books
    apply Step.BooksSurely.asStep_bind ledger (Render.Books.pushIndentation ledger)
    intro _
    exact Step.BooksSurely.pure ledger ⟨rfl, rfl⟩
  | dedent =>
    rw [TemplateMachine.step]
    apply Step.Books.popIndentation_bind ledger
    intro _
    exact (Step.BooksSurely.pure ledger ⟨rfl, rfl⟩).books
  | newline =>
    have hnewline : Render.Books A 0
        (if cursor.wantsNewline then Render.emit frame (Writer.write "\n") else pure 0) id := by
      split
      · exact Render.Books.emit ledger (.write "\n")
      · exact Render.Books.pure ledger rfl
    rw [step_newline]
    apply Step.BooksSurely.books
    apply Step.BooksSurely.asStep_bind ledger hnewline
    intro n
    exact Step.BooksSurely.pure ledger ⟨rfl, rfl⟩
  | br target =>
    rw [TemplateMachine.step]
    apply Step.Books.ofExcept_bind ledger
    intro _
    exact (Step.BooksSurely.pure ledger ⟨rfl, rfl⟩).books
  | brf target =>
    rw [TemplateMachine.step]
    apply Step.Books.ofExcept_bind ledger
    intro _
    apply Step.Books.ofExcept_bind ledger
    intro _
    exact (Step.BooksSurely.pure ledger ⟨rfl, rfl⟩).books
  | _ =>
    rw [step_of_isOperation rfl]
    apply Step.Books.ofExcept_bind ledger
    intro result
    apply Step.BooksSurely.books
    apply Step.BooksSurely.asStep_bind ledger (Render.Books.report ledger)
    intro _
    exact Step.BooksSurely.pure ledger ⟨rfl, rfl⟩

/-- Rendering options to texts counts nothing. -/
theorem optionTexts_succ (frame : Frame) (options : OptionRow Value) :
    Render.Books A 0 (TemplateMachine.optionTexts setting (fuel + 1) frame options) fun _ => 0 := by
  rw [TemplateMachine.optionTexts]
  apply (ih.optionText frame _).bind ledger
  intro anchor
  apply (ih.optionText frame _).bind ledger
  intro format
  apply (ih.optionText frame _).bind ledger
  intro null
  apply (ih.optionText frame _).bind ledger
  intro separator
  exact (ih.optionText frame _).bind ledger fun wrap => Render.Books.pure ledger rfl

/-- Rendering an option to text counts nothing. -/
theorem optionText_succ (frame : Frame) (value : Option Value) :
    Render.Books A 0 (TemplateMachine.optionText setting (fuel + 1) frame value) fun _ => 0 := by
  cases value with
  | none => exact Render.Books.pure ledger rfl
  | some value =>
    rw [TemplateMachine.optionText]
    exact (ih.toText frame value).bind ledger fun text => Render.Books.pure ledger rfl

/-- Writing a value counts what is written: the text of a scalar, or what a template or the elements
of a collection count. -/
theorem writeValue_succ (frame : Frame) (value : Value) (options : OptionRow String) :
    Render.Books A 0 (TemplateMachine.writeValue setting (fuel + 1) frame value options) id := by
  rw [TemplateMachine.writeValue]
  split
  · split
    · exact Render.Books.writeScalar ledger
    · exact Render.Books.pure ledger rfl
  split
  · apply (Render.Books.tooDeep ledger).bind ledger
    intro deep
    split
    · exact Render.Books.pure ledger rfl
    · apply (Render.Books.emit ledger (.writeWrap options.wrap)).bind ledger
      intro n
      exact ((ih.exec _).shift ledger n).bind ledger fun m => Render.Books.pure ledger rfl
  · exact ih.writeItems frame _ options 0 false
  · exact ih.writeItems frame _ options 0 false
  · exact Render.Books.writeScalar ledger

/-- Writing the elements of a collection counts what is written for each of them, with its
separator. -/
theorem writeItems_succ (frame : Frame) (items : List Value) (options : OptionRow String)
    (count : Nat) (seen : Bool) :
    Render.Books A count
      (TemplateMachine.writeItems setting (fuel + 1) frame items options count seen) id := by
  cases items with
  | nil => exact Render.Books.pure ledger rfl
  | cons item rest =>
    rw [writeItems_cons]
    split
    · exact ih.writeItems frame rest options count seen
    · apply ((Render.Books.separate ledger).shift ledger count).bind ledger
      intro n
      apply ((ih.writeValue frame _ options).shift ledger (count + n)).bind ledger
      intro m
      exact ih.writeItems frame rest options (count + n + m) (seen || 0 < m)

/-- Rendering a value to text counts nothing. -/
theorem toText_succ (frame : Frame) (value : Value) :
    Render.Books A 0 (TemplateMachine.toText setting (fuel + 1) frame value) fun _ => 0 :=
  Render.Books.aside ledger (ih.writeValue frame value .empty)

/-- Giving arguments their defaults counts nothing. -/
theorem giveDefaults_succ (frame : Frame) (args : List FormalArg) :
    Render.Books A 0 (TemplateMachine.giveDefaults setting (fuel + 1) frame args) fun _ => 0 := by
  cases args with
  | nil => exact Render.Books.pure ledger rfl
  | cons arg rest =>
    rw [TemplateMachine.giveDefaults]
    split
    · exact (ih.defaultValue frame _).bind ledger fun value => ih.giveDefaults _ rest
    · exact ih.giveDefaults frame rest

/-- Finding the value of a default counts nothing. -/
theorem defaultValue_succ (frame : Frame) (default : DefaultValue) :
    Render.Books A 0 (TemplateMachine.defaultValue setting (fuel + 1) frame default)
      fun _ => 0 := by
  cases default with
  | literal value => exact Render.Books.pure ledger rfl
  | template template eager =>
    rw [TemplateMachine.defaultValue]
    split
    · apply (Render.Books.tooDeep ledger).bind ledger
      intro deep
      split
      · exact Render.Books.pure ledger rfl
      · exact (Render.Books.aside ledger (ih.exec _)).bind ledger fun text =>
          Render.Books.pure ledger rfl
    · exact Render.Books.pure ledger rfl

end Succ

/-- A ledger holds of whatever the machine is asked to do. -/
theorem all (ledger : Ledger A) (setting : Setting) (fuel : Nat) : MachineBooks A setting fuel := by
  induction fuel with
  | zero => exact zero
  | succ fuel ih =>
    exact {
      exec := exec_succ ledger ih
      run := run_succ ledger ih
      step := step_succ ledger ih
      writeWith := writeWith_succ ledger ih
      optionTexts := optionTexts_succ ledger ih
      optionText := optionText_succ ledger ih
      writeValue := writeValue_succ ledger ih
      writeItems := writeItems_succ ledger ih
      toText := toText_succ ledger ih
      giveDefaults := giveDefaults_succ ledger ih
      defaultValue := defaultValue_succ ledger ih }

end MachineBooks

end TemplateMachine
