import TemplateMachine.Proofs.Accord.Handing

/-!
# Renders in accord

Two renders that are asked for the same with different writers and different room for nesting. They
come to the same as long as the first one does not come across anything that would tell them apart:
a problem that is reported, an instruction that is come to, or a text that is handed to a writer. What
these are is left open, and so is how the writers are related.

The two renders then agree in everything but their writers: in their results, in the events, messages
and marks, and in whether they are out of fuel.
-/

namespace TemplateMachine

variable {ω α β : Type}

/-- The instruction that a deed was to come to, if it was such a deed. -/
def Deed.instr? : Deed → Option Instr
  | .reached _ instr => some instr
  | .begun => none
  | .abandoned _ _ => none

/-- The instructions that a render came to, the last one first. -/
def RenderState.instrs (s : RenderState) : List Instr :=
  s.trail.filterMap fun mark => mark.deed.instr?

/-- What a render must not come across if it is to be like another one. -/
structure Exclusions where
  problem : Problem → Prop
  instr : Instr → Prop
  text : String → Prop

namespace Exclusions

/-- Something excluded has been reported or come to. Texts leave no trace. -/
def Met (excluded : Exclusions) (s : RenderState) : Prop :=
  (∃ message ∈ s.messages, excluded.problem message.problem) ∨
    ∃ instr ∈ s.instrs, excluded.instr instr

variable {excluded : Exclusions} {s t : RenderState}

/-- What was met stays met when messages and marks are added. -/
theorem Met.mono (h : excluded.Met s) (messages : s.messages ⊆ t.messages)
    (trail : s.trail ⊆ t.trail) : excluded.Met t := by
  obtain ⟨message, mem, hexcluded⟩ | ⟨instr, mem, hexcluded⟩ := h
  · exact Or.inl ⟨message, messages mem, hexcluded⟩
  · obtain ⟨mark, hmark, hreached⟩ := List.mem_filterMap.mp mem
    exact Or.inr ⟨instr, List.mem_filterMap.mpr ⟨mark, trail hmark, hreached⟩, hexcluded⟩

end Exclusions

/-- The setting with other room for nesting. -/
def Setting.withDepth (setting : Setting) (depth : Nat) : Setting :=
  { setting with maxDepth := depth }

/-- A setting has the room that it has. -/
@[simp] theorem Setting.withDepth_maxDepth (setting : Setting) :
    setting.withDepth setting.maxDepth = setting := rfl

/-- An operation that comes to the same on two related writers and leaves them related, unless there
is an excuse and it is refused on the first one. -/
def Attempt.Agrees (excuse : Prop) (B : ω → ω → Prop) (operation : Attempt ω α) : Prop :=
  ∀ w w', B w w' →
    (excuse ∧ (operation.outcome w).1 = .error .refused) ∨
      ((operation.outcome w').1 = (operation.outcome w).1 ∧
        B (operation.outcome w).2 (operation.outcome w').2)

namespace Attempt.Agrees

variable {excuse : Prop} {B : ω → ω → Prop} {operation : Attempt ω α}

/-- Pure operations agree. -/
theorem pure (a : α) : Agrees excuse B (pure a) :=
  fun _ _ hw => Or.inr ⟨rfl, hw⟩

/-- Sequences agree if their parts do. -/
theorem bind (h : Agrees excuse B operation) {f : α → Attempt ω β}
    (hf : ∀ a, Agrees excuse B (f a)) : Agrees excuse B (operation >>= f) := by
  intro w w' hw
  have hfirst := h w w' hw
  rw [outcome_bind, outcome_bind]
  rcases hends : operation.outcome w with ⟨error | a, v⟩ <;>
    rcases hends' : operation.outcome w' with ⟨error' | a', v'⟩ <;> rw [hends, hends'] at hfirst
  all_goals obtain ⟨hexcuse, hrefused⟩ | ⟨hsame, hv⟩ := hfirst
  all_goals first | (cases hrefused; done) | (cases hsame; done) | skip
  · exact Or.inl ⟨hexcuse, by simpa using hrefused⟩
  · exact Or.inr ⟨by simpa using hsame, hv⟩
  · exact Or.inl ⟨hexcuse, by simpa using hrefused⟩
  · obtain rfl : a' = a := by simpa using hsame
    exact hf a' v v' hv

end Attempt.Agrees

/-- A relation of writers that is kept by whatever is not excluded. Writers that are related count
alike and have the same text. -/
structure Exclusions.Bisimulation (excluded : Exclusions) (B : Writer → Writer → Prop) : Prop where
  index {w w' : Writer} (h : B w w') : w'.index = w.index
  text {w w' : Writer} (h : B w w') : w'.text = w.text
  fork {w w' : Writer} (h : B w w') : B w.fork w'.fork
  write {text : String} (allowed : ¬excluded.text text) :
    Attempt.Agrees (excluded.problem (.ioError .refused)) B (Writer.write text)
  writeWrap {wrap : Option String}
    (allowed : excluded.instr (.storeOption WriteOption.wrap.index) → wrap = none) :
    Attempt.Agrees (excluded.problem (.ioError .refused)) B (Writer.writeWrap wrap)
  pushIndentation {index : Nat} (allowed : ¬excluded.instr (.indent index)) (indent : String)
    {w w' : Writer} (h : B w w') : B (w.pushIndentation indent) (w'.pushIndentation indent)
  popIndentation : Attempt.Agrees False B Writer.popIndentation
  pushAnchor (allowed : ¬excluded.instr (.storeOption WriteOption.anchor.index)) {w w' : Writer}
    (h : B w w') : B w.pushAnchor w'.pushAnchor
  popAnchor (allowed : ¬excluded.instr (.storeOption WriteOption.anchor.index)) :
    Attempt.Agrees False B Writer.popAnchor

/-- Two states that agree in everything but their writers, which are related. -/
structure RenderState.Matches (B : Writer → Writer → Prop) (s s' : RenderState) : Prop where
  writer : B s.writer s'.writer
  events : s'.events = s.events
  messages : s'.messages = s.messages
  aside : s'.aside = s.aside
  trail : s'.trail = s.trail

/-- States that match match with writers that are related in a weaker way. -/
theorem RenderState.Matches.mono {B C : Writer → Writer → Prop} {s s' : RenderState}
    (h : RenderState.Matches B s s') (weaker : ∀ w w', B w w' → C w w') :
    RenderState.Matches C s s' :=
  ⟨weaker _ _ h.writer, h.events, h.messages, h.aside, h.trail⟩

/-- Two computations that come to the same if a precondition holds and nothing excluded is come
across: neither among what is handed over, nor up to the state in which the first one ends or stops.
The results then have the property `P`. What has been met is not forgotten in any case. -/
structure Render.Accords (excluded : Exclusions) (B : Writer → Writer → Prop) (pre : Prop)
    (hands : Handing) (action action' : Render α) (P : α → Prop) : Prop where
  grows (s : RenderState) (h : excluded.Met s) : excluded.Met (outcome action s).2
  agrees (holds : pre) (s s' : RenderState) (h : RenderState.Matches B s s')
    (clean : ∀ text ∈ hands s, ¬excluded.text text) (unmet : ¬excluded.Met (outcome action s).2) :
    (outcome action' s').1 = (outcome action s).1 ∧
      RenderState.Matches B (outcome action s).2 (outcome action' s').2 ∧
      ∀ a ∈ (outcome action s).1, P a

namespace Render.Accords

variable {excluded : Exclusions} {B : Writer → Writer → Prop} {pre : Prop} {hands : Handing}
  {action action' : Render α} {P : α → Prop}

/-- Accord from a weaker precondition, with a stronger property of the results. -/
theorem mono {pre' : Prop} {P' : α → Prop} (h : Accords excluded B pre hands action action' P)
    (hpre : pre' → pre) (hP : ∀ a, pre' → P a → P' a) :
    Accords excluded B pre' hands action action' P' where
  grows := h.grows
  agrees holds s s' hs clean unmet := by
    obtain ⟨hresult, hmatches, hproperty⟩ := h.agrees (hpre holds) s s' hs clean unmet
    exact ⟨hresult, hmatches, fun a ha => hP a holds (hproperty a ha)⟩

/-- Accord from a weaker precondition. -/
theorem weaken {pre' : Prop} (h : Accords excluded B pre hands action action' P)
    (hpre : pre' → pre) : Accords excluded B pre' hands action action' P :=
  h.mono hpre fun _ _ => id

/-- Pure computations are in accord. -/
theorem pure {a : α} (h : pre → P a) : Accords excluded B pre hands (pure a) (pure a) P where
  grows _ := id
  agrees holds s s' hs _ _ := by
    refine ⟨rfl, hs, fun b hb => ?_⟩
    obtain rfl : a = b := Option.some.inj hb
    exact h holds

/-- Being out of fuel is in accord. -/
theorem failure : Accords excluded B pre hands (failure : Render α) failure P where
  grows _ := id
  agrees _ _ _ hs _ _ := ⟨rfl, hs, by simp [outcome]⟩

/-- Sequences are in accord if their parts are. The second parts may rely on what holds before and on
the property of the result of the first ones. -/
theorem bind (h : Accords excluded B pre hands action action' P) {rest : α → Handing}
    {f f' : α → Render β} {Q : β → Prop}
    (hf : ∀ a, Accords excluded B (pre ∧ P a) (rest a) (f a) (f' a) Q) :
    Accords excluded B pre (hands.andThen action rest) (action >>= f) (action' >>= f') Q where
  grows s hs := by
    have hfirst := h.grows s hs
    rw [outcome_bind]
    rcases hends : outcome action s with ⟨_ | a, t⟩ <;> rw [hends] at hfirst
    · exact hfirst
    · exact (hf a).grows t hfirst
  agrees holds s s' hs clean unmet := by
    rw [outcome_bind, outcome_bind] at *
    have hfirst := h.agrees holds s s' hs fun text mem => clean text (List.mem_append_left _ mem)
    rcases hends : outcome action s with ⟨_ | a, t⟩ <;> rw [hends] at hfirst unmet
    · obtain ⟨hresult, hmatches, -⟩ := hfirst unmet
      rcases hends' : outcome action' s' with ⟨_ | a', t'⟩ <;> rw [hends'] at hresult hmatches
      · exact ⟨rfl, hmatches, by simp⟩
      · cases hresult
    · obtain ⟨hresult, hmatches, hproperty⟩ := hfirst fun hmet => unmet ((hf a).grows t hmet)
      rcases hends' : outcome action' s' with ⟨_ | a', t'⟩ <;> rw [hends'] at hresult hmatches
      · cases hresult
      · obtain rfl : a' = a := by simpa using hresult
        refine (hf a').agrees ⟨holds, hproperty a' rfl⟩ t t' hmatches (fun text mem => ?_) unmet
        exact clean text (List.mem_append_right _ (by rw [hends]; exact mem))

/-- A sequence is in accord if its second part hands over nothing. -/
theorem bind_last (h : Accords excluded B pre hands action action' P) {f f' : α → Render β}
    {Q : β → Prop}
    (hf : ∀ a, Accords excluded B (pre ∧ P a) .nothing (f a) (f' a) Q) :
    Accords excluded B pre hands (action >>= f) (action' >>= f') Q := by
  have hbind := h.bind hf
  refine ⟨hbind.grows, fun holds s s' hs clean => hbind.agrees holds s s' hs fun text mem => ?_⟩
  rcases List.mem_append.mp mem with mem | mem
  · exact clean text mem
  · split at mem <;> simp [Handing.nothing] at mem

/-- Computations that end are in accord if what they come to is. -/
theorem of_ends (h : ∀ s, ∃ a t, outcome action s = (some a, t) ∧
      (excluded.Met s → excluded.Met t) ∧
      (pre → (∀ text ∈ hands s, ¬excluded.text text) → ¬excluded.Met t → ∀ s',
        RenderState.Matches B s s' → ∃ t', outcome action' s' = (some a, t') ∧
          RenderState.Matches B t t' ∧ P a)) :
    Accords excluded B pre hands action action' P where
  grows s hs := by
    obtain ⟨a, t, hends, hgrows, -⟩ := h s
    rw [hends]
    exact hgrows hs
  agrees holds s s' hs clean unmet := by
    obtain ⟨a, t, hends, -, hagrees⟩ := h s
    rw [hends] at unmet ⊢
    obtain ⟨t', hends', hmatches, hproperty⟩ := hagrees holds clean unmet s' hs
    rw [hends']
    exact ⟨rfl, hmatches, by simpa using hproperty⟩

variable {frame : Frame}

/-- Reporting the same is in accord. -/
theorem report {problems : List Problem} :
    Accords excluded B pre hands (Render.report frame problems) (Render.report frame problems)
      fun _ => True := by
  refine of_ends fun s => ⟨_, _, outcome_report frame problems s, fun hmet => ?_, ?_⟩
  · exact hmet.mono (by simp) (by simp)
  · intro _ _ _ s' hs
    refine ⟨_, outcome_report frame problems s', ⟨hs.writer, hs.events, ?_, hs.aside, hs.trail⟩,
      trivial⟩
    simp [hs.messages]

/-- Leaving the same mark is in accord, and an instruction that is come to is not excluded. -/
theorem mark {deed : Deed} :
    Accords excluded B pre hands (Render.mark frame deed) (Render.mark frame deed)
      fun _ => ∀ instr, deed.instr? = some instr → ¬excluded.instr instr := by
  refine of_ends fun s => ⟨_, _, outcome_mark frame deed s, fun hmet => ?_, ?_⟩
  · exact hmet.mono (by simp) (by simp)
  · intro _ _ unmet s' hs
    refine ⟨_, outcome_mark frame deed s', ⟨hs.writer, hs.events, hs.messages, hs.aside, ?_⟩, ?_⟩
    · simp [hs.trail, hs.aside]
    · intro instr hdeed hexcluded
      exact unmet (Or.inr ⟨instr, by simp [RenderState.instrs, hdeed], hexcluded⟩)

/-- Reading the position is in accord, as the writers count alike. -/
theorem position (sim : excluded.Bisimulation B) :
    Accords excluded B pre hands Render.position Render.position fun _ => True := by
  refine of_ends fun s => ⟨_, s, outcome_position s, id, fun _ _ _ s' hs => ?_⟩
  exact ⟨s', by rw [outcome_position, sim.index hs.writer], hs, trivial⟩

/-- Recording is in accord, as the writers count alike. -/
theorem record (sim : excluded.Bisimulation B) {kind : EventKind} {start : Nat} :
    Accords excluded B pre hands (Render.record frame kind start) (Render.record frame kind start)
      fun _ => True := by
  refine of_ends fun s => ⟨_, _, outcome_record frame kind start s, fun hmet => ?_, ?_⟩
  · exact hmet.mono (by simp) (by simp)
  · intro _ _ _ s' hs
    refine ⟨_, outcome_record frame kind start s',
      ⟨hs.writer, ?_, hs.messages, hs.aside, hs.trail⟩, trivial⟩
    simp [hs.events, sim.index hs.writer]

/-- Looking out for nesting that is too deep is in accord with doing so in another setting if both
leave the same room, or if the other one leaves more and that there is none is excluded. -/
theorem tooDeep {setting : Setting} {deeper : Nat} (le : setting.maxDepth ≤ deeper)
    (room : setting.maxDepth = deeper ∨ ∀ limit, excluded.problem (.stackOverflow limit)) :
    Accords excluded B pre hands (Render.tooDeep setting frame)
      (Render.tooDeep (setting.withDepth deeper) frame) fun _ => True := by
  by_cases hroom : setting.maxDepth < frame.depth + 1
  · have hleft : Render.tooDeep setting frame = (do
        Render.report frame [.stackOverflow setting.maxDepth]
        Pure.pure true) := if_pos hroom
    rcases room with rfl | hexcluded
    · rw [Setting.withDepth_maxDepth, hleft]
      exact report.bind_last fun _ => pure fun _ => trivial
    · refine of_ends fun s => ⟨true, _, by rw [hleft, outcome_bind, outcome_report]; rfl, ?_, ?_⟩
      · exact fun hmet => hmet.mono (by simp) (by simp)
      · intro _ _ unmet
        exact absurd (Or.inl ⟨_, by simp; exact Or.inl rfl, hexcluded _⟩) unmet
  · have hleft : Render.tooDeep setting frame = Pure.pure false := if_neg hroom
    have hright : Render.tooDeep (setting.withDepth deeper) frame = Pure.pure false :=
      if_neg (by dsimp only [Setting.withDepth]; omega)
    rw [hleft, hright]
    exact pure fun _ => trivial

/-- Writing is in accord if the operation comes to the same. A refusal that is excluded is met as it
is reported. -/
theorem emit {operation : Attempt Writer Nat}
    (h : pre → ∀ s, (∀ text ∈ hands s, ¬excluded.text text) →
      Attempt.Agrees (excluded.problem (.ioError .refused)) B operation) :
    Accords excluded B pre hands (Render.emit frame operation) (Render.emit frame operation)
      fun _ => True where
  grows s hmet := by
    rw [outcome_emit]
    split <;> exact hmet.mono (by simp) (by simp)
  agrees holds s s' hs clean unmet := by
    rw [outcome_emit] at unmet
    rw [outcome_emit, outcome_emit]
    have hoperation := h holds s clean s.writer s'.writer hs.writer
    rcases hends : operation.outcome s.writer with ⟨result, w⟩
    rcases hends' : operation.outcome s'.writer with ⟨result', w'⟩
    rw [hends] at unmet
    rw [hends, hends'] at hoperation
    obtain ⟨hexcluded, rfl⟩ | ⟨rfl, hw⟩ := hoperation
    · exact absurd (Or.inl ⟨_, List.mem_cons_self, hexcluded⟩) unmet
    cases result' with
    | ok n => exact ⟨rfl, ⟨hw, hs.events, hs.messages, hs.aside, hs.trail⟩, by simp⟩
    | error error =>
      refine ⟨rfl, ⟨hw, hs.events, ?_, hs.aside, hs.trail⟩, by simp⟩
      simp [hs.messages]

/-- Writing a text is in accord. -/
theorem write (sim : excluded.Bisimulation B) {text : String} :
    Accords excluded B pre (.one text) (Render.emit frame (Writer.write text))
      (Render.emit frame (Writer.write text)) fun _ => True :=
  emit fun _ _ clean => sim.write (clean text (List.mem_singleton.mpr rfl))

/-- Wrapping a line is in accord if there is no wrap text where it is excluded. -/
theorem writeWrap (sim : excluded.Bisimulation B) {wrap : Option String}
    (allowed : pre → excluded.instr (.storeOption WriteOption.wrap.index) → wrap = none) :
    Accords excluded B pre hands (Render.emit frame (Writer.writeWrap wrap))
      (Render.emit frame (Writer.writeWrap wrap)) fun _ => True :=
  emit fun holds _ _ => sim.writeWrap (allowed holds)

/-- Writing a scalar value is in accord. -/
theorem writeScalar (sim : excluded.Bisimulation B) {setting : Setting} {value : Value}
    {options : OptionRow String} {deeper : Nat}
    (allowed : pre → excluded.instr (.storeOption WriteOption.wrap.index) → options.wrap = none) :
    Accords excluded B pre (.one (frame.scalarText setting value options.format))
      (Render.writeScalar setting frame value options)
      (Render.writeScalar (setting.withDepth deeper) frame value options)
      fun _ => True := by
  refine emit fun holds _ clean => ?_
  have hwrite := sim.write (clean _ (List.mem_singleton.mpr rfl))
  exact (sim.writeWrap (allowed holds)).bind fun n => hwrite.bind fun m => .pure (n + m)

/-- Beginning an indentation is in accord if that is not excluded. -/
theorem pushIndentation (sim : excluded.Bisimulation B) {index : Nat} {indent : String}
    (allowed : pre → ¬excluded.instr (.indent index)) :
    Accords excluded B pre hands (Render.pushIndentation indent) (Render.pushIndentation indent)
      fun _ => True := by
  refine of_ends fun s => ⟨_, _, outcome_pushIndentation indent s, fun hmet => ?_, ?_⟩
  · exact hmet.mono (by simp) (by simp)
  · intro holds _ _ s' hs
    exact ⟨_, outcome_pushIndentation indent s',
      ⟨sim.pushIndentation (allowed holds) indent hs.writer, hs.events, hs.messages, hs.aside,
        hs.trail⟩, trivial⟩

/-- Putting an anchor is in accord if that is not excluded. -/
theorem pushAnchor (sim : excluded.Bisimulation B)
    (allowed : pre → ¬excluded.instr (.storeOption WriteOption.anchor.index)) :
    Accords excluded B pre hands Render.pushAnchor Render.pushAnchor fun _ => True := by
  refine of_ends fun s => ⟨_, _, outcome_pushAnchor s, fun hmet => ?_, ?_⟩
  · exact hmet.mono (by simp) (by simp)
  · intro holds _ _ s' hs
    exact ⟨_, outcome_pushAnchor s', ⟨sim.pushAnchor (allowed holds) hs.writer, hs.events,
      hs.messages, hs.aside, hs.trail⟩, trivial⟩

/-- Rendering to a text of its own is in accord if what is rendered is, as related writers fork into
related writers. -/
theorem aside (sim : excluded.Bisimulation B) {inner inner' : Render Nat} {P : Nat → Prop}
    (h : Accords excluded B pre hands inner inner' P) :
    Accords excluded B pre (fun s => hands s.forked) (Render.aside inner) (Render.aside inner')
      fun _ => True where
  grows s hmet := by
    have hinner := h.grows s.forked (hmet.mono (by simp [RenderState.forked])
      (by simp [RenderState.forked]))
    rw [outcome_aside_forked]
    rcases hends : outcome inner s.forked with ⟨_ | n, t⟩ <;> rw [hends] at hinner
    · exact hinner
    · exact hinner.mono (by simp [RenderState.rejoined]) (by simp [RenderState.rejoined])
  agrees holds s s' hs clean unmet := by
    have hforked : RenderState.Matches B s.forked s'.forked :=
      ⟨sim.fork hs.writer, rfl, hs.messages, congrArg (· + 1) hs.aside, hs.trail⟩
    have hinner := h.agrees holds s.forked s'.forked hforked clean
    rw [outcome_aside_forked] at unmet
    rw [outcome_aside_forked, outcome_aside_forked]
    rcases hends : outcome inner s.forked with ⟨_ | n, t⟩ <;>
      rcases hends' : outcome inner' s'.forked with ⟨_ | n', t'⟩ <;>
      rw [hends] at hinner unmet <;> rw [hends'] at hinner
    · exact ⟨rfl, (hinner unmet).2.1, by simp⟩
    · cases (hinner unmet).1
    · cases (hinner unmet).1
    · have hunmet : ¬excluded.Met t := fun hmet =>
        unmet (hmet.mono (by simp [RenderState.rejoined]) (by simp [RenderState.rejoined]))
      obtain ⟨-, hmatches, -⟩ := hinner hunmet
      refine ⟨congrArg some (sim.text hmatches.writer), ?_, by simp⟩
      exact ⟨hs.writer, hs.events, hmatches.messages, hs.aside, hmatches.trail⟩

end Render.Accords

/-- Two steps that are in accord as computations; the property is one of what they come to without a
fault. -/
def Step.Accords (excluded : Exclusions) (B : Writer → Writer → Prop) (pre : Prop)
    (hands : Handing) (action action' : Step α) (P : α → Prop) : Prop :=
  Render.Accords excluded B pre hands action.run action'.run fun result => ∀ a, result = .ok a → P a

namespace Step.Accords

variable {excluded : Exclusions} {B : Writer → Writer → Prop} {pre : Prop} {hands : Handing}
  {action action' : Step α} {P : α → Prop}

/-- Pure steps are in accord. -/
theorem pure {a : α} (h : pre → P a) : Step.Accords excluded B pre hands (pure a) (pure a) P :=
  Render.Accords.pure fun holds b hb => by
    obtain rfl : a = b := Except.ok.inj hb
    exact h holds

/-- Accord from a weaker precondition. -/
theorem weaken {pre' : Prop} (h : Step.Accords excluded B pre hands action action' P)
    (hpre : pre' → pre) : Step.Accords excluded B pre' hands action action' P :=
  Render.Accords.weaken h hpre

/-- A sequence of steps is in accord if its second part hands over nothing. -/
theorem bind_last (h : Step.Accords excluded B pre hands action action' P) {f f' : α → Step β}
    {Q : β → Prop} (hf : ∀ a, Step.Accords excluded B (pre ∧ P a) .nothing (f a) (f' a) Q) :
    Step.Accords excluded B pre hands (action >>= f) (action' >>= f') Q := by
  refine Render.Accords.bind_last h fun result => ?_
  cases result with
  | ok a => exact (hf a).weaken fun holds => ⟨holds.1, holds.2 a rfl⟩
  | error fault => exact Render.Accords.pure fun _ b hb => by cases hb

/-- Renders without a fault are in accord as steps. -/
theorem asStep {action action' : Render α} (h : Render.Accords excluded B pre hands action action' P) :
    Step.Accords excluded B pre hands action.asStep action'.asStep P :=
  Render.Accords.bind_last h fun a => Render.Accords.pure fun holds b hb => by
    obtain rfl : a = b := Except.ok.inj hb
    exact holds.2

/-- A sequence that begins with a render without a fault is in accord if its parts are. -/
theorem asStep_bind {action action' : Render α}
    (h : Render.Accords excluded B pre hands action action' P) {rest : α → Handing}
    {f f' : α → Step β} {Q : β → Prop}
    (hf : ∀ a, Step.Accords excluded B (pre ∧ P a) (rest a) (f a) (f' a) Q) :
    Step.Accords excluded B pre (hands.andThen action rest) (action.asStep >>= f)
      (action'.asStep >>= f') Q := by
  have hrun (action : Render α) (f : α → Step β) :
      (action.asStep >>= f).run = action >>= fun a => (f a).run := by
    change (action >>= fun a => Pure.pure (Except.ok a)) >>= ExceptT.bindCont f = _
    rw [bind_assoc]
    exact congrArg _ (funext fun a => pure_bind _ _)
  unfold Step.Accords
  rw [hrun, hrun]
  exact Render.Accords.bind h hf

/-- A sequence that begins with a value goes on with it, unless there is a fault instead. -/
theorem ofExcept_bind {result : Except Fault α} {f f' : α → Step β} {Q : β → Prop}
    (hf : ∀ a, result = .ok a → Step.Accords excluded B pre hands (f a) (f' a) Q) :
    Step.Accords excluded B pre hands (Step.ofExcept result >>= f) (Step.ofExcept result >>= f') Q := by
  cases result with
  | ok a => exact hf a rfl
  | error fault => exact Render.Accords.pure fun _ b hb => by cases hb

/-- A sequence that begins with a value hands over what is handed over for that value. -/
theorem given {result : Except Fault α} {rest : α → Handing} {f f' : α → Step β} {Q : β → Prop}
    (hf : ∀ a, result = .ok a → Step.Accords excluded B pre (rest a) (f a) (f' a) Q) :
    Step.Accords excluded B pre (.given result rest) (Step.ofExcept result >>= f)
      (Step.ofExcept result >>= f') Q := by
  apply ofExcept_bind
  rintro a rfl
  exact hf a rfl

/-- Requiring an operation that comes to the same is in accord. -/
theorem require {operation : Attempt Writer α} (h : pre → Attempt.Agrees False B operation) :
    Step.Accords excluded B pre hands (Step.require operation) (Step.require operation)
      fun _ => True where
  grows s hmet := by
    rw [outcome_run_require]
    split <;> exact hmet.mono (by simp) (by simp)
  agrees holds s s' hs _ _ := by
    rw [outcome_run_require, outcome_run_require]
    obtain ⟨hnever, -⟩ | ⟨hsame, hw⟩ := h holds s.writer s'.writer hs.writer
    · exact hnever.elim
    rcases hends : operation.outcome s.writer with ⟨result, w⟩
    rcases hends' : operation.outcome s'.writer with ⟨result', w'⟩
    rw [hends, hends'] at hsame hw
    obtain rfl : result' = result := hsame
    cases result' <;>
      exact ⟨rfl, ⟨hw, hs.events, hs.messages, hs.aside, hs.trail⟩, fun _ _ _ _ => trivial⟩

end Step.Accords

end TemplateMachine
