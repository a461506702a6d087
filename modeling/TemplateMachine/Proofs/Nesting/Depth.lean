import TemplateMachine.Proofs.Render.Course

/-!
# How deep templates are nested

Every frame that a render comes to is at most as deep as the limit allows, but for the root, which
runs in any case. There are two ways into a frame, a write and an eager default, and both look out
for nesting that is too deep; a frame that has no room for another one reports so once and writes
nothing in its place.

A message names the templates of the frame that reports it, from the root to that frame. The frames
are those of the trail, so this is said of frames that were reached and of no others.
-/

namespace TemplateMachine

namespace Frame

/-- A template that nobody invoked is the first one. -/
@[simp] theorem depth_root (inst : Instance) : (root inst).depth = 1 := rfl

/-- A template that a frame invokes is one deeper. -/
@[simp] theorem depth_child (frame : Frame) (inst : Instance) :
    (frame.child inst).depth = frame.depth + 1 := rfl

/-- The call stack of an invoked frame has one name more. -/
theorem callStack_child (frame : Frame) (inst : Instance) :
    (frame.child inst).callStack = frame.callStack ++ [inst.name] := by
  simp [callStack, scope, child]

/-- There are as many names in a call stack as the frame is deep. -/
theorem length_callStack (frame : Frame) : frame.callStack.length = frame.depth := by
  simp [callStack, length_scope]

/-- A frame that another one came to, directly or through others, and that is no deeper than the
limit unless that one is. -/
structure Leads (limit : Nat) (frame other : Frame) : Prop where
  depth : other.depth ≤ max limit frame.depth
  callStack : frame.callStack <+: other.callStack

/-- A frame comes to itself. -/
theorem Leads.refl (limit : Nat) (frame : Frame) : Leads limit frame frame :=
  ⟨Nat.le_max_right _ _, List.prefix_rfl⟩

/-- What an invocation comes to does not depend on the values that it holds. -/
theorem Leads.of_withLocals {limit : Nat} {frame other : Frame} {locals : List (Option Value)}
    (h : Leads limit (frame.withLocals locals) other) : Leads limit frame other :=
  ⟨h.depth, h.callStack⟩

/-- What an invocation comes to does not depend on the instruction that it is at. -/
theorem Leads.of_at {limit : Nat} {frame other : Frame} {ip : Nat}
    (h : Leads limit { frame with ip := ip } other) : Leads limit frame other :=
  ⟨h.depth, h.callStack⟩

/-- What an invoked frame comes to, the invoking frame comes to, if there was room. -/
theorem Leads.of_child {limit : Nat} {frame other : Frame} {inst : Instance}
    (room : frame.depth < limit) (h : Leads limit (frame.child inst) other) :
    Leads limit frame other := by
  constructor
  · have hdepth := h.depth
    rw [depth_child] at hdepth
    omega
  · have hchild : frame.callStack <+: (frame.child inst).callStack :=
      frame.callStack_child inst ▸ List.prefix_append _ _
    exact hchild.trans h.callStack

end Frame

/-- Between two states, a frame only came to frames that the limit allows, and each message was
reported by it or by one of these. -/
def RenderState.Descends (limit : Nat) (frame : Frame) (s t : RenderState) : Prop :=
  ∃ marks messages, t.trail = marks ++ s.trail ∧ t.messages = messages ++ s.messages ∧
    (∀ mark ∈ marks, frame.Leads limit mark.frame) ∧
    ∀ message ∈ messages, message = frame.message message.problem ∨
      ∃ mark ∈ marks, message = mark.frame.message message.problem

namespace RenderState.Descends

variable {limit : Nat} {frame : Frame} {s t u : RenderState}

/-- Nothing is reached or reported where marks and messages stay as they are. -/
theorem of_unseen (trail : t.trail = s.trail) (messages : t.messages = s.messages) :
    Descends limit frame s t :=
  ⟨[], [], trail, messages, by simp, by simp⟩

/-- What is reached and reported adds up. -/
theorem trans (first : Descends limit frame s t) (second : Descends limit frame t u) :
    Descends limit frame s u := by
  obtain ⟨before, old, htrail, hmessages, hmarks, hreports⟩ := first
  obtain ⟨after, new, htrail', hmessages', hmarks', hreports'⟩ := second
  refine ⟨after ++ before, new ++ old, by rw [htrail', htrail, List.append_assoc],
    by rw [hmessages', hmessages, List.append_assoc], ?_, ?_⟩
  · intro mark mem
    rcases List.mem_append.mp mem with mem | mem
    · exact hmarks' mark mem
    · exact hmarks mark mem
  · intro message mem
    rcases List.mem_append.mp mem with mem | mem
    · exact (hreports' message mem).imp_right fun ⟨mark, hmark, h⟩ =>
        ⟨mark, List.mem_append_left _ hmark, h⟩
    · exact (hreports message mem).imp_right fun ⟨mark, hmark, h⟩ =>
        ⟨mark, List.mem_append_right _ hmark, h⟩

/-- What a frame reports is reported by it. -/
theorem report (problems : List Problem) : Descends limit frame s
    { s with messages := (problems.map frame.message).reverse ++ s.messages } := by
  refine ⟨[], _, rfl, rfl, by simp, fun message mem => Or.inl ?_⟩
  obtain ⟨problem, -, rfl⟩ := List.mem_map.mp (List.mem_reverse.mp mem)
  rfl

/-- What is done in a frame that is marked first is done by a frame that was reached. -/
theorem of_marked {other : Frame} {deed : Deed}
    (through : ∀ reached, other.Leads limit reached → frame.Leads limit reached)
    (h : Descends limit other (s.marked other deed) t) : Descends limit frame s t := by
  obtain ⟨marks, messages, htrail, hmessages, hmarks, hreports⟩ := h
  refine ⟨marks ++ [⟨s.aside, other, deed⟩], messages, by simp [htrail, marked], hmessages, ?_, ?_⟩
  · intro mark mem
    rcases List.mem_append.mp mem with mem | mem
    · exact through _ (hmarks mark mem)
    · obtain rfl := List.mem_singleton.mp mem
      exact through other (.refl limit other)
  · intro message mem
    rcases hreports message mem with h | ⟨mark, hmark, h⟩
    · exact Or.inr ⟨⟨s.aside, other, deed⟩, by simp, h⟩
    · exact Or.inr ⟨mark, List.mem_append_left _ hmark, h⟩

/-- What an invocation reaches and reports does not depend on the values that it holds. -/
theorem of_withLocals {locals : List (Option Value)}
    (h : Descends limit (frame.withLocals locals) s t) : Descends limit frame s t := by
  obtain ⟨marks, messages, htrail, hmessages, hmarks, hreports⟩ := h
  exact ⟨marks, messages, htrail, hmessages, fun mark mem => (hmarks mark mem).of_withLocals,
    hreports⟩

end RenderState.Descends

/-- Whatever the machine does in a frame, it only comes to frames that the limit allows. -/
theorem course_descends (setting : Setting) :
    Course setting fun _ => RenderState.Descends setting.maxDepth where
  refl _ _ _ := .of_unseen rfl rfl
  trans := .trans
  report _ problems _ := .report problems
  moves _ _ _ _ := .of_unseen rfl rfl
  recorded _ during := during
  aside inner := inner
  asideStopped inner := inner
  reached _ after := after.of_marked fun _ => Frame.Leads.of_at
  abandoned _ _ _ _ :=
    RenderState.Descends.of_marked (fun _ => id) (RenderState.Descends.of_unseen rfl rfl)
  invoked room after := after.of_marked fun _ => Frame.Leads.of_child room
  withLocals _ := .of_withLocals

namespace Render

variable {setting : Setting} {frame : Frame}

/-- A frame without room for another one says so, once, and nothing else is done. -/
theorem outcome_tooDeep (full : setting.maxDepth ≤ frame.depth) (s : RenderState) :
    outcome (tooDeep setting frame) s = (some true,
      { s with messages := frame.message (.stackOverflow setting.maxDepth) :: s.messages }) := by
  have hfull : setting.maxDepth < frame.depth + 1 := by omega
  rw [tooDeep, if_pos hfull]
  rfl

/-- Writing an instance in a frame without room for it writes nothing and reports so once. -/
theorem outcome_writeValue_of_full (full : setting.maxDepth ≤ frame.depth) {value : Value}
    {inst : Instance} (there : value.isNone = false)
    (invokes : frame.standIn setting value = .template inst) (options : OptionRow String)
    (fuel : Nat) (s : RenderState) :
    outcome (writeValue setting (fuel + 1) frame value options) s = (some 0,
      { s with messages := frame.message (.stackOverflow setting.maxDepth) :: s.messages }) := by
  rw [writeValue, there, invokes]
  change outcome (tooDeep setting frame >>= _) s = _
  rw [outcome_bind, outcome_tooDeep full]
  rfl

/-- An eager default in a frame without room for it is empty, which is reported once. -/
theorem outcome_defaultValue_of_full (full : setting.maxDepth ≤ frame.depth) (template : Template)
    (fuel : Nat) (s : RenderState) :
    outcome (defaultValue setting (fuel + 1) frame (.template template true)) s =
      (some (.string ""),
        { s with messages := frame.message (.stackOverflow setting.maxDepth) :: s.messages }) := by
  rw [defaultValue]
  change outcome (tooDeep setting frame >>= _) s = _
  rw [outcome_bind, outcome_tooDeep full]
  rfl

end Render

/-- A frame that the root came to names the template of the instance first. -/
theorem Frame.Leads.head_callStack {limit : Nat} {inst : Instance} {frame : Frame}
    (h : (root inst).Leads limit frame) : frame.callStack.head? = some inst.name := by
  obtain ⟨rest, hrest⟩ := h.callStack
  rw [← hrest]
  rfl

/-- Between the beginning of a render and the state in which it ends or stops, the root only came to
frames that the limit allows, unless the render did not even begin. -/
theorem Instance.execute_descends (inst : Instance) (catalog : Catalog) (settings : RenderSettings)
    (sink : Sink) (withEvents : Bool) (fuel : Nat) :
    let start := RenderState.start (settings.writer sink) withEvents
    let finish := (inst.execute catalog settings sink withEvents fuel).2
    finish = start ∨ RenderState.Descends (settings.setting catalog inst).maxDepth (.root inst)
      (start.marked (.root inst) .begun) finish := by
  intro start finish
  have hspec := (MachineTakes.all (course_descends (settings.setting catalog inst)) fuel).exec
    (.root inst) start
  unfold Render.Spec at hspec
  rw [← execute_eq_outcome] at hspec
  rcases hends : inst.execute catalog settings sink withEvents fuel with ⟨_ | n, t⟩ <;>
    rw [hends] at hspec
  · simpa [finish, hends] using hspec
  · exact Or.inr (by simpa [finish, hends] using hspec)

/-- Every frame that a render comes to is one that the root came to, and each message was reported
by such a frame. -/
theorem Instance.execute_leads (inst : Instance) (catalog : Catalog) (settings : RenderSettings)
    (sink : Sink) (withEvents : Bool) (fuel : Nat) :
    let limit := (settings.setting catalog inst).maxDepth
    let finish := (inst.execute catalog settings sink withEvents fuel).2
    (∀ mark ∈ finish.trail, (Frame.root inst).Leads limit mark.frame) ∧
    ∀ message ∈ finish.messages, ∃ mark ∈ finish.trail,
      message = mark.frame.message message.problem := by
  intro limit finish
  rcases inst.execute_descends catalog settings sink withEvents fuel with h | h
  · simp [finish, h, RenderState.start]
  obtain ⟨marks, messages, htrail, hmessages, hmarks, hreports⟩ := h
  have htrail : finish.trail = marks ++ [⟨0, .root inst, .begun⟩] := htrail
  have hmessages : finish.messages = messages := hmessages.trans (List.append_nil messages)
  have hbegun : ⟨0, .root inst, .begun⟩ ∈ finish.trail := by simp [htrail]
  constructor
  · intro mark mem
    rw [htrail] at mem
    rcases List.mem_append.mp mem with mem | mem
    · exact hmarks mark mem
    · obtain rfl := List.mem_singleton.mp mem
      exact .refl limit (.root inst)
  · intro message mem
    rcases hreports message (hmessages ▸ mem) with h | ⟨mark, hmark, h⟩
    · exact ⟨_, hbegun, h⟩
    · exact ⟨mark, by simp [htrail, hmark], h⟩

/-- Whether a render ends or not, every frame that it comes to is as deep as the limit allows, and
the root is there in any case. Every message was reported by such a frame, and its call stack names
as many templates as the frame is deep, the template of the instance first. A frame without room for
another one writes nothing for an instance and has an empty text for an eager default, and in either
case it reports exactly one overflow. -/
theorem Instance.execute_withinDepth (inst : Instance) (catalog : Catalog)
    (settings : RenderSettings) (sink : Sink) (withEvents : Bool) (fuel : Nat) :
    let setting := settings.setting catalog inst
    let finish := (inst.execute catalog settings sink withEvents fuel).2
    (∀ mark ∈ finish.trail, mark.frame.depth ≤ max 1 setting.maxDepth) ∧
    (∀ message ∈ finish.messages, ∃ mark ∈ finish.trail,
      message = mark.frame.message message.problem ∧
      message.callStack.length = mark.frame.depth ∧
      message.callStack.head? = some inst.name) ∧
    ∀ frame : Frame, setting.maxDepth < frame.depth + 1 → ∀ fuel s,
      (∀ value options invoked, value.isNone = false →
        frame.standIn setting value = .template invoked →
        Render.outcome (writeValue setting (fuel + 1) frame value options) s = (some 0,
          { s with messages := frame.message (.stackOverflow setting.maxDepth) :: s.messages })) ∧
      ∀ template,
        Render.outcome (defaultValue setting (fuel + 1) frame (.template template true)) s =
          (some (.string ""),
            { s with messages := frame.message (.stackOverflow setting.maxDepth) :: s.messages }) := by
  intro setting finish
  obtain ⟨hmarks, hmessages⟩ :=
    inst.execute_leads catalog settings sink withEvents fuel
  refine ⟨fun mark mem => ?_, fun message mem => ?_, fun frame full fuel s => ⟨?_, ?_⟩⟩
  · have hdepth := (hmarks mark mem).depth
    rw [Frame.depth_root, Nat.max_comm] at hdepth
    exact hdepth
  · obtain ⟨mark, hmark, hreported⟩ := hmessages message mem
    refine ⟨mark, hmark, hreported, ?_, ?_⟩
    · rw [hreported]
      exact mark.frame.length_callStack
    · rw [hreported]
      exact (hmarks mark hmark).head_callStack
  · intro value options invoked there invokes
    exact Render.outcome_writeValue_of_full (by omega) there invokes options fuel s
  · intro template
    exact Render.outcome_defaultValue_of_full (by omega) template fuel s

/-- A template that invokes itself without end. -/
def endlessTemplate : Template :=
  { Template.blank "endless" with program := [.newNamed 0 0, .write], pool := ["endless"] }

/-- An instance of it. -/
def endlessInstance : Instance := .ofTemplate endlessTemplate ⟨0⟩

/-- The group of the template that invokes itself. -/
def endlessCatalog : Catalog :=
  ⟨[{ Group.empty ⟨0⟩ with templates := [("endless", endlessTemplate)] }]⟩

/-- A render with room for two templates. -/
def twoDeep : RenderSettings := { RenderSettings.standard with maxDepth := some 2 }

/-- The frame of a template that invoked itself once. -/
def secondFrame : Frame := (Frame.root endlessInstance).child endlessInstance

/-- The state in which the endless render ends. -/
def endlessFinish : RenderState :=
  (endlessInstance.execute endlessCatalog twoDeep .boundless false 20).2

/-- The template that invokes itself is begun twice, and the second time it reports once that there
is no room for a third. -/
theorem endless_withinDepth :
    (∀ mark ∈ endlessFinish.trail, mark.frame.depth ≤ 2) ∧
    endlessFinish.messages.map Message.problem = [.stackOverflow 2] ∧
    endlessFinish.messages.map Message.callStack = [["endless", "endless"]] ∧
    ∀ s, Render.outcome (writeValue (twoDeep.setting endlessCatalog endlessInstance) 1 secondFrame
        (.template endlessInstance) .empty) s = (some 0,
      { s with messages := secondFrame.message (.stackOverflow 2) :: s.messages }) := by
  obtain ⟨hdepth, -, hfull⟩ :=
    endlessInstance.execute_withinDepth endlessCatalog twoDeep .boundless false 20
  refine ⟨hdepth, by decide +kernel, by decide +kernel, fun s => ?_⟩
  exact (hfull secondFrame (by decide) 0 s).1 _ _ endlessInstance rfl rfl

end TemplateMachine
