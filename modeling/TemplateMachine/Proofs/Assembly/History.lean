import TemplateMachine.Proofs.Assembly.Calls
import TemplateMachine.Proofs.Program.RoundTrip
import TemplateMachine.Proofs.Sound.Made

/-!
# What becomes of an instruction

Instructions refer by index to texts, to their spans and to each other, while calls go on to pool
texts, to emit instructions and to patch jumps. What was emitted keeps its meaning through all of
that, unless the whole program is replaced: the text that it names is the one that was given, its
span the one that was in force, and a jump goes to what was emitted next after it was patched.
-/

namespace TemplateMachine

/-- An instruction without a target is not changed by giving it one. -/
theorem Instr.withTarget_of_target?_eq_none {target : Nat} {instr : Instr}
    (h : instr.target? = none) : instr.withTarget target = instr := by
  cases instr <;> simp_all [target?, withTarget]

/-- An instruction that is the same as one without a target, up to its own target, is that one. -/
theorem Instr.eq_of_withTarget_eq {now instr : Instr}
    (same : ∀ target, now.withTarget target = instr.withTarget target) (h : instr.target? = none) :
    now = instr := by
  have hsame : now.withTarget 0 = instr := (same 0).trans (withTarget_of_target?_eq_none h)
  have hnow : now.target? = none := by simpa [h] using congrArg target? hsame
  rwa [withTarget_of_target?_eq_none hnow] at hsame

/-- What stands at an index still stands there when more was put behind. -/
theorem getElem?_of_prefix {α : Type} {earlier later : List α} (kept : earlier <+: later)
    {index : Nat} {item : α} (found : earlier[index]? = some item) : later[index]? = some item := by
  obtain ⟨added, rfl⟩ := kept
  obtain ⟨lt, -⟩ := List.getElem?_eq_some_iff.mp found
  rw [List.getElem?_append_left lt, found]

namespace Draft

variable {draft : Draft} {call : Call}

/-- The index of a pooled text leads to it. -/
theorem getElem?_intern (draft : Draft) (text : String) :
    (draft.intern text).1.pool[(draft.intern text).2]? = some text := by
  unfold intern
  split
  next index found =>
    obtain ⟨lt, same, -⟩ := List.idxOf?_eq_some_iff.mp found
    simpa using List.getElem?_eq_some_iff.mpr ⟨lt, same⟩
  next => simp

/-- A pool without duplicates has none when a text was pooled. -/
theorem nodup_intern (nodup : draft.pool.Nodup) (text : String) :
    (draft.intern text).1.pool.Nodup := by
  rw [intern_fst]
  dsimp only
  split
  next => exact nodup
  next absent =>
    rw [List.nodup_append]
    refine ⟨nodup, by simp, fun other mem added hadded same => absent ?_⟩
    rwa [← List.mem_singleton.mp hadded, ← same]

/-- A pooled text keeps the place of every other one. -/
theorem prefix_pool_intern (draft : Draft) (text : String) :
    draft.pool <+: (draft.intern text).1.pool := by
  rw [intern_fst]
  dsimp only
  split
  next => exact List.prefix_rfl
  next => exact List.prefix_append _ _

/-- A call keeps one span for each instruction. -/
theorem length_spans_follow (call : Call) (h : draft.spans.length = draft.program.length) :
    (draft.follow call).spans.length = (draft.follow call).program.length := by
  cases call with
  | replaceProgram program pool => simp [follow, replaceProgram]
  | intern text => simpa [follow, intern_fst] using h
  | emit instr => simpa [follow, emit] using h
  | emitText instr text => simpa [follow, emitText_eq, intern_fst, emit] using h
  | updateJump index => simpa [follow, updateJump] using h
  | _ => exact h

/-- A call that does not replace the program keeps a pool without duplicates. -/
theorem nodup_pool_follow (keeps : call.replaces = false) (nodup : draft.pool.Nodup) :
    (draft.follow call).pool.Nodup := by
  cases call with
  | replaceProgram => cases keeps
  | intern text => exact nodup_intern nodup text
  | emitText instr text => exact nodup_intern nodup text
  | _ => exact nodup

/-- A call that does not replace the program adds an instruction exactly if it emits one. -/
theorem label_follow (keeps : call.replaces = false) :
    (draft.follow call).label = draft.label + if call.emits then 1 else 0 := by
  cases call with
  | replaceProgram => cases keeps
  | intern text => simp [follow, intern_fst, label, Call.emits]
  | emit instr => simp [follow, emit, label, Call.emits]
  | emitText instr text => simp [follow, emitText_eq, intern_fst, emit, label, Call.emits]
  | updateJump index => simp [follow, updateJump, label, Call.emits]
  | _ => rfl

/-- A call that neither replaces the program nor patches an instruction leaves that as it is. -/
theorem getElem?_program_follow (keeps : call.replaces = false) {ip : Nat}
    (there : ip < draft.label) (unpatched : call ≠ .updateJump ip) :
    (draft.follow call).program[ip]? = draft.program[ip]? := by
  cases call with
  | replaceProgram => cases keeps
  | intern text => rw [follow, intern_fst]
  | emit instr => exact List.getElem?_append_left there
  | emitText instr text =>
    rw [follow, emitText_eq, intern_fst]
    exact List.getElem?_append_left there
  | updateJump index =>
    exact List.getElem?_modify_ne _ _ (by rintro rfl; exact unpatched rfl)
  | _ => rfl

/-- Patching gives a jump the target of the next instruction. -/
theorem getElem?_program_updateJump (draft : Draft) (ip : Nat) :
    (draft.updateJump ip).program[ip]? = draft.program[ip]?.map (·.withTarget draft.label) := by
  simp [updateJump, label]

/-- What a draft has kept of an earlier one: its texts and its spans are still in their places, and
so are its instructions, up to the targets of jumps. -/
structure Keeps (earlier draft : Draft) : Prop where
  pool : earlier.pool <+: draft.pool
  spans : earlier.spans <+: draft.spans
  label : earlier.label ≤ draft.label
  program : ∀ ip < earlier.label, ∀ target,
    draft.program[ip]?.map (·.withTarget target) = earlier.program[ip]?.map (·.withTarget target)

/-- A draft has kept what it consists of. -/
theorem Keeps.refl (draft : Draft) : draft.Keeps draft :=
  ⟨List.prefix_rfl, List.prefix_rfl, Nat.le_refl _, fun _ _ _ => rfl⟩

/-- A draft has kept what one has kept that it has kept. -/
theorem Keeps.trans {first second third : Draft} (early : first.Keeps second)
    (late : second.Keeps third) : first.Keeps third where
  pool := early.pool.trans late.pool
  spans := early.spans.trans late.spans
  label := Nat.le_trans early.label late.label
  program ip there target :=
    (late.program ip (Nat.lt_of_lt_of_le there early.label) target).trans
      (early.program ip there target)

/-- A call that does not replace the program keeps all that there is. -/
theorem keeps_follow (keeps : call.replaces = false) : draft.Keeps (draft.follow call) where
  pool := by
    cases call with
    | replaceProgram => cases keeps
    | intern text => exact prefix_pool_intern draft text
    | emitText instr text => exact prefix_pool_intern draft text
    | _ => exact List.prefix_rfl
  spans := by
    cases call with
    | replaceProgram => cases keeps
    | emit instr => exact List.prefix_append _ _
    | emitText instr text =>
      rw [follow, emitText_eq, intern_fst]
      exact List.prefix_append _ _
    | intern text => simp [follow, intern_fst]
    | _ => exact List.prefix_rfl
  label := by
    rw [label_follow keeps]
    exact Nat.le_add_right _ _
  program ip there target := by
    -- Of what is there only a patched instruction is touched, and that only in its target.
    by_cases patched : call = .updateJump ip
    · subst patched
      rw [follow, getElem?_program_updateJump, Option.map_map]
      simp [Function.comp_def]
    · rw [getElem?_program_follow keeps there patched]

section Run

variable {calls : List Call} (keeps : ∀ call ∈ calls, call.replaces = false) (draft : Draft)

include keeps

/-- Calls that do not replace the program keep all that there is. -/
theorem keeps_foldl : draft.Keeps (calls.foldl follow draft) := by
  induction calls generalizing draft with
  | nil => exact .refl draft
  | cons call rest ih =>
    obtain ⟨hcall, hrest⟩ := List.forall_mem_cons.mp keeps
    exact (keeps_follow hcall).trans (ih hrest _)

/-- Calls that do not replace the program add as many instructions as they emit. -/
theorem label_foldl :
    (calls.foldl follow draft).label = draft.label + calls.countP Call.emits := by
  induction calls generalizing draft with
  | nil => rfl
  | cons call rest ih =>
    obtain ⟨hcall, hrest⟩ := List.forall_mem_cons.mp keeps
    rw [List.foldl_cons, ih hrest, label_follow hcall, List.countP_cons, Nat.add_assoc,
      Nat.add_comm (ite ..)]

/-- Calls that neither replace the program nor patch an instruction leave that as it is. -/
theorem getElem?_program_foldl {ip : Nat} (there : ip < draft.label)
    (unpatched : .updateJump ip ∉ calls) :
    (calls.foldl follow draft).program[ip]? = draft.program[ip]? := by
  induction calls generalizing draft with
  | nil => rfl
  | cons call rest ih =>
    obtain ⟨hcall, hrest⟩ := List.forall_mem_cons.mp keeps
    rw [List.mem_cons, not_or] at unpatched
    have hthere : ip < (draft.follow call).label :=
      Nat.lt_of_lt_of_le there (keeps_follow hcall).label
    rw [List.foldl_cons, ih hrest _ hthere unpatched.2,
      getElem?_program_follow hcall there (Ne.symm unpatched.1)]

/-- What an emitted instruction has become after calls that do not replace the program: it is the
same up to its target, and so is its span. -/
theorem emit_foldl (hspans : draft.spans.length = draft.program.length) (instr : Instr) :
    (∃ now, (calls.foldl follow (draft.emit instr)).program[draft.label]? = some now ∧
      ∀ target, now.withTarget target = instr.withTarget target) ∧
    (calls.foldl follow (draft.emit instr)).spans[draft.label]? = some draft.span := by
  have kept := keeps_foldl keeps (draft.emit instr)
  constructor
  · have hlabel : draft.label < (draft.emit instr).label := by simp [emit, label]
    have hemitted : (draft.emit instr).program[draft.label]? = some instr := by simp [emit, label]
    have hprogram := kept.program draft.label hlabel
    simp only [hemitted, Option.map_some] at hprogram
    obtain ⟨now, hnow, -⟩ := Option.map_eq_some_iff.mp (hprogram 0)
    exact ⟨now, hnow, fun target => by simpa [hnow] using hprogram target⟩
  · exact getElem?_of_prefix kept.spans (by simp [emit, label, ← hspans])

/-- What an instruction with a text has become after calls that do not replace the program: it is
the same, with an index that leads to the text. -/
theorem emitText_foldl (hspans : draft.spans.length = draft.program.length) (instr : TextInstr)
    (text : String) :
    let later := calls.foldl follow (draft.emitText instr.pooled text)
    ∃ index, later.program[draft.label]? = some (instr.pooled index) ∧
      later.pool[index]? = some text ∧ later.spans[draft.label]? = some draft.span := by
  have hlabel : (draft.intern text).1.label = draft.label := by rw [intern_fst]; rfl
  have hspan : (draft.intern text).1.span = draft.span := by rw [intern_fst]
  have hinterned : (draft.intern text).1.spans.length = (draft.intern text).1.program.length := by
    rwa [intern_fst]
  -- No instruction with a text has a target, so that being the same up to it is being the same.
  obtain ⟨⟨now, hnow, same⟩, hspan'⟩ :=
    emit_foldl keeps (draft.intern text).1 hinterned (instr.pooled (draft.intern text).2)
  obtain rfl := Instr.eq_of_withTarget_eq same (instr.target?_pooled _)
  have kept := keeps_foldl keeps (draft.emitText instr.pooled text)
  rw [hlabel] at hnow hspan'
  rw [hspan] at hspan'
  exact ⟨_, hnow, getElem?_of_prefix kept.pool (getElem?_intern draft text), hspan'⟩

end Run

/-- What a jump has become that was patched, after calls that do not replace the program and do not
patch it again: its target is what was the next instruction then. -/
theorem updateJump_foldl {between after : List Call} (draft : Draft)
    (hspans : draft.spans.length = draft.program.length) (instr : Instr)
    (keepsBetween : ∀ call ∈ between, call.replaces = false)
    (keepsAfter : ∀ call ∈ after, call.replaces = false)
    (unpatched : .updateJump draft.label ∉ after) :
    let patched := (between.foldl follow (draft.emit instr)).updateJump draft.label
    (after.foldl follow patched).program[draft.label]? = some (instr.withTarget patched.label) := by
  intro patched
  obtain ⟨⟨now, hnow, same⟩, -⟩ := emit_foldl keepsBetween draft hspans instr
  have hpatched : patched.program[draft.label]? = some (instr.withTarget patched.label) := by
    have hlabel : patched.label = (between.foldl follow (draft.emit instr)).label := by
      simp [patched, updateJump, label]
    rw [getElem?_program_updateJump, hnow, Option.map_some, same, hlabel]
  have there : draft.label < patched.label := (List.getElem?_eq_some_iff.mp hpatched).1
  rw [getElem?_program_foldl keepsAfter patched there unpatched, hpatched]

namespace Opening

variable (opening : Opening)

/-- The source map of a draft has one entry for each instruction. -/
theorem length_spans_assemble (calls : List Call) :
    (opening.assemble calls).spans.length = (opening.assemble calls).program.length := by
  induction calls using List.reverseRecOn with
  | nil => cases opening <;> rfl
  | append_singleton calls call ih =>
    rw [assemble_concat]
    exact length_spans_follow call ih

/-- The pool of a draft whose program was not replaced has no duplicates. -/
theorem nodup_pool_assemble {calls : List Call} (keeps : ∀ call ∈ calls, call.replaces = false) :
    (opening.assemble calls).pool.Nodup := by
  induction calls using List.reverseRecOn with
  | nil => cases opening <;> exact List.nodup_nil
  | append_singleton calls call ih =>
    rw [assemble_concat]
    rw [List.forall_mem_append, List.forall_mem_singleton] at keeps
    exact nodup_pool_follow keeps.2 (ih keeps.1)

/-- The next instruction stays the same when nothing is emitted. -/
theorem label_assemble_of_silent (calls : List Call) {more : List Call}
    (keeps : ∀ call ∈ more, call.replaces = false) (silent : ∀ call ∈ more, call.emits = false) :
    (opening.assemble calls).label = (opening.assemble (calls ++ more)).label := by
  have hcount : more.countP Call.emits = 0 := by simpa [List.countP_eq_zero] using silent
  rw [assemble_append, label_foldl keeps, hcount, Nat.add_zero]

/-- What a template has kept of the calls that it was built from. The instruction that a call emits
has the index that was the next one before the call. -/
structure Faithful (calls : List Call) (template : Template) : Prop where
  /-- The source map has one entry for each instruction. -/
  sourceMap : template.spans.length = template.program.length
  /-- What was emitted after the program was replaced last is there up to its target, with the span
  that was in force. -/
  emitted : ∀ before instr after, calls = before ++ .emit instr :: after →
    (∀ call ∈ after, call.replaces = false) →
    (∃ now, template.program[(opening.assemble before).label]? = some now ∧
      ∀ target, now.withTarget target = instr.withTarget target) ∧
    template.spans[(opening.assemble before).label]? = some (spanInForce before)
  /-- What was emitted with a text after the program was replaced last names that text, and it has
  the span that was in force. -/
  texts : ∀ before instr text after, calls = before ++ .emitText instr text :: after →
    (∀ call ∈ after, call.replaces = false) →
    ∃ index, template.program[(opening.assemble before).label]? = some (instr.pooled index) ∧
      template.pool[index]? = some text ∧
      template.spans[(opening.assemble before).label]? = some (spanInForce before)
  /-- If the program was not replaced, every text is pooled once. -/
  pool : (∀ call ∈ calls, call.replaces = false) → template.pool.Nodup
  /-- A jump that was emitted after the program was replaced last targets what was emitted next
  after it was patched last, or the end if that is nothing. -/
  jumps : ∀ before jump between after,
    let ip := (opening.assemble before).label
    let patched := before ++ .emit jump :: (between ++ [.updateJump ip])
    calls = patched ++ after → (∀ call ∈ between, call.replaces = false) →
    (∀ call ∈ after, call.replaces = false) → .updateJump ip ∉ after →
    ∃ target, template.program[ip]? = some (jump.withTarget target) ∧
      (∀ quiet next rest, after = quiet ++ next :: rest → (∀ call ∈ quiet, call.emits = false) →
        next.emits = true → target = (opening.assemble (patched ++ quiet)).label) ∧
      ((∀ call ∈ after, call.emits = false) → target = template.program.length)
  /-- Patching an instruction changes no other one. -/
  patches : ∀ before ip after, calls = before ++ .updateJump ip :: after → ∀ other, other ≠ ip →
    (opening.assemble (before ++ [.updateJump ip])).program[other]? =
      (opening.assemble before).program[other]?

/-- For all calls on a builder that end in a template: the template has kept what the calls have
given. -/
theorem build_assemble_faithful {identifiers : IdentifierClass} {calls : List Call}
    {template : Template} (built : (opening.assemble calls).build identifiers = .ok template) :
    opening.Faithful calls template := by
  obtain ⟨rfl, -⟩ := eq_of_build_eq_ok built
  refine {
    sourceMap := opening.length_spans_assemble calls
    emitted := ?_
    texts := ?_
    pool := opening.nodup_pool_assemble
    jumps := ?_
    patches := ?_ }
  · rintro before instr after rfl keeps
    rw [assemble_append, List.foldl_cons, ← span_assemble]
    exact emit_foldl keeps _ (opening.length_spans_assemble before) instr
  · rintro before instr text after rfl keeps
    rw [assemble_append, List.foldl_cons, ← span_assemble]
    exact emitText_foldl keeps _ (opening.length_spans_assemble before) instr text
  · rintro before jump between after ip patched rfl keepsBetween keepsAfter unpatched
    have hpatched : opening.assemble patched =
        (between.foldl follow ((opening.assemble before).emit jump)).updateJump ip := by
      simp [patched, follow]
    refine ⟨(opening.assemble patched).label, ?_, ?_, fun silent => ?_⟩
    · rw [assemble_append, hpatched]
      exact updateJump_foldl _ (opening.length_spans_assemble before) jump keepsBetween keepsAfter
        unpatched
    · rintro quiet next rest rfl silent -
      exact opening.label_assemble_of_silent patched (List.forall_mem_append.mp keepsAfter).1 silent
    · exact opening.label_assemble_of_silent patched keepsAfter silent
  · rintro before ip after - other hother
    rw [assemble_concat]
    exact List.getElem?_modify_ne _ _ hother.symm

/-- Calls that emit a greeting for a user, if there is one, and replace what there was before. The
user is asked for twice, and only the first time with a span. -/
def greetingCalls : List Call :=
  [.emitText .writeStr "Bye", .replaceProgram [] ["?", "?"], .withSpan (some ⟨4, 8⟩),
    .emitText .loadAttr "user", .emit (.brf unsetTarget), .withSpan none,
    .emitText .writeStr "Hello ", .emitText .loadAttr "user", .emit .write, .updateJump 1,
    .intern "never used", .emitText .writeStr "!"]

/-- The template that the calls end in. -/
def greeted : Template where
  identity := none
  name := "greeting"
  program := [.loadAttr 2, .brf 5, .writeStr 3, .loadAttr 2, .write, .writeStr 5]
  pool := ["?", "?", "user", "Hello ", "never used", "!"]
  args := []
  hasFormalArgs := false
  anonymous := false
  region := false
  subtemplates := []
  source := none
  spans := [some ⟨4, 8⟩, some ⟨4, 8⟩, none, none, none, none]

/-- A greeting is faithful to the calls that it was built from. -/
theorem greeting_build_faithful :
    ((Opening.named "greeting").assemble greetingCalls).build unicodeIdentifiers = .ok greeted ∧
      (Opening.named "greeting").Faithful greetingCalls greeted :=
  ⟨rfl, @build_assemble_faithful _ unicodeIdentifiers _ _ rfl⟩

end Opening

end Draft

end TemplateMachine
