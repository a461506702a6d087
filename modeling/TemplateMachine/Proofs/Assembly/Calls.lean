import Mathlib.Data.List.Induction
import TemplateMachine.Template.Assembler

/-!
# Calls of a builder

A draft is begun and continued by calls. Here the calls are data, so that what a draft has come to
can be compared with the calls that were made: its name is the one with which it was begun, its
arguments are those that were declared, and its span is the one that was set last. The calls that
emit an instruction are told apart from the one that replaces the whole program.
-/

namespace TemplateMachine

/-- An instruction with a pooled text that a builder emits when it is given the text. -/
inductive TextInstr where
  | writeStr
  | loadStr
  | loadAttr
  | loadProp
  | storeArg
  | newNamed (count : Nat)
  | newBoxArgs
  | superNew (count : Nat)
  | superNewBoxArgs
  | passThru
  | indent

/-- The instruction, with the index of its text in the pool. -/
def TextInstr.pooled : TextInstr → Nat → Instr
  | .writeStr, index => .writeStr index
  | .loadStr, index => .loadStr index
  | .loadAttr, index => .loadAttr index
  | .loadProp, index => .loadProp index
  | .storeArg, index => .storeArg index
  | .newNamed count, index => .newNamed index count
  | .newBoxArgs, index => .newBoxArgs index
  | .superNew count, index => .superNew index count
  | .superNewBoxArgs, index => .superNewBoxArgs index
  | .passThru, index => .passThru index
  | .indent, index => .indent index

/-- An instruction with a pooled text is no jump. -/
@[simp] theorem TextInstr.target?_pooled (instr : TextInstr) (index : Nat) :
    (instr.pooled index).target? = none := by
  cases instr <;> rfl

namespace Draft

/-- How a draft is begun. -/
inductive Opening where
  | named (name : String)
  | ofAnonymous (name : String)
  | ofRegion (enclosing name : String)

namespace Opening

/-- The draft without any call. -/
def draft : Opening → Draft
  | .named name => .named name
  | .ofAnonymous name => .ofAnonymous name
  | .ofRegion enclosing name => .ofRegion enclosing name

/-- The name of the template. -/
def templateName : Opening → String
  | .named name => name
  | .ofAnonymous name => name
  | .ofRegion enclosing name => regionName enclosing name

/-- Whether the template is anonymous. -/
def isAnonymous : Opening → Bool
  | .ofAnonymous _ => true
  | _ => false

end Opening

/-- A call that changes a draft. A span is set or, with none, cleared. -/
inductive Call where
  | arg (name : String) (default? : Option DefaultValue)
  | explicitArgs
  | withSource (source : String)
  | withSpan (span : Option Span)
  | subtemplate (template : Template)
  | replaceProgram (program : List Instr) (pool : List String)
  | intern (text : String)
  | emit (instr : Instr)
  | emitText (instr : TextInstr) (text : String)
  | updateJump (index : Nat)

namespace Call

/-- The name of the argument that a call declares. -/
def argName? : Call → Option String
  | .arg name _ => some name
  | _ => none

/-- The span that a call sets, if it is one that does; clearing sets none. -/
def setSpan? : Call → Option (Option Span)
  | .withSpan span => some span
  | _ => none

/-- Whether a call emits an instruction. -/
def emits : Call → Bool
  | .emit _ | .emitText _ _ => true
  | _ => false

/-- Whether a call replaces the program and the pool. -/
def replaces : Call → Bool
  | .replaceProgram _ _ => true
  | _ => false

end Call

/-- The span that instructions get that are emitted after some calls. -/
def spanInForce (calls : List Call) : Option Span :=
  (calls.filterMap Call.setSpan?).getLast?.join

/-- The draft after a call. -/
def follow (draft : Draft) : Call → Draft
  | .arg name default? => draft.arg name default?
  | .explicitArgs => draft.explicitArgs
  | .withSource source => draft.withSource source
  | .withSpan span => draft.withSpan span
  | .subtemplate template => draft.subtemplate template
  | .replaceProgram program pool => draft.replaceProgram program pool
  | .intern text => (draft.intern text).1
  | .emit instr => draft.emit instr
  | .emitText instr text => draft.emitText instr.pooled text
  | .updateJump index => draft.updateJump index

/-- The draft that is begun in some way and continued by calls. -/
def Opening.assemble (opening : Opening) (calls : List Call) : Draft :=
  calls.foldl follow opening.draft

variable {draft : Draft}

/-- Pooling a text puts it at the end of the pool unless it is there. -/
theorem intern_fst (draft : Draft) (text : String) : (draft.intern text).1 =
    { draft with pool := if text ∈ draft.pool then draft.pool else draft.pool ++ [text] } := by
  unfold intern
  cases found : draft.pool.idxOf? text with
  | none => rw [if_neg (List.idxOf?_eq_none_iff.mp found)]
  | some index =>
    rw [if_pos]
    by_contra absent
    rw [List.idxOf?_eq_none_iff.mpr absent] at found
    cases found

/-- Emitting an instruction with a text pools the text and emits the instruction with its index. -/
theorem emitText_eq (draft : Draft) (instr : Nat → Instr) (text : String) :
    draft.emitText instr text = (draft.intern text).1.emit (instr (draft.intern text).2) := rfl

/-- A call leaves the name as it is. -/
theorem name_follow (draft : Draft) (call : Call) : (draft.follow call).name = draft.name := by
  cases call <;> simp only [follow, emitText_eq, intern_fst, emit] <;> rfl

/-- A call does not make a draft anonymous. -/
theorem anonymous_follow (draft : Draft) (call : Call) :
    (draft.follow call).anonymous = draft.anonymous := by
  cases call <;> simp only [follow, emitText_eq, intern_fst, emit] <;> rfl

/-- A call that declares an argument puts it behind those that were declared before. -/
theorem map_name_args_follow (draft : Draft) (call : Call) :
    (draft.follow call).args.map FormalArg.name =
      draft.args.map FormalArg.name ++ call.argName?.toList := by
  cases call <;> simp [follow, emitText_eq, intern_fst, emit, arg, appendArg, explicitArgs,
    withSource, withSpan, subtemplate, replaceProgram, updateJump, Call.argName?]

/-- The span is the one that a call sets, if it is one that does. -/
theorem span_follow (draft : Draft) (call : Call) :
    (draft.follow call).span = call.setSpan?.getD draft.span := by
  cases call <;> simp only [follow, emitText_eq, intern_fst, emit] <;> rfl

namespace Opening

variable (opening : Opening) (calls : List Call)

@[simp] theorem assemble_nil : opening.assemble [] = opening.draft := rfl

/-- Calls are followed one after the other. -/
@[simp] theorem assemble_append (more : List Call) :
    opening.assemble (calls ++ more) = more.foldl follow (opening.assemble calls) := by
  simp [assemble]

/-- A call after others is followed from the draft that they have come to. -/
theorem assemble_concat (call : Call) :
    opening.assemble (calls ++ [call]) = (opening.assemble calls).follow call := by
  simp

/-- Calls leave the name as it is. -/
theorem name_assemble : (opening.assemble calls).name = opening.templateName := by
  induction calls using List.reverseRecOn with
  | nil => cases opening <;> rfl
  | append_singleton calls call ih => rw [assemble_concat, name_follow, ih]

/-- Calls do not make a draft anonymous. -/
theorem anonymous_assemble : (opening.assemble calls).anonymous = opening.isAnonymous := by
  induction calls using List.reverseRecOn with
  | nil => cases opening <;> rfl
  | append_singleton calls call ih => rw [assemble_concat, anonymous_follow, ih]

/-- The arguments of a draft are those that calls have declared, in order. -/
theorem map_name_args_assemble :
    (opening.assemble calls).args.map FormalArg.name = calls.filterMap Call.argName? := by
  induction calls using List.reverseRecOn with
  | nil => cases opening <;> rfl
  | append_singleton calls call ih =>
    rw [assemble_concat, map_name_args_follow, ih, List.filterMap_append, List.filterMap_cons]
    cases call.argName? <;> rfl

/-- The span of a draft is the one that is in force. -/
theorem span_assemble : (opening.assemble calls).span = spanInForce calls := by
  induction calls using List.reverseRecOn with
  | nil => cases opening <;> rfl
  | append_singleton calls call ih =>
    rw [assemble_concat, span_follow, ih, spanInForce, spanInForce, List.filterMap_append,
      List.filterMap_cons]
    cases call.setSpan? <;> simp

end Opening

end Draft

end TemplateMachine
