import TemplateMachine.Proofs.Assembly.Validation
import TemplateMachine.Proofs.Bounds.Rendering
import TemplateMachine.Proofs.Slots.Alignment

/-!
# Where arguments come from

The arguments of a template are those with which it was built, followed by attributes that an
instance declared on its own copy. A template with an explicit argument list gets no more arguments.
No name is declared twice: the builder refuses such a draft, and an instance declares only what is
not declared.

That a template was built at some time is said by giving a draft that can be made; out of what the
draft was made is left open.
-/

namespace TemplateMachine

variable {identifiers : IdentifierClass}

namespace Template

/-- A template that a draft is built into. -/
def Assembled (identifiers : IdentifierClass) (template : Template) : Prop :=
  ∃ (given : Instance → Prop) (draft : Draft),
    draft.Made identifiers given ∧ draft.build identifiers = .ok template

/-- A template is a built one, perhaps as an object of another identity, with attributes declared on
the fly after its arguments, of which there are none if the argument list is explicit. -/
structure Extends (template built : Template) : Prop where
  rest : template = { built with identity := template.identity, args := template.args }
  args : ∃ declared, template.args = built.args ++ declared ∧
    (∀ arg ∈ declared, arg.default? = none) ∧ (built.hasFormalArgs = true → declared = [])

variable {template built : Template}

/-- A template extends itself by nothing. -/
theorem Extends.refl (built : Template) : built.Extends built := by
  obtain ⟨⟩ := built
  exact ⟨rfl, [], by simp⟩

/-- A template that extends a built one still does with an argument declared on the fly. -/
theorem Extends.withArg (extends_ : template.Extends built)
    (informal : template.hasFormalArgs = false) (name : String) :
    (template.withArg name).Extends built := by
  obtain ⟨hrest, declared, hargs, hdefaults, -⟩ := extends_
  have hinformal : built.hasFormalArgs = false := by
    rw [hrest] at informal
    exact informal
  refine ⟨by rw [hrest]; rfl, declared ++ [⟨name, template.args.length, none⟩], ?_, ?_, ?_⟩
  · simp [Template.withArg, hargs]
  · simpa [or_imp, forall_and] using hdefaults
  · simp [hinformal]

/-- A template that extends a built one still does with another identity. -/
theorem Extends.identified (extends_ : template.Extends built) (identity : Option Nat) :
    Extends { template with identity := identity } built := by
  obtain ⟨hrest, hargs⟩ := extends_
  exact ⟨by rw [hrest], hargs⟩

end Template

namespace Draft

/-- What a draft is built into has arguments with different names. -/
theorem names_nodup_of_build_eq_ok {draft : Draft} {template : Template}
    (built : draft.build identifiers = .ok template) : (template.args.map FormalArg.name).Nodup :=
  (draft.mayFollow_of_build_eq_ok built).nodup

/-- A draft that can be made has an explicit argument list if it has arguments. -/
theorem Made.args_eq_nil {given : Instance → Prop} {draft : Draft} :
    draft.Made identifiers given → draft.hasFormalArgs = false → draft.args = []
  | .named _ | .ofAnonymous _ | .ofRegion _ _ => fun _ => rfl
  | .arg _ _ | .argWithDefault _ _ _ | .explicitArgs _ => fun informal => by cases informal
  | .withSource made _ | .withSpan made _ | .replaceProgram made _ _ | .emit made _
  | .updateJump made _ | .subtemplate made _ => made.args_eq_nil
  | .intern made text => by
    unfold Draft.intern
    split <;> exact made.args_eq_nil

end Draft

namespace Template

/-- A built template without an explicit argument list has no arguments, or if it is anonymous those
that every anonymous template receives. What follows them in a template that extends it was declared
on the fly. -/
theorem Assembled.names_eq {template : Template} (assembled : template.Assembled identifiers)
    (informal : template.hasFormalArgs = false) : template.args.map FormalArg.name =
      if template.anonymous then implicitArg :: indexArgs else [] := by
  obtain ⟨given, draft, made, built⟩ := assembled
  obtain ⟨rfl, -⟩ := Draft.eq_of_build_eq_ok built
  have hnone := made.args_eq_nil informal
  cases hanonymous : draft.anonymous with
  | false => simp [Draft.completeArgs, hanonymous, hnone]
  | true => simp [Draft.completeArgs, hanonymous, hnone, Draft.appendArg, indexArgs, implicitArg]

/-- All operands of a template fit it, no two arguments have the same name, and the template extends
one that was built. -/
structure InOrder (identifiers : IdentifierClass) (template : Template) : Prop where
  operandsFit : template.OperandsFit
  names : (template.args.map FormalArg.name).Nodup
  origin : ∃ built : Template, built.Assembled identifiers ∧ template.Extends built

/-- What a draft is built into is in order and stays so. -/
theorem buildsInto_inOrder : BuildsInto identifiers (InOrder identifiers) where
  hereditary := {
    blank := fun name =>
      ⟨hereditary_operandsFit.blank name, List.nodup_nil, blank name,
        ⟨fun _ => False, .named name, .named name, rfl⟩, .refl _⟩
    withArg := by
      intro template name inOrder informal undeclared _
      obtain ⟨built, assembled, extends_⟩ := inOrder.origin
      refine ⟨hereditary_operandsFit.withArg inOrder.operandsFit informal undeclared
        trivial, ?_, built, assembled, extends_.withArg informal name⟩
      rw [Template.withArg, List.map_append, List.nodup_append]
      refine ⟨inOrder.names, by simp, ?_⟩
      simpa [arg?] using undeclared
    identified := by
      intro template identity inOrder
      obtain ⟨built, assembled, extends_⟩ := inOrder.origin
      exact ⟨inOrder.operandsFit, inOrder.names, built, assembled, extends_.identified identity⟩ }
  built := fun {given draft template} made built =>
    ⟨buildsInto_operandsFit.built made built, Draft.names_nodup_of_build_eq_ok built, template,
      ⟨given, draft, made, built⟩, .refl template⟩

end Template

end TemplateMachine
