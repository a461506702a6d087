import TemplateMachine.Text.Ranges
import TemplateMachine.Text.IdentifierTable

/-!
# Identifiers

An identifier opens with a letter-like character or an underscore and goes on with letter-like
characters and some others. Which characters these are depends on the version of Unicode, and on
whether Unicode is supported at all, so it is left open: what checks names is given the two classes
of characters.

Argument names of a template have to be identifiers; attribute names declared while a program runs
are not checked here.
-/

namespace TemplateMachine

/-- The characters of identifiers: those that may open one, the underscore aside, and those that may
stand in one after the first character. -/
structure IdentifierClass where
  opens : Char → Bool
  continues : Char → Bool

namespace IdentifierClass

variable (identifiers : IdentifierClass)

/-- Whether a sequence of characters is an identifier. -/
def admitsChars : List Char → Bool
  | [] => false
  | c :: rest => (c == '_' || identifiers.opens c) && rest.all identifiers.continues

/-- Whether a text is an identifier. -/
def admits (text : String) : Bool :=
  identifiers.admitsChars text.toList

/-- A character that is in neither of the two classes. -/
structure Excludes (c : Char) : Prop where
  opens : identifiers.opens c = false
  continues : identifiers.continues c = false

variable {identifiers}

/-- An excluded character stands in no identifier, unless it is the underscore. -/
theorem Excludes.notMem {c : Char} (excluded : identifiers.Excludes c) (other : c ≠ '_')
    {name : String} (admitted : identifiers.admits name = true) : c ∉ name.toList := by
  unfold admits at admitted
  cases chars : name.toList with
  | nil => simp
  | cons first rest =>
    rw [chars, admitsChars, Bool.and_eq_true, Bool.or_eq_true, beq_iff_eq] at admitted
    rw [List.mem_cons, not_or]
    constructor
    · rintro rfl
      simp [other, excluded.opens] at admitted
    · intro mem
      have continues := List.all_eq_true.mp admitted.2 c mem
      simp [excluded.continues] at continues

end IdentifierClass

/-- The identifiers of Unicode, by its properties XID_Start and XID_Continue. -/
def unicodeIdentifiers : IdentifierClass where
  opens c := inRanges c.toNat identifierStartRanges
  continues c := inRanges c.toNat identifierStartRanges || inRanges c.toNat identifierContinueRanges

/-- The identifiers where Unicode is not supported. -/
def asciiIdentifiers : IdentifierClass where
  opens c := c.isAlpha
  continues c := c == '_' || c.isAlphanum

example : unicodeIdentifiers.admits "größe" = true ∧ asciiIdentifiers.admits "größe" = false ∧
    asciiIdentifiers.admits "_size2" = true := by
  decide +kernel

end TemplateMachine
