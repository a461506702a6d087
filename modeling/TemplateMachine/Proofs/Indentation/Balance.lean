import TemplateMachine.Proofs.Indentation.Pairing
import TemplateMachine.Proofs.Output.Layout

/-!
# Indentations that stay open

How the indentations of a writer change while the machine runs. All templates being paired, whatever
runs gives back the indentations that it found, with more of them on top exactly if a fault
abandoned a template between the beginning and the end of an indentation: one for each that was
open there. Nothing closes those, and the templates that invoked the abandoned one go on under them.

What is rendered to a text of its own has a writer to itself and leaves nothing open.
-/

namespace TemplateMachine

/-- The number of indentations that the fault of a mark leaves open on the writer of a level. -/
def Mark.leftOpen (aside : Nat) (mark : Mark) : Nat :=
  match mark.deed with
  | .abandoned cursor _ => if mark.aside = aside then unclosed cursor.executed else 0
  | _ => 0

/-- The number of indentations that faults leave open on the writer of a level. -/
def leftOpen (aside : Nat) : List Mark → Nat
  | [] => 0
  | mark :: rest => mark.leftOpen aside + leftOpen aside rest

/-- What faults leave open one after the other adds up. -/
theorem leftOpen_append (aside : Nat) (after before : List Mark) :
    leftOpen aside (after ++ before) = leftOpen aside after + leftOpen aside before := by
  induction after with
  | nil => simp [leftOpen]
  | cons mark rest ih =>
    simp only [List.cons_append, leftOpen, ih]
    omega

/-- Nothing is left open exactly if no mark leaves anything open. -/
theorem leftOpen_eq_zero_iff {aside : Nat} {marks : List Mark} :
    leftOpen aside marks = 0 ↔ ∀ mark ∈ marks, mark.leftOpen aside = 0 := by
  induction marks with
  | nil => simp [leftOpen]
  | cons mark rest ih => simp [leftOpen, ih]

/-- The programs of all templates that begin are paired. -/
def AllPaired (marks : List Mark) : Prop :=
  ∀ mark ∈ marks, mark.deed = .begun → Paired mark.frame.template.program

/-- Between two states of a render a number of indentations were opened and not closed, apart from
those that faults left open. This is known if a condition holds and all templates are paired that
began in between. -/
def RenderState.Opens (condition : Prop) (s t : RenderState) (k : Nat) : Prop :=
  ∃ marks, t.trail = marks ++ s.trail ∧ t.aside = s.aside ∧ (∀ mark ∈ marks, s.aside ≤ mark.aside) ∧
    (condition → AllPaired marks → ∃ above,
      t.writer.layout.indentation = above ++ s.writer.layout.indentation ∧
        above.length = k + leftOpen s.aside marks)

namespace RenderState.Opens

variable {condition : Prop} {s t u : RenderState} {j k : Nat}

/-- Nothing is opened where nothing is done. -/
theorem of_unseen (trail : t.trail = s.trail) (aside : t.aside = s.aside)
    (indentation : t.writer.layout.indentation = s.writer.layout.indentation) :
    Opens condition s t 0 :=
  ⟨[], trail, aside, by simp, fun _ _ => ⟨[], indentation, rfl⟩⟩

/-- Indentations that are opened one after the other add up. -/
theorem trans (first : Opens condition s t j) (second : Opens condition t u k) :
    Opens condition s u (j + k) := by
  obtain ⟨before, htrail, haside, hmarks, habove⟩ := first
  obtain ⟨after, htrail', haside', hmarks', habove'⟩ := second
  refine ⟨after ++ before, by rw [htrail', htrail, List.append_assoc], haside'.trans haside, ?_, ?_⟩
  · intro mark mem
    rcases List.mem_append.mp mem with new | old
    · exact haside ▸ hmarks' mark new
    · exact hmarks mark old
  · intro holds paired
    obtain ⟨above, hindentation, hlength⟩ :=
      habove holds fun mark mem => paired mark (List.mem_append_right after mem)
    obtain ⟨above', hindentation', hlength'⟩ :=
      habove' holds fun mark mem => paired mark (List.mem_append_left before mem)
    refine ⟨above' ++ above, by rw [hindentation', hindentation, List.append_assoc], ?_⟩
    rw [haside] at hlength'
    rw [List.length_append, leftOpen_append]
    omega

/-- What is known without a condition is known with one. -/
theorem weaken (h : Opens True s t k) : Opens condition s t k := by
  obtain ⟨marks, htrail, haside, hmarks, habove⟩ := h
  exact ⟨marks, htrail, haside, hmarks, fun _ => habove trivial⟩

/-- The number that is opened may be replaced by one that is equal under the condition. -/
theorem congr (h : Opens condition s t j) (same : condition → j = k) : Opens condition s t k := by
  obtain ⟨marks, htrail, haside, hmarks, habove⟩ := h
  exact ⟨marks, htrail, haside, hmarks, fun holds => same holds ▸ habove holds⟩

/-- A mark that is of no fault opens nothing. -/
theorem mark {frame : Frame} {deed : Deed} (noFault : ∀ cursor fault, deed ≠ .abandoned cursor fault) :
    Opens condition s { s with trail := ⟨s.aside, frame, deed⟩ :: s.trail } 0 := by
  refine ⟨[⟨s.aside, frame, deed⟩], rfl, rfl, by simp, fun _ _ => ⟨[], rfl, ?_⟩⟩
  cases deed with
  | abandoned cursor fault => exact absurd rfl (noFault cursor fault)
  | _ => rfl

/-- What a template opened when a fault abandons it counts from then on as left open. -/
theorem abandon {frame : Frame} {cursor : Cursor} {fault : Fault}
    (h : Opens condition s t (unclosed cursor.executed)) :
    Opens condition s
      { t with trail := ⟨t.aside, frame, .abandoned cursor fault⟩ :: t.trail } 0 := by
  obtain ⟨marks, htrail, haside, hmarks, habove⟩ := h
  refine ⟨⟨t.aside, frame, .abandoned cursor fault⟩ :: marks, by simp [htrail], haside, ?_, ?_⟩
  · exact List.forall_mem_cons.mpr ⟨Nat.le_of_eq haside.symm, hmarks⟩
  · intro holds paired
    obtain ⟨above, hindentation, hlength⟩ := habove holds (List.forall_mem_cons.mp paired).2
    refine ⟨above, hindentation, ?_⟩
    simpa [leftOpen, Mark.leftOpen, haside] using hlength

/-- What is known if a program is paired is known once its template has begun. -/
theorem of_begun {frame : Frame} (h : Opens (Paired frame.template.program)
      { s with trail := ⟨s.aside, frame, .begun⟩ :: s.trail } t k) : Opens True s t k := by
  obtain ⟨marks, htrail, haside, hmarks, habove⟩ := h
  refine ⟨marks ++ [⟨s.aside, frame, .begun⟩], by simp [htrail], haside, ?_, ?_⟩
  · simpa [or_imp, forall_and] using hmarks
  · intro _ paired
    have hprogram : Paired frame.template.program :=
      paired ⟨s.aside, frame, .begun⟩ (by simp) rfl
    obtain ⟨above, hindentation, hlength⟩ :=
      habove hprogram fun mark mem => paired mark (List.mem_append_left _ mem)
    refine ⟨above, hindentation, ?_⟩
    simpa [leftOpen_append, leftOpen, Mark.leftOpen] using hlength

/-- What is rendered to a text of its own leaves nothing open. -/
theorem aside {finish : RenderState} (h : Opens True
      { s with writer := s.writer.fork, events := none, aside := s.aside + 1 } finish k) :
    Opens condition s
      { finish with writer := s.writer, events := s.events, aside := s.aside } 0 := by
  obtain ⟨marks, htrail, haside, hmarks, -⟩ := h
  refine ⟨marks, htrail, rfl, fun mark mem => ?_, fun _ _ => ⟨[], rfl, ?_⟩⟩
  · have hdeeper : s.aside + 1 ≤ mark.aside := hmarks mark mem
    omega
  · have hzero : ∀ mark ∈ marks, mark.leftOpen s.aside = 0 := by
      intro mark mem
      have hdeeper : s.aside + 1 ≤ mark.aside := hmarks mark mem
      unfold Mark.leftOpen
      split
      · rw [if_neg (by omega)]
      · rfl
    rw [leftOpen_eq_zero_iff.mpr hzero, List.length_nil]

/-- Ending an indentation closes one that was opened, if one was under the condition. -/
theorem popIndentation (h : Opens condition s t (k + 1)) :
    match Attempt.outcome Writer.popIndentation t.writer with
    | (.ok _, w) => Opens condition s { t with writer := w } k
    | (.error _, w) => ∀ j, Opens condition s { t with writer := w } j := by
  obtain ⟨marks, htrail, haside, hmarks, habove⟩ := h
  have hpop := Writer.outcome_popIndentation t.writer
  cases hopen : t.writer.layout.indentation with
  | nil =>
    rw [hopen] at hpop habove
    rw [hpop]
    refine fun j => ⟨marks, htrail, haside, hmarks, fun holds paired => ?_⟩
    obtain ⟨above, hindentation, hlength⟩ := habove holds paired
    obtain ⟨rfl, -⟩ := List.append_eq_nil_iff.mp hindentation.symm
    simp only [List.length_nil] at hlength
    omega
  | cons indent rest =>
    rw [hopen] at hpop habove
    obtain ⟨w, hends, hlayout, -⟩ := hpop
    rw [hends]
    refine ⟨marks, htrail, haside, hmarks, fun holds paired => ?_⟩
    obtain ⟨above, hindentation, hlength⟩ := habove holds paired
    cases above with
    | nil =>
      simp only [List.length_nil] at hlength
      omega
    | cons top above =>
      obtain ⟨-, hrest⟩ := List.cons.inj hindentation
      refine ⟨above, by simp [hlayout, hrest], ?_⟩
      simp only [List.length_cons] at hlength
      omega

end RenderState.Opens

end TemplateMachine
