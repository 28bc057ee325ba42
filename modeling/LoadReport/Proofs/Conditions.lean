import LoadReport.Proofs.Outcomes

/-!
# Conditions in order

Checks that stop at the first violation, with their conditions as data: each has the failure that it is
reported by. A check that is spelled out step by step is brought into this form by the lemmas on
`verdict`, and `verdict_eq_error_iff` says what it then reports.
-/

namespace LoadReport

/-- What has to hold, with the failure that is reported if it does not. -/
structure Condition where
  holds : Bool
  failure : Failure

namespace Condition

def ofCause (condition : Prop) [Decidable condition] (cause : Cause) : Condition where
  holds := decide condition
  failure := Failure.ofCause cause

/-- The same condition, on a part of what is checked. -/
def within (context : Context) (condition : Condition) : Condition where
  holds := condition.holds
  failure := condition.failure.within context

/-- The first of several conditions that is violated is reported. -/
def verdict : List Condition → Except Failure Unit
  | [] => .ok ()
  | condition :: rest => if condition.holds then verdict rest else .error condition.failure

theorem verdict_cons (holds : Prop) [Decidable holds] (cause : Cause) (rest : List Condition) :
    verdict (ofCause holds cause :: rest) = require holds cause >>= fun _ => verdict rest := by
  by_cases held : holds
  · simp [verdict, ofCause, require, held, bind, Except.bind]
  · simp [verdict, ofCause, require, held, bind, Except.bind]

theorem verdict_singleton (holds : Prop) [Decidable holds] (cause : Cause) :
    verdict [ofCause holds cause] = require holds cause := by
  by_cases held : holds
  · simp [verdict, ofCause, require, held]
  · simp [verdict, ofCause, require, held]

theorem verdict_append (first second : List Condition) :
    verdict (first ++ second) = verdict first >>= fun _ => verdict second := by
  induction first with
  | nil => rfl
  | cons condition rest inductionHypothesis =>
    rw [List.cons_append, verdict, verdict, inductionHypothesis]
    split
    · rfl
    · rfl

theorem verdict_within (context : Context) (conditions : List Condition) :
    verdict (conditions.map (within context)) = during context (verdict conditions) := by
  induction conditions with
  | nil => rfl
  | cons condition rest inductionHypothesis =>
    rw [List.map_cons, verdict, verdict, inductionHypothesis, within]
    split
    · rfl
    · rfl

theorem verdict_eq_error_iff (conditions : List Condition) (failure : Failure) :
    verdict conditions = .error failure ↔
      ∃ before violated after, conditions = before ++ violated :: after ∧
        (∀ other ∈ before, other.holds = true) ∧ violated.holds = false ∧
        violated.failure = failure := by
  induction conditions with
  | nil => simp [verdict]
  | cons condition rest inductionHypothesis =>
    rw [verdict]
    cases holds : condition.holds with
    | true =>
      rw [if_pos rfl, inductionHypothesis]
      constructor
      · rintro ⟨before, violated, after, rfl, held, reported⟩
        exact ⟨condition :: before, violated, after, rfl,
          List.forall_mem_cons.mpr ⟨holds, held⟩, reported⟩
      · rintro ⟨before, violated, after, split, held, violates, reported⟩
        -- A condition that holds is not the one that is violated.
        cases before with
        | nil =>
          obtain ⟨rfl, _⟩ := List.cons.inj split
          rw [holds] at violates
          cases violates
        | cons head before =>
          obtain ⟨_, others⟩ := List.cons.inj split
          exact ⟨before, violated, after, others, (List.forall_mem_cons.mp held).2, violates, reported⟩
    | false =>
      rw [if_neg Bool.false_ne_true, Except.error.injEq]
      constructor
      · rintro rfl
        exact ⟨[], condition, rest, rfl, nofun, holds, rfl⟩
      · rintro ⟨before, violated, after, split, held, _, reported⟩
        -- Nor does one that is violated stand in front of it.
        cases before with
        | nil =>
          obtain ⟨rfl, _⟩ := List.cons.inj split
          exact reported
        | cons head before =>
          obtain ⟨rfl, _⟩ := List.cons.inj split
          rw [(List.forall_mem_cons.mp held).1] at holds
          cases holds

end Condition

/-- Each of several items, with what is seen of those in front of it, the nearest first. -/
def Outcomes.withEarlier {α β : Type} (view : α → List β) (earlier : List β) :
    List α → List (List β × α)
  | [] => []
  | item :: rest => (earlier, item) :: withEarlier view ((view item).reverse ++ earlier) rest

end LoadReport
