import Mathlib.Data.List.Forall2
import LoadReport.Failure

/-!
# Outcomes of computations

What the success of a composed computation says about its parts: one lemma for each way of composing
that the library uses, so that no later proof opens a `do` block by hand. Checks that compare each
item with the ones before it have their meaning in `Apart`.
-/

namespace LoadReport.Outcomes

theorem bind_eq_ok_iff {α β : Type} (first : Except Failure α) (rest : α → Except Failure β)
    (result : β) :
    (first >>= rest) = .ok result ↔ ∃ value, first = .ok value ∧ rest value = .ok result := by
  cases first with
  | error failure =>
    constructor
    · intro impossible; cases impossible
    · intro ends
      obtain ⟨value, impossible, _⟩ := ends
      cases impossible
  | ok value =>
    constructor
    · intro succeeded; exact ⟨value, rfl, succeeded⟩
    · intro ends
      obtain ⟨_, equal, succeeded⟩ := ends
      cases equal
      exact succeeded

theorem check_bind_eq_ok_iff {β : Type} (check : Except Failure Unit) (rest : Except Failure β)
    (result : β) :
    (check >>= fun _ => rest) = .ok result ↔ check = .ok () ∧ rest = .ok result := by
  rw [bind_eq_ok_iff]
  constructor
  · intro ends
    obtain ⟨⟨⟩, passed, succeeded⟩ := ends
    exact ⟨passed, succeeded⟩
  · intro ends
    exact ⟨(), ends⟩

theorem check_bind_eq_error_iff {β : Type} (check : Except Failure Unit) (rest : Except Failure β)
    (failure : Failure) :
    (check >>= fun _ => rest) = .error failure ↔
      check = .error failure ∨ check = .ok () ∧ rest = .error failure := by
  cases check with
  | error other =>
    constructor
    · intro failed
      cases failed
      exact .inl rfl
    · rintro (failed | ⟨impossible, _⟩)
      · cases failed
        rfl
      · cases impossible
  | ok _ =>
    constructor
    · intro failed; exact .inr ⟨rfl, failed⟩
    · rintro (impossible | ⟨_, failed⟩)
      · cases impossible
      · exact failed

theorem require_eq_error_iff (condition : Prop) [Decidable condition] (cause : Cause)
    (failure : Failure) :
    require condition cause = .error failure ↔ ¬ condition ∧ failure = Failure.ofCause cause := by
  by_cases holds : condition
  · simp [require, holds]
  · simp [require, holds, eq_comm]

section Traversal

variable {α β : Type} (visit : α → Option β)

theorem mapM_eq_some_iff (items : List α) (results : List β) :
    items.mapM visit = some results ↔
      List.Forall₂ (fun item result => visit item = some result) items results := by
  induction items generalizing results with
  | nil => cases results <;> simp
  | cons item rest inductionHypothesis =>
    rw [List.mapM_cons]
    cases visited : visit item with
    | none => cases results <;> simp [visited]
    | some result =>
      cases traversed : rest.mapM visit with
      | none => cases results <;> simp [← inductionHypothesis, traversed]
      | some others => cases results <;> simp [← inductionHypothesis, traversed, visited]

theorem mapM_eq_none_iff (items : List α) :
    items.mapM visit = none ↔ ∃ item ∈ items, visit item = none := by
  induction items with
  | nil => simp
  | cons item rest inductionHypothesis =>
    rw [List.mapM_cons]
    cases visited : visit item with
    | none => simp [visited]
    | some result =>
      cases traversed : rest.mapM visit with
      | none => simpa [visited, traversed] using inductionHypothesis
      | some others => simpa [visited, traversed] using inductionHypothesis

end Traversal

theorem bind_pure_eq_none_iff {α β : Type} (option : Option α) (make : α → β) :
    (option >>= fun value => pure (make value)) = none ↔ option = none := by
  cases option <;> simp

theorem exists_mem_of_views {α β : Type} {view : α → β} {items : List α} {views : List β}
    (same : items.map view = views) (property : β → Prop) :
    (∃ item ∈ items, property (view item)) ↔ ∃ seen ∈ views, property seen := by
  simp [← same]

theorem filterMap_eq_of_forall₂ {α β γ : Type} {first : α → Option γ} {second : β → Option γ}
    {items : List α} {others : List β}
    (paired : List.Forall₂ (fun item other => first item = second other) items others) :
    items.filterMap first = others.filterMap second := by
  induction paired with
  | nil => rfl
  | cons same _ inductionHypothesis => simp only [List.filterMap_cons, same, inductionHypothesis]

theorem map_eq_map_of_forall₂ {α β γ : Type} {first : α → γ} {second : β → γ} {items : List α}
    {others : List β}
    (paired : List.Forall₂ (fun item other => first item = second other) items others) :
    items.map first = others.map second := by
  induction paired with
  | nil => rfl
  | cons same _ inductionHypothesis => rw [List.map_cons, List.map_cons, same, inductionHypothesis]

/-- Views of items may be looked at together. -/
theorem forall₂_zip {α β γ : Type} {first : α → β → Prop} {second : α → γ → Prop} {items : List α}
    {views : List β} {others : List γ} (ofFirst : List.Forall₂ first items views)
    (ofSecond : List.Forall₂ second items others) :
    List.Forall₂ (fun item pair => first item pair.1 ∧ second item pair.2) items
      (views.zip others) := by
  induction ofFirst generalizing others with
  | nil => exact .nil
  | cons one _ inductionHypothesis =>
    cases ofSecond with
    | cons other rest => exact .cons ⟨one, other⟩ (inductionHypothesis rest)

/-- What belongs to items put together is put together of what belongs to either. -/
theorem exists_append_of_forall₂ {α β : Type} {relation : α → β → Prop} {first second : List α}
    {others : List β} (paired : List.Forall₂ relation (first ++ second) others) :
    ∃ front back, others = front ++ back ∧ List.Forall₂ relation first front ∧
      List.Forall₂ relation second back := by
  induction first generalizing others with
  | nil => exact ⟨[], others, rfl, .nil, paired⟩
  | cons item rest inductionHypothesis =>
    cases paired with
    | cons related remaining =>
      obtain ⟨front, back, rfl, ofFirst, ofSecond⟩ := inductionHypothesis remaining
      exact ⟨_, back, rfl, .cons related ofFirst, ofSecond⟩

theorem exists_getElem?_of_forall₂ {α β : Type} {relation : α → β → Prop} {items : List α}
    {others : List β} (paired : List.Forall₂ relation items others) {place : Nat} {item : α}
    (stands : items[place]? = some item) :
    ∃ other, others[place]? = some other ∧ relation item other := by
  induction paired generalizing place with
  | nil => cases stands
  | cons related _ inductionHypothesis =>
    cases place with
    | zero =>
      cases stands
      exact ⟨_, rfl, related⟩
    | succ place => exact inductionHypothesis stands

theorem exists_mem_of_forall₂ {α β : Type} {relation : α → β → Prop} {items : List α}
    {others : List β} (paired : List.Forall₂ relation items others) {other : β}
    (member : other ∈ others) : ∃ item ∈ items, relation item other := by
  obtain ⟨place, stands⟩ := List.mem_iff_getElem?.mp member
  obtain ⟨item, found, related⟩ := exists_getElem?_of_forall₂ paired.flip stands
  exact ⟨item, List.mem_of_getElem? found, related⟩

theorem forall_mem_iff_of_forall₂ {α β : Type} {items : List α} {others : List β}
    {property : α → Prop} {other : β → Prop}
    (paired : List.Forall₂ (fun item result => other result ↔ property item) items others) :
    (∀ result ∈ others, other result) ↔ ∀ item ∈ items, property item := by
  induction paired with
  | nil => simp
  | cons same _ inductionHypothesis =>
    rw [List.forall_mem_cons, List.forall_mem_cons, same, inductionHypothesis]

/-- An element of a list of lists put together stands in one of these lists. -/
theorem flatMap_eq_append_cons_iff {α β : Type} (expand : α → List β) (items : List α)
    (before after : List β) (element : β) :
    items.flatMap expand = before ++ element :: after ↔
      ∃ front item back first last, items = front ++ item :: back ∧
        expand item = first ++ element :: last ∧ before = front.flatMap expand ++ first ∧
        after = last ++ back.flatMap expand := by
  constructor
  · intro equal
    induction items generalizing before with
    | nil => simp at equal
    | cons item rest inductionHypothesis =>
      rw [List.flatMap_cons, List.append_eq_append_iff] at equal
      obtain ⟨middle, beforeEqual, restEqual⟩ | ⟨middle, itemEqual, afterEqual⟩ := equal
      -- The element stands behind everything that the first item expands to.
      · obtain ⟨front, found, back, first, last, split, expanded, middleEqual, afterEqual⟩ :=
          inductionHypothesis middle restEqual
        refine ⟨item :: front, found, back, first, last, ?_, expanded, ?_, afterEqual⟩
        · rw [split, List.cons_append]
        · rw [beforeEqual, middleEqual, List.flatMap_cons, List.append_assoc]
      · cases middle with
        | nil =>
          -- The first item ends right in front of the element.
          obtain ⟨front, found, back, first, last, split, expanded, middleEqual, afterEqual⟩ :=
            inductionHypothesis [] afterEqual.symm
          refine ⟨item :: front, found, back, first, last, ?_, expanded, ?_, afterEqual⟩
          · rw [split, List.cons_append]
          · rw [List.flatMap_cons, List.append_assoc, ← middleEqual, itemEqual]
            simp
        | cons head last =>
          rw [List.cons_append, List.cons.injEq] at afterEqual
          obtain ⟨rfl, rfl⟩ := afterEqual
          exact ⟨[], item, rest, before, last, rfl, itemEqual, rfl, rfl⟩
  · intro parts
    obtain ⟨front, item, back, first, last, rfl, expanded, rfl, rfl⟩ := parts
    simp [expanded]

/-- A place in a list is its head or behind it. -/
theorem exists_place_cons_iff {α : Type} (property : List α → α → Prop) (head : α) (rest : List α) :
    (∃ before item after, head :: rest = before ++ item :: after ∧ property before item) ↔
      property [] head ∨
        ∃ before item after, rest = before ++ item :: after ∧ property (head :: before) item := by
  constructor
  · rintro ⟨before, item, after, split, holds⟩
    cases before with
    | nil =>
      obtain ⟨rfl, rfl⟩ := List.cons.inj split
      exact .inl holds
    | cons first before =>
      obtain ⟨rfl, rfl⟩ := List.cons.inj split
      exact .inr ⟨before, item, after, rfl, holds⟩
  · rintro (holds | ⟨before, item, after, rfl, holds⟩)
    · exact ⟨[], head, rest, rfl, holds⟩
    · exact ⟨head :: before, item, after, rfl, holds⟩

theorem append_eq_append_cons_of_not_mem {α : Type} {first second before after : List α}
    {element : α} (split : first ++ second = before ++ element :: after) (absent : element ∉ first) :
    ∃ inner, before = first ++ inner ∧ second = inner ++ element :: after := by
  obtain ⟨inner, beforeEqual, secondEqual⟩ | ⟨inner, firstEqual, others⟩ :=
    List.append_eq_append_iff.mp split
  · exact ⟨inner, beforeEqual, secondEqual⟩
  · cases inner with
    | nil => exact ⟨[], by simp [firstEqual], others.symm⟩
    | cons head rest =>
      obtain ⟨rfl, _⟩ := List.cons.inj others
      simp [firstEqual] at absent

/-! ## Items compared with earlier ones -/

/-- Items differ from one another and from the earlier ones. -/
def Apart {α : Type} (differ : α → α → Prop) (earlier items : List α) : Prop :=
  items.Pairwise differ ∧ ∀ item ∈ items, ∀ other ∈ earlier, differ other item

section Apart

variable {α : Type} {differ : α → α → Prop}

@[simp] theorem apart_nil (earlier : List α) : Apart differ earlier [] := by
  simp [Apart]

/-- This is how the checkers go on: what has been looked at is among the earlier items from there. -/
theorem apart_cons_iff (earlier : List α) (item : α) (rest : List α) :
    Apart differ earlier (item :: rest) ↔
      (∀ other ∈ earlier, differ other item) ∧ Apart differ (item :: earlier) rest := by
  simp only [Apart, List.pairwise_cons, List.forall_mem_cons]
  constructor
  · intro apart
    obtain ⟨⟨headDiffers, restDiffers⟩, headFresh, restFresh⟩ := apart
    exact ⟨headFresh, restDiffers, fun other member => ⟨headDiffers other member, restFresh other member⟩⟩
  · intro apart
    obtain ⟨headFresh, restDiffers, fresh⟩ := apart
    exact ⟨⟨fun other member => (fresh other member).1, restDiffers⟩, headFresh,
      fun other member => (fresh other member).2⟩

theorem apart_append_iff (earlier first second : List α) :
    Apart differ earlier (first ++ second) ↔
      Apart differ earlier first ∧ Apart differ (first.reverse ++ earlier) second := by
  induction first generalizing earlier with
  | nil => simp
  | cons item rest inductionHypothesis =>
    rw [List.cons_append, apart_cons_iff, inductionHypothesis, apart_cons_iff, and_assoc,
      List.reverse_cons, List.append_assoc, List.singleton_append]

theorem apart_nil_iff (items : List α) : Apart differ [] items ↔ items.Pairwise differ := by
  simp [Apart]

end Apart

end LoadReport.Outcomes
