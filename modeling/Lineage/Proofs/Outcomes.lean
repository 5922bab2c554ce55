import Mathlib.Data.List.Forall2

/-!
# Computations that may fail

A computation in several steps succeeds if every step does, and otherwise fails as the first step
that fails.
-/

namespace Lineage

variable {α β ε : Type}

/-- Whether a computation fails in a given way can be decided where the failures can be compared. -/
instance decidableEqError [DecidableEq ε] (result : Except ε α) (failure : ε) :
    Decidable (result = .error failure) :=
  match result with
  | .ok _ => isFalse nofun
  | .error other => decidable_of_iff (other = failure) (by rw [Except.error.injEq])

theorem bind_eq_ok_iff {first : Except ε α} {next : α → Except ε β} {result : β} :
    (first >>= next) = .ok result ↔ ∃ middle, first = .ok middle ∧ next middle = .ok result := by
  cases first with
  | error failure => simp [Bind.bind, Except.bind]
  | ok middle => simp [Bind.bind, Except.bind]

theorem bind_eq_error_iff {first : Except ε α} {next : α → Except ε β} {failure : ε} :
    (first >>= next) = .error failure ↔
      first = .error failure ∨ ∃ middle, first = .ok middle ∧ next middle = .error failure := by
  cases first with
  | error failure => simp [Bind.bind, Except.bind]
  | ok middle => simp [Bind.bind, Except.bind]

theorem map_eq_ok_iff {first : Except ε α} {f : α → β} {result : β} :
    first.map f = .ok result ↔ ∃ value, first = .ok value ∧ f value = result := by
  cases first with
  | error failure => simp [Except.map]
  | ok value => simp [Except.map]

@[simp]
theorem map_eq_error_iff {first : Except ε α} {f : α → β} {failure : ε} :
    first.map f = .error failure ↔ first = .error failure := by
  cases first with
  | error other => simp [Except.map]
  | ok value => simp [Except.map]

/-- The results of a computation over a list are those of its items. -/
theorem mapM_eq_ok_iff {f : α → Except ε β} {items : List α} {results : List β} :
    items.mapM f = .ok results ↔
      List.Forall₂ (fun item result => f item = .ok result) items results := by
  induction items generalizing results with
  | nil =>
      rw [List.mapM_nil, List.forall₂_nil_left_iff]
      exact ⟨fun same => (Except.ok.inj same).symm, fun same => same ▸ rfl⟩
  | cons item items ih =>
      simp only [List.mapM_cons, bind_eq_ok_iff, ih, List.forall₂_cons_left_iff]
      constructor
      · rintro ⟨result, here, others, rest, same⟩
        exact ⟨result, others, here, rest, (Except.ok.inj same).symm⟩
      · rintro ⟨result, others, here, rest, rfl⟩
        exact ⟨result, here, others, rest, rfl⟩

/-- A computation over a list fails as the first item that fails. -/
theorem mapM_eq_error_iff {f : α → Except ε β} {items : List α} {failure : ε} :
    items.mapM f = .error failure ↔ ∃ before item after, items = before ++ item :: after ∧
      f item = .error failure ∧ ∀ other ∈ before, ∃ result, f other = .ok result := by
  induction items with
  | nil =>
      rw [List.mapM_nil]
      simp [pure, Except.pure]
  | cons item items ih =>
      rw [List.mapM_cons, bind_eq_error_iff]
      constructor
      · rintro (here | ⟨result, here, further⟩)
        · exact ⟨[], item, items, rfl, here, by simp⟩
        · rcases bind_eq_error_iff.mp further with later | ⟨_, _, impossible⟩
          · obtain ⟨before, other, after, rfl, failed, accepted⟩ := ih.mp later
            refine ⟨item :: before, other, after, rfl, failed, ?_⟩
            exact List.forall_mem_cons.mpr ⟨⟨result, here⟩, accepted⟩
          · cases impossible
      · rintro ⟨before, other, after, split, failed, accepted⟩
        cases before with
        | nil =>
            obtain ⟨rfl, rfl⟩ := List.cons.inj split
            exact Or.inl failed
        | cons first before =>
            obtain ⟨rfl, rfl⟩ := List.cons.inj split
            obtain ⟨result, here⟩ := accepted item List.mem_cons_self
            refine Or.inr ⟨result, here, bind_eq_error_iff.mpr (Or.inl (ih.mpr ?_))⟩
            exact ⟨before, other, after, rfl, failed, fun one member =>
              accepted one (List.mem_cons_of_mem _ member)⟩

end Lineage
