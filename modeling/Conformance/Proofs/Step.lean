/-!
# Steps that may fail

When a step, or a chain of steps, ends well, and with what.
-/
namespace Conformance

variable {ε ε' α β : Type}

theorem bind_eq_ok_iff {step : Except ε α} {next : α → Except ε β} {result : β} :
    step >>= next = .ok result ↔ ∃ value, step = .ok value ∧ next value = .ok result := by
  cases step <;> simp [bind, Except.bind]

theorem pure_eq_ok_iff {value result : α} :
    (pure value : Except ε α) = .ok result ↔ result = value := by
  simp [pure, Except.pure, eq_comm]

theorem map_eq_ok_iff {step : Except ε α} {f : α → β} {result : β} :
    step.map f = .ok result ↔ ∃ value, step = .ok value ∧ f value = result := by
  cases step <;> simp [Except.map]

theorem exists_map_ok_iff {step : Except ε α} {f : α → β} :
    (∃ result, step.map f = .ok result) ↔ ∃ value, step = .ok value := by
  cases step <;> simp [Except.map]

theorem map_eq_error_iff {step : Except ε α} {f : α → β} {fault : ε} :
    step.map f = .error fault ↔ step = .error fault := by
  cases step <;> simp [Except.map]

theorem bind_eq_error_iff {step : Except ε α} {next : α → Except ε β} {fault : ε} :
    step.bind next = .error fault ↔
      step = .error fault ∨ ∃ value, step = .ok value ∧ next value = .error fault := by
  cases step <;> simp [Except.bind]

theorem toOption_eq_some_iff {step : Except ε α} {result : α} :
    step.toOption = some result ↔ step = .ok result := by
  cases step <;> simp [Except.toOption]

theorem mapError_eq_ok_iff {step : Except ε α} {f : ε → ε'} {result : α} :
    step.mapError f = .ok result ↔ step = .ok result := by
  constructor
  · intro mapped
    cases step with
    | ok value =>
      cases mapped
      rfl
    | error fault => cases mapped
  · rintro rfl
    rfl

theorem not_exists_ok (fault : ε) : ¬∃ value, (Except.error fault : Except ε α) = .ok value := by
  rintro ⟨_, same⟩
  cases same

/-- Two steps that are alike in some respect fail in the same way, or end alike. -/
theorem map_eq_map_iff {step other : Except ε α} {f : α → β} :
    step.map f = other.map f ↔
      (∃ fault, step = .error fault ∧ other = .error fault) ∨
        ∃ a b, step = .ok a ∧ other = .ok b ∧ f a = f b := by
  cases step <;> cases other <;> simp [Except.map, eq_comm]

/-! ### Steps over several parts -/

/-- Steps over several parts end well exactly if each of them does. -/
theorem exists_mapM_ok_iff {f : α → Except ε β} {items : List α} :
    (∃ values, items.mapM f = .ok values) ↔ ∀ item ∈ items, ∃ value, f item = .ok value := by
  induction items with
  | nil => exact iff_of_true ⟨[], rfl⟩ (List.forall_mem_nil _)
  | cons item rest ih =>
    rw [List.forall_mem_cons, ← ih, List.mapM_cons]
    constructor
    · rintro ⟨values, all⟩
      obtain ⟨value, first, others⟩ := bind_eq_ok_iff.mp all
      obtain ⟨later, behind, -⟩ := bind_eq_ok_iff.mp others
      exact ⟨⟨value, first⟩, later, behind⟩
    · rintro ⟨⟨value, first⟩, later, behind⟩
      rw [first, behind]
      exact ⟨value :: later, rfl⟩

theorem exists_of_mapM_eq_error {f : α → Except ε β} {items : List α} {fault : ε}
    (failed : items.mapM f = .error fault) : ∃ item ∈ items, f item = .error fault := by
  induction items with
  | nil => cases failed
  | cons item rest ih =>
    rw [List.mapM_cons] at failed
    cases first : f item with
    | error own =>
      rw [first] at failed
      cases failed
      exact ⟨item, List.mem_cons_self, first⟩
    | ok value =>
      rw [first] at failed
      cases others : rest.mapM f with
      | error later =>
        rw [others] at failed
        cases failed
        obtain ⟨found, member, own⟩ := ih others
        exact ⟨found, List.mem_cons_of_mem _ member, own⟩
      | ok values =>
        rw [others] at failed
        cases failed

end Conformance
