/-
How a run ends, in general. A run that does not come back from loading the
settings stops there and leaves all files alone (`run_of_noRoom`); otherwise its
exit code is that of its action (`code_eq_zero_iff`, `code_eq_one_iff`).

The settings are loaded at the start and, for most actions, once more, each time
with the entries of their sources in orders of their own. Whether loading comes
back does not depend on these (`startStack_load_eq_noRoom_iff`), so an action
never stops where the start has not.
-/
import AccessPolicy.Command.Run
import AccessPolicy.Proofs.EntryOrder

namespace AccessPolicy.Command.Invocation

variable {i : Invocation} {t : FileTree} {s : Surroundings}

theorem startStack_load_eq_noRoom_iff :
    (i.startStack t s).load = .error .noRoom ↔ (i.stack t s).load = .error .noRoom :=
  Stack.load_eq_noRoom_orders (i.stack t s) s.startOrders

theorem run_of_noRoom (h : (i.stack t s).load = .error .noRoom) :
    i.run t s = { code := stoppedCode, files := t } := by
  rw [run, startStack_load_eq_noRoom_iff.2 h]

theorem run_of_room (h : (i.stack t s).load ≠ .error .noRoom) :
    i.run t s = i.runLoaded t s (i.startStack t s).load := by
  rw [run]
  split
  · rename_i hstart
    exact absurd (startStack_load_eq_noRoom_iff.1 hstart) h
  · rfl

/-- What the exit code of a run is. -/
theorem code_eq : ((i.stack t s).load = .error .noRoom ∧ (i.run t s).code = stoppedCode) ∨
    ((i.stack t s).load ≠ .error .noRoom ∧
      (i.run t s).code = if (i.perform t s).2.error.isSome then 1 else 0) := by
  by_cases h : (i.stack t s).load = .error .noRoom
  · rw [run_of_noRoom h]
    exact .inl ⟨h, rfl⟩
  · rw [run_of_room h]
    exact .inr ⟨h, rfl⟩

theorem code_eq_zero_iff : (i.run t s).code = 0 ↔
    (i.stack t s).load ≠ .error .noRoom ∧ (i.perform t s).2.error = none := by
  rcases code_eq (i := i) (t := t) (s := s) with ⟨hload, hcode⟩ | ⟨hload, hcode⟩
  · simp [hload, hcode, stoppedCode]
  · rw [hcode]
    cases (i.perform t s).2.error <;> simp [hload]

theorem code_eq_one_iff : (i.run t s).code = 1 ↔
    (i.stack t s).load ≠ .error .noRoom ∧ (i.perform t s).2.error ≠ none := by
  rcases code_eq (i := i) (t := t) (s := s) with ⟨hload, hcode⟩ | ⟨hload, hcode⟩
  · simp [hload, hcode, stoppedCode]
  · rw [hcode]
    cases (i.perform t s).2.error <;> simp [hload]

theorem code_eq_stopped_iff :
    (i.run t s).code = stoppedCode ↔ (i.stack t s).load = .error .noRoom := by
  rcases code_eq (i := i) (t := t) (s := s) with ⟨hload, hcode⟩ | ⟨hload, hcode⟩
  · simp [hload, hcode]
  · rw [hcode]
    cases (i.perform t s).2.error <;> simp [hload, stoppedCode]

end AccessPolicy.Command.Invocation
