namespace Ratchet

/-!
# Computations that may fail

A computation of several steps fails exactly if one of its steps does, and with the
failure of the first one that does.
-/

theorem bind_eq_error_iff {α β ε : Type} {x : Except ε α} {f : α → Except ε β} {error : ε} :
    x >>= f = .error error ↔ x = .error error ∨ ∃ a, x = .ok a ∧ f a = .error error := by
  cases x <;> simp [bind, Except.bind]

theorem map_eq_error_iff {α β ε : Type} {x : Except ε α} {f : α → β} {error : ε} :
    x.map f = .error error ↔ x = .error error := by
  cases x <;> simp [Except.map]

theorem foldlM_eq_error_iff {α β ε : Type} {f : β → α → Except ε β} {items : List α} {first : β}
    {error : ε} :
    items.foldlM f first = .error error ↔ ∃ before item after mid,
      items = before ++ item :: after ∧ before.foldlM f first = .ok mid ∧
        f mid item = .error error := by
  constructor
  · intro fails
    induction items generalizing first with
    | nil => cases fails
    | cons item rest ih =>
      rw [List.foldlM_cons, bind_eq_error_iff] at fails
      rcases fails with here | ⟨next, made, fails⟩
      · exact ⟨[], item, rest, first, rfl, rfl, here⟩
      · rcases ih fails with ⟨before, other, after, mid, rfl, run, stops⟩
        refine ⟨item :: before, other, after, mid, rfl, ?_, stops⟩
        rw [List.foldlM_cons, made]
        exact run
  · rintro ⟨before, item, after, mid, rfl, run, stops⟩
    rw [List.foldlM_append, bind_eq_error_iff]
    exact Or.inr ⟨mid, run, by rw [List.foldlM_cons, stops]; rfl⟩

end Ratchet
