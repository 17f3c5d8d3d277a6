/-! # A history seen from its end

    What holds after a history is shown by induction on the history FROM ITS
    END: the last event is looked at, where the state before it is known.  A
    history that is split at one of its events is then split at the last one, or
    the last one is the last of those that follow (`concat_eq_append_cons_iff`). -/

namespace Dossier

variable {α : Type} {before since history : List α} {event last : α}

theorem append_cons_ne_nil : before ++ event :: since ≠ [] :=
  List.append_ne_nil_of_right_ne_nil before (List.cons_ne_nil event since)

/-- The event at which a history is split is the last one, or it comes
    earlier. -/
theorem concat_eq_append_cons_iff : history ++ [last] = before ++ event :: since ↔
    (since = [] ∧ history = before ∧ last = event) ∨
      ∃ others, since = others ++ [last] ∧ history = before ++ event :: others := by
  constructor
  · intro h
    rcases List.eq_nil_or_concat since with rfl | ⟨others, final, rfl⟩
    · obtain ⟨hhistory, hlast⟩ := List.append_inj' h rfl
      exact .inl ⟨rfl, hhistory, List.singleton_inj.mp hlast⟩
    · rw [List.concat_eq_append, ← List.cons_append, ← List.append_assoc] at h
      obtain ⟨hhistory, hlast⟩ := List.append_inj' h rfl
      obtain rfl := List.singleton_inj.mp hlast
      exact .inr ⟨others, List.concat_eq_append, hhistory⟩
  · rintro (⟨rfl, rfl, rfl⟩ | ⟨others, rfl, rfl⟩)
    · rfl
    · rw [List.append_assoc, List.cons_append]

end Dossier
