/-!
# Runs

A run is any number of steps one after another. Some steps have an event, and the events of a run stand
in the order in which they happened. `split` takes a run apart at one of its events.
-/

namespace PartyBridge

variable {σ ε : Type} {Step : σ → Option ε → σ → Prop}

inductive Run (Step : σ → Option ε → σ → Prop) (s : σ) : List ε → σ → Prop where
  | refl : Run Step s [] s
  | tail {h : List ε} {e : Option ε} {t u : σ} :
      Run Step s h t → Step t e u → Run Step s (h ++ e.toList) u

namespace Run

theorem quiet {s t u : σ} {h : List ε} (run : Run Step s h t) (step : Step t none u) :
    Run Step s h u := by
  simpa using run.tail step

theorem event {s t u : σ} {h : List ε} {e : ε} (run : Run Step s h t) (step : Step t (some e) u) :
    Run Step s (h ++ [e]) u :=
  run.tail step

theorem trans {s t u : σ} {h k : List ε} (first : Run Step s h t) (second : Run Step t k u) :
    Run Step s (h ++ k) u := by
  induction second with
  | refl => simpa using first
  | tail _ step ih =>
    rw [← List.append_assoc]
    exact ih.tail step

theorem forall_mem {P : ε → Prop} (each : ∀ {s e t}, Step s (some e) t → P e) {s t : σ} {h : List ε}
    (run : Run Step s h t) : ∀ e ∈ h, P e := by
  induction run with
  | refl => simp
  | tail _ step ih =>
    intro e member
    rcases List.mem_append.mp member with old | new
    · exact ih e old
    · cases Option.mem_toList.mp new
      exact each step

theorem split {s u : σ} {before after : List ε} {e : ε} (run : Run Step s (before ++ e :: after) u) :
    ∃ t t', Run Step s before t ∧ Step t (some e) t' ∧ Run Step t' after u := by
  generalize whole : before ++ e :: after = h at run
  induction run generalizing after with
  | refl => simp at whole
  | @tail h x t u run step ih =>
    cases x with
    | none =>
      rw [Option.toList_none, List.append_nil] at whole
      obtain ⟨t', t'', first, here, rest⟩ := ih whole
      exact ⟨t', t'', first, here, rest.quiet step⟩
    | some x =>
      rw [Option.toList_some] at whole
      rcases after.eq_nil_or_concat with rfl | ⟨front, last, rfl⟩
      · obtain ⟨rfl, same⟩ := List.append_inj' whole rfl
        cases same
        exact ⟨t, u, run, step, .refl⟩
      · rw [List.concat_eq_append, ← List.cons_append, ← List.append_assoc] at whole
        obtain ⟨earlier, same⟩ := List.append_inj' whole rfl
        cases same
        obtain ⟨t', t'', first, here, rest⟩ := ih earlier
        exact ⟨t', t'', first, here, by simpa using rest.event step⟩

end Run

end PartyBridge
