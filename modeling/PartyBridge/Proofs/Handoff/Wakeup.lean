import Mathlib.Algebra.BigOperators.Group.Finset.Basic
import Mathlib.Algebra.Order.BigOperators.Group.Finset
import Mathlib.Data.Fintype.BigOperators
import PartyBridge.Proofs.Handoff.Callers
import PartyBridge.Proofs.Run

/-!
# No parked receiver is forgotten

While the queue is open, each value in it that a parked receiver might take is matched by a caller that
is about to tell somebody or by a receiver that is about to look again. Once it is closed, the caller
that closed it first is about to tell everybody, or nobody is parked (`run_wakeful`).
-/

namespace PartyBridge.Handoff

variable {ι : Type}

/-- Callers that stand for one value: it will be told of, or looked for. -/
def Phase.credit : Phase → Nat
  | .roused _ | .telling .one => 1
  | .away | .called _ | .parked _ | .telling .all => 0

/-- The number of values that will be told of or looked for. -/
def State.credit [Fintype ι] (s : State ι) : Nat :=
  ∑ t, (s.phase t).credit

structure Wakeful [Fintype ι] (s : State ι) : Prop where
  values : ∀ t wait, s.phase t = .parked wait → s.queue.closed = none →
    s.queue.items.length ≤ s.credit
  close : ∀ t wait, s.phase t = .parked wait → s.queue.closed ≠ none →
    ∃ u, s.phase u = .telling .all

variable [DecidableEq ι]

theorem credit_enter [Fintype ι] (s : State ι) (t : ι) (phase : Phase) :
    (s.enter t phase).credit + (s.phase t).credit = s.credit + phase.credit := by
  unfold State.credit
  rw [← Finset.add_sum_erase _ _ (Finset.mem_univ t),
    ← Finset.add_sum_erase _ (fun u => (s.phase u).credit) (Finset.mem_univ t)]
  have others : ∑ u ∈ Finset.univ.erase t, ((s.enter t phase).phase u).credit =
      ∑ u ∈ Finset.univ.erase t, (s.phase u).credit := by
    apply Finset.sum_congr rfl
    intro u member
    simp [State.enter, Finset.ne_of_mem_erase member]
  rw [others]
  simp only [State.enter, Function.update_self]
  omega

theorem enter_parked {s : State ι} {t u : ι} {phase : Phase} {wait : Wait}
    (parked : (s.enter t phase).phase u = .parked wait) :
    (u = t ∧ phase = .parked wait) ∨ (u ≠ t ∧ s.phase u = .parked wait) := by
  by_cases same : u = t
  · subst u
    exact .inl ⟨rfl, by simpa [State.enter] using parked⟩
  · exact .inr ⟨same, by simpa [State.enter, same] using parked⟩

theorem enter_telling {s : State ι} {t u : ι} {phase : Phase} (telling : s.phase u = .telling .all)
    (other : s.phase t ≠ .telling .all) : (s.enter t phase).phase u = .telling .all := by
  have different : u ≠ t := by
    rintro rfl
    exact other telling
  simpa [State.enter, different] using telling

/-! ### Moves -/

section Moves
omit [DecidableEq ι]
variable {t : ι} {q q' : ValueQueue} {now : Nat} {p p' : Phase} {e : Option (Event ι)}

theorem move_closed (move : Move t q now p e q' p') (opened : q'.closed = none) : q.closed = none := by
  have effect := move_effect move
  unfold Effect at effect
  split at effect
  all_goals simp_all

theorem move_credit (move : Move t q now p e q' p') (opened : q'.closed = none) :
    q'.items = [] ∨ q'.items.length + p.credit ≤ q.items.length + p'.credit := by
  have before := move_closed move opened
  have effect := move_effect move
  cases move with
  | @push v _ taken done =>
    cases taken with
    | false => exact absurd before effect.1
    | true =>
      right
      simp [effect.2, Phase.credit]
  | @close reason _ first done =>
    cases first with
    | false => exact absurd before effect.1
    | true => simp [effect.2] at opened
  | call timeout =>
    right
    simp [Phase.credit]
  | @take _ wait result _ ready found =>
    have one : p.credit ≤ 1 := by rcases ready with rfl | rfl <;> simp [Phase.credit]
    obtain ⟨v, -, rfl⟩ | ⟨reason, -, rfl, -⟩ | ⟨-, -, -, -, -, rfl, rfl⟩ | ⟨-, rfl, rfl⟩ :=
      look_cases found
    · right
      rw [List.length_cons, show Phase.away.credit = 0 from rfl]
      omega
    · cases before
    · exact .inl rfl
    · exact .inl rfl
  | park ready found =>
    obtain ⟨v, given, -⟩ | ⟨reason, given, -⟩ | ⟨since, nanos, given, -⟩ | ⟨-, rfl, rfl⟩ :=
      look_cases found
    all_goals first | cases given | exact .inl rfl
  | wake =>
    right
    simp [Phase.credit]
  | @tryPop result _ done =>
    cases result with
    | none => exact .inl (effect.2 ▸ effect.1)
    | some v =>
      right
      simp [show q = _ from effect, Phase.credit]
  | count | ask => exact .inr le_rfl

theorem move_parked {wait : Wait} (move : Move t q now p e q' p') (parked : p' = .parked wait) :
    q' = .empty := by
  cases move with
  | @push v _ taken done => cases taken <;> cases parked
  | @close reason _ first done => cases first <;> cases parked
  | park ready found =>
    obtain ⟨v, given, -⟩ | ⟨reason, given, -⟩ | ⟨since, nanos, given, -⟩ | ⟨-, rfl, rfl⟩ :=
      look_cases found
    all_goals first | cases given | rfl
  | _ => cases parked

theorem move_closes (move : Move t q now p e q' p') (opened : q.closed = none)
    (closed : q'.closed ≠ none) : p' = .telling .all := by
  have effect := move_effect move
  cases move with
  | @push v _ taken done => cases taken <;> simp_all [Effect]
  | @close reason _ first done => cases first <;> simp_all [Effect]
  | @take _ wait result _ ready found =>
    obtain ⟨v, -, rfl⟩ | ⟨reason, -, rfl, -⟩ | ⟨-, -, -, -, -, rfl, rfl⟩ | ⟨-, rfl, rfl⟩ :=
      look_cases found
    all_goals contradiction
  | @tryPop result _ done => cases result <;> simp_all [Effect]
  | _ => simp_all [Effect]

theorem move_not_telling {audience : Audience} (move : Move t q now p e q' p') :
    p ≠ .telling audience := by
  rintro rfl
  cases move with
  | take ready found | park ready found => rcases ready with ready | ready <;> cases ready

end Moves

/-! ### Steps and runs -/

omit [DecidableEq ι] in
theorem wakeful_nobody [Fintype ι] {s : State ι} (nobody : ∀ t wait, s.phase t ≠ .parked wait) :
    Wakeful s :=
  ⟨fun t wait parked => absurd parked (nobody t wait),
    fun t wait parked => absurd parked (nobody t wait)⟩

theorem step_wakeful [Fintype ι] {s s' : State ι} {e : Option (Event ι)} (wakeful : Wakeful s)
    (step : Step s e s') : Wakeful s' := by
  obtain ⟨values, close⟩ := wakeful
  cases step with
  | @move t _ queue phase move =>
    constructor
    · intro u wait parked opened
      rcases enter_parked parked with ⟨rfl, here⟩ | ⟨-, there⟩
      · simp [move_parked move here, ValueQueue.empty]
      · have bound := values u wait there (move_closed move opened)
        have moved := credit_enter s t phase
        rcases move_credit move opened with empty | less
        · simp [empty]
        · change queue.items.length ≤ (s.enter t phase).credit
          omega
    · intro u wait parked closed
      rcases enter_parked parked with ⟨rfl, here⟩ | ⟨-, there⟩
      · exact absurd (congrArg ValueQueue.closed (move_parked move here)) closed
      · by_cases opened : s.queue.closed = none
        · exact ⟨t, by simp [State.enter, move_closes move opened closed]⟩
        · obtain ⟨v, telling⟩ := close u wait there opened
          exact ⟨v, enter_telling telling (move_not_telling move)⟩
  | @tellNobody t telling nobody =>
    apply wakeful_nobody
    intro u wait parked
    rcases enter_parked parked with ⟨-, away⟩ | ⟨-, there⟩
    · cases away
    · exact nobody u wait there
  | @tellOne t u wait telling parked =>
    have different : t ≠ u := by
      rintro rfl
      rw [telling] at parked
      cases parked
    have speaker : (s.enter u (.roused wait)).phase t = .telling .one := by
      simpa [State.enter, different] using telling
    have remains : ∀ {v wait'}, ((s.enter u (.roused wait)).enter t .away).phase v = .parked wait' →
        s.phase v = .parked wait' := by
      intro v wait' parked'
      rcases enter_parked parked' with ⟨-, away⟩ | ⟨-, parked'⟩
      · cases away
      · rcases enter_parked parked' with ⟨-, roused⟩ | ⟨-, there⟩
        · cases roused
        · exact there
    constructor
    · intro v wait' parked' opened
      have bound := values v wait' (remains parked') opened
      have woken := credit_enter s u (.roused wait)
      have told := credit_enter (s.enter u (.roused wait)) t .away
      rw [parked] at woken
      rw [speaker] at told
      simp only [Phase.credit] at woken told
      change s.queue.items.length ≤ _
      omega
    · intro v wait' parked' closed
      obtain ⟨w, teller⟩ := close v wait' (remains parked') closed
      refine ⟨w, enter_telling (enter_telling teller ?_) ?_⟩
      · simp [parked]
      · simp [speaker]
  | @tellAll t telling =>
    apply wakeful_nobody
    intro u wait parked
    rcases enter_parked parked with ⟨-, away⟩ | ⟨-, there⟩
    · cases away
    · exact Phase.rouse_ne_parked _ _ there
  | pass nanos => exact ⟨values, close⟩

theorem run_wakeful [Fintype ι] {h : List (Event ι)} {s : State ι} (run : Run Step start h s) :
    Wakeful s := by
  induction run with
  | refl => exact wakeful_nobody (by simp [start])
  | tail _ step ih => exact step_wakeful ih step

/-! ### Quiet states -/

/-- Nobody is about to tell others of a change. -/
def Told (s : State ι) : Prop :=
  ∀ t audience, s.phase t ≠ .telling audience

/-- No woken receiver has yet to look again. -/
def Rested (s : State ι) : Prop :=
  ∀ t wait, s.phase t ≠ .roused wait

omit [DecidableEq ι] in
theorem wakeful_quiet [Fintype ι] {s : State ι} (wakeful : Wakeful s) (told : Told s)
    (rested : Rested s) {t : ι} {wait : Wait} (parked : s.phase t = .parked wait) :
    s.queue = .empty := by
  have none : s.credit = 0 := by
    apply Finset.sum_eq_zero
    intro u _
    cases phase : s.phase u with
    | roused wait => exact absurd phase (rested u wait)
    | telling audience => exact absurd phase (told u audience)
    | _ => rfl
  have opened : s.queue.closed = Option.none := by
    by_contra closed
    obtain ⟨u, telling⟩ := wakeful.close t wait parked closed
    exact told u .all telling
  have short := wakeful.values t wait parked opened
  have items : s.queue.items = [] := List.eq_nil_of_length_eq_zero (by omega)
  calc
    s.queue = ⟨s.queue.items, s.queue.closed⟩ := rfl
    _ = .empty := by rw [items, opened]; rfl

omit [DecidableEq ι] in
theorem wakeful_closed [Fintype ι] {s : State ι} (wakeful : Wakeful s) (told : Told s)
    (closed : s.queue.closed ≠ none) (t : ι) (wait : Wait) : s.phase t ≠ .parked wait := by
  intro parked
  obtain ⟨u, telling⟩ := wakeful.close t wait parked closed
  exact told u .all telling

end PartyBridge.Handoff
