import Mathlib.Logic.Basic
import Mathlib.Data.List.Basic

/-!
# Guarded runs of a partial step function

A system is a partial step function: `step s a = none` when the action is not
enabled. A run is grown at its end, and each of its steps has to satisfy a guard on
the state before, the action and the state after. Every prefix of a run is a run, so
what holds after each run holds in every state the run reaches.
-/

namespace TransitionRuns

universe u v w

variable {State : Type u} {Action : Type v} {step : State → Action → Option State}

/-- The guard that every step satisfies. -/
def unguarded : State → Action → State → Prop := fun _ _ _ => True

/-- Runs whose steps all satisfy the guard. -/
inductive Run (step : State → Action → Option State)
    (guard : State → Action → State → Prop) : State → List Action → State → Prop
  | refl (s : State) : Run step guard s [] s
  | tail {s t u : State} {as : List Action} {a : Action} (run : Run step guard s as t)
      (next : step t a = some u) (ok : guard t a u) : Run step guard s (as ++ [a]) u

namespace Run

variable {guard guard' : State → Action → State → Prop} {s t u : State} {as bs : List Action}

theorem one {a : Action} (h : step s a = some t) (hg : guard s a t) : Run step guard s [a] t :=
  .tail (.refl s) h hg

theorem trans (h : Run step guard s as t) (h' : Run step guard t bs u) :
    Run step guard s (as ++ bs) u := by
  induction h' with
  | refl => simpa using h
  | tail run next ok ih => simpa [List.append_assoc] using ih.tail next ok

theorem of_nil (h : Run step guard s [] t) : t = s := by
  generalize has : ([] : List Action) = as at h
  cases h with
  | refl => rfl
  | tail => simp at has

/-- The last step of a run, and the run before it. -/
theorem of_concat {a : Action} (h : Run step guard s (as ++ [a]) u) :
    ∃ t, Run step guard s as t ∧ step t a = some u ∧ guard t a u := by
  generalize has : as ++ [a] = bs at h
  cases h with
  | refl => simp at has
  | @tail t _ _ _ run next ok =>
    obtain ⟨rfl, hlast⟩ := List.append_inj' has rfl
    cases hlast
    exact ⟨t, run, next, ok⟩

/-- What one guarded step preserves, a whole guarded run preserves. -/
theorem invariant (I : State → Prop)
    (hstep : ∀ s a t, I s → guard s a t → step s a = some t → I t)
    (h : Run step guard s as t) (hs : I s) : I t := by
  induction h with
  | refl => exact hs
  | tail _ next ok ih => exact hstep _ _ _ ih ok next

/-- An invariant of the run may be used to replace the guard of its steps. -/
theorem strengthen (I : State → Prop)
    (hstep : ∀ s a t, I s → guard s a t → step s a = some t → I t)
    (himp : ∀ s a t, I s → guard s a t → step s a = some t → guard' s a t)
    (h : Run step guard s as t) (hs : I s) : Run step guard' s as t := by
  induction h with
  | refl => exact .refl _
  | tail run next ok ih => exact ih.tail next (himp _ _ _ (run.invariant I hstep hs) ok next)

/-- Guards that are the same where an invariant holds admit the same runs. -/
theorem guard_iff (I : State → Prop) (hs : I s)
    (hkeep : ∀ s a t, I s → guard s a t → step s a = some t → I t)
    (hguard : ∀ s a t, I s → step s a = some t → (guard s a t ↔ guard' s a t)) :
    Run step guard s as t ↔ Run step guard' s as t := by
  constructor
  · exact fun h => h.strengthen I hkeep (fun s a t hI hg hn => (hguard s a t hI hn).mp hg) hs
  · exact fun h => h.strengthen I
      (fun s a t hI hg hn => hkeep s a t hI ((hguard s a t hI hn).mpr hg) hn)
      (fun s a t hI hg hn => (hguard s a t hI hn).mpr hg) hs

theorem mono (himp : ∀ s a t, guard s a t → guard' s a t) (h : Run step guard s as t) :
    Run step guard' s as t :=
  h.strengthen (fun _ => True) (fun _ _ _ _ _ _ => trivial) (fun s a t _ hg _ => himp s a t hg)
    trivial

theorem forget (h : Run step guard s as t) : Run step unguarded s as t :=
  h.mono fun _ _ _ _ => trivial

end Run

/-- Execute the actions in order; `none` if one of them is not enabled or fails the check. -/
def execute (step : State → Action → Option State) (check : State → Action → State → Bool) :
    State → List Action → Option State
  | s, [] => some s
  | s, a :: as =>
    match step s a with
    | none => none
    | some t => if check s a t then execute step check t as else none

/-- An execution is a run: its checks establish the guard at every step. -/
theorem execute_run {check : State → Action → State → Bool}
    {guard : State → Action → State → Prop} (hcheck : ∀ s a t, check s a t = true → guard s a t)
    {as : List Action} {s t : State} (h : execute step check s as = some t) :
    Run step guard s as t := by
  induction as generalizing s with
  | nil =>
    obtain rfl : s = t := by simpa [execute] using h
    exact .refl s
  | cons a as ih =>
    cases hnext : step s a with
    | none => simp [execute, hnext] at h
    | some r =>
      by_cases hc : check s a r = true
      · have htail : Run step guard r as t := ih (by simpa [execute, hnext, hc] using h)
        simpa using (Run.one hnext (hcheck s a r hc)).trans htail
      · simp [execute, hnext, hc] at h

/-- A successful execution yields a run to a state with the tested property. -/
theorem exists_run_of_execute (step : State → Action → Option State)
    {guard : State → Action → State → Prop} (check : State → Action → State → Bool)
    (s : State) (as : List Action) (p : State → Bool)
    (hcheck : ∀ s a t, check s a t = true → guard s a t)
    (h : (execute step check s as).any p = true) : ∃ t, Run step guard s as t ∧ p t = true := by
  obtain ⟨t, ht, hp⟩ : ∃ t, execute step check s as = some t ∧ p t = true := by
    simpa [Option.any_eq_true] using h
  exact ⟨t, execute_run hcheck ht, hp⟩

section History

variable {History : Type w}

/-- A history variable along the actions: `record` sees each step's state before, its
action and the state after. -/
def history (step : State → Action → Option State)
    (record : State → Action → State → History → History) :
    State → List Action → History → History
  | _, [], past => past
  | s, a :: as, past =>
    match step s a with
    | none => past
    | some t => history step record t as (record s a t past)

variable {record : State → Action → State → History → History}
  {guard : State → Action → State → Prop}

/-- The history of a run and of what follows it composes. -/
theorem history_append {s t : State} {as : List Action} (h : Run step guard s as t)
    (past : History) (bs : List Action) :
    history step record s (as ++ bs) past =
      history step record t bs (history step record s as past) := by
  induction h generalizing bs with
  | refl => rfl
  | @tail t u as a _ next _ ih =>
    have hlast : history step record t (a :: bs) (history step record s as past) =
        history step record u bs (record t a u (history step record s as past)) := by
      simp [history, next]
    rw [List.append_assoc, List.singleton_append, ih, hlast, ih]
    simp [history, next]

/-- The last step of a run records on top of the history of the steps before it. -/
theorem history_tail {s t u : State} {as : List Action} {a : Action}
    (h : Run step guard s as t) (hnext : step t a = some u) (past : History) :
    history step record s (as ++ [a]) past = record t a u (history step record s as past) := by
  rw [history_append h]
  simp [history, hnext]

/-- A relation between a state and the history of the run that reached it. -/
theorem Run.history_invariant (R : State → History → Prop)
    (hstep : ∀ s a t past, R s past → guard s a t → step s a = some t → R t (record s a t past))
    {s t : State} {as : List Action} (h : Run step guard s as t) {past : History}
    (hs : R s past) : R t (history step record s as past) := by
  induction h with
  | refl => exact hs
  | tail run next ok ih =>
    rw [history_tail run next]
    exact hstep _ _ _ _ ih ok next

end History

section Stuttering

variable {next : State → Action → State} {stutters : State → Action → Bool}

/-- The actions of a total system without those that stutter where they are taken. -/
def unstuttered (next : State → Action → State) (stutters : State → Action → Bool) :
    State → List Action → List Action
  | _, [] => []
  | s, a :: as =>
    if stutters s a then unstuttered next stutters (next s a) as
    else a :: unstuttered next stutters (next s a) as

/-- Actions that change nothing where they are taken leave no trace in what follows. -/
theorem foldl_unstuttered (h : ∀ s a, stutters s a = true → next s a = s) (s : State)
    (as : List Action) : (unstuttered next stutters s as).foldl next s = as.foldl next s := by
  induction as generalizing s with
  | nil => rfl
  | cons a as ih =>
    rw [unstuttered, List.foldl_cons]
    split_ifs with hstutter
    · have hsame := h s a hstutter
      rw [hsame]
      exact ih s
    · rw [List.foldl_cons]
      exact ih (next s a)

/-- Action lists that differ in stuttering actions only end in the same state. -/
theorem foldl_eq_of_unstuttered_eq (h : ∀ s a, stutters s a = true → next s a = s) {s : State}
    {as bs : List Action}
    (heq : unstuttered next stutters s as = unstuttered next stutters s bs) :
    as.foldl next s = bs.foldl next s := by
  rw [← foldl_unstuttered h s as, heq, foldl_unstuttered h s bs]

end Stuttering

end TransitionRuns
