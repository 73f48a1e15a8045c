import Mathlib.Data.List.Basic
import Mathlib.Data.List.Infix

/-!
# Requests made one after the other

A program of requests is made in its order, up to the first one that is refused. Whoever
answers sees all that was sent before. Of a program only a prefix is carried out, and all of
it where nothing is refused.
-/

namespace RequestSequences

variable {R S ε : Type}

/-- The answer to a request after the ones already sent, `none` for success. -/
abbrev Answers (R ε : Type) := List R → R → Option ε

def perform (answers : Answers R ε) : List R → List R → Option ε × List R
  | [], sent => (none, sent)
  | next :: program, sent =>
    match answers sent next with
    | some error => (some error, sent ++ [next])
    | none => perform answers program (sent ++ [next])

/-- Those of the later requests that were accepted. -/
def accepted (answers : Answers R ε) : List R → List R → List R
  | _, [] => []
  | sent, next :: more =>
    (if (answers sent next).isNone then [next] else []) ++ accepted answers (sent ++ [next]) more

variable {answers : Answers R ε}

@[simp] theorem perform_nil (sent : List R) : perform answers [] sent = (none, sent) := rfl

theorem perform_cons (next : R) (program sent : List R) :
    perform answers (next :: program) sent =
      match answers sent next with
      | some error => (some error, sent ++ [next])
      | none => perform answers program (sent ++ [next]) := rfl

/-- A program behind another one is made where the first one was. -/
theorem perform_append (program later sent : List R) :
    perform answers (program ++ later) sent =
      match perform answers program sent with
      | (some error, sent) => (some error, sent)
      | (none, sent) => perform answers later sent := by
  induction program generalizing sent with
  | nil => rfl
  | cons next program ih =>
    rw [List.cons_append, perform_cons, perform_cons]
    cases answers sent next with
    | some error => rfl
    | none => exact ih (sent ++ [next])

theorem accepted_append (sent more later : List R) :
    accepted answers sent (more ++ later) =
      accepted answers sent more ++ accepted answers (sent ++ more) later := by
  induction more generalizing sent with
  | nil => simp [accepted]
  | cons next more ih =>
    simp only [List.cons_append, accepted, ih, List.append_assoc, List.nil_append]

/-- What is carried out of a program is a prefix of it, and the whole where nothing is
refused. -/
theorem perform_spec (answers : Answers R ε) (program sent : List R) :
    ∃ made, (perform answers program sent).2 = sent ++ made ∧
      accepted answers sent made <+: program ∧
      ((perform answers program sent).1 = none → accepted answers sent made = program) := by
  induction program generalizing sent with
  | nil => exact ⟨[], by simp, by simp [accepted], fun _ => rfl⟩
  | cons next program ih =>
    rw [perform_cons]
    cases hanswer : answers sent next with
    | some error => exact ⟨[next], rfl, by simp [accepted, hanswer], fun h => by cases h⟩
    | none =>
      obtain ⟨made, hmade, hprefixed, hwhole⟩ := ih (sent ++ [next])
      refine ⟨next :: made, by simp [hmade], ?_, fun hnone => ?_⟩
      · simpa [accepted, hanswer] using hprefixed
      · simpa [accepted, hanswer] using hwhole hnone

/-- Requests of one kind among those of another are made as among themselves. -/
theorem perform_map (answers : Answers R ε) (f : S → R) (program more : List S)
    (sent : List R) :
    perform answers (program.map f) (sent ++ more.map f) =
      ((perform (fun more next => answers (sent ++ more.map f) (f next)) program more).1,
        sent ++ (perform (fun more next => answers (sent ++ more.map f) (f next)) program
          more).2.map f) := by
  induction program generalizing more with
  | nil => rfl
  | cons next program ih =>
    rw [List.map_cons, perform_cons, perform_cons]
    cases answers (sent ++ more.map f) (f next) with
    | some error => simp
    | none => simpa using ih (more ++ [next])

end RequestSequences
