import Mathlib.Data.List.Basic

/-!
# Requests in an output buffer

A client puts requests into a buffer. They reach the server in their order when the buffer is
written out, and all of them before the client waits for an answer. What the server holds is
followed through the requests that are still under way.
-/

namespace BufferedRequests

variable {S R A ε H : Type}

/-- The server answers a request, or the connection is lost over it. -/
abbrev Serve (S R A ε : Type) := R → S → Except ε A × S

structure Connection (S R ε : Type) where
  server : S
  queued : List R := []
  error : Option ε := none

/-- The requests reach the server up to the one over which the connection is lost. -/
def carryOut (serve : Serve S R A ε) : List R → S → Option ε × S
  | [], server => (none, server)
  | request :: rest, server =>
    match serve request server with
    | (.error error, server) => (some error, server)
    | (.ok _, server) => carryOut serve rest server

namespace Connection

def queue (request : R) (connection : Connection S R ε) : Connection S R ε :=
  { connection with queued := connection.queued ++ [request] }

/-- So many of the queued requests go out. On a lost connection nothing does. -/
def write (serve : Serve S R A ε) (count : Nat) (connection : Connection S R ε) :
    Connection S R ε :=
  match connection.error with
  | some _ => connection
  | none =>
    let result := carryOut serve (connection.queued.take count) connection.server
    { server := result.2, queued := connection.queued.drop count, error := result.1 }

def flush (serve : Serve S R A ε) (connection : Connection S R ε) : Connection S R ε :=
  connection.write serve connection.queued.length

/-- What is queued goes out first. -/
def ask (serve : Serve S R A ε) (request : R) (connection : Connection S R ε) :
    Option A × Connection S R ε :=
  let connection := connection.flush serve
  match connection.error with
  | some _ => (none, connection)
  | none =>
    match serve request connection.server with
    | (.error error, server) => (none, { connection with server, error := some error })
    | (.ok answer, server) => (some answer, { connection with server })

end Connection

/-! ### What the server holds -/

section Held

variable (serve : Serve S R A ε) (held : S → H)

/-- Whatever the answer is, the request takes the server from the one to the other. -/
def Leads (request : R) (before after : H) : Prop :=
  ∀ server answer server', held server = before → serve request server = (.ok answer, server') →
    held server' = after

/-- The requests take the server from the one to the other, and `P` holds all the way. -/
inductive LeadThrough (P : H → Prop) : List R → H → H → Prop
  | nil {here : H} (h : P here) : LeadThrough P [] here here
  | cons {request : R} {rest : List R} {before between after : H} (h : P before)
      (first : Leads serve held request before between)
      (later : LeadThrough P rest between after) : LeadThrough P (request :: rest) before after

/-- Unless the connection is lost, the server holds `after` once all that is queued is out, and
something with `P` until then. -/
def Settles (P : H → Prop) (after : H) (connection : Connection S R ε) : Prop :=
  connection.error = none →
    LeadThrough serve held P connection.queued (held connection.server) after

end Held

variable {serve : Serve S R A ε} {held : S → H} {P Q : H → Prop} {request : R}
  {requests : List R} {before after here : H} {connection connection' : Connection S R ε}

namespace LeadThrough

theorem now (h : LeadThrough serve held P requests before after) : P before := by
  cases h with
  | nil h => exact h
  | cons h _ _ => exact h

theorem snoc (h : LeadThrough serve held P requests before here)
    (hlast : Leads serve held request here after) (hafter : P after) :
    LeadThrough serve held P (requests ++ [request]) before after := by
  induction h with
  | nil h => exact .cons h hlast (.nil hafter)
  | cons h first _ ih => exact .cons h first (ih hlast)

theorem mono (h : LeadThrough serve held P requests before after) (himp : ∀ here, P here → Q here) :
    LeadThrough serve held Q requests before after := by
  induction h with
  | nil h => exact .nil (himp _ h)
  | cons h first _ ih => exact .cons (himp _ h) first ih

/-- What is left under way after some of the requests went out. -/
theorem carryOut {server server' : S} (h : LeadThrough serve held P requests (held server) after)
    (count : Nat) (hout : carryOut serve (requests.take count) server = (none, server')) :
    LeadThrough serve held P (requests.drop count) (held server') after := by
  induction requests generalizing server count with
  | nil =>
    rw [List.take_nil] at hout
    cases hout
    rw [List.drop_nil]
    exact h
  | cons request rest ih =>
    cases count with
    | zero =>
      cases hout
      exact h
    | succ count =>
      cases h with
      | cons _ first later =>
        rw [List.take_succ_cons, BufferedRequests.carryOut] at hout
        rcases hserved : serve request server with ⟨error | answer, between⟩
        · rw [hserved] at hout
          cases hout
        · rw [hserved] at hout
          rw [← first server answer between rfl hserved] at later
          exact ih later count hout

end LeadThrough

namespace Settles

theorem queue (h : Settles serve held P here connection)
    (hlast : Leads serve held request here after)
    (hafter : P after) : Settles serve held P after (connection.queue request) :=
  fun hopen => (h hopen).snoc hlast hafter

theorem mono (h : Settles serve held P after connection) (himp : ∀ here, P here → Q here) :
    Settles serve held Q after connection :=
  fun hopen => (h hopen).mono himp

theorem write (h : Settles serve held P after connection) (count : Nat) :
    Settles serve held P after (connection.write serve count) := by
  intro hopen
  unfold Connection.write at hopen ⊢
  cases hlost : connection.error with
  | some error =>
    rw [hlost] at hopen
    exact absurd (hlost.symm.trans hopen) (Option.some_ne_none error)
  | none =>
    rw [hlost] at hopen
    exact (h hlost).carryOut count (Prod.ext hopen rfl)

/-- After a flush that did not lose the connection nothing is under way. -/
theorem flushed (h : Settles serve held P after connection)
    (hopen : (connection.flush serve).error = none) :
    (connection.flush serve).queued = [] ∧ held (connection.flush serve).server = after := by
  have hsettled := h.write connection.queued.length hopen
  have hempty : (connection.flush serve).queued = [] := by
    unfold Connection.flush Connection.write at hopen ⊢
    cases hlost : connection.error with
    | some error =>
      rw [hlost] at hopen
      exact absurd (hlost.symm.trans hopen) (Option.some_ne_none error)
    | none => exact List.drop_length
  rw [Connection.flush] at hempty ⊢
  rw [hempty] at hsettled
  refine ⟨hempty, ?_⟩
  generalize held (connection.write serve connection.queued.length).server = now at hsettled
  cases hsettled
  rfl

theorem flush (h : Settles serve held P after connection) (hafter : Q after) :
    Settles serve held Q after (connection.flush serve) := by
  intro hopen
  obtain ⟨hempty, hheld⟩ := h.flushed hopen
  rw [hempty, hheld]
  exact .nil hafter

/-- An answer comes from a server that has carried out all that was queued before. -/
theorem answered (h : Settles serve held P here connection) {answer : A}
    (hanswer : connection.ask serve request = (some answer, connection')) :
    ∃ server, held server = here ∧ serve request server = (.ok answer, connection'.server) ∧
      connection'.queued = [] := by
  unfold Connection.ask at hanswer
  dsimp only at hanswer
  cases hopen : (connection.flush serve).error with
  | some error =>
    rw [hopen] at hanswer
    cases hanswer
  | none =>
    rw [hopen] at hanswer
    obtain ⟨hempty, hheld⟩ := h.flushed hopen
    rcases hserved : serve request (connection.flush serve).server with ⟨error | found, server⟩
    · rw [hserved] at hanswer
      cases hanswer
    · rw [hserved] at hanswer
      cases hanswer
      exact ⟨_, hheld, hserved, hempty⟩

/-- Where the answer tells what the server holds, nothing else is under way. -/
theorem ask (h : Settles serve held P here connection)
    (hafter : Q after) (htells : ∀ server answer server', held server = here →
      (connection.ask serve request).1 = some answer →
      serve request server = (.ok answer, server') → held server' = after) :
    Settles serve held Q after (connection.ask serve request).2 := by
  intro hopen
  rcases hasked : connection.ask serve request with ⟨_ | answer, asked⟩
  · -- without an answer the connection is lost
    rw [hasked] at hopen
    unfold Connection.ask at hasked
    dsimp only at hasked
    split at hasked
    next error hlost =>
      cases hasked
      exact absurd (hlost.symm.trans hopen) (Option.some_ne_none error)
    next =>
      split at hasked
      · cases hasked
        cases hopen
      · cases hasked
  · obtain ⟨server, hheld, hserved, hempty⟩ := h.answered hasked
    have hnow := htells server answer asked.server hheld (by rw [hasked]) hserved
    rw [hempty, hnow]
    exact .nil hafter

end Settles

end BufferedRequests
