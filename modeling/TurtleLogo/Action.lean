/-
# `TurtleLogo.Action` — what acts on a state and writes the journal

An action ends with a result or a failure, and with a state and a journal
either way: a failure undoes nothing that was done before it.
-/
import TurtleLogo.Journal

namespace TurtleLogo

/-- A state together with the journal. -/
structure Scene (σ : Type) where
  state : σ
  journal : Journal

/-- The scene after one more event. -/
def Scene.write {σ : Type} (s : Scene σ) (e : Event) : Scene σ :=
  { s with journal := e :: s.journal }

/-- Something that acts on a state and writes the journal. -/
def Action (σ α : Type) : Type :=
  Scene σ → Reply α × Scene σ

namespace Action

variable {σ τ α β : Type}

protected def pure (a : α) : Action σ α :=
  fun s => (.ok a, s)

protected def bind (x : Action σ α) (f : α → Action σ β) : Action σ β := fun s =>
  match x s with
  | (.ok a, s) => f a s
  | (.error e, s) => (.error e, s)

instance : Monad (Action σ) where
  pure := Action.pure
  bind := Action.bind

def fail (f : Failure) : Action σ α :=
  fun s => (.error f, s)

/-- A result known beforehand. -/
def lift (r : Reply α) : Action σ α :=
  fun s => (r, s)

def get : Action σ σ :=
  fun s => (.ok s.state, s)

def modify (f : σ → σ) : Action σ Unit :=
  fun s => (.ok (), { s with state := f s.state })

def emit (e : Event) : Action σ Unit :=
  fun s => (.ok (), s.write e)

def note (n : Log.Note) : Action σ Unit :=
  emit (.noted n)

/-- Pauses, as a robot does.  What it sleeps by is presumed to return, whatever the delay; a clock
would refuse one that is negative or that it cannot measure. -/
def pause (seconds : Quantity) : Action σ Unit :=
  emit (.paused seconds)

/-- Does one thing and then another whatever became of the first.  The failure of the second
hides that of the first. -/
def ensuring (x : Action σ α) (y : Action σ Unit) : Action σ α := fun s =>
  match x s with
  | (r, s) =>
    match y s with
    | (.ok (), s) => (r, s)
    | (.error e, s) => (.error e, s)

/-- Looks at the result of an action and changes its failure. -/
def mapFailure (f : Failure → Failure) (x : Action σ α) : Action σ α := fun s =>
  match x s with
  | (.ok a, s) => (.ok a, s)
  | (.error e, s) => (.error (f e), s)

/-- Turns a reported error into the action that answers it.  Defects are not caught. -/
def recover (x : Action σ α) (answer : LogoError → Action σ α) : Action σ α := fun s =>
  match x s with
  | (.error (.error e), s) => answer e s
  | other => other

/-- Cleans up after a reported error, which stays the outcome unless cleaning up fails too. -/
def cleaning (x : Action σ α) (cleanup : LogoError → Action σ Unit) : Action σ α :=
  recover x fun e => Action.bind (cleanup e) fun _ => fail (.error e)

def onFst (x : Action σ α) : Action (σ × τ) α := fun s =>
  match x ⟨s.state.1, s.journal⟩ with
  | (r, s') => (r, ⟨(s'.state, s.state.2), s'.journal⟩)

def onSnd (x : Action τ α) : Action (σ × τ) α := fun s =>
  match x ⟨s.state.2, s.journal⟩ with
  | (r, s') => (r, ⟨(s.state.1, s'.state), s'.journal⟩)

/-- Acts on something of its own, apart from the state. -/
def apart (t : τ) (x : Action τ α) : Action σ α := fun s =>
  match x ⟨t, s.journal⟩ with
  | (r, s') => (r, ⟨s.state, s'.journal⟩)

end Action

end TurtleLogo
