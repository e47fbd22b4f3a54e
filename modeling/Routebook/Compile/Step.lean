import Routebook.Compile.Error
import Routebook.Event

/-!
# Steps of a compilation

* `Step` : what a part of a compilation leaves behind: a result, the registry and the reports made
  on the way;
* `Step.andThen` : one part after the other, up to the first that fails.
-/

namespace Routebook

/-- What a part of a compilation leaves behind. -/
structure Step (σ α : Type) where
  result : Except CompileError α
  table : σ
  events : List Event

namespace Step

variable {σ α β : Type}

/-- A result without change. -/
def done (a : α) (t : σ) : Step σ α := ⟨.ok a, t, []⟩

/-- A failure without change. -/
def fail (e : CompileError) (t : σ) : Step σ α := ⟨.error e, t, []⟩

/-- Goes on after a success; a failure stays. -/
def andThen (s : Step σ α) (f : α → σ → Step σ β) : Step σ β :=
  match s.result with
  | .error e => ⟨.error e, s.table, s.events⟩
  | .ok a =>
    let next := f a s.table
    ⟨next.result, next.table, s.events ++ next.events⟩

def check (r : Except CompileError α) (t : σ) (f : α → Step σ β) : Step σ β :=
  match r with
  | .error e => fail e t
  | .ok a => f a

def report (event : Event) (s : Step σ α) : Step σ α := { s with events := event :: s.events }

end Step

end Routebook
