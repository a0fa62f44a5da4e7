import PageHarvest.Journal

/-! # Work that writes to the journal

A piece of work adds entries to the journal and gives a value or fails. What was written before a
failure stays written.
-/

namespace PageHarvest

/-- Work that may fail with an `ε` and writes to the journal on the way. -/
abbrev Logged (ε α : Type) := ExceptT ε (StateM (List Journal.Entry)) α

namespace Logged

variable {ε δ α : Type}

def note (entry : Journal.Entry) : Logged ε Unit :=
  modify (· ++ [entry])

def notes (entries : List Journal.Entry) : Logged ε Unit :=
  modify (· ++ entries)

/-- The outcome, and what was written on an empty journal. -/
def outcome (work : Logged ε α) : Except ε α × List Journal.Entry :=
  work.run.run []

/-- The same work with its failures seen differently. -/
def mapError (f : ε → δ) (work : Logged ε α) : Logged δ α := do
  match ← (work.run : StateM (List Journal.Entry) (Except ε α)) with
  | .ok value => return value
  | .error e => throw (f e)

end Logged

end PageHarvest
