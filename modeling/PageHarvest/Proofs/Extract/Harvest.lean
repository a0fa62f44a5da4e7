import PageHarvest.Extract.Page

/-! # Whose record it is

Reading a document adds fields and values to a record and leaves alone where the document came from.
-/

namespace PageHarvest

namespace Logged

variable {ε α β : Type}

/-- Work in two parts that succeeds succeeds in both. -/
theorem bind_eq_ok {work : Logged ε α} {next : α → Logged ε β} {journal : List Journal.Entry}
    {result : β} (succeeds : ((work >>= next).run.run journal).1 = .ok result) :
    ∃ value, (work.run.run journal).1 = .ok value ∧
      ((next value).run.run (work.run.run journal).2).1 = .ok result := by
  rcases ran : work.run.run journal with ⟨fault | value, journal'⟩
  · rw [ExceptT.run_bind, StateT.run_bind, ran] at succeeds
    cases succeeds
  · rw [ExceptT.run_bind, StateT.run_bind, ran] at succeeds
    exact ⟨value, rfl, succeeds⟩

end Logged

variable {ε E : Type}

private theorem Engine.addPaths_url (engine : Engine (Logged ε) E) (document : E)
    (paths : List Path)
    (record : Record) (journal : List Journal.Entry) {result : Record}
    (succeeds : ((engine.addPaths document paths record).run.run journal).1 = .ok result) :
    result.url = record.url := by
  induction paths generalizing record journal with
  | nil =>
    cases succeeds
    rfl
  | cons path rest ih =>
    obtain ⟨read, _, others⟩ := Logged.bind_eq_ok succeeds
    exact ih (record.add read) _ others

/-- A record carries the address that it was asked for under. -/
theorem harvest_url {spec : SearchSpec} {url : Option String} {html : String} {record : Record}
    (harvested : (harvest spec url html).outcome.1 = .ok record) : record.url = url := by
  obtain ⟨fields, _, others⟩ := Logged.bind_eq_ok harvested
  exact Engine.addPaths_url _ _ _ _ _ others

end PageHarvest
