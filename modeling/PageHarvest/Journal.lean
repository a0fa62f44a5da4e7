/-! # Journal entries

What the parts of the program write to the journal while they work: an entry names the part, a
level and a text.
-/

namespace PageHarvest

namespace Journal

/-- How much an entry matters. -/
inductive Level where
  | debug | info | warning | error | critical
  deriving DecidableEq, Inhabited

def Level.number : Level → Nat
  | .debug => 10
  | .info => 20
  | .warning => 30
  | .error => 40
  | .critical => 50

def Level.name : Level → String
  | .debug => "DEBUG"
  | .info => "INFO"
  | .warning => "WARNING"
  | .error => "ERROR"
  | .critical => "CRITICAL"

/-- The parts of the program that write entries. -/
inductive Source where
  | compiler | query | evaluator | populator | crawler | pipeline
  /-- Somebody who uses the program and writes to the same journal. -/
  | user (channel : String)
  deriving DecidableEq, Inhabited

def Source.name : Source → String
  | .compiler => "pathcrawl.core.compiler"
  | .query => "pathcrawl.core.query"
  | .evaluator => "pathcrawl.core.evaluator"
  | .populator => "pathcrawl.core.populator"
  | .crawler => "pathcrawl.core.crawler"
  | .pipeline => "pathcrawl.pipeline"
  | .user channel => channel

/-- One entry. -/
structure Entry where
  source : Source
  level : Level
  text : String
  deriving DecidableEq, Inhabited

def Entry.line (mark : String) (entry : Entry) : String :=
  entry.source.name ++ mark ++ entry.level.name ++ mark ++ entry.text

end Journal

end PageHarvest
