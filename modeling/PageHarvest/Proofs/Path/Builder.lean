import PageHarvest.Path.Builder
import PageHarvest.Proofs.Path.Data

/-! # What a builder builds

A builder is called again and again, and some of the calls are refused. It holds the steps of the
calls that were accepted, in their order and nothing else, and building neither adds nor takes away,
whether it gives a path or not. So a path can be built at any time, and what is built is told by the
calls before.
-/

namespace PageHarvest

open Validate Validate.Checked

/-! ## Steps that are no path -/

/-- Whether a step starts a path. -/
def LooseStep.isStart : LooseStep → Bool
  | .start _ => true
  | .later _ => false

/-- What is wrong with the order of steps: they have no start in front, or another one behind it. -/
inductive PathFault.Of : List LooseStep → PathFault → Prop where
  | missing {first : LooseStep} {rest : List LooseStep} (later : first.isStart = false) :
    Of (first :: rest) .startMissing
  | repeated {first again : LooseStep} {rest : List LooseStep} (start : first.isStart = true)
    (behind : again ∈ rest) (restart : again.isStart = true) : Of (first :: rest) .startRepeated

namespace Path

private theorem laterSteps?_eq_error_iff {steps : List LooseStep} {fault : PathFault} :
    laterSteps? steps = .error fault ↔
      fault = .startRepeated ∧ ∃ step ∈ steps, step.isStart = true := by
  induction steps with
  | nil => exact ⟨nofun, fun ⟨_, _, member, _⟩ => absurd member List.not_mem_nil⟩
  | cons first rest ih =>
    cases first with
    | start anchor =>
      constructor
      · intro refused
        cases refused
        exact ⟨rfl, .start anchor, List.mem_cons_self, rfl⟩
      · rintro ⟨rfl, -⟩
        rfl
    | later step =>
      have others : (∃ one ∈ .later step :: rest, one.isStart = true) ↔
          ∃ one ∈ rest, one.isStart = true := by simp [LooseStep.isStart]
      rw [others, ← ih, laterSteps?]
      cases laterSteps? rest <;> simp [Except.map]

/-- Loose steps form no path exactly for one of the reasons that the fault tells. -/
private theorem ofSteps?_eq_error_iff {steps : List LooseStep} {fault : PathFault} :
    ofSteps? steps = .error fault ↔ PathFault.Of steps fault := by
  match steps with
  | [] => exact ⟨nofun, nofun⟩
  | .later step :: rest =>
    constructor
    · intro refused
      cases refused
      exact .missing rfl
    · rintro (_ | ⟨start, -, -⟩)
      · rfl
      · cases start
  | .start anchor :: rest =>
    have same : ofSteps? (.start anchor :: rest) = .error fault ↔
        laterSteps? rest = .error fault := by
      rw [ofSteps?]
      cases laterSteps? rest <;> simp [Except.map]
    rw [same, laterSteps?_eq_error_iff]
    constructor
    · rintro ⟨rfl, again, behind, restart⟩
      exact .repeated rfl behind restart
    · rintro (later | ⟨-, behind, restart⟩)
      · cases later
      · exact ⟨rfl, _, behind, restart⟩

end Path

namespace PathBuilder

/-! ## Calls of a builder -/

/-- What a builder can be called for. -/
inductive Call where
  | start (query : String) (index : Int)
  | descend (query : String) (index : Int)
  | populate (fields : FieldMap FieldSpec)
  | populateOne (name query : String) (selection : Selection) (target : Target)
  | findOne (query : String) (index : Int) (target : Target)
  | findAll (query delimiter : String) (target : Target)
  | build
  deriving DecidableEq, Inhabited

/-- Work on a builder that is kept in one place, and may be refused in the middle of it. -/
abbrev Building (α : Type) := ExceptT Invalid (StateM PathBuilder) α

/-- Puts another builder in the place of the one that is there. -/
def become (next : PathBuilder → Except Invalid PathBuilder) : Building (Option Path) := do
  match next (← get) with
  | .ok builder =>
    set builder
    return none
  | .error invalid => throw invalid

/-- Carries a call out; the path that it gives, if it is one for building. -/
def Call.perform : Call → Building (Option Path)
  | .start query index => become (·.start query index)
  | .descend query index => become (·.descend query index)
  | .populate fields => become fun builder => .ok (builder.populate fields)
  | .populateOne name query selection target =>
    become fun builder => .ok (builder.populateOne name query selection target)
  | .findOne query index target => become (·.findOne query index target)
  | .findAll query delimiter target =>
    become fun builder => .ok (builder.findAll query delimiter target)
  | .build => do
    match (← get).build with
    | .ok path => return some path
    | .error invalid => throw invalid

/-- The answer to a call, and the builder after it. -/
def respond (builder : PathBuilder) (call : Call) : Except Invalid (Option Path) × PathBuilder :=
  call.perform.run.run builder

/-- The builder after calls one after the other, whatever the answers. -/
def after (builder : PathBuilder) : List Call → PathBuilder
  | [] => builder
  | call :: rest => (builder.respond call).2.after rest

namespace Call

/-- The position that a call asks for. -/
def index? : Call → Option Int
  | .start _ index | .descend _ index | .findOne _ index _ => some index
  | .populate _ | .populateOne .. | .findAll .. | .build => none

/-- The step that a call stands for, unless its position is below zero. -/
def step? : Call → Option LooseStep
  | .start query index => if index < 0 then none else some (.start ⟨query, index.toNat⟩)
  | .descend query index =>
    if index < 0 then none else some (.later (.descend ⟨query, index.toNat⟩))
  | .populate fields => some (.later (.populate fields))
  | .populateOne name query selection target =>
    some (.later (.populate (.single name ⟨⟨query, selection⟩, target⟩)))
  | .findOne query index target =>
    if index < 0 then none else some (.later (.find ⟨⟨query, .single index.toNat⟩, target⟩))
  | .findAll query delimiter target => some (.later (.find ⟨⟨query, .all delimiter⟩, target⟩))
  | .build => none

end Call

/-- The refusal of a position below zero. -/
def belowZero : Invalid := ⟨"Single", [⟨[.name "index"], .atLeast 0⟩]⟩

/-- The refusal of steps that are no path. -/
def noPath (fault : PathFault) : Invalid := ⟨"Path", [⟨[], .refused fault.message⟩]⟩

/-! ## One call -/

section

variable {builder other : PathBuilder} {next : PathBuilder → Except Invalid PathBuilder}
  {invalid : Invalid} {index : Int} {call : Call} {step : LooseStep}

/-- A refusal comes before anything is put in place. -/
theorem run_become : (become next).run.run builder =
    match next builder with
    | .ok other => (.ok none, other)
    | .error invalid => (.error invalid, builder) := by
  change StateT.run (ExceptT.run (match next builder with
    | .ok other => (do set other; return none : Building (Option Path))
    | .error invalid => throw invalid)) builder = _
  cases next builder with
  | ok other => rfl
  | error invalid => rfl

private theorem respond_build : builder.respond .build = (builder.build.map some, builder) := by
  change StateT.run (ExceptT.run (match builder.build with
    | .ok path => (return some path : Building (Option Path))
    | .error invalid => throw invalid)) builder = _
  cases builder.build with
  | ok path => rfl
  | error invalid => rfl

private theorem position_eq (index : Int) :
    (integerFrom 0 (.int index)).under (.name "index") =
      if index < 0 then .unsound [⟨[.name "index"], .atLeast 0⟩] else .sound index := by
  rw [integerFrom]
  split
  · have bound : ¬ 0 ≤ index := by omega
    simp [integer, andThen, bound, fail, under]
  · have bound : 0 ≤ index := by omega
    simp [integer, andThen, bound, under]

private theorem start_eq (builder : PathBuilder) (query : String) (index : Int) :
    builder.start query index =
      if index < 0 then .error belowZero
      else .ok (builder.add (.start ⟨query, index.toNat⟩)) := by
  rw [start, Anchor.ofIndex, position_eq]
  by_cases below : index < 0
  · rw [if_pos below, if_pos below]
    rfl
  · rw [if_neg below, if_neg below]
    rfl

private theorem descend_eq (builder : PathBuilder) (query : String) (index : Int) :
    builder.descend query index =
      if index < 0 then .error belowZero
      else .ok (builder.add (.later (.descend ⟨query, index.toNat⟩))) := by
  rw [descend, Anchor.ofIndex, position_eq]
  by_cases below : index < 0
  · rw [if_pos below, if_pos below]
    rfl
  · rw [if_neg below, if_neg below]
    rfl

private theorem findOne_eq (builder : PathBuilder) (query : String) (index : Int)
    (target : Target) :
    builder.findOne query index target =
      if index < 0 then .error belowZero
      else .ok (builder.add (.later (.find ⟨⟨query, .single index.toNat⟩, target⟩))) := by
  rw [findOne, Selection.ofIndex, position_eq]
  by_cases below : index < 0
  · rw [if_pos below, if_pos below]
    rfl
  · rw [if_neg below, if_neg below]
    rfl

/-- What a builder does with a call, by what the call stands for. -/
inductive Responds (builder : PathBuilder) (call : Call) : Prop where
  | builds (isBuild : call = .build)
    (responds : builder.respond call = (builder.build.map some, builder))
  | refuses (below : ∃ index ∈ call.index?, index < 0) (none : call.step? = none)
    (responds : builder.respond call = (.error belowZero, builder))
  | adds (step : LooseStep) (within : ∀ index ∈ call.index?, 0 ≤ index)
    (some : call.step? = some step)
    (responds : builder.respond call = (.ok none, builder.add step))

private theorem responds_at (performs : call.perform = become next)
    (asks : call.index? = some index)
    (stands : call.step? = if index < 0 then none else some step)
    (grows : next builder = if index < 0 then .error belowZero else .ok (builder.add step)) :
    Responds builder call := by
  have responds : builder.respond call = (become next).run.run builder := by
    rw [respond, performs]
  rw [run_become, grows] at responds
  by_cases below : index < 0
  · rw [if_pos below] at stands responds
    exact .refuses ⟨index, asks, below⟩ stands responds
  · rw [if_neg below] at stands responds
    refine .adds step (fun other same => ?_) stands responds
    obtain rfl := Option.some.inj (asks.symm.trans same)
    omega

private theorem responds (builder : PathBuilder) (call : Call) : Responds builder call := by
  cases call with
  | start query index => exact responds_at rfl rfl rfl (builder.start_eq query index)
  | descend query index => exact responds_at rfl rfl rfl (builder.descend_eq query index)
  | findOne query index target =>
    exact responds_at rfl rfl rfl (builder.findOne_eq query index target)
  | populate fields => exact .adds _ nofun rfl rfl
  | populateOne name query selection target => exact .adds _ nofun rfl rfl
  | findAll query delimiter target => exact .adds _ nofun rfl rfl
  | build => exact .builds rfl respond_build

private theorem respond_of_below (asked : index ∈ call.index?) (below : index < 0) :
    builder.respond call = (.error belowZero, builder) := by
  cases builder.responds call with
  | builds isBuild responds =>
    subst isBuild
    cases asked
  | refuses _ _ responds => exact responds
  | adds step within _ _ =>
    have bound := within index asked
    omega

private theorem respond_of_step (stands : step ∈ call.step?) :
    builder.respond call = (.ok none, builder.add step) := by
  cases builder.responds call with
  | builds isBuild responds =>
    subst isBuild
    cases stands
  | refuses _ none _ =>
    rw [none] at stands
    cases stands
  | adds other _ some responds =>
    obtain rfl := Option.some.inj (some.symm.trans stands)
    exact responds

end

/-! ## Calls one after the other -/

/-- After any calls the builder holds the steps of those that were accepted, behind what it held
before. -/
theorem steps_after (builder : PathBuilder) (calls : List Call) :
    (builder.after calls).steps = builder.steps ++ calls.filterMap Call.step? := by
  induction calls generalizing builder with
  | nil => exact (List.append_nil _).symm
  | cons call rest ih =>
    rw [after, ih]
    cases builder.responds call with
    | builds isBuild responds =>
      rw [responds, isBuild, List.filterMap_cons_none (by rfl)]
    | refuses below none responds => rw [responds, List.filterMap_cons_none none]
    | adds step within some responds =>
      rw [responds, List.filterMap_cons_some some, add, List.append_assoc, List.singleton_append]

private theorem eq_of_steps {builder other : PathBuilder} (same : builder.steps = other.steps) :
    builder = other := by
  cases builder
  cases other
  exact congrArg PathBuilder.mk same

private theorem build_eq_error_iff {builder : PathBuilder} {invalid : Invalid} :
    builder.build = .error invalid ↔
      ∃ fault, PathFault.Of builder.steps fault ∧ invalid = noPath fault := by
  simp only [← Path.ofSteps?_eq_error_iff, build, Path.ofSteps]
  cases Path.ofSteps? builder.steps with
  | ok path => simp [result]
  | error fault => simp [result, fail, noPath, eq_comm]

private theorem build_eq_ok_iff {builder : PathBuilder} {path : Path} :
    builder.build = .ok path ↔ path.toSteps = builder.steps := by
  rw [← Path.ofSteps_eq_sound_iff, build]
  cases Path.ofSteps builder.steps with
  | sound formed => simp [result]
  | unsound issues => simp [result]

/-- After any calls, refused ones and builds among them, a builder holds the steps of the accepted
calls in their order. A call with a position below zero is refused and changes nothing, every other
one adds its step. Building changes nothing either: it is refused exactly if there are steps and the
first is no start or a later one is, with the words for that, and it gives the path of the steps
otherwise. So what is built later is the same as without it. -/
theorem builds_calls (calls : List Call) :
    let builder := after {} calls
    builder.steps = calls.filterMap Call.step? ∧
    (∀ call, ∀ index ∈ call.index?, index < 0 →
      builder.respond call = (.error belowZero, builder)) ∧
    (∀ call, ∀ step ∈ call.step?,
      builder.respond call = (.ok none, ⟨calls.filterMap Call.step? ++ [step]⟩)) ∧
    (∃ outcome : Except Invalid Path, builder.respond .build = (outcome.map some, builder) ∧
      (∀ invalid, outcome = .error invalid ↔
        ∃ fault, PathFault.Of (calls.filterMap Call.step?) fault ∧ invalid = noPath fault) ∧
      ∀ path, outcome = .ok path ↔ path.toSteps = calls.filterMap Call.step?) ∧
    ∀ later, after {} (calls ++ .build :: later) = after {} (calls ++ later) := by
  intro builder
  have held : builder.steps = calls.filterMap Call.step? := by
    rw [steps_after, List.nil_append]
  refine ⟨held, fun call index asked below => respond_of_below asked below,
    fun call step stands => ?_, ?_, ?_⟩
  · rw [respond_of_step stands, add, held]
  · refine ⟨builder.build, respond_build, ?_, ?_⟩
    · intro invalid
      rw [← held]
      exact build_eq_error_iff
    · intro path
      rw [← held]
      exact build_eq_ok_iff
  · intro later
    apply eq_of_steps
    rw [steps_after, steps_after, List.filterMap_append, List.filterMap_append,
      List.filterMap_cons_none (by rfl)]

/-- A position below zero and a build on the way leave no trace in the path. -/
example :
    (after {} [.findOne "a" (-1) .text, .start "div" 0, .build, .findAll "a" "|" .text]).build =
      .ok (.anchored ⟨"div", 0⟩ [.find ⟨⟨"a", .all "|"⟩, .text⟩]) := by
  decide

end PathBuilder

end PageHarvest
