import PageHarvest.Proofs.Extract.Placing

/-! # What more steps add to a result

The steps of a path only add to what has been read: values behind those there are, names behind
those that are set, and new values for names that are set again. So the first steps of a path give a
part of what all of them give. A start or a move that finds nothing ends the walk, and what stands
behind it adds nothing at all.
-/

namespace PageHarvest

namespace PathResult

/-- One result is a part of another: its values and its names come first there, and the names that
were not touched since have the same texts. -/
structure PartOf (part whole : PathResult) (touched : List String) : Prop where
  values : part.values <+: whole.values
  names : part.fields.names <+: whole.fields.names
  kept : ∀ name, name ∉ touched → whole.fields.get? name = part.fields.get? name

private theorem PartOf.refl (result : PathResult) (touched : List String) :
    result.PartOf result touched :=
  ⟨List.prefix_refl _, List.prefix_refl _, fun _ _ => rfl⟩

private theorem PartOf.trans {part middle whole : PathResult} {touched more : List String}
    (first : part.PartOf middle touched) (second : middle.PartOf whole more) :
    part.PartOf whole (touched ++ more) where
  values := first.values.trans second.values
  names := first.names.trans second.names
  kept name untouched := by
    rw [List.mem_append, not_or] at untouched
    rw [second.kept name untouched.2, first.kept name untouched.1]

private theorem partOf_setAll (result : PathResult) (pairs : List (String × String)) :
    result.PartOf ⟨result.fields.setAll pairs, result.values⟩ (pairs.map Prod.fst) where
  values := List.prefix_refl _
  names := FieldMap.names_prefix_setAll _ _
  kept name untouched := by
    have missing : pairs.reverse.lookup name = none := by
      rw [List.lookup_eq_none_iff]
      intro pair member
      have among : pair.1 ∈ pairs.map Prod.fst := List.mem_map_of_mem (List.mem_reverse.mp member)
      simpa using fun same : name = pair.1 => untouched (same ▸ among)
    change (result.fields.setAll pairs).get? name = _
    rw [FieldMap.get?_setAll, missing]
    rfl

private theorem partOf_append (result : PathResult) (found : List String) :
    result.PartOf ⟨result.fields, result.values ++ found⟩ [] where
  values := List.prefix_append _ _
  names := List.prefix_refl _
  kept _ _ := rfl

end PathResult

/-- The selectors of the first steps of a path are among those of the path. -/
theorem Path.mem_selectors_append {start : Anchor} {front : List Step} {selector : String}
    (member : selector ∈ (Path.anchored start front).selectors) (rest : List Step) :
    selector ∈ (Path.anchored start (front ++ rest)).selectors := by
  rw [selectors, List.mem_cons] at member
  rw [selectors, List.flatMap_append]
  exact List.mem_cons.mpr (member.imp_right (List.mem_append_left _))

/-- The names that steps set. -/
def namesSet (steps : List Step) : List String :=
  (steps.flatMap Step.settings).map Prod.fst

private theorem namesSet_cons (step : Step) (rest : List Step) :
    namesSet (step :: rest) = step.settings.map Prod.fst ++ namesSet rest := by
  rw [namesSet, List.flatMap_cons, List.map_append]
  rfl

namespace Engine

variable {E : Type} {answer : String → E → List E} {read : Target → E → String}

/-! ## Steps behind others -/

/-- Following steps only adds to a result. -/
theorem partOf_walked (steps : List Step) (current : E) (result : PathResult) :
    result.PartOf (walked answer read steps current result) (namesSet steps) := by
  induction steps generalizing current result with
  | nil => exact .refl result _
  | cons step rest ih =>
    rw [namesSet_cons]
    cases step with
    | descend anchor =>
      rw [walked_descend]
      cases (answer anchor.query current)[anchor.index]? with
      | some next => exact ih next result
      | none => exact .refl result _
    | populate fields =>
      have names : (textsIn answer read current fields.entries).map Prod.fst =
          fields.entries.map Prod.fst := List.map_map
      have first := result.partOf_setAll (textsIn answer read current fields.entries)
      rw [names] at first
      rw [walked_populate]
      exact first.trans (ih current _)
    | find field =>
      rw [walked_find]
      exact (result.partOf_append _).trans (ih current _)

/-- Steps behind others are followed from where those lead. -/
theorem walked_append (front rest : List Step) (current : E) (result : PathResult) :
    walked answer read (front ++ rest) current result =
      match deepest? answer front current with
      | some element => walked answer read rest element (walked answer read front current result)
      | none => walked answer read front current result := by
  induction front generalizing current result with
  | nil => rfl
  | cons step front ih =>
    cases step with
    | descend anchor =>
      rw [List.cons_append, walked_descend, walked_descend, deepest?]
      cases (answer anchor.query current)[anchor.index]? with
      | some next => exact ih next result
      | none => rfl
    | populate fields =>
      rw [List.cons_append, walked_populate, walked_populate, deepest?]
      exact ih current _
    | find field =>
      rw [List.cons_append, walked_find, walked_find, deepest?]
      exact ih current _

private theorem deepest?_append (front rest : List Step) (current : E) :
    deepest? answer (front ++ rest) current =
      (deepest? answer front current).bind (deepest? answer rest) := by
  induction front generalizing current with
  | nil => rfl
  | cons step front ih =>
    cases step with
    | descend anchor =>
      rw [List.cons_append, deepest?, deepest?, Option.bind_assoc]
      congr 1
      exact funext ih
    | populate | find => exact ih current

/-- A walk has no end just if one of its moves is come to and finds nothing. -/
theorem deepest?_eq_none_iff {steps : List Step} {current : E} :
    deepest? answer steps current = none ↔
      ∃ front anchor rest element, steps = front ++ .descend anchor :: rest ∧
        deepest? answer front current = some element ∧
        (answer anchor.query element)[anchor.index]? = none := by
  constructor
  · intro misses
    induction steps generalizing current with
    | nil => cases misses
    | cons step rest ih =>
      cases step with
      | descend anchor =>
        rw [deepest?] at misses
        cases found : (answer anchor.query current)[anchor.index]? with
        | none => exact ⟨[], anchor, rest, current, rfl, rfl, found⟩
        | some next =>
          rw [found] at misses
          obtain ⟨front, missed, behind, element, rfl, reached, nothing⟩ := ih misses
          refine ⟨.descend anchor :: front, missed, behind, element, rfl, ?_, nothing⟩
          rw [deepest?, found]
          exact reached
      | populate fields =>
        obtain ⟨front, missed, behind, element, rfl, reached, nothing⟩ := ih misses
        exact ⟨.populate fields :: front, missed, behind, element, rfl, reached, nothing⟩
      | find field =>
        obtain ⟨front, missed, behind, element, rfl, reached, nothing⟩ := ih misses
        exact ⟨.find field :: front, missed, behind, element, rfl, reached, nothing⟩
  · rintro ⟨front, anchor, rest, element, rfl, reached, nothing⟩
    rw [deepest?_append, reached, Option.bind_some, deepest?, nothing]
    rfl

/-! ## Paths -/

variable (answer) in
/-- The move behind the first steps of a path is come to and finds nothing. -/
def Misses (start : Anchor) (front : List Step) (anchor : Anchor) (document : E) : Prop :=
  ∃ element, reached? answer (.anchored start front) document = some element ∧
    (answer anchor.query element)[anchor.index]? = none

instance (start : Anchor) (front : List Step) (anchor : Anchor) (document : E) :
    Decidable (Misses answer start front anchor document) :=
  decidable_of_iff
    ((reached? answer (.anchored start front) document).any fun element =>
      (answer anchor.query element)[anchor.index]?.isNone)
    (by simp only [Misses, Option.any_eq_true, Option.isNone_iff_eq_none])

private theorem outcome_append (start : Anchor) (front rest : List Step) (document : E) :
    outcome answer read (.anchored start (front ++ rest)) document =
      match reached? answer (.anchored start front) document with
      | some element =>
        walked answer read rest element (outcome answer read (.anchored start front) document)
      | none => outcome answer read (.anchored start front) document := by
  rw [outcome_anchored, outcome_anchored, reached?]
  cases (answer start.query document)[start.index]? with
  | none => rfl
  | some element => exact walked_append front rest element {}

/-- A path leads nowhere just if its start or one of its moves finds nothing. -/
theorem reached?_eq_none_iff {start : Anchor} {steps : List Step} {document : E} :
    reached? answer (.anchored start steps) document = none ↔
      (answer start.query document)[start.index]? = none ∨
        ∃ front anchor rest, steps = front ++ .descend anchor :: rest ∧
          Misses answer start front anchor document := by
  simp only [Misses, reached?]
  cases (answer start.query document)[start.index]? with
  | none => simp only [Option.bind_none, true_or]
  | some element =>
    simp only [Option.bind_some, reduceCtorEq, false_or]
    rw [deepest?_eq_none_iff]
    simp only [exists_and_left]

private theorem partOf_outcome (start : Anchor) (front rest : List Step) (document : E) :
    (outcome answer read (.anchored start front) document).PartOf
      (outcome answer read (.anchored start (front ++ rest)) document) (namesSet rest) := by
  rw [outcome_append]
  cases reached? answer (.anchored start front) document with
  | some element => exact partOf_walked rest element _
  | none => exact .refl _ _

/-- What stands behind a move that finds nothing adds nothing. -/
theorem outcome_of_misses {start : Anchor} {front : List Step} {anchor : Anchor} {document : E}
    (misses : Misses answer start front anchor document) (rest : List Step) :
    outcome answer read (.anchored start (front ++ .descend anchor :: rest)) document =
      outcome answer read (.anchored start front) document := by
  obtain ⟨element, reached, nothing⟩ := misses
  rw [outcome_append, reached]
  change walked answer read (.descend anchor :: rest) element _ = _
  rw [walked_descend, nothing]

/-! ## Evaluation -/

/-- Evaluation is monotone in the path, whatever the document, as long as the engine answers the
selectors of the path. The start with the first steps behind it gives a part of what the whole path
gives, and only names that the remaining steps set may have another value there. A move that finds
nothing leaves what the steps in front of it give, whatever follows, and a start that finds nothing
leaves nothing. -/
theorem evaluate_extends {ε : Type} {engine : Engine (Logged ε) E} (notices : engine.Notices)
    {start : Anchor} {steps : List Step}
    (answers : ∀ selector ∈ (Path.anchored start steps).selectors,
      engine.Answers answer selector) (document : E) :
    ∃ whole, (engine.evaluate (.anchored start steps) document).Gives whole ∧
      (∀ front rest, steps = front ++ rest → ∃ part,
        (engine.evaluate (.anchored start front) document).Gives part ∧
        part.PartOf whole (namesSet rest)) ∧
      (∀ front anchor rest, steps = front ++ .descend anchor :: rest →
        Misses answer start front anchor document →
        (engine.evaluate (.anchored start front) document).Gives whole) ∧
      ((answer start.query document)[start.index]? = none → whole = {}) := by
  have gives (front rest : List Step) (split : steps = front ++ rest) :
      (engine.evaluate (.anchored start front) document).Gives
        (outcome answer engine.read (.anchored start front) document) := by
    refine gives_evaluate notices (fun selector member => answers selector ?_) document
    rw [split]
    exact Path.mem_selectors_append member rest
  refine ⟨_, gives steps [] (List.append_nil _).symm, ?_, ?_, ?_⟩
  · rintro front rest rfl
    exact ⟨_, gives front rest rfl, partOf_outcome start front rest document⟩
  · rintro front anchor rest rfl misses
    rw [outcome_of_misses misses]
    exact gives front _ rfl
  · intro nothing
    rw [outcome_anchored, nothing]

/-- The second move of four steps finds nothing, so the value that is listed and the name that is
set again behind it are lost. -/
theorem evaluate_extends_list :
    let start : Anchor := ⟨"ul", 0⟩
    let front : List Step := [.populate (.single "word" ⟨⟨"b", .single 0⟩, .text⟩)]
    let move : Anchor := ⟨"li", 2⟩
    let rest : List Step := [.populate (.single "word" ⟨⟨"i", .single 0⟩, .text⟩),
      .find ⟨⟨"i", .all ""⟩, .text⟩]
    let document := Document.parse "<ul><li><b>one</b><i>two</i></li><li></li></ul>"
    Document.Place.engine.Notices ∧
      (∀ selector ∈ (Path.anchored start (front ++ .descend move :: rest)).selectors,
        Document.Place.engine.Answers Document.Place.found selector) ∧
      Misses Document.Place.found start front move document ∧
      ∃ whole,
        (Document.Place.engine.evaluate (.anchored start (front ++ .descend move :: rest))
          document).Gives whole ∧
        (Document.Place.engine.evaluate (.anchored start front) document).Gives whole := by
  intro start front move rest document
  have notices := Document.Place.engine_notices
  have parsed : ∀ selector ∈ (Path.anchored start (front ++ .descend move :: rest)).selectors,
      (Selector.parse selector).isOk = true := by
    decide +kernel
  have answers : ∀ selector ∈ (Path.anchored start (front ++ .descend move :: rest)).selectors,
      Document.Place.engine.Answers Document.Place.found selector :=
    fun selector member => Document.Place.engine_answers_of_isOk (parsed selector member)
  have misses : Misses Document.Place.found start front move document := by
    decide +kernel
  obtain ⟨whole, gives, -, missed, -⟩ := evaluate_extends notices answers document
  exact ⟨notices, answers, misses, whole, gives, missed front move rest rfl misses⟩

end Engine

end PageHarvest
