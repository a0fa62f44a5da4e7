import PageHarvest.Extract.Compile
import PageHarvest.Proofs.Extract.Merging
import PageHarvest.Proofs.Path.Stepwise

/-! # Broken texts do no harm

A specification is compiled text by text, and a path text token by token. So texts that compile to
nothing can be left out, and broken tokens can be taken out of the others, and every document gives
the same record. The name of a broken field is left to the paths. Each text has its own part of the
diagnostics, and no other text has a part in that.
-/

namespace PageHarvest

/-! ## Path texts -/

namespace Path

open Text

/-- Whether a later token compiles to a step. -/
def isSoundToken (token : List Char) : Bool := (compileLater token).isOk

/-- A path text without the later tokens that are broken. -/
def mended (text : String) : String :=
  match splitAt stepSeparator text.toList with
  | [] => text
  | first :: later =>
    let sound := later.filter fun piece => isSoundToken (trim piece)
    .ofList (stepSeparator.intercalate (first :: sound))

/-- Without the broken tokens there are the same steps and no diagnostics. -/
theorem compileAll_filter (tokens : List (List Char)) :
    compileAll (tokens.filter isSoundToken) = ((compileAll tokens).1, []) := by
  rw [compileAll_eq, compileAll_eq]
  induction tokens with
  | nil => rfl
  | cons token rest ih =>
    obtain ⟨steps, diagnostics⟩ := Prod.mk.inj ih
    cases compiled : compileLater token with
    | ok step =>
      have sound : isSoundToken token = true := by rw [isSoundToken, compiled]; rfl
      have one : compileOne token = ([step], []) := by rw [compileOne, compiled]
      rw [List.filter_cons_of_pos sound, List.flatMap_cons, List.flatMap_cons, List.flatMap_cons,
        steps, diagnostics, one]
      rfl
    | error fault =>
      have broken : isSoundToken token = false := by rw [isSoundToken, compiled]; rfl
      have one : (compileOne token).1 = [] := by rw [compileOne, compiled]
      rw [List.filter_cons_of_neg (Bool.eq_false_iff.mp broken), List.flatMap_cons, steps,
        diagnostics, one]
      rfl

/-- A text that compiles to any step compiles to the same path once it is mended, and nothing is
wrong with it any more. -/
theorem compile_mended {text : String} (steps : (compile text).1.isEmpty = false) :
    compile (mended text) = ((compile text).1, []) := by
  obtain ⟨first, later, split⟩ :=
    List.exists_cons_of_ne_nil (splitAt_ne_nil stepSeparator text.toList)
  have unbroken : ∀ piece ∈ first :: later.filter fun piece => isSoundToken (trim piece),
      Unbroken piece := by
    intro piece member
    have among : piece ∈ splitAt stepSeparator text.toList := by
      rw [split]
      exact List.cons_subset_cons first (List.filter_subset_self _) member
    have apart := not_infix_of_mem_splitAt (by decide) among
    rwa [stepSeparator_eq] at apart
  have whole : tokens text.toList = trim first :: later.map trim := by
    rw [tokens, split, List.map_cons]
  have short : tokens (mended text).toList =
      trim first :: (later.map trim).filter isSoundToken := by
    rw [mended, split]
    dsimp only
    rw [String.toList_ofList, tokens_joined unbroken, List.map_cons, List.filter_map]
    rfl
  rw [compile_of_tokens whole] at steps ⊢
  rw [compile_of_tokens short, compileAll_filter]
  cases opening : compileFirst (trim first) with
  | error broken =>
    rw [opening] at steps
    cases steps
  | ok start => rfl

end Path

/-! ## Entries of a map -/

namespace FieldMap

variable {α : Type}

/-- The entries that are wanted. -/
def filter (wanted : String × α → Bool) (m : FieldMap α) : FieldMap α where
  entries := m.entries.filter wanted
  names_nodup := (List.filter_sublist.map Prod.fst).nodup m.names_nodup

private theorem setEntry_append {name : String} {old value : α} {front back : List (String × α)}
    (absent : name ∉ front.map Prod.fst) :
    setEntry name value (front ++ (name, old) :: back) = front ++ (name, value) :: back := by
  induction front with
  | nil => exact if_pos rfl
  | cons entry rest ih =>
    rw [List.map_cons, List.mem_cons, not_or] at absent
    rw [List.cons_append, setEntry, if_neg (Ne.symm absent.1), ih absent.2, List.cons_append]

/-- A name that is set keeps its place when it is set anew. -/
theorem exists_entries_set {m : FieldMap α} {name : String} {old : α}
    (given : m.get? name = some old) :
    ∃ front back, m.entries = front ++ (name, old) :: back ∧
      ∀ value, (m.set name value).entries = front ++ (name, value) :: back := by
  obtain ⟨front, back, split⟩ := List.append_of_mem (mem_of_lookup given)
  have distinct := m.names_nodup
  rw [split, List.map_append, List.map_cons] at distinct
  have absent : name ∉ front.map Prod.fst := fun member =>
    (List.nodup_append.mp distinct).2.2 name member name List.mem_cons_self rfl
  refine ⟨front, back, split, fun value => ?_⟩
  change setEntry name value m.entries = _
  rw [split]
  exact setEntry_append absent

end FieldMap

/-! ## Specifications -/

namespace SearchSpec

/-- Whether a path text compiles to any step. -/
def hasSteps (text : String) : Bool := !(Path.compile text).1.isEmpty

/-- Whether the text of a named field compiles. -/
def isSoundField (entry : String × String) : Bool := (Path.compileField entry.2).isOk

/-- What is wrong with a field text. -/
def fieldDiagnostics (text : String) : List Diagnostic :=
  match Path.compileField text with
  | .ok _ => []
  | .error diagnostic => [diagnostic]

private theorem compileNamed_of_sound {entry : String × String}
    (sound : isSoundField entry = true) :
    (compileNamed entry).2 = [] := by
  rw [compileNamed]
  cases compiled : Path.compileField entry.2 with
  | ok field => rfl
  | error diagnostic =>
    rw [isSoundField, compiled] at sound
    cases sound

private theorem compileNamed_of_broken {entry : String × String}
    (broken : isSoundField entry = false) :
    (compileNamed entry).1 = none := by
  rw [compileNamed]
  cases compiled : Path.compileField entry.2 with
  | ok field =>
    rw [isSoundField, compiled] at broken
    cases broken
  | error diagnostic => rfl

private theorem compileNamed_snd (entry : String × String) :
    (compileNamed entry).2 = fieldDiagnostics entry.2 := by
  rw [compileNamed, fieldDiagnostics]
  cases Path.compileField entry.2 <;> rfl

private theorem compileKept_of_not_hasSteps {text : String} (bare : hasSteps text = false) :
    (compileKept text).1 = none := by
  rw [hasSteps, Bool.not_eq_false'] at bare
  exact if_pos bare

private theorem compileKept_mended {text : String} (steps : hasSteps text = true) :
    compileKept (Path.mended text) = ((compileKept text).1, []) := by
  have mended := Path.compile_mended (by simpa [hasSteps] using steps)
  simp only [compileKept, mended]

/-- Taking nothing away but what gives nothing leaves what the rest gives. -/
theorem filterMap_filter_of_none {α β : Type} {f : α → Option β} {kept : α → Bool}
    (bare : ∀ x, kept x = false → f x = none) (list : List α) :
    (list.filter kept).filterMap f = list.filterMap f := by
  rw [List.filterMap_filter]
  refine List.filterMap_congr fun x _ => ?_
  split
  · rfl
  · next dropped => exact (bare x (Bool.eq_false_iff.mpr dropped)).symm

section

variable (paths : List String) (fields : FieldMap String)

private theorem compile_fst : (compile paths fields).1 =
    ⟨.ofList (fields.entries.filterMap fun entry => (compileNamed entry).1),
      paths.filterMap fun text => (compileKept text).1⟩ := by
  simp only [compile, List.filterMap_map]
  rfl

/-- Every text has its own part of the diagnostics. -/
theorem compile_snd : (compile paths fields).2 =
    (fields.entries.flatMap fun entry => fieldDiagnostics entry.2) ++
      paths.flatMap fun text => (Path.compile text).2 := by
  simp only [compile, List.flatMap_map, compileNamed_snd]
  rfl

/-- Texts that compile to nothing can be left out. -/
theorem compile_sifted :
    (compile (paths.filter hasSteps) (fields.filter isSoundField)).1 =
      (compile paths fields).1 := by
  rw [compile_fst, compile_fst, FieldMap.filter]
  dsimp only
  rw [filterMap_filter_of_none fun _ => compileNamed_of_broken,
    filterMap_filter_of_none fun _ => compileKept_of_not_hasSteps]

/-- Once the other texts are mended nothing is wrong any more. -/
theorem compile_mended :
    compile ((paths.filter hasSteps).map Path.mended) (fields.filter isSoundField) =
      ((compile paths fields).1, []) := by
  have same : (compile ((paths.filter hasSteps).map Path.mended) (fields.filter isSoundField)).1 =
      (compile (paths.filter hasSteps) (fields.filter isSoundField)).1 := by
    rw [compile_fst, compile_fst, List.filterMap_map]
    congr 1
    refine List.filterMap_congr fun text member => ?_
    rw [Function.comp_apply, compileKept_mended (List.mem_filter.mp member).2]
  refine Prod.ext (same.trans (compile_sifted paths fields)) ?_
  rw [compile_snd, List.append_eq_nil_iff, List.flatMap_eq_nil_iff, List.flatMap_eq_nil_iff]
  constructor
  · intro entry member
    rw [← compileNamed_snd, compileNamed_of_sound (List.mem_filter.mp member).2]
  · intro text member
    obtain ⟨other, among, rfl⟩ := List.mem_map.mp member
    exact congrArg Prod.snd (compileKept_mended (List.mem_filter.mp among).2)

variable {paths fields}

/-- A field whose text is broken is no field of the specification. -/
theorem not_mem_names_of_broken {name text : String} (given : fields.get? name = some text)
    (broken : isSoundField (name, text) = false) :
    name ∉ (compile paths fields).1.fields.names := by
  rw [compile_fst]
  intro member
  obtain ⟨entry, sets, rfl⟩ := List.mem_map.mp member
  obtain ⟨source, among, compiled⟩ := List.mem_filterMap.mp (FieldMap.mem_of_mem_ofList sets)
  have named : source.1 = entry.1 := by
    rw [compileNamed] at compiled
    cases outcome : Path.compileField source.2 with
    | ok field =>
      rw [outcome] at compiled
      exact congrArg Prod.fst (Option.some.inj compiled)
    | error diagnostic =>
      rw [outcome] at compiled
      cases compiled
  have text_eq : source.2 = text := by
    have found : fields.get? source.1 = some source.2 := FieldMap.get?_of_mem among
    rw [named, given] at found
    exact (Option.some.inj found).symm
  have unsound : isSoundField source = false := by
    rw [isSoundField, text_eq]
    exact broken
  rw [compileNamed_of_broken unsound] at compiled
  cases compiled

end

/-- The diagnostics of one path text stand between those of the others. -/
theorem exists_compile_snd_path (front back : List String) (fields : FieldMap String) :
    ∃ before after, ∀ text,
      (compile (front ++ text :: back) fields).2 = before ++ (Path.compile text).2 ++ after := by
  refine ⟨(fields.entries.flatMap fun entry => fieldDiagnostics entry.2) ++
    front.flatMap fun text => (Path.compile text).2,
    back.flatMap fun text => (Path.compile text).2, fun text => ?_⟩
  rw [compile_snd, List.flatMap_append, List.flatMap_cons]
  simp only [List.append_assoc]

/-- The diagnostics of one field text stand between those of the others. -/
theorem exists_compile_snd_field (paths : List String) {fields : FieldMap String}
    {name text : String} (given : fields.get? name = some text) :
    ∃ before after, (compile paths fields).2 = before ++ fieldDiagnostics text ++ after ∧
      ∀ other, (compile paths (fields.set name other)).2 =
        before ++ fieldDiagnostics other ++ after := by
  obtain ⟨front, back, split, anew⟩ := FieldMap.exists_entries_set given
  refine ⟨front.flatMap fun entry => fieldDiagnostics entry.2,
    (back.flatMap fun entry => fieldDiagnostics entry.2) ++
      paths.flatMap fun text => (Path.compile text).2, ?_, fun other => ?_⟩
  · rw [compile_snd, split, List.flatMap_append, List.flatMap_cons]
    simp only [List.append_assoc]
  · rw [compile_snd, anew, List.flatMap_append, List.flatMap_cons]
    simp only [List.append_assoc]

end SearchSpec

namespace Engine

variable {ε E : Type} {engine : Engine (Logged ε) E}

/-- A name that is no standalone field has a value in the record just if a path sets it. -/
theorem mem_names_recordOf_iff (steady : engine.Steady) {spec : SearchSpec} {url : Option String}
    {document : E} {record : Record} (read : engine.recordOf document spec url = .ok record)
    {name : String} (free : name ∉ spec.fields.names) :
    name ∈ record.fields.names ↔ ∃ path ∈ spec.paths, engine.Sets document path name := by
  obtain ⟨texts, results, own, paths, rfl⟩ := (recordOf_eq_ok_iff steady).mp read
  have names : (FieldMap.ofList texts).names = spec.fields.names := by
    rw [FieldMap.names_ofList, names_of_mapM own]
    exact (FieldMap.names_ofList _).symm.trans (congrArg FieldMap.names (FieldMap.ofList_entries _))
  rw [Record.names_foldl_add, List.mem_eraseDups, names, List.mem_append, List.mem_flatMap,
    exists_sets_iff paths]
  exact or_iff_right free

end Engine

open SearchSpec in
/-- Texts that compile to nothing can be left out of a configuration, and broken tokens can be taken
out of the path texts that are left, which leaves no diagnostics: every document gives the same
record. The name of a field whose text is broken has a value just if a path sets it. The diagnostics
are those of the field texts and then those of the path texts, in order, and another text in the
place of one changes nothing but the part of that one. -/
theorem Engine.recordOf_compile_sifted {ε E : Type} {engine : Engine (Logged ε) E}
    (steady : engine.Steady) (paths : List String) (fields : FieldMap String) :
    let compiled := SearchSpec.compile paths fields
    let sifted := SearchSpec.compile (paths.filter hasSteps) (fields.filter isSoundField)
    let mended := SearchSpec.compile ((paths.filter hasSteps).map Path.mended)
      (fields.filter isSoundField)
    (∀ document url,
      engine.recordOf document sifted.1 url = engine.recordOf document compiled.1 url ∧
      engine.recordOf document mended.1 url = engine.recordOf document compiled.1 url) ∧
    mended.2 = [] ∧
    (∀ name text, fields.get? name = some text → isSoundField (name, text) = false →
      ∀ document url record, engine.recordOf document compiled.1 url = .ok record →
        (name ∈ record.fields.names ↔
          ∃ path ∈ compiled.1.paths, engine.Sets document path name)) ∧
    compiled.2 = (fields.entries.flatMap fun entry => fieldDiagnostics entry.2) ++
      paths.flatMap (fun text => (Path.compile text).2) ∧
    (∀ front text back, paths = front ++ text :: back → ∃ before after,
      compiled.2 = before ++ (Path.compile text).2 ++ after ∧
      ∀ other, (SearchSpec.compile (front ++ other :: back) fields).2 =
        before ++ (Path.compile other).2 ++ after) ∧
    ∀ name text, fields.get? name = some text → ∃ before after,
      compiled.2 = before ++ fieldDiagnostics text ++ after ∧
      ∀ other, (SearchSpec.compile paths (fields.set name other)).2 =
        before ++ fieldDiagnostics other ++ after := by
  intro compiled sifted mended
  have whole : mended = (compiled.1, []) := SearchSpec.compile_mended paths fields
  refine ⟨fun document url => ⟨?_, ?_⟩, by rw [whole], ?_, compile_snd paths fields, ?_, ?_⟩
  · rw [show sifted.1 = compiled.1 from compile_sifted paths fields]
  · rw [whole]
  · intro name text given broken document url record read
    exact mem_names_recordOf_iff steady read (not_mem_names_of_broken given broken)
  · rintro front text back split
    obtain ⟨before, after, each⟩ := exists_compile_snd_path front back fields
    exact ⟨before, after, by rw [← each text, ← split], each⟩
  · intro name text given
    exact exists_compile_snd_field paths given

open SearchSpec in
/-- A field with an unknown location, a path that does not start and one with an unknown command:
the title is the one that the path reads. -/
theorem recordOf_compile_sifted_title :
    let engine := Document.Place.engine
    let document := Document.parse "<h1>x</h1><p>y</p>"
    let path := "START(SELECTOR: body) -> POPULATE(NAME: title, SELECTOR: p, LOC: TEXT)"
    let paths := [path ++ "-> WHAT()", "DESCEND(SELECTOR: p)"]
    let fields : FieldMap String := .single "title" "SELECTOR: h1, LOC: NOWHERE"
    let record : Record := { fields := .single "title" "y" }
    let compiled := SearchSpec.compile paths fields
    engine.Steady ∧
      isSoundField ("title", "SELECTOR: h1, LOC: NOWHERE") = false ∧
      (paths.filter hasSteps).map Path.mended = [path] ∧
      engine.recordOf document compiled.1 none = .ok record ∧
      engine.recordOf document (SearchSpec.compile [path] .empty).1 none = .ok record ∧
      (∃ path ∈ compiled.1.paths, engine.Sets document path "title") ∧
      ∃ before after, compiled.2 = before ++ (Path.compile (path ++ "-> WHAT()")).2 ++ after := by
  intro engine document path paths fields record compiled
  have steady : engine.Steady := Document.Place.engine_steady
  have broken : isSoundField ("title", "SELECTOR: h1, LOC: NOWHERE") = false := by decide +kernel
  have texts : (paths.filter hasSteps).map Path.mended = [path] := by decide +kernel
  have sound : fields.filter isSoundField = .empty := by decide +kernel
  have read : engine.recordOf document compiled.1 none = .ok record := by decide +kernel
  obtain ⟨same, -, sets, -, parts, -⟩ := Engine.recordOf_compile_sifted steady paths fields
  obtain ⟨before, after, part, -⟩ := parts [] _ _ rfl
  refine ⟨steady, broken, texts, read, ?_, ?_, before, after, part⟩
  · rw [← texts, ← sound]
    exact (same document none).2.trans read
  · exact (sets "title" _ rfl broken document none record read).mp (by decide)

end PageHarvest
