import PageHarvest.Proofs.Extract.Refusal
import PageHarvest.Proofs.Traverse

/-! # How a record is put together

The record of a document is put together from what its standalone fields and its paths give by
themselves. A name has the value of the last path that sets it, or that of its standalone field if
no path does; names stand in the order in which they are first set, and listed values in the order
of the paths. The document gives no record just if one of the pieces cannot be read.
-/

namespace PageHarvest

namespace Record

/-! ## Adding results -/

section

variable (record : Record) (results : List PathResult) (name : String)

private theorem get?_add (result : PathResult) :
    (record.add result).fields.get? name =
      (result.fields.get? name).or (record.fields.get? name) :=
  FieldMap.get?_merge _ _ _

private theorem url_foldl_add : (results.foldl add record).url = record.url := by
  induction results generalizing record with
  | nil => rfl
  | cons result rest ih => exact ih _

private theorem values_foldl_add :
    (results.foldl add record).values = record.values ++ results.flatMap (·.values) := by
  induction results generalizing record with
  | nil => exact (List.append_nil _).symm
  | cons result rest ih =>
    rw [List.foldl_cons, ih, List.flatMap_cons, ← List.append_assoc]
    rfl

private theorem fields_foldl_add :
    (results.foldl add record).fields =
      record.fields.setAll (results.flatMap (·.fields.entries)) := by
  induction results generalizing record with
  | nil => rfl
  | cons result rest ih =>
    rw [List.foldl_cons, ih, List.flatMap_cons, FieldMap.setAll_append]
    rfl

/-- The names of a record are those it had and those of the results, each at its first place. -/
theorem names_foldl_add :
    (results.foldl add record).fields.names =
      (record.fields.names ++ results.flatMap (·.fields.names)).eraseDups := by
  rw [fields_foldl_add, FieldMap.names_setAll, List.map_flatMap]
  rfl

/-- The last result that sets a name gives its value. -/
theorem get?_foldl_add :
    (results.foldl add record).fields.get? name =
      (results.reverse.findSome? (·.fields.get? name)).or (record.fields.get? name) := by
  induction results generalizing record with
  | nil => rfl
  | cons result rest ih =>
    rw [List.foldl_cons, ih, get?_add, List.reverse_cons, List.findSome?_append, Option.or_assoc,
      List.findSome?_singleton]

end

/-- A record is merged from named texts and results: a name has the value of the last result that
sets it, or else its text, and names and values stand in the order in which they come up. -/
structure Merges (record : Record) (url : Option String) (texts : List (String × String))
    (results : List PathResult) : Prop where
  url : record.url = url
  names : record.fields.names =
    (texts.map Prod.fst ++ results.flatMap (·.fields.names)).eraseDups
  value : ∀ name, record.fields.get? name =
    (results.reverse.findSome? (·.fields.get? name)).or (texts.lookup name)
  values : record.values = results.flatMap (·.values)

/-- Merging is adding the results to a record that holds the texts. -/
theorem merges_iff {record : Record} {url : Option String} {texts : List (String × String)}
    {results : List PathResult} (distinct : (texts.map Prod.fst).Nodup) :
    record.Merges url texts results ↔
      record = results.foldl add { url, fields := .ofList texts } := by
  have names : (FieldMap.ofList texts).names = texts.map Prod.fst :=
    congrArg (List.map Prod.fst) (FieldMap.entries_ofList distinct)
  have value (name : String) : (FieldMap.ofList texts).get? name = texts.lookup name :=
    congrArg (List.lookup name) (FieldMap.entries_ofList distinct)
  have merged : (results.foldl add { url, fields := .ofList texts }).Merges url texts results := by
    constructor
    · exact url_foldl_add _ _
    · rw [names_foldl_add, names]
    · intro name
      rw [get?_foldl_add, value]
    · exact values_foldl_add _ _
  constructor
  · intro merges
    have fields : record.fields = (results.foldl add { url, fields := .ofList texts }).fields :=
      FieldMap.ext_get? (merges.names.trans merged.names.symm)
        fun name => (merges.value name).trans (merged.value name).symm
    have urls := merges.url.trans merged.url.symm
    have values := merges.values.trans merged.values.symm
    cases record
    simp only at fields urls values
    rw [fields, urls, values]
  · rintro rfl
    exact merged

/-! ## What a change of the pieces does -/

/-- A record and the one that holds a text for one more standalone field. -/
structure Widens (record wider : Record) (name text : String) (taken : Prop) : Prop where
  values : wider.values = record.values
  others : ∀ other, other ≠ name → wider.fields.get? other = record.fields.get? other
  own : ¬taken → wider.fields.get? name = some text
  kept : taken → wider.fields.get? name = record.fields.get? name

/-- A text that is set before all results is overwritten by those that set its name. -/
theorem widens_foldl_add (url : Option String) (texts : List (String × String))
    (results : List PathResult) (name text : String) :
    (results.foldl add { url, fields := .ofList texts }).Widens
      (results.foldl add { url, fields := .ofList (texts ++ [(name, text)]) }) name text
      (∃ result ∈ results, name ∈ result.fields.names) where
  values := by rw [values_foldl_add, values_foldl_add]
  others other apart := by
    rw [get?_foldl_add, get?_foldl_add, FieldMap.ofList_concat, FieldMap.get?_set, if_neg apart]
  own free := by
    have unset : results.reverse.findSome? (·.fields.get? name) = none := by
      rw [List.findSome?_eq_none_iff]
      intro result member
      apply FieldMap.get?_eq_none_iff.mpr
      exact fun sets => free ⟨result, List.mem_reverse.mp member, sets⟩
    rw [get?_foldl_add, unset, FieldMap.ofList_concat, FieldMap.get?_set, if_pos rfl]
    rfl
  kept := by
    rintro ⟨result, member, sets⟩
    have set : (results.reverse.findSome? (·.fields.get? name)).isSome = true := by
      rw [List.findSome?_isSome_iff]
      refine ⟨result, List.mem_reverse.mpr member, ?_⟩
      rw [Option.isSome_iff_ne_none]
      exact fun unset => FieldMap.get?_eq_none_iff.mp unset sets
    obtain ⟨value, found⟩ := Option.isSome_iff_exists.mp set
    rw [get?_foldl_add, get?_foldl_add, found]
    rfl

/-- Two records that differ in nothing but the order of their names and values. -/
structure Reordered (record other : Record) : Prop where
  url : other.url = record.url
  texts : ∀ name, other.fields.get? name = record.fields.get? name
  names : other.fields.names.Perm record.fields.names
  values : other.values.Perm record.values

/-- The order of neighbours that set no common name only matters for the order of what they give. -/
theorem reordered_foldl_add (record : Record) (front back : List PathResult)
    {one other : PathResult}
    (apart : ∀ name, ¬(name ∈ one.fields.names ∧ name ∈ other.fields.names)) :
    ((front ++ one :: other :: back).foldl add record).Reordered
      ((front ++ other :: one :: back).foldl add record) := by
  have either (name : String) (rest : Option String) :
      (one.fields.get? name).or ((other.fields.get? name).or rest) =
        (other.fields.get? name).or ((one.fields.get? name).or rest) := by
    rcases not_and_or.mp (apart name) with unset | unset
    · rw [FieldMap.get?_eq_none_iff.mpr unset, Option.none_or, Option.none_or]
    · rw [FieldMap.get?_eq_none_iff.mpr unset, Option.none_or, Option.none_or]
  have texts (name : String) :
      ((front ++ other :: one :: back).foldl add record).fields.get? name =
        ((front ++ one :: other :: back).foldl add record).fields.get? name := by
    simp only [List.foldl_append, List.foldl_cons]
    rw [get?_foldl_add, get?_foldl_add, get?_add, get?_add, get?_add, get?_add, either]
  constructor
  · rw [url_foldl_add, url_foldl_add]
  · exact texts
  · exact FieldMap.names_perm texts
  · rw [values_foldl_add, values_foldl_add]
    refine List.Perm.append_left _ (List.Perm.flatMap_right _ ?_)
    exact List.Perm.append_left _ (List.Perm.swap _ _ _)

end Record

/-! ## Work that does not read the journal -/

namespace Logged

variable {ε α β : Type} {work : Logged ε α} {next : α → Logged ε β}

/-- The outcome is the same whatever the journal holds. -/
def Steady (work : Logged ε α) : Prop :=
  ∀ journal, (work.run.run journal).1 = work.outcome.1

private theorem Settles.steady {refusal : Option ε} {value : α}
    (settles : work.Settles refusal value) :
    work.Steady := by
  intro journal
  obtain ⟨written, ran⟩ := settles journal
  rw [ran, settles.outcome]

private theorem steady_pure (value : α) : (pure value : Logged ε α).Steady := fun _ => rfl

section

variable (later : ∀ value, (next value).Steady)

include later

private theorem run_bind_steady (journal : List Journal.Entry) :
    ((work >>= next).run.run journal).1 =
      (work.run.run journal).1 >>= fun value => (next value).outcome.1 := by
  rw [ExceptT.run_bind, StateT.run_bind]
  rcases work.run.run journal with ⟨fault | value, written⟩
  · rfl
  · exact later value written

private theorem outcome_bind :
    (work >>= next).outcome.1 = work.outcome.1 >>= fun value => (next value).outcome.1 :=
  run_bind_steady later []

private theorem Steady.bind (first : work.Steady) : (work >>= next).Steady := by
  intro journal
  rw [run_bind_steady later, first, outcome_bind later]

end

end Logged

namespace Engine

variable {ε E : Type}

/-! ## The pieces of a record -/

section

variable (engine : Engine (Logged ε) E) (document : E)

/-- The text of a standalone field, or why it cannot be read. -/
def textOf (field : FieldSpec) : Except ε String :=
  (engine.populateField field document).outcome.1

/-- What a path gives, or why it gives nothing. -/
def resultOf (path : Path) : Except ε PathResult :=
  (engine.evaluate path document).outcome.1

/-- The record of a document, or why there is none. -/
def recordOf (spec : SearchSpec) (url : Option String) : Except ε Record :=
  (engine.populate spec url document).outcome.1

/-- The text of a named field, with its name. -/
def entryOf (entry : String × FieldSpec) : Except ε (String × String) :=
  (engine.textOf document entry.2).map (Prod.mk entry.1)

/-- What the standalone fields and the paths of a specification give one by one. -/
structure Pieces (spec : SearchSpec) (texts : List (String × String)) (results : List PathResult) :
    Prop where
  texts : List.Forall₂ (fun entry text => text.1 = entry.1 ∧
    engine.textOf document entry.2 = .ok text.2) spec.fields.entries texts
  results : List.Forall₂ (fun path result => engine.resultOf document path = .ok result)
    spec.paths results

/-- Evaluating a path sets a name. -/
def Sets (path : Path) (name : String) : Prop :=
  ∃ result, engine.resultOf document path = .ok result ∧ name ∈ result.fields.names

/-- What an engine answers does not depend on the journal. -/
structure Steady : Prop where
  fields : ∀ field root, (engine.populateField field root).Steady
  paths : ∀ path document, (engine.evaluate path document).Steady

end

variable {engine : Engine (Logged ε) E}

private theorem steady_of_meets {answer : String → E → List E} {fault? : String → E → Option ε}
    (notices : engine.Notices)
    (meets : ∀ selector, engine.Meets answer selector (fault? selector)) :
    engine.Steady where
  fields field root := (settles_populateField notices (meets field.destination.query) root).steady
  paths _ document :=
    (settles_evaluate notices (fun selector _ => meets selector) document).steady

private theorem entryOf_eq_ok_iff {document : E} {entry : String × FieldSpec}
    {text : String × String} :
    engine.entryOf document entry = .ok text ↔
      text.1 = entry.1 ∧ engine.textOf document entry.2 = .ok text.2 := by
  obtain ⟨name, value⟩ := text
  rw [entryOf]
  cases engine.textOf document entry.2 with
  | error fault => simp [Except.map]
  | ok found => simp [Except.map, eq_comm]

private theorem pieces_iff {document : E} {spec : SearchSpec} {texts : List (String × String)}
    {results : List PathResult} :
    engine.Pieces document spec texts results ↔
      spec.fields.entries.mapM (engine.entryOf document) = .ok texts ∧
      spec.paths.mapM (engine.resultOf document) = .ok results := by
  rw [mapM_eq_ok_iff, mapM_eq_ok_iff]
  simp only [entryOf_eq_ok_iff]
  exact ⟨fun pieces => ⟨pieces.texts, pieces.results⟩, fun ⟨texts, results⟩ => ⟨texts, results⟩⟩

theorem names_of_mapM {document : E} {entries : List (String × FieldSpec)}
    {texts : List (String × String)} (read : entries.mapM (engine.entryOf document) = .ok texts) :
    texts.map Prod.fst = entries.map Prod.fst := by
  have each := mapM_eq_ok_iff.mp read
  clear read
  induction each with
  | nil => rfl
  | cons first _ ih =>
    rw [List.map_cons, List.map_cons, (entryOf_eq_ok_iff.mp first).1, ih]

/-- The paths that set a name are those whose results have it. -/
theorem exists_sets_iff {document : E} {paths : List Path} {results : List PathResult}
    (read : paths.mapM (engine.resultOf document) = .ok results) (name : String) :
    (∃ path ∈ paths, engine.Sets document path name) ↔
      ∃ result ∈ results, name ∈ result.fields.names := by
  constructor
  · rintro ⟨path, member, result, gives, sets⟩
    exact ⟨result, mem_of_mapM_eq_ok read member gives, sets⟩
  · rintro ⟨result, member, sets⟩
    obtain ⟨path, among, gives⟩ := exists_of_mem_mapM read member
    exact ⟨path, among, result, gives, sets⟩

/-! ## Pieces read one after the other -/

variable (steady : engine.Steady)

include steady

/-- Populating fields sets the texts that are read, one after the other. -/
private theorem outcome_populateAll (root : E) (pairs : List (String × FieldSpec))
    (fields : FieldMap String) :
    (engine.populateAll root pairs fields).Steady ∧
      (engine.populateAll root pairs fields).outcome.1 =
        (pairs.mapM (engine.entryOf root)).map fields.setAll := by
  induction pairs generalizing fields with
  | nil => exact ⟨Logged.steady_pure fields, rfl⟩
  | cons pair rest ih =>
    have later := fun value => (ih (fields.set pair.1 value)).1
    refine ⟨(steady.fields pair.2 root).bind later, ?_⟩
    refine (Logged.outcome_bind later).trans ?_
    rw [List.mapM_cons, entryOf, textOf]
    cases (engine.populateField pair.2 root).outcome.1 with
    | error fault => rfl
    | ok value =>
      refine (ih (fields.set pair.1 value)).2.trans ?_
      cases rest.mapM (engine.entryOf root) with
      | error fault => rfl
      | ok texts => rfl

/-- Adding paths adds their results, one after the other. -/
private theorem outcome_addPaths (document : E) (paths : List Path) (record : Record) :
    (engine.addPaths document paths record).Steady ∧
      (engine.addPaths document paths record).outcome.1 =
        (paths.mapM (engine.resultOf document)).map (·.foldl Record.add record) := by
  induction paths generalizing record with
  | nil => exact ⟨Logged.steady_pure record, rfl⟩
  | cons path rest ih =>
    have later := fun result => (ih (record.add result)).1
    refine ⟨(steady.paths path document).bind later, ?_⟩
    refine (Logged.outcome_bind later).trans ?_
    rw [List.mapM_cons, resultOf]
    cases (engine.evaluate path document).outcome.1 with
    | error fault => rfl
    | ok result =>
      refine (ih (record.add result)).2.trans ?_
      cases rest.mapM (engine.resultOf document) with
      | error fault => rfl
      | ok results => rfl

/-- A record is the pieces read one after the other and added up. -/
theorem recordOf_eq (spec : SearchSpec) (url : Option String) (document : E) :
    engine.recordOf document spec url = do
      let texts ← spec.fields.entries.mapM (engine.entryOf document)
      let results ← spec.paths.mapM (engine.resultOf document)
      return results.foldl Record.add { url, fields := .ofList texts } := by
  have later := fun fields => (outcome_addPaths steady document spec.paths { url, fields }).1
  refine (Logged.outcome_bind later).trans ?_
  rw [(outcome_populateAll steady document spec.fields.entries .empty).2]
  cases spec.fields.entries.mapM (engine.entryOf document) with
  | error fault => rfl
  | ok texts =>
    refine (outcome_addPaths steady document spec.paths _).2.trans ?_
    cases spec.paths.mapM (engine.resultOf document) with
    | error fault => rfl
    | ok results => rfl

/-- A document gives a record just if every piece can be read. -/
theorem recordOf_eq_ok_iff {spec : SearchSpec} {url : Option String} {document : E}
    {record : Record} :
    engine.recordOf document spec url = .ok record ↔ ∃ texts results,
      spec.fields.entries.mapM (engine.entryOf document) = .ok texts ∧
      spec.paths.mapM (engine.resultOf document) = .ok results ∧
      results.foldl Record.add { url, fields := .ofList texts } = record := by
  rw [recordOf_eq steady]
  constructor
  · intro succeeds
    obtain ⟨texts, fields, succeeds⟩ := exists_of_bind_eq_ok succeeds
    obtain ⟨results, paths, succeeds⟩ := exists_of_bind_eq_ok succeeds
    exact ⟨texts, results, fields, paths, Except.ok.inj succeeds⟩
  · rintro ⟨texts, results, fields, paths, rfl⟩
    rw [fields, paths]
    rfl

/-! ## Changes of a specification -/

/-- One more path adds what it gives to the record. -/
theorem recordOf_withPath (spec : SearchSpec) (url : Option String) (document : E) (path : Path) :
    engine.recordOf document (spec.withPath path) url = do
      let record ← engine.recordOf document spec url
      let result ← engine.resultOf document path
      return record.add result := by
  rw [recordOf_eq steady, recordOf_eq steady, SearchSpec.withPath]
  cases spec.fields.entries.mapM (engine.entryOf document) with
  | error fault => rfl
  | ok texts =>
    rw [List.mapM_append, List.mapM_cons, List.mapM_nil]
    cases spec.paths.mapM (engine.resultOf document) with
    | error fault => rfl
    | ok results =>
      cases engine.resultOf document path with
      | error fault => rfl
      | ok result => exact congrArg Except.ok List.foldl_append

/-- A new standalone field is read behind the others. -/
theorem recordOf_withField_eq_ok_iff {spec : SearchSpec} {url : Option String} {document : E}
    {name : String} {field : FieldSpec} (fresh : name ∉ spec.fields.names) {wider : Record} :
    engine.recordOf document (spec.withField name field) url = .ok wider ↔
      ∃ texts text results,
        spec.fields.entries.mapM (engine.entryOf document) = .ok texts ∧
        engine.textOf document field = .ok text ∧
        spec.paths.mapM (engine.resultOf document) = .ok results ∧
        results.foldl Record.add { url, fields := .ofList (texts ++ [(name, text)]) } = wider := by
  rw [recordOf_eq_ok_iff steady, SearchSpec.withField, FieldMap.entries_set_of_not_mem field fresh]
  simp only [mapM_append_eq_ok_iff, mapM_cons_eq_ok_iff, entryOf_eq_ok_iff]
  constructor
  · rintro ⟨_, results, ⟨texts, _, read, ⟨⟨_, text⟩, _, ⟨rfl, own⟩, none, rfl⟩, rfl⟩, paths, rfl⟩
    cases none
    exact ⟨texts, text, results, read, own, paths, rfl⟩
  · rintro ⟨texts, text, results, read, own, paths, rfl⟩
    exact ⟨_, results, ⟨texts, _, read, ⟨(name, text), [], ⟨rfl, own⟩, rfl, rfl⟩, rfl⟩, paths, rfl⟩

/-- Swapping neighbours among the paths that set no common name reorders the record. -/
theorem recordOf_swapped {spec : SearchSpec} {url : Option String} {document : E}
    {front back : List Path} {one other : Path} {record : Record}
    (order : spec.paths = front ++ one :: other :: back)
    (apart : ∀ name, ¬(engine.Sets document one name ∧ engine.Sets document other name))
    (read : engine.recordOf document spec url = .ok record) :
    ∃ swapped, engine.recordOf document { spec with paths := front ++ other :: one :: back } url =
      .ok swapped ∧ record.Reordered swapped := by
  obtain ⟨texts, _, fields, paths, rfl⟩ := (recordOf_eq_ok_iff steady).mp read
  rw [order] at paths
  simp only [mapM_append_eq_ok_iff, mapM_cons_eq_ok_iff] at paths
  obtain ⟨before, _, first, ⟨result, _, here, ⟨result', after, next, last, rfl⟩, rfl⟩, rfl⟩ := paths
  refine ⟨_, (recordOf_eq_ok_iff steady).mpr ⟨texts, before ++ result' :: result :: after, fields,
    ?_, rfl⟩, Record.reordered_foldl_add _ before after ?_⟩
  · simp only [mapM_append_eq_ok_iff, mapM_cons_eq_ok_iff]
    exact ⟨before, _, first, ⟨result', _, next, ⟨result, after, here, last, rfl⟩, rfl⟩, rfl⟩
  · rintro name ⟨sets, sets'⟩
    exact apart name ⟨⟨result, here, sets⟩, ⟨result', next, sets'⟩⟩

end Engine

open Document Engine

theorem Document.Place.engine_steady : Place.engine.Steady :=
  steady_of_meets Place.engine_notices Place.engine_meets

/-- A document gives a record just if every standalone field and every path can be read, and the
record is merged from what these give. So one more path adds what it gives. One more standalone
field under a new name leaves all other names and the listed values alone, and its text is the value
of its name unless a path sets that. Paths next to each other that set no common name may be
swapped: all names keep their values. -/
theorem recordOf_merges (spec : SearchSpec) (url : Option String) (document : Place) :
    (∀ record, Place.engine.recordOf document spec url = .ok record ↔
      ∃ texts results, Place.engine.Pieces document spec texts results ∧
        record.Merges url texts results) ∧
    (∀ path, Place.engine.recordOf document (spec.withPath path) url = do
      let record ← Place.engine.recordOf document spec url
      let result ← Place.engine.resultOf document path
      return record.add result) ∧
    (∀ name field, name ∉ spec.fields.names →
      ((∃ wider, Place.engine.recordOf document (spec.withField name field) url = .ok wider) ↔
        (∃ record, Place.engine.recordOf document spec url = .ok record) ∧
          ∃ text, Place.engine.textOf document field = .ok text) ∧
      ∀ record wider text, Place.engine.recordOf document spec url = .ok record →
        Place.engine.recordOf document (spec.withField name field) url = .ok wider →
        Place.engine.textOf document field = .ok text →
        record.Widens wider name text
          (∃ path ∈ spec.paths, Place.engine.Sets document path name)) ∧
    ∀ front one other back, spec.paths = front ++ one :: other :: back →
      (∀ name, ¬(Place.engine.Sets document one name ∧ Place.engine.Sets document other name)) →
      let swapped := { spec with paths := front ++ other :: one :: back }
      ((∃ after, Place.engine.recordOf document swapped url = .ok after) ↔
        ∃ record, Place.engine.recordOf document spec url = .ok record) ∧
      ∀ record after, Place.engine.recordOf document spec url = .ok record →
        Place.engine.recordOf document swapped url = .ok after → record.Reordered after := by
  have steady := Place.engine_steady
  refine ⟨?_, recordOf_withPath steady spec url document, ?_, ?_⟩
  · intro record
    rw [recordOf_eq_ok_iff steady]
    refine exists_congr fun texts => exists_congr fun results => ?_
    rw [pieces_iff, and_assoc]
    refine and_congr_right fun read => and_congr_right fun _ => ?_
    have distinct : (texts.map Prod.fst).Nodup := names_of_mapM read ▸ spec.fields.names_nodup
    exact eq_comm.trans (Record.merges_iff distinct).symm
  · intro name field fresh
    have wider_iff {wider : Record} := @recordOf_withField_eq_ok_iff _ _ _ steady spec url document
      name field fresh wider
    constructor
    · constructor
      · rintro ⟨wider, read⟩
        obtain ⟨texts, text, results, fields, own, paths, -⟩ := wider_iff.mp read
        exact ⟨⟨_, (recordOf_eq_ok_iff steady).mpr ⟨texts, results, fields, paths, rfl⟩⟩, text, own⟩
      · rintro ⟨⟨record, read⟩, text, own⟩
        obtain ⟨texts, results, fields, paths, -⟩ := (recordOf_eq_ok_iff steady).mp read
        exact ⟨_, wider_iff.mpr ⟨texts, text, results, fields, own, paths, rfl⟩⟩
    · intro record wider text read readWider own
      obtain ⟨texts, results, fields, paths, rfl⟩ := (recordOf_eq_ok_iff steady).mp read
      obtain ⟨texts', text', results', fields', own', paths', rfl⟩ := wider_iff.mp readWider
      cases fields.symm.trans fields'
      cases own.symm.trans own'
      cases paths.symm.trans paths'
      rw [exists_sets_iff paths]
      exact Record.widens_foldl_add url texts results name text
  · intro front one other back order apart
    constructor
    · constructor
      · rintro ⟨after, read⟩
        have apart' := fun name both => apart name (And.symm both)
        obtain ⟨record, read, -⟩ := recordOf_swapped steady rfl apart' read
        have same : { spec with paths := front ++ one :: other :: back } = spec := by rw [← order]
        exact ⟨record, same ▸ read⟩
      · rintro ⟨record, read⟩
        obtain ⟨after, read, -⟩ := recordOf_swapped steady order apart read
        exact ⟨after, read⟩
    · intro record after read readAfter
      obtain ⟨swapped, readSwapped, reordered⟩ := recordOf_swapped steady order apart read
      cases readAfter.symm.trans readSwapped
      exact reordered

/-- A path overwrites the title, which is also the name of a standalone field; the other path lists
what it reads as well. -/
theorem recordOf_merges_headings :
    let document := Document.parse "<h1>x</h1><p>y</p><b>z</b>"
    let read (selector : String) : FieldSpec := ⟨⟨selector, .single 0⟩, .text⟩
    let titled : Path := .anchored ⟨"body", 0⟩ [.populate (.single "title" (read "p"))]
    let bold : Path :=
      .anchored ⟨"body", 0⟩ [.populate (.single "bold" (read "b")), .find (read "p")]
    let spec : SearchSpec := { fields := .single "title" (read "h1"), paths := [titled, bold] }
    let record : Record := { fields := .ofList [("title", "y"), ("bold", "z")], values := ["y"] }
    Place.engine.recordOf document spec none = .ok record ∧
      (∃ texts results, Place.engine.Pieces document spec texts results ∧
        record.Merges none texts results) ∧
      "note" ∉ spec.fields.names ∧
      (∃ wider, Place.engine.recordOf document (spec.withField "note" (read "b")) none = .ok wider ∧
        wider.fields.get? "title" = record.fields.get? "title") ∧
      (∀ name, ¬(Place.engine.Sets document titled name ∧ Place.engine.Sets document bold name)) ∧
      ∃ after, Place.engine.recordOf document { spec with paths := [bold, titled] } none =
        .ok after ∧ record.Reordered after := by
  intro document read titled bold spec record
  have reads : Place.engine.recordOf document spec none = .ok record := by decide +kernel
  have title : Place.engine.resultOf document titled = .ok ⟨.single "title" "y", []⟩ := by
    decide +kernel
  have listed : Place.engine.resultOf document bold = .ok ⟨.single "bold" "z", ["y"]⟩ := by
    decide +kernel
  have text : Place.engine.textOf document (read "b") = .ok "z" := by decide +kernel
  have fresh : "note" ∉ spec.fields.names := by decide
  have apart (name : String) : ¬(Place.engine.Sets document titled name ∧
      Place.engine.Sets document bold name) := by
    rintro ⟨⟨result, gives, sets⟩, ⟨result', gives', sets'⟩⟩
    cases title.symm.trans gives
    cases listed.symm.trans gives'
    obtain rfl := List.mem_singleton.mp sets
    exact absurd (List.mem_singleton.mp sets') (by decide)
  obtain ⟨merges, -, widens, swaps⟩ := recordOf_merges spec none document
  obtain ⟨widens_iff, others⟩ := widens "note" (read "b") fresh
  obtain ⟨wider, readWider⟩ := widens_iff.mpr ⟨⟨record, reads⟩, "z", text⟩
  obtain ⟨swaps_iff, reordered⟩ := swaps [] titled bold [] rfl apart
  obtain ⟨after, readAfter⟩ := swaps_iff.mpr ⟨record, reads⟩
  exact ⟨reads, (merges record).mp reads, fresh,
    ⟨wider, readWider, (others record wider "z" reads readWider text).others "title" (by decide)⟩,
    apart, after, readAfter, reordered record after reads readAfter⟩

end PageHarvest
