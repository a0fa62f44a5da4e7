import PageHarvest.Proofs.Files.Tree

/-! # Trees that differ in one file

Work on files looks at the content of a file only to change it. So the same work on two trees that
differ in what a single file holds comes to the same, and leaves trees that differ in that file
only.
-/

namespace PageHarvest

/-! ## Work from related states -/

section

variable {ε ε' σ α β : Type} {before : σ → σ → Prop} {middle : Except ε α → σ → σ → Prop}
  {after : Except ε β → σ → σ → Prop}

/-- From states that are related two pieces of work come to the same, and leave states that are
related as that outcome wants it. -/
def Mirrors (before : σ → σ → Prop) (after : Except ε α → σ → σ → Prop)
    (work other : ExceptT ε (StateM σ) α) : Prop :=
  ∀ ⦃state state' : σ⦄, before state state' → ∃ outcome left left',
    work.run.run state = (outcome, left) ∧ other.run.run state' = (outcome, left') ∧
      after outcome left left'

/-- Two pieces of work come to the same and keep a relation between states. -/
abbrev Keeps (related : σ → σ → Prop) (work other : ExceptT ε (StateM σ) α) : Prop :=
  Mirrors related (fun _ => related) work other

namespace Mirrors

theorem pure (value : β) (holds : ∀ state state', before state state' →
    after (.ok value) state state') :
    Mirrors before after (Pure.pure value) (Pure.pure value) :=
  fun state state' related => ⟨.ok value, state, state', rfl, rfl, holds state state' related⟩

theorem throw (fault : ε) (holds : ∀ state state', before state state' →
    after (.error fault) state state') :
    Mirrors before after (MonadExcept.throw fault) (MonadExcept.throw fault) :=
  fun state state' related => ⟨.error fault, state, state', rfl, rfl, holds state state' related⟩

/-- Work that looks at its state first may go on with each of the two states. -/
theorem get_bind {next next' : σ → ExceptT ε (StateM σ) β}
    (second : ∀ state state', before state state' →
      ∃ outcome left left', (next state).run.run state = (outcome, left) ∧
        (next' state').run.run state' = (outcome, left') ∧ after outcome left left') :
    Mirrors before after (get >>= next) (get >>= next') := by
  intro state state' related
  rw [run_get_bind, run_get_bind]
  exact second state state' related

/-- Work that mirrors other work, followed by work that does so from there, mirrors it as a
whole. -/
theorem bind {work other : ExceptT ε (StateM σ) α} {next next' : α → ExceptT ε (StateM σ) β}
    (first : Mirrors before middle work other)
    (fails : ∀ fault state state', middle (.error fault) state state' →
      after (.error fault) state state')
    (second : ∀ value, Mirrors (middle (.ok value)) after (next value) (next' value)) :
    Mirrors before after (work >>= next) (other >>= next') := by
  intro state state' related
  obtain ⟨outcome, left, left', ran, ran', between⟩ := first related
  rw [ExceptT.run_bind, StateT.run_bind, ran, ExceptT.run_bind, StateT.run_bind, ran']
  cases outcome with
  | error fault => exact ⟨.error fault, left, left', rfl, rfl, fails fault left left' between⟩
  | ok value => exact second value between

theorem adapt {after : σ → σ → Prop} {work other : ExceptT ε (StateM σ) α} (rename : ε → ε')
    (mirrors : Mirrors before (fun _ => after) work other) :
    Mirrors before (fun _ => after) (ExceptT.adapt rename work) (ExceptT.adapt rename other) := by
  intro state state' related
  obtain ⟨outcome, left, left', ran, ran', between⟩ := mirrors related
  refine ⟨outcome.mapError rename, left, left', ?_, ?_, between⟩
  · change (match work.run.run state with
      | (outcome, left) => (outcome.mapError rename, left)) = _
    rw [ran]
  · change (match other.run.run state' with
      | (outcome, left) => (outcome.mapError rename, left)) = _
    rw [ran']

end Mirrors

/-- Two pieces of work that keep a relation keep it one after the other. -/
theorem Keeps.bind {related : σ → σ → Prop} {work other : ExceptT ε (StateM σ) α}
    {next next' : α → ExceptT ε (StateM σ) β} (first : Keeps related work other)
    (second : ∀ value, Keeps related (next value) (next' value)) :
    Keeps related (work >>= next) (other >>= next') :=
  Mirrors.bind first (fun _ _ _ holds => holds) second

end

namespace Files

theorem Content.append_empty (content : Content) : content.append "" = content := by
  cases content with
  | text content => exact congrArg Content.text String.append_empty
  | raw bytes =>
    have nothing : bytesOf "" = [] := by decide +kernel
    rw [append, nothing, List.append_nil]

/-- Two trees that differ in no more than the file at one place, whose contents are related. -/
structure Alike (R : Content → Content → Prop) (place : Place) (tree tree' : Tree) : Prop where
  top : tree'.top = tree.top
  apart : ∀ other, other ≠ place → tree'.at? other = tree.at? other
  here : ∃ content content', tree.at? place = some (.file content) ∧
    tree'.at? place = some (.file content') ∧ R content content'

namespace Alike

variable {R : Content → Content → Prop} {place : Place} {tree tree' : Tree}

/-! ## What the trees have in common -/

section

variable (alike : Alike R place tree tree')

include alike

private theorem bare : tree.at? place ≠ some .folder ∧ tree'.at? place ≠ some .folder := by
  obtain ⟨content, content', stands, stands', -⟩ := alike.here
  exact ⟨by simp [stands], by simp [stands']⟩

private theorem folder_iff (other : Place) :
    tree'.at? other = some .folder ↔ tree.at? other = some .folder := by
  by_cases same : other = place
  · rw [same]
    exact iff_of_false alike.bare.2 alike.bare.1
  · rw [alike.apart other same]

private theorem none_iff (other : Place) : tree'.at? other = none ↔ tree.at? other = none := by
  by_cases same : other = place
  · obtain ⟨content, content', stands, stands', -⟩ := alike.here
    rw [same, stands, stands']
    exact iff_of_false nofun nofun
  · rw [alike.apart other same]

theorem path (other : Place) : tree'.path other = tree.path other := by
  rw [Tree.path, Tree.path, alike.top]

theorem ofPlace (other : Place) : Location.ofPlace tree' other = .ofPlace tree other := by
  rw [Location.ofPlace, Location.ofPlace, alike.top]

private theorem link_iff (other : Place) (target : String) :
    tree'.at? other = some (.link target) ↔ tree.at? other = some (.link target) := by
  by_cases same : other = place
  · obtain ⟨content, content', stands, stands', -⟩ := alike.here
    rw [same, stands, stands']
    exact iff_of_false nofun nofun
  · rw [alike.apart other same]

/-- Names are followed alike in trees that are alike. -/
private theorem follow (here : Place) (names : List String) :
    tree'.follow here names = tree.follow here names := by
  have walk (jump : Place → List String → Except Fault Place) (here : Place)
      (names : List String) : tree'.walk jump here names = tree.walk jump here names := by
    induction names generalizing here with
    | nil => rfl
    | cons name rest ih =>
      by_cases folder : tree.at? here = some .folder
      · have folder' := (alike.folder_iff here).mpr folder
        by_cases linked : ∃ target, tree.at? (step here name) = some (.link target)
        · obtain ⟨target, stands⟩ := linked
          rw [Tree.walk_of_link folder stands,
            Tree.walk_of_link folder' ((alike.link_iff _ target).mpr stands)]
        · rw [not_exists] at linked
          rw [Tree.walk_of_not_link folder linked, Tree.walk_of_not_link folder'
            fun target => mt (alike.link_iff _ target).mp (linked target), ih]
      · by_cases same : here = place
        · obtain ⟨content, content', stands, stands', -⟩ := alike.here
          rw [Tree.walk, Tree.walk, same, stands, stands']
        · rw [Tree.walk, Tree.walk, alike.apart here same]
          cases stands : tree.at? here with
          | none => rfl
          | some entry =>
            cases entry with
            | folder => exact absurd stands folder
            | file content => rfl
            | link target => rfl
  have limited (links : Nat) : tree'.followWithin links = tree.followWithin links := by
    induction links with
    | zero => exact funext₂ (walk _)
    | succ links ih =>
      funext here names
      rw [Tree.followWithin, Tree.followWithin, ih, walk]
  rw [Tree.follow, Tree.follow, limited]

theorem has (other : Place) : tree'.has other = tree.has other := by
  rw [Tree.has, Tree.has, Tree.look, Tree.look, alike.follow]
  cases tree.follow [] other with
  | error fault => rfl
  | ok there =>
    rw [Bool.eq_iff_iff, Option.isSome_iff_ne_none, Option.isSome_iff_ne_none, Ne, Ne,
      alike.none_iff]

theorem hasFolder (other : Place) : tree'.hasFolder other = tree.hasFolder other := by
  rw [Tree.hasFolder, Tree.hasFolder, Tree.look, Tree.look, alike.follow]
  cases tree.follow [] other with
  | error fault => rfl
  | ok there =>
    rw [Bool.eq_iff_iff, decide_eq_true_iff, decide_eq_true_iff]
    exact alike.folder_iff there

theorem find (location : Location) : tree'.find location = tree.find location := by
  rw [Tree.find, Tree.find, alike.follow]

/-- Trees that are alike in one way are alike in every weaker one. -/
theorem mono {S : Content → Content → Prop}
    (weaker : ∀ content content', R content content' → S content content') :
    Alike S place tree tree' where
  top := alike.top
  apart := alike.apart
  here := by
    obtain ⟨content, content', stands, stands', related⟩ := alike.here
    exact ⟨content, content', stands, stands', weaker content content' related⟩

/-! ## Trees that are changed alike -/

private theorem put {other : Place} {entry : Entry} (elsewhere : other ≠ place)
    (bare : tree.at? other ≠ some .folder) :
    Alike R place (tree.put other entry) (tree'.put other entry) where
  top := alike.top
  apart another apart := by
    have bare' : tree'.at? other ≠ some .folder := mt (alike.folder_iff other).mp bare
    rw [Tree.at?_put bare, Tree.at?_put bare', alike.apart another apart]
  here := by
    have bare' : tree'.at? other ≠ some .folder := mt (alike.folder_iff other).mp bare
    rw [Tree.at?_put bare, Tree.at?_put bare', if_neg (Ne.symm elsewhere),
      if_neg (Ne.symm elsewhere)]
    exact alike.here

private theorem put_here {content content' : Content} (related : R content content') :
    Alike R place (tree.put place (.file content)) (tree'.put place (.file content')) where
  top := alike.top
  apart another apart := by
    rw [Tree.at?_put alike.bare.1, Tree.at?_put alike.bare.2, if_neg apart, if_neg apart,
      alike.apart another apart]
  here := by
    refine ⟨content, content', ?_, ?_, related⟩
    · rw [Tree.at?_put alike.bare.1, if_pos rfl]
    · rw [Tree.at?_put alike.bare.2, if_pos rfl]

end

end Alike

section

variable {R : Content → Content → Prop} {place : Place}

/-- Folders are made alike in trees that are alike. -/
private theorem keeps_makeAlong (making : Making) (here : Place) (shown names : List String) :
    Keeps (Alike R place) (makeAlong making here shown names)
      (makeAlong making here shown names) := by
  induction names generalizing here shown with
  | nil => exact Mirrors.pure () fun _ _ alike => alike
  | cons name rest ih =>
    intro tree tree' alike
    by_cases same : step here name = place
    · obtain ⟨content, content', stands, stands', -⟩ := alike.here
      rw [← same] at stands stands'
      rw [run_makeAlong_file stands, run_makeAlong_file stands']
      exact ⟨_, tree, tree', rfl, rfl, alike⟩
    · have both := alike.apart _ same
      cases stands : tree.at? (step here name) with
      | none =>
        rw [run_makeAlong_none stands, run_makeAlong_none (both.trans stands)]
        exact ih _ _ (alike.put same (by simp [stands]))
      | some entry =>
        cases entry with
        | folder =>
          rw [run_makeAlong_folder stands, run_makeAlong_folder (both.trans stands)]
          exact ih _ _ alike
        | file content =>
          rw [run_makeAlong_file stands, run_makeAlong_file (both.trans stands)]
          exact ⟨_, tree, tree', rfl, rfl, alike⟩
        | link target =>
          rw [run_makeAlong_link stands, run_makeAlong_link (both.trans stands), alike.follow]
          cases tree.follow here [name, "."] with
          | ok folder => exact ih _ _ alike
          | error fault => exact ⟨_, tree, tree', rfl, rfl, alike⟩

/-- Making a folder is done alike in trees that are alike. -/
theorem keeps_makeFolder (making : Making) (location : Location) :
    Keeps (Alike R place) (makeFolder making location) (makeFolder making location) :=
  keeps_makeAlong _ _ _ _

/-- A change that keeps the contents of the one file related keeps the trees alike. -/
theorem keeps_change {location : Location} {f : Option Content → Content}
    (closed : ∀ content content', R content content' → R (f (some content)) (f (some content'))) :
    Keeps (Alike R place) (change location f) (change location f) := by
  intro tree tree' alike
  rw [change, run_get_bind, run_get_bind, alike.find]
  cases found : tree.find location with
  | error fault => exact ⟨_, tree, tree', rfl, rfl, alike⟩
  | ok other =>
    dsimp only
    by_cases same : other = place
    · subst same
      obtain ⟨content, content', stands, stands', related⟩ := alike.here
      rw [stands, stands']
      cases location.endsAsFolder with
      | true => exact ⟨_, tree, tree', rfl, rfl, alike⟩
      | false => exact ⟨_, _, _, rfl, rfl, alike.put_here (closed content content' related)⟩
    · rw [alike.apart other same]
      cases stands : tree.at? other with
      | none =>
        cases location.endsAsFolder with
        | true => exact ⟨_, tree, tree', rfl, rfl, alike⟩
        | false => exact ⟨_, _, _, rfl, rfl, alike.put same (by simp [stands])⟩
      | some entry =>
        cases entry with
        | folder => exact ⟨_, tree, tree', rfl, rfl, alike⟩
        | link target => exact ⟨_, tree, tree', rfl, rfl, alike⟩
        | file content =>
          cases location.endsAsFolder with
          | true => exact ⟨_, tree, tree', rfl, rfl, alike⟩
          | false => exact ⟨_, _, _, rfl, rfl, alike.put same (by simp [stands])⟩

end

end Files

end PageHarvest
