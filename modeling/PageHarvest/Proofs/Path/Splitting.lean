import PageHarvest.Proofs.Path.Argument

/-! # Taking arguments apart

The pieces into which a list of arguments is split are the list again when they are joined. A comma
that is reached at depth zero parts the list into what stands before it and what stands behind, and
no other comma does, so there is one piece more than there are such commas. Blanks around the list
stand around its first and its last piece, where they are not read.
-/

namespace PageHarvest.Path

open Text

/-! ## Pieces -/

theorem splitArgumentsFrom_ne_nil (depth : Nat) (s : List Char) :
    splitArgumentsFrom depth s ≠ [] := by
  cases s with
  | nil => exact List.cons_ne_nil _ _
  | cons c rest =>
    rw [splitArgumentsFrom]
    split
    · exact List.cons_ne_nil _ _
    · cases splitArgumentsFrom (depthAfter depth c) rest <;> exact List.cons_ne_nil _ _

/-- Joining the pieces with commas undoes splitting. -/
theorem intercalate_splitArgumentsFrom (depth : Nat) (s : List Char) :
    [','].intercalate (splitArgumentsFrom depth s) = s := by
  induction s generalizing depth with
  | nil => rfl
  | cons c rest ih =>
    rw [splitArgumentsFrom]
    split
    · next separator =>
      have tail := ih 0
      obtain ⟨piece, pieces, same⟩ :=
        List.exists_cons_of_ne_nil (splitArgumentsFrom_ne_nil 0 rest)
      rw [same] at tail ⊢
      rw [List.intercalate_cons_cons, tail, separator.1]
      rfl
    · have tail := ih (depthAfter depth c)
      obtain ⟨piece, pieces, same⟩ :=
        List.exists_cons_of_ne_nil (splitArgumentsFrom_ne_nil (depthAfter depth c) rest)
      rw [same] at tail ⊢
      rw [← tail, consFirst]
      cases pieces with
      | nil => rw [List.intercalate_singleton, List.intercalate_singleton]
      | cons next more => rw [List.intercalate_cons_cons, List.intercalate_cons_cons]; rfl

/-- The depth at which a passage ends is the one that counting leads to. -/
theorem Passes.foldl_eq {depth final : Nat} {s : List Char} (passes : Passes depth s final) :
    s.foldl depthAfter depth = final := by
  induction s generalizing depth with
  | nil => exact passes
  | cons c rest ih => exact ih passes.2

/-- What is passed over is a single argument. -/
theorem splitArguments_of_passes {s : List Char} {final : Nat} (passes : Passes 0 s final) :
    splitArguments s = [s] := by
  have split := splitArgumentsFrom_append passes []
  rwa [List.append_nil, splitArgumentsFrom, foldr_consFirst, List.append_nil] at split

/-- A comma that is reached at depth zero parts what stands before it from what stands behind. -/
theorem splitArgumentsFrom_comma {depth : Nat} {front : List Char}
    (outside : front.foldl depthAfter depth = 0) (rest : List Char) :
    splitArgumentsFrom depth (front ++ ',' :: rest) =
      splitArgumentsFrom depth front ++ splitArguments rest := by
  induction front generalizing depth with
  | nil =>
    obtain rfl : depth = 0 := outside
    rfl
  | cons c more ih =>
    have tail := ih outside
    rw [List.cons_append, splitArgumentsFrom, splitArgumentsFrom]
    split
    · next separator =>
      obtain ⟨rfl, rfl⟩ := separator
      rw [show depthAfter 0 ',' = 0 from rfl] at tail
      rw [tail, List.cons_append]
    · obtain ⟨piece, pieces, same⟩ :=
        List.exists_cons_of_ne_nil (splitArgumentsFrom_ne_nil (depthAfter depth c) more)
      rw [tail, same]
      rfl

/-! ## Separating commas -/

/-- The depth of parentheses behind a text that starts at some depth: an opening one adds one to it
and a closing one takes one away, as long as there is one to take. -/
def depthBehind (start : Nat) (s : List Char) : Nat :=
  s.foldl (fun depth c => match c with
    | '(' => depth + 1
    | ')' => depth - 1
    | _ => depth) start

/-- A separating comma stands at a position: the depth in front of it is zero. -/
abbrev SeparatesAt (start : Nat) (s : List Char) (position : Nat) : Prop :=
  s[position]? = some ',' ∧ depthBehind start (s.take position) = 0

/-- The number of separating commas in a text that starts at some depth. -/
def separators (start : Nat) (s : List Char) : Nat :=
  (List.range s.length).countP fun position => SeparatesAt start s position

private theorem depthBehind_eq (start : Nat) (s : List Char) :
    depthBehind start s = s.foldl depthAfter start := by
  rw [depthBehind]
  congr
  funext depth c
  rw [depthAfter]
  split <;> simp_all

private theorem separators_cons (start : Nat) (c : Char) (rest : List Char) :
    separators start (c :: rest) =
      separators (depthAfter start c) rest + if c = ',' ∧ start = 0 then 1 else 0 := by
  have later (position : Nat) :
      SeparatesAt start (c :: rest) (position + 1) ↔
        SeparatesAt (depthAfter start c) rest position := by
    simp [SeparatesAt, depthBehind_eq]
  have first : SeparatesAt start (c :: rest) 0 ↔ c = ',' ∧ start = 0 := by
    simp [SeparatesAt, depthBehind]
  rw [separators, List.length_cons, List.range_succ_eq_map, List.countP_cons, List.countP_map]
  simp only [Function.comp_def, later, first, decide_eq_true_eq, separators, Nat.succ_eq_add_one]

/-- There is one piece more than there are separating commas. -/
theorem length_splitArgumentsFrom (depth : Nat) (s : List Char) :
    (splitArgumentsFrom depth s).length = separators depth s + 1 := by
  induction s generalizing depth with
  | nil => rfl
  | cons c rest ih =>
    rw [splitArgumentsFrom, separators_cons]
    split
    · next separator =>
      obtain ⟨rfl, rfl⟩ := separator
      rw [List.length_cons, ih]
      rfl
    · have tail := ih (depthAfter depth c)
      obtain ⟨piece, pieces, same⟩ :=
        List.exists_cons_of_ne_nil (splitArgumentsFrom_ne_nil (depthAfter depth c) rest)
      rw [same] at tail ⊢
      exact tail

/-- No piece holds a separating comma: the first one is passed over from the depth at which the text
starts, all others from depth zero. -/
theorem passes_of_splitArgumentsFrom {depth : Nat} {s piece : List Char}
    {pieces : List (List Char)} (split : splitArgumentsFrom depth s = piece :: pieces) :
    (∃ final, Passes depth piece final) ∧ ∀ other ∈ pieces, ∃ final, Passes 0 other final := by
  induction s generalizing depth piece pieces with
  | nil =>
    obtain ⟨rfl, rfl⟩ := List.cons_eq_cons.mp split
    exact ⟨⟨depth, rfl⟩, nofun⟩
  | cons c rest ih =>
    rw [splitArgumentsFrom] at split
    split at split
    · next separator =>
      obtain ⟨rfl, rfl⟩ := List.cons_eq_cons.mp split
      obtain ⟨next, more, same⟩ := List.exists_cons_of_ne_nil (splitArgumentsFrom_ne_nil 0 rest)
      have tail := ih same
      rw [same]
      exact ⟨⟨depth, rfl⟩, List.forall_mem_cons.mpr tail⟩
    · next inside =>
      obtain ⟨next, more, same⟩ :=
        List.exists_cons_of_ne_nil (splitArgumentsFrom_ne_nil (depthAfter depth c) rest)
      obtain ⟨⟨final, passes⟩, others⟩ := ih same
      rw [same] at split
      obtain ⟨rfl, rfl⟩ := List.cons_eq_cons.mp split
      exact ⟨⟨final, inside, passes⟩, others⟩

/-- A piece is not split any further. -/
theorem splitArguments_of_mem {s piece : List Char} (member : piece ∈ splitArguments s) :
    splitArguments piece = [piece] := by
  obtain ⟨first, later, same⟩ := List.exists_cons_of_ne_nil (splitArgumentsFrom_ne_nil 0 s)
  obtain ⟨passes, others⟩ := passes_of_splitArgumentsFrom same
  have each : ∀ other ∈ first :: later, ∃ final, Passes 0 other final :=
    List.forall_mem_cons.mpr ⟨passes, others⟩
  rw [splitArguments, same] at member
  obtain ⟨final, passes⟩ := each piece member
  exact splitArguments_of_passes passes

/-- A list of arguments is split just at its separating commas, whether or not its parentheses
match: the pieces joined with commas are the list again, no piece can be split further, every
separating comma makes one piece more, and what stands before one and behind it is split apart. -/
theorem splitArguments_at_separators (s : List Char) :
    [','].intercalate (splitArguments s) = s ∧
    (∀ piece ∈ splitArguments s, splitArguments piece = [piece]) ∧
    (splitArguments s).length = separators 0 s + 1 ∧
    ∀ front back, s = front ++ ',' :: back → depthBehind 0 front = 0 →
      splitArguments s = splitArguments front ++ splitArguments back := by
  refine ⟨intercalate_splitArgumentsFrom 0 s, fun piece => splitArguments_of_mem,
    length_splitArgumentsFrom 0 s, ?_⟩
  rintro front back rfl outside
  rw [depthBehind_eq] at outside
  exact splitArgumentsFrom_comma outside back

theorem splitArguments_at_separators_stray :
    depthBehind 0 ")a(,b)".toList = 0 ∧
      splitArguments (")a(,b)".toList ++ ',' :: "(c,".toList) =
        splitArguments ")a(,b)".toList ++ splitArguments "(c,".toList :=
  ⟨by decide, (splitArguments_at_separators _).2.2.2 _ _ rfl (by decide)⟩

/-! ## Blanks around arguments -/

/-- Two texts that are the same as arguments. -/
structure SameArgument (part other : List Char) : Prop where
  blank : isBlankText part = isBlankText other
  read : parseArgument part = parseArgument other

private theorem sameArgument_of_padded {part other : List Char} (padded : Padded part other) :
    SameArgument part other := by
  obtain ⟨front, back, blankFront, blankBack, rfl⟩ := padded
  have noColon {gap : List Char} (blank : isBlankText gap = true) : ':' ∉ gap :=
    fun member => absurd (isBlank_of_mem blank member) (by decide)
  constructor
  · simp only [isBlankText_append, blankFront, blankBack, Bool.true_and, Bool.and_true]
  · by_cases colon : ':' ∈ part
    · obtain ⟨key, value, rfl, absent⟩ := List.eq_append_cons_of_mem colon
      have whole : front ++ (key ++ ':' :: value) ++ back =
          (front ++ key) ++ ':' :: (value ++ back) := by simp
      have absent' : ':' ∉ front ++ key := by simp [absent, noColon blankFront]
      have sameKey : trim (front ++ key) = trim key :=
        trim_eq_of_padded ⟨front, [], blankFront, rfl, by simp⟩
      have sameValue : trim (value ++ back) = trim value :=
        trim_eq_of_padded ⟨[], back, rfl, blankBack, by simp⟩
      simp only [parseArgument, whole, cut_append absent, cut_append absent', sameKey, sameValue]
    · have colon' : ':' ∉ front ++ part ++ back := by
        simp [colon, noColon blankFront, noColon blankBack]
      have same : trim (front ++ part ++ back) = trim part :=
        trim_eq_of_padded ⟨front, back, blankFront, blankBack, rfl⟩
      simp only [parseArgument, cut_eq_none colon, cut_eq_none colon', same]

/-- Blanks behind a text stand behind its last piece. -/
theorem sameArguments_trailing {gap : List Char} (blank : isBlankText gap = true)
    (depth : Nat) (s : List Char) :
    List.Forall₂ (fun part other => ∃ back, isBlankText back = true ∧ other = part ++ back)
      (splitArgumentsFrom depth s) (splitArgumentsFrom depth (s ++ gap)) := by
  induction s generalizing depth with
  | nil =>
    have split := splitArgumentsFrom_append (passes_of_isBlankText blank depth) []
    rw [List.append_nil, splitArgumentsFrom, foldr_consFirst, List.append_nil] at split
    rw [List.nil_append, split]
    exact .cons ⟨gap, blank, rfl⟩ .nil
  | cons c rest ih =>
    rw [List.cons_append, splitArgumentsFrom, splitArgumentsFrom]
    split
    · exact .cons ⟨[], rfl, rfl⟩ (ih 0)
    · have tail := ih (depthAfter depth c)
      revert tail
      generalize splitArgumentsFrom (depthAfter depth c) rest = parts
      generalize splitArgumentsFrom (depthAfter depth c) (rest ++ gap) = others
      rintro (_ | ⟨⟨back, blank, rfl⟩, tail⟩)
      · exact .cons ⟨[], rfl, rfl⟩ .nil
      · exact .cons ⟨back, blank, rfl⟩ tail

/-- Blanks around a text stand around its first and its last piece. -/
theorem sameArguments_of_padded {core text : List Char} (padded : Padded core text) :
    List.Forall₂ SameArgument (splitArguments core) (splitArguments text) := by
  obtain ⟨front, back, blankFront, blankBack, rfl⟩ := padded
  have leading : splitArguments (front ++ core ++ back) =
      front.foldr consFirst (splitArguments (core ++ back)) := by
    rw [List.append_assoc]
    exact splitArgumentsFrom_append (passes_of_isBlankText blankFront 0) _
  have trailing := sameArguments_trailing blankBack 0 core
  obtain ⟨piece, pieces, same⟩ :=
    List.exists_cons_of_ne_nil (splitArgumentsFrom_ne_nil 0 (core ++ back))
  rw [leading, splitArguments, splitArguments, same, foldr_consFirst]
  rw [same] at trailing
  obtain ⟨part, parts, ⟨gap, blank, rfl⟩, later, eq⟩ := List.forall₂_cons_right_iff.mp trailing
  rw [eq]
  refine .cons (sameArgument_of_padded ⟨front, gap, blankFront, blank, by simp⟩) ?_
  refine later.imp fun part other => ?_
  rintro ⟨gap, blank, rfl⟩
  exact sameArgument_of_padded ⟨[], gap, rfl, blank, rfl⟩

/-! ## Lists of arguments -/

/-- Arguments are read one by one. -/
theorem parseArguments_congr {text other : List Char}
    (same : List.Forall₂ SameArgument (splitArguments text) (splitArguments other)) :
    parseArguments text = parseArguments other := by
  rw [parseArguments, parseArguments]
  revert same
  generalize splitArguments text = parts, splitArguments other = others
  intro same
  induction same with
  | nil => rfl
  | cons first _ ih =>
    rw [List.filter_cons, List.filter_cons, first.blank]
    split
    · rw [List.mapM_cons, List.mapM_cons, first.read, ih]
    · exact ih

/-- Blanks around arguments are nothing to read. -/
theorem parseArguments_of_padded {core text : List Char} (padded : Padded core text) :
    parseArguments text = parseArguments core :=
  (parseArguments_congr (sameArguments_of_padded padded)).symm

/-- Arguments on both sides of a separating comma are read one side after the other. -/
theorem parseArguments_comma {front : List Char} (outside : front.foldl depthAfter 0 = 0)
    (rest : List Char) :
    parseArguments (front ++ ',' :: rest) = (do
      let first ← parseArguments front
      let second ← parseArguments rest
      return first ++ second) := by
  rw [parseArguments, splitArguments, splitArgumentsFrom_comma outside, List.filter_append,
    List.mapM_append]
  rfl

end PageHarvest.Path
