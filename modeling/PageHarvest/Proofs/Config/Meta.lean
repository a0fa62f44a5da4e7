import PageHarvest.Config.Meta
import PageHarvest.Proofs.FieldMap
import PageHarvest.Proofs.Traverse

/-! # The members of a nested part

Which data has no members at all, and under which names a whole has its members once those of its
nested part count as its own.
-/

namespace PageHarvest.Config

/-! ## Lists of pairs -/

/-- Data that holds other data; it can be no name. -/
def isHolder : Json → Bool
  | .array _ | .object _ | .tornObject _ => true
  | _ => false

/-- Data with two parts, of which the first can be a name. -/
inductive IsPair : Json → Prop
  | text {s : String} (two : s.toList.length = 2) : IsPair (.string s)
  | torn {glyphs : List Glyph} (two : glyphs.length = 2) : IsPair (.torn glyphs)
  | object {members : List (String × Json)} (two : members.length = 2) : IsPair (.object members)
  | tornObject {members : List (List Glyph × Json)} (two : members.length = 2) :
    IsPair (.tornObject members)
  | list {name value : Json} (bare : isHolder name = false) : IsPair (.array [name, value])

/-- Data without parts, or with two of which the first cannot be a name. -/
inductive NoPair : Json → Prop
  | null : NoPair .null
  | bool (value : Bool) : NoPair (.bool value)
  | int (value : Int) : NoPair (.int value)
  | float (value : Float) : NoPair (.float value)
  | list {name value : Json} (holder : isHolder name = true) : NoPair (.array [name, value])

private theorem memberOf_eq_ok_iff {name value : Json} :
    (∃ found, memberOf name value = .ok found) ↔ isHolder name = false := by
  cases name <;> simp [memberOf, isHolder]

private theorem isHolder_ofGlyphs (glyphs : List Glyph) : isHolder (.ofGlyphs glyphs) = false := by
  unfold Json.ofGlyphs
  split
  · rfl
  · rfl

/-- Parts that are no items of a list are texts, and all of these can be names. -/
theorem isHolder_of_mem_parts {item part : Json} {parts : List Json}
    (given : pairParts? item = some parts) (apart : ∀ items, item ≠ .array items)
    (among : part ∈ parts) : isHolder part = false := by
  cases item with
  | string s =>
    cases given
    obtain ⟨c, -, rfl⟩ := List.mem_map.mp among
    rfl
  | torn glyphs =>
    cases given
    obtain ⟨glyph, -, rfl⟩ := List.mem_map.mp among
    exact isHolder_ofGlyphs _
  | object members =>
    cases given
    obtain ⟨member, -, rfl⟩ := List.mem_map.mp among
    rfl
  | tornObject members =>
    cases given
    obtain ⟨member, -, rfl⟩ := List.mem_map.mp among
    exact isHolder_ofGlyphs _
  | array items => exact absurd rfl (apart items)
  | _ => cases given

/-- An item counts as a pair exactly if it has two parts that stand for a member. -/
private theorem isPair_iff {item : Json} :
    IsPair item ↔ ∃ name value, pairParts? item = some [name, value] ∧
      ∃ found, memberOf name value = .ok found := by
  have pair {parts : List Json} (given : pairParts? item = some parts)
      (apart : ∀ items, item ≠ .array items) (two : parts.length = 2) :
      ∃ name value, pairParts? item = some [name, value] ∧
        ∃ found, memberOf name value = .ok found := by
    obtain ⟨name, value, rfl⟩ := List.length_eq_two.mp two
    exact ⟨name, value, given,
      memberOf_eq_ok_iff.mpr (isHolder_of_mem_parts given apart List.mem_cons_self)⟩
  constructor
  · rintro (two | two | two | two | bare)
    · exact pair rfl (by simp) (by simpa [charTexts] using two)
    · exact pair rfl (by simp) (by simpa [glyphTexts] using two)
    · exact pair rfl (by simp) (by simpa using two)
    · exact pair rfl (by simp) (by simpa using two)
    · exact ⟨_, _, rfl, memberOf_eq_ok_iff.mpr bare⟩
  · rintro ⟨name, value, parts, named⟩
    have count := congrArg (Option.map List.length) parts
    cases item with
    | string s => exact .text (by simpa [pairParts?, charTexts] using count)
    | torn glyphs => exact .torn (by simpa [pairParts?, glyphTexts] using count)
    | object members => exact .object (by simpa [pairParts?] using count)
    | tornObject members => exact .tornObject (by simpa [pairParts?] using count)
    | array items =>
      cases parts
      exact .list (memberOf_eq_ok_iff.mp named)
    | _ => cases parts

/-- An item counts as no pair exactly if it has not two parts, or they stand for no member. -/
private theorem noPair_iff {item : Json} :
    NoPair item ↔ pairParts? item = none ∨ ∃ name value, pairParts? item = some [name, value] ∧
      ¬∃ found, memberOf name value = .ok found := by
  constructor
  · rintro (_ | _ | _ | _ | holder)
    · exact .inl rfl
    · exact .inl rfl
    · exact .inl rfl
    · exact .inl rfl
    · refine .inr ⟨_, _, rfl, fun named => ?_⟩
      rw [memberOf_eq_ok_iff, holder] at named
      cases named
  · rintro (none | ⟨name, value, parts, unnamed⟩)
    · cases item with
      | null => exact .null
      | bool value => exact .bool value
      | int value => exact .int value
      | float value => exact .float value
      | _ => cases none
    · rw [memberOf_eq_ok_iff, Bool.not_eq_false] at unnamed
      cases item with
      | array items =>
        cases parts
        exact .list unnamed
      | _ =>
        have bare := isHolder_of_mem_parts parts (by simp) List.mem_cons_self
        rw [unnamed] at bare
        cases bare

/-- Only pairs come before something that is none. -/
inductive Breaks : List Json → Prop
  | here {item : Json} (broken : NoPair item) (rest : List Json) : Breaks (item :: rest)
  | later {item : Json} {rest : List Json} (pair : IsPair item) (breaks : Breaks rest) :
    Breaks (item :: rest)

/-- A fault for which there is no flat layout, and so no issue of one. -/
def MetaFault.Ends (fault : MetaFault) : Prop := ∀ index length, fault ≠ .wrongLength index length

/-- Work that ends in such a fault. -/
def Ended {α : Type} (work : Except MetaFault α) : Prop :=
  ∃ fault, work = .error fault ∧ fault.Ends

theorem not_ended_ok {α : Type} (value : α) : ¬ Ended (.ok value) :=
  fun ⟨_, fails, _⟩ => nomatch fails

theorem ended_error_iff {α : Type} {fault : MetaFault} :
    Ended (.error fault : Except MetaFault α) ↔ fault.Ends :=
  ⟨fun ⟨_, same, ends⟩ => Except.error.inj same ▸ ends, fun ends => ⟨fault, rfl, ends⟩⟩

private theorem ended_map_iff {α β : Type} {f : α → β} {work : Except MetaFault α} :
    Ended (work.map f) ↔ Ended work := by
  cases work with
  | error fault => exact ended_error_iff.trans ended_error_iff.symm
  | ok value => exact iff_of_false (not_ended_ok _) (not_ended_ok _)

private theorem ends_of_memberOf {name value : Json} {fault : MetaFault}
    (unnamed : memberOf name value = .error fault) : fault.Ends := by
  cases name with
  | array items =>
    cases unnamed
    exact nofun
  | object members =>
    cases unnamed
    exact nofun
  | tornObject members =>
    cases unnamed
    exact nofun
  | _ => cases unnamed

private theorem IsPair.breaks_cons_iff {item : Json} {rest : List Json} (pair : IsPair item) :
    Breaks (item :: rest) ↔ Breaks rest := by
  refine ⟨fun breaks => ?_, .later pair⟩
  cases breaks with
  | here broken =>
    obtain ⟨name, value, parts, named⟩ := isPair_iff.mp pair
    obtain none | ⟨_, _, same, unnamed⟩ := noPair_iff.mp broken
    · cases parts.symm.trans none
    · cases parts.symm.trans same
      exact absurd named unnamed
  | later _ breaks => exact breaks

private theorem pairMembers_pair {index : Nat} {item name value : Json} {rest : List Json}
    {found : Option (String × Json)} (parts : pairParts? item = some [name, value])
    (named : memberOf name value = .ok found) :
    pairMembers index (item :: rest) =
      (pairMembers (index + 1) rest).map (found.toList ++ ·) := by
  simp only [pairMembers, parts, named]
  cases pairMembers (index + 1) rest with
  | error fault => rfl
  | ok others => rfl

private theorem pairMembers_wrongLength {index : Nat} {item : Json} {rest given : List Json}
    (parts : pairParts? item = some given) (notTwo : given.length ≠ 2) :
    pairMembers index (item :: rest) = .error (.wrongLength index given.length) := by
  match given with
  | [] => simp only [pairMembers, parts]
  | [_] => simp only [pairMembers, parts]
  | [_, _] => exact absurd rfl notTwo
  | _ :: _ :: _ :: _ => simp only [pairMembers, parts]

/-- Reading the pairs of a list ends at the first item that is no pair, unless one of a wrong length
comes before it. -/
theorem pairMembers_ends_iff {index : Nat} {items : List Json} :
    Ended (pairMembers index items) ↔ Breaks items := by
  induction items generalizing index with
  | nil => exact iff_of_false (not_ended_ok _) nofun
  | cons item rest ih =>
    cases parts : pairParts? item with
    | none =>
      have broken : NoPair item := noPair_iff.mpr (.inl parts)
      refine iff_of_true ⟨.noPair index, ?_, nofun⟩ (.here broken rest)
      simp only [pairMembers, parts]
    | some given =>
      by_cases two : given.length = 2
      · obtain ⟨name, value, rfl⟩ := List.length_eq_two.mp two
        cases named : memberOf name value with
        | error fault =>
          have unnamed : ¬∃ found, memberOf name value = .ok found :=
            fun ⟨_, found⟩ => nomatch named.symm.trans found
          have broken : NoPair item := noPair_iff.mpr (.inr ⟨name, value, parts, unnamed⟩)
          refine iff_of_true ⟨fault, ?_, ends_of_memberOf named⟩ (.here broken rest)
          simp only [pairMembers, parts, named]
          rfl
        | ok found =>
          have pair : IsPair item := isPair_iff.mpr ⟨name, value, parts, found, named⟩
          rw [pairMembers_pair parts named, ended_map_iff, pair.breaks_cons_iff, ih]
      · rw [pairMembers_wrongLength parts two, ended_error_iff]
        refine iff_of_false (fun ends => ends _ _ rfl) fun breaks => two ?_
        · cases breaks with
          | here broken =>
            obtain none | ⟨name, value, same, -⟩ := noPair_iff.mp broken
            · cases parts.symm.trans none
            · rw [Option.some.inj (parts.symm.trans same)]
              rfl
          | later pair _ =>
            obtain ⟨name, value, same, -⟩ := isPair_iff.mp pair
            rw [Option.some.inj (parts.symm.trans same)]
            rfl

/-- Data that stands for no members at all: a number other than zero, the truth value that is true,
or a list that breaks off with something that is no pair. -/
inductive NoMembers : Json → Prop
  | truth : NoMembers (.bool true)
  | whole {n : Int} (nonzero : n ≠ 0) : NoMembers (.int n)
  | number {x : Float} (nonzero : (x == 0) = false) : NoMembers (.float x)
  | list {items : List Json} (breaks : Breaks items) : NoMembers (.array items)

/-- Single characters are no pairs, and no break either. -/
theorem not_breaks_of_single {items : List Json}
    (single : ∀ item ∈ items, ∃ part, pairParts? item = some [part]) : ¬ Breaks items := by
  intro breaks
  cases breaks with
  | here broken =>
    obtain ⟨part, parts⟩ := single _ List.mem_cons_self
    obtain none | ⟨name, value, two, -⟩ := noPair_iff.mp broken
    · cases parts.symm.trans none
    · cases parts.symm.trans two
  | later pair _ =>
    obtain ⟨part, parts⟩ := single _ List.mem_cons_self
    obtain ⟨name, value, two, -⟩ := isPair_iff.mp pair
    cases parts.symm.trans two

private theorem not_breaks_chars (s : String) : ¬ Breaks (charTexts s) :=
  not_breaks_of_single <| List.forall_mem_map.mpr fun c _ =>
    ⟨.string c.toString, by simp [pairParts?, charTexts]⟩

private theorem not_breaks_glyphs (glyphs : List Glyph) : ¬ Breaks (glyphTexts glyphs) := by
  refine not_breaks_of_single (List.forall_mem_map.mpr fun glyph _ => ?_)
  cases glyph with
  | char c =>
    have whole : Json.ofGlyphs [.char c] = .string (String.ofList [c]) := rfl
    exact ⟨.string c.toString, by simp [whole, pairParts?, charTexts]⟩
  | unit n =>
    have torn : Json.ofGlyphs [.unit n] = .torn [.unit n] := rfl
    exact ⟨.torn [.unit n], by simp [torn, pairParts?, glyphTexts]⟩

/-- A nested part ends the reading exactly if it has no members. -/
private theorem metaMembers_ends_iff {nested : Json} :
    Ended (metaMembers nested) ↔ NoMembers nested := by
  cases nested with
  | null => exact iff_of_false (not_ended_ok _) nofun
  | object members => exact iff_of_false (not_ended_ok _) nofun
  | tornObject members => exact iff_of_false (not_ended_ok _) nofun
  | bool value =>
    cases value with
    | false => exact iff_of_false (not_ended_ok _) nofun
    | true => exact iff_of_true ⟨_, rfl, nofun⟩ .truth
  | int n =>
    rw [metaMembers]
    by_cases zero : n = 0
    · rw [if_pos (beq_iff_eq.mpr zero)]
      exact iff_of_false (not_ended_ok _) fun (.whole nonzero) => nonzero zero
    · rw [if_neg (mt beq_iff_eq.mp zero)]
      exact iff_of_true ⟨_, rfl, nofun⟩ (.whole zero)
  | float x =>
    rw [metaMembers]
    cases zero : x == 0 with
    | true =>
      exact iff_of_false (not_ended_ok _) fun (.number nonzero) => nomatch nonzero.symm.trans zero
    | false => exact iff_of_true ⟨_, rfl, nofun⟩ (.number zero)
  | string s =>
    rw [metaMembers, pairMembers_ends_iff]
    exact iff_of_false (not_breaks_chars _) nofun
  | torn glyphs =>
    rw [metaMembers, pairMembers_ends_iff]
    exact iff_of_false (not_breaks_glyphs _) nofun
  | array items =>
    rw [metaMembers, pairMembers_ends_iff]
    exact ⟨.list, fun (.list breaks) => breaks⟩

/-- A whole has no flat layout just if its nested part has no members. -/
theorem flatten_ends_iff {members : List (String × Json)} :
    Ended (flatten members) ↔ ∃ nested, members.lookup "meta" = some nested ∧ NoMembers nested := by
  rw [flatten]
  cases members.lookup "meta" with
  | none => exact iff_of_false (not_ended_ok _) fun ⟨_, given, _⟩ => nomatch given
  | some nested =>
    simp only [Option.some.injEq, exists_eq_left', ← metaMembers_ends_iff]
    exact ended_map_iff

/-! ## Values by precedence -/

private theorem lookup_filter (members : List (String × Json)) (p : String → Bool) (name : String) :
    (members.filter fun member => p member.1).lookup name =
      if p name then members.lookup name else none := by
  induction members with
  | nil => simp
  | cons member rest ih =>
    obtain ⟨first, value⟩ := member
    rw [List.filter_cons, FieldMap.lookup_pair]
    by_cases same : name = first
    · subst same
      dsimp only
      cases kept : p name with
      | true => simp only [if_true, FieldMap.lookup_pair]
      | false => simp [ih, kept]
    · rw [if_neg same, ← ih]
      dsimp only
      split
      · rw [FieldMap.lookup_pair, if_neg same]
      · rfl

/-- What is there wins over what is added. -/
theorem lookup_addMissing (members more : List (String × Json)) (name : String) :
    (addMissing members more).lookup name = (members.lookup name).or (more.lookup name) := by
  have added := lookup_filter more (fun other => (members.lookup other).isNone) name
  rw [addMissing, List.lookup_append]
  refine (congrArg ((members.lookup name).or) added).trans ?_
  cases members.lookup name with
  | none => rfl
  | some value => rfl

/-- The value that a nested part gives to a name of the whole. -/
def innerValue? (inner : FieldMap Json) (name : String) : Option Json :=
  if name = prefixName then (inner.get? prefixName).or (inner.get? prefixAlias)
  else inner.get? name

/-- Any name but the alias of the prefix has the value that the inner members give it. -/
private theorem lookup_renamePrefix {inner : FieldMap Json} {name : String}
    (plain : name ≠ prefixAlias) :
    (renamePrefix inner).lookup name = innerValue? inner name := by
  have others : (inner.entries.filter (·.1 != prefixAlias)).lookup name = inner.get? name := by
    rw [lookup_filter inner.entries (· != prefixAlias), if_pos (bne_iff_ne.mpr plain)]
    rfl
  rw [renamePrefix, innerValue?]
  cases second : inner.get? prefixAlias with
  | none =>
    rw [Option.or_none, others]
    split
    · rename_i same
      rw [same]
    · rfl
  | some value =>
    by_cases same : name = prefixName
    · subst same
      rw [if_pos rfl]
      cases first : inner.get? prefixName with
      | none => simp [FieldMap.contains, List.lookup_append, others, first]
      | some value => simp [FieldMap.contains, others, first]
    · rw [if_neg same]
      dsimp only
      split
      · exact others
      · rw [List.lookup_append, others, FieldMap.lookup_pair, if_neg same]
        exact Option.or_none

/-- In the flat layout the whole wins over its nested part, and in that the first name of the link
prefix over the second. -/
theorem exists_flatten {data inner : FieldMap Json}
    (nested : data.get? "meta" = some (.object inner.entries)) :
    ∃ flat, flatten data.entries = .ok flat ∧ ∀ name, name ≠ "meta" → name ≠ prefixAlias →
      flat.lookup name = (data.get? name).or (innerValue? inner name) := by
  have found : data.entries.lookup "meta" = some (.object inner.entries) := nested
  refine ⟨_, by rw [flatten, found]; rfl, fun name outer plain => ?_⟩
  rw [lookup_addMissing, lookup_filter data.entries (· != "meta"), if_pos (bne_iff_ne.mpr outer),
    FieldMap.ofList_entries, lookup_renamePrefix plain]
  rfl

end PageHarvest.Config
