import PageHarvest.Proofs.Json.RoundTrip

/-! # Putting indented values down

The stretches of a value make up its indented form. All of them are put down just if no whole number
in the value has too many digits, which is also when the form can be read.
-/

namespace PageHarvest.Json

/-! ## Stretches in a row -/

private theorem putDown_cons_eq_ok_iff {first : Stretch} {rest : List Stretch} {text : List Char} :
    putDown (first :: rest) = .ok text ↔
      ∃ front back, first = some front ∧ putDown rest = .ok back ∧ text = front ++ back := by
  cases first with
  | none => simp [putDown]
  | some front =>
    rw [putDown]
    cases putDown rest with
    | error part => simp
    | ok back => simp [eq_comm]

/-- Stretches are put down one part after the other. -/
private theorem putDown_append_eq_ok_iff {first second : List Stretch} {text : List Char} :
    putDown (first ++ second) = .ok text ↔
      ∃ front back, putDown first = .ok front ∧ putDown second = .ok back ∧
        text = front ++ back := by
  induction first generalizing text with
  | nil => simp [putDown, eq_comm]
  | cons stretch first ih =>
    rw [List.cons_append, putDown_cons_eq_ok_iff]
    constructor
    · rintro ⟨front, back, rfl, later, rfl⟩
      obtain ⟨middle, last, before, after, rfl⟩ := ih.mp later
      exact ⟨front ++ middle, last, putDown_cons_eq_ok_iff.mpr ⟨front, middle, rfl, before, rfl⟩,
        after, (List.append_assoc ..).symm⟩
    · rintro ⟨_, last, before, after, rfl⟩
      obtain ⟨front, middle, rfl, inner, rfl⟩ := putDown_cons_eq_ok_iff.mp before
      exact ⟨front, middle ++ last, rfl, ih.mpr ⟨middle, last, inner, after, rfl⟩,
        List.append_assoc ..⟩

private theorem putDown_texts (texts : List (List Char)) :
    putDown (texts.map some) = .ok texts.flatten := by
  induction texts with
  | nil => rfl
  | cons text texts ih => rw [List.map_cons, putDown, ih, List.flatten_cons]

private theorem putDown_single_eq_ok_iff {stretch : Stretch} {text : List Char} :
    putDown [stretch] = .ok text ↔ stretch = some text := by
  cases stretch with
  | none => simp [putDown]
  | some front => simp [putDown]

/-! ## Values and their parts -/

/-- A value is put down at whatever depth and with whatever before it. -/
def PutsDown (json : Json) : Prop :=
  ∀ depth before text, putDown (stretches depth before json) = .ok text ↔
    Brief json ∧ text = before ++ writeIndented depth json

private theorem PutsDown.of_single {json : Json} (brief : Brief json)
    (single : ∀ depth before,
      stretches depth before json = [some (before ++ writeIndented depth json)]) :
    PutsDown json := by
  intro depth before text
  rw [single, putDown_single_eq_ok_iff, Option.some.injEq]
  exact ⟨fun same => ⟨brief, same.symm⟩, fun ⟨_, same⟩ => same.symm⟩

private theorem stretchInt_eq (before : List Char) (n : Int) :
    stretchInt before n =
      if n.natAbs < 10 ^ maxDigits then some (before ++ writeInt n) else none := by
  rw [stretchInt, Nat.pow_eq]

private theorem putsDown_int (n : Int) : PutsDown (.int n) := by
  intro depth before text
  rw [stretches, putDown_single_eq_ok_iff, stretchInt_eq]
  split
  · rename_i short
    rw [Option.some.injEq]
    exact ⟨fun same => ⟨.int short, same.symm⟩, fun ⟨_, same⟩ => same.symm⟩
  · rename_i long
    exact iff_of_false nofun fun ⟨brief, _⟩ => long (brief_int_iff.mp brief)

/-- The items of an array are put down just if each of them is brief. -/
private theorem putDown_stretchItems_iff {items : List Json} (some : items ≠ [])
    (each : ∀ item ∈ items, PutsDown item) (depth : Nat) (before text : List Char) :
    putDown (stretchItems depth before items) = .ok text ↔
      (∀ item ∈ items, Brief item) ∧ text = before ++ writeItemsIndented depth items := by
  induction items generalizing before text with
  | nil => exact absurd rfl some
  | cons item rest ih =>
    rw [stretchItems, putDown_append_eq_ok_iff]
    simp only [each item List.mem_cons_self (depth + 1) before]
    cases rest with
    | nil =>
      have ends : putDown (stretchItems depth (',' :: newline (depth + 1)) []) =
          .ok (newline depth ++ [']']) :=
        putDown_texts [newline depth, [']']]
      simp [ends, writeItemsIndented]
    | cons next rest =>
      have later := ih (List.cons_ne_nil next rest)
        fun other member => each other (List.mem_cons_of_mem _ member)
      simp only [later, writeItemsIndented, List.forall_mem_cons]
      constructor
      · rintro ⟨_, _, ⟨one, rfl⟩, ⟨others, rfl⟩, rfl⟩
        exact ⟨⟨one, others⟩, by simp⟩
      · rintro ⟨⟨one, others⟩, rfl⟩
        exact ⟨_, _, ⟨one, rfl⟩, ⟨others, rfl⟩, by simp⟩

section

variable {κ : Type} {spell : κ → List Char} {depth : Nat}
  {put : List (κ × Json) → List Stretch} {form : List (κ × Json) → List Char}

/-- Members are put down one by one, however their names are spelled. -/
theorem putDown_members_iff
    (put_last : ∀ name value, put [(name, value)] =
      some (spell name) :: some [':', ' '] :: stretches (depth + 1) [] value ++
        [some (newline depth), some ['\x7d']])
    (put_more : ∀ name value next rest, put ((name, value) :: next :: rest) =
      some (spell name) :: some [':', ' '] :: stretches (depth + 1) [] value ++
        some (',' :: newline (depth + 1)) :: put (next :: rest))
    (form_last : ∀ name value, form [(name, value)] =
      spell name ++ ':' :: ' ' :: writeIndented (depth + 1) value ++ newline depth ++ ['\x7d'])
    (form_more : ∀ name value next rest, form ((name, value) :: next :: rest) =
      spell name ++ ':' :: ' ' :: writeIndented (depth + 1) value ++
        ',' :: newline (depth + 1) ++ form (next :: rest))
    {members : List (κ × Json)} (some : members ≠ [])
    (each : ∀ member ∈ members, PutsDown member.2) (text : List Char) :
    putDown (put members) = .ok text ↔
      (∀ member ∈ members, Brief member.2) ∧ text = form members := by
  induction members generalizing text with
  | nil => exact absurd rfl some
  | cons member rest ih =>
    obtain ⟨name, value⟩ := member
    have one := each (name, value) List.mem_cons_self (depth + 1) []
    cases rest with
    | nil =>
      have ends : putDown [Option.some (newline depth), Option.some ['\x7d']] =
          .ok (newline depth ++ ['\x7d']) :=
        putDown_texts [newline depth, ['\x7d']]
      rw [put_last, form_last]
      simp [putDown_cons_eq_ok_iff, putDown_append_eq_ok_iff, one, ends, and_assoc]
    | cons next rest =>
      have later := ih (List.cons_ne_nil next rest)
        fun other member => each other (List.mem_cons_of_mem _ member)
      rw [put_more, form_more, List.forall_mem_cons]
      simp only [putDown_cons_eq_ok_iff, putDown_append_eq_ok_iff, List.cons_append, one, later]
      constructor
      · rintro ⟨_, _, same, ⟨_, _, colon, ⟨_, _, ⟨brief, rfl⟩, ⟨_, _, comma, ⟨others, rfl⟩, rfl⟩,
          rfl⟩, rfl⟩, rfl⟩
        cases same
        cases colon
        cases comma
        exact ⟨⟨brief, others⟩, by simp⟩
      · rintro ⟨⟨brief, others⟩, rfl⟩
        exact ⟨_, _, rfl, ⟨_, _, rfl, ⟨_, _, ⟨brief, rfl⟩, ⟨_, _, rfl, ⟨others, rfl⟩, rfl⟩, rfl⟩,
          rfl⟩, by simp⟩

end

private theorem putsDown_array {items : List Json} (each : ∀ item ∈ items, PutsDown item) :
    PutsDown (.array items) := by
  intro depth before text
  cases items with
  | nil =>
    have put : putDown (stretches depth before (.array [])) = .ok (before ++ "[]".toList) :=
      putDown_texts [before, "[]".toList]
    rw [put, Except.ok.injEq]
    exact ⟨fun same => ⟨.array (List.forall_mem_nil _), same.symm⟩, fun ⟨_, same⟩ => same.symm⟩
  | cons item rest =>
    have parts := putDown_stretchItems_iff (List.cons_ne_nil item rest) each depth
      ('[' :: newline (depth + 1))
    simp only [stretches, putDown_cons_eq_ok_iff, parts, writeIndented]
    constructor
    · rintro ⟨_, _, same, ⟨briefs, rfl⟩, rfl⟩
      cases same
      exact ⟨.array briefs, by simp⟩
    · rintro ⟨_ | _ | _ | _ | _ | _ | briefs, rfl⟩
      exact ⟨_, _, rfl, ⟨briefs, rfl⟩, by simp⟩

/-- What stands before the members of an object. -/
theorem putDown_braces_iff {before inside text : List Char} {depth : Nat} {members : List Stretch}
    {brief : Prop} (parts : ∀ text, putDown members = .ok text ↔ brief ∧ text = inside) :
    putDown (some before :: some ['\x7b'] :: some (newline (depth + 1)) :: members) = .ok text ↔
      brief ∧ text = before ++ '\x7b' :: newline (depth + 1) ++ inside := by
  have front : putDown [some before, some ['\x7b'], some (newline (depth + 1))] =
      .ok (before ++ '\x7b' :: newline (depth + 1)) := by
    simpa using putDown_texts [before, ['\x7b'], newline (depth + 1)]
  change putDown ([some before, some ['\x7b'], some (newline (depth + 1))] ++ members) = _ ↔ _
  rw [putDown_append_eq_ok_iff]
  simp only [front, parts, Except.ok.injEq]
  constructor
  · rintro ⟨_, _, rfl, ⟨holds, rfl⟩, rfl⟩
    exact ⟨holds, rfl⟩
  · rintro ⟨holds, rfl⟩
    exact ⟨_, _, rfl, ⟨holds, rfl⟩, rfl⟩

private theorem putsDown_object {members : List (String × Json)}
    (each : ∀ member ∈ members, PutsDown member.2) : PutsDown (.object members) := by
  intro depth before text
  cases members with
  | nil =>
    have put : putDown (stretches depth before (.object [])) =
        .ok (before ++ ['\x7b', '\x7d']) :=
      putDown_texts [before, ['\x7b', '\x7d']]
    rw [put, Except.ok.injEq]
    exact ⟨fun same => ⟨.object (List.forall_mem_nil _), same.symm⟩, fun ⟨_, same⟩ => same.symm⟩
  | cons member rest =>
    have parts : ∀ text, putDown (stretchMembers depth (member :: rest)) = .ok text ↔
        (∀ one ∈ member :: rest, Brief one.2) ∧
          text = writeMembersIndented depth (member :: rest) :=
      putDown_members_iff (fun _ _ => rfl) (fun _ _ _ _ => rfl) (fun _ _ => rfl)
        (fun _ _ _ _ => rfl) (List.cons_ne_nil member rest) each
    have brief : (∀ one ∈ member :: rest, Brief one.2) ↔ Brief (.object (member :: rest)) :=
      ⟨.object, fun | .object each => each⟩
    rw [stretches, putDown_braces_iff parts, brief]
    · simp [writeIndented]
    · exact List.cons_ne_nil member rest

private theorem putsDown_tornObject {members : List (List Glyph × Json)}
    (each : ∀ member ∈ members, PutsDown member.2) : PutsDown (.tornObject members) := by
  intro depth before text
  have brief : (∀ one ∈ members, Brief one.2) ↔ Brief (.tornObject members) :=
    ⟨.tornObject, fun | .tornObject each => each⟩
  have parts : ∀ text, putDown (stretchTornMembers depth members) = .ok text ↔
      (∀ one ∈ members, Brief one.2) ∧ text = writeTornMembersIndented depth members := by
    cases members with
    | nil =>
      intro text
      have ends : putDown (stretchTornMembers depth []) = .ok (newline depth ++ ['\x7d']) :=
        putDown_texts [newline depth, ['\x7d']]
      simp [ends, writeTornMembersIndented, eq_comm]
    | cons member rest =>
      exact putDown_members_iff (fun _ _ => rfl) (fun _ _ _ _ => rfl) (fun _ _ => rfl)
        (fun _ _ _ _ => rfl) (List.cons_ne_nil member rest) each
  rw [stretches, putDown_braces_iff parts, brief]
  simp [writeIndented]

/-- A value is put down just if its whole numbers are short enough, and then as its indented
form. -/
theorem putsDown : ∀ json, PutsDown json
  | .null => .of_single .null fun _ _ => rfl
  | .bool true => .of_single (.bool true) fun _ _ => rfl
  | .bool false => .of_single (.bool false) fun _ _ => rfl
  | .int n => putsDown_int n
  | .float x => .of_single (.float x) fun _ _ => rfl
  | .string s => .of_single (.string s) fun _ _ => rfl
  | .torn glyphs => .of_single (.torn glyphs) fun _ _ => rfl
  | .array items => putsDown_array fun item among =>
    have := List.sizeOf_lt_of_mem among
    putsDown item
  | .object members => putsDown_object fun member among =>
    have := List.sizeOf_lt_of_mem among
    putsDown member.2
  | .tornObject members => putsDown_tornObject fun member among =>
    have := List.sizeOf_lt_of_mem among
    putsDown member.2
termination_by json => sizeOf json
decreasing_by
  case _ => simp; omega
  all_goals
    obtain ⟨name, value⟩ := member
    simp_all
    omega

/-- The text of a value is put down as a whole just if its whole numbers are short enough. -/
theorem dump_eq_ok_iff {json : Json} {text : String} :
    dump json = .ok text ↔ Brief json ∧ text = json.indented := by
  have put := putsDown json 0 []
  rw [dump, indented]
  cases done : putDown (stretches 0 [] json) with
  | error part =>
    rw [done] at put
    refine iff_of_false nofun fun ⟨brief, _⟩ => ?_
    cases (put _).mpr ⟨brief, rfl⟩
  | ok whole =>
    obtain ⟨brief, rfl⟩ := (put whole).mp done
    change Except.ok (String.ofList _) = _ ↔ _
    rw [Except.ok.injEq, List.nil_append]
    exact ⟨fun same => ⟨brief, same.symm⟩, fun ⟨_, same⟩ => same.symm⟩

end PageHarvest.Json
