import PageHarvest.Path.Argument
import PageHarvest.Proofs.Text.Spelling

/-! # Arguments between their brackets

A text whose brackets are balanced can stand between brackets, and one that also has no comma
outside brackets can be an argument: the scan for separating commas passes over it and leaves at
the depth at which it came. A list of such arguments is read back one by one, and every key finds
its value whatever the order.
-/

namespace PageHarvest.Path

open Text

/-- No bracket is closed before it is opened, and all are closed at the end. -/
structure Balanced (s : List Char) : Prop where
  opened : ∀ before, before <+: s → before.count ')' ≤ before.count '('
  closed : s.count ')' = s.count '('

/-- Every comma stands inside brackets. -/
def CommasEnclosed (s : List Char) : Prop :=
  ∀ before, before ++ [','] <+: s → before.count ')' < before.count '('

instance (s : List Char) : Decidable (Balanced s) :=
  decidable_of_iff
    ((∀ before ∈ s.inits, before.count ')' ≤ before.count '(') ∧ s.count ')' = s.count '(')
    ⟨fun ⟨opened, closed⟩ => ⟨fun _ part => opened _ (List.mem_inits _ _ |>.mpr part), closed⟩,
      fun ⟨opened, closed⟩ => ⟨fun _ part => opened _ (List.mem_inits _ _ |>.mp part), closed⟩⟩

instance (s : List Char) : Decidable (CommasEnclosed s) :=
  decidable_of_iff
    (∀ before ∈ s.inits, before ++ [','] <+: s → before.count ')' < before.count '(')
    ⟨fun enclosed before comma => enclosed before
        (List.mem_inits _ _ |>.mpr ((List.prefix_append _ _).trans comma)) comma,
      fun enclosed before _ => enclosed before⟩

/-! ## The scan for separating commas -/

/-- Reading on from a depth meets no separating comma and ends at another depth. -/
def Passes (depth : Nat) : List Char → Nat → Prop
  | [], final => depth = final
  | c :: rest, final => ¬ (c = ',' ∧ depth = 0) ∧ Passes (depthAfter depth c) rest final

/-- A text passes depths one part after the other. -/
theorem Passes.append {depth middle final : Nat} {left right : List Char}
    (first : Passes depth left middle) (second : Passes middle right final) :
    Passes depth (left ++ right) final := by
  induction left generalizing depth with
  | nil =>
    obtain rfl : depth = middle := first
    exact second
  | cons c rest ih => exact ⟨first.1, ih first.2⟩

/-- Without brackets and commas the depth stays. -/
theorem passes_of_plain {s : List Char} (plain : ∀ c ∈ s, c ≠ '(' ∧ c ≠ ')' ∧ c ≠ ',')
    (depth : Nat) : Passes depth s depth := by
  induction s with
  | nil => rfl
  | cons c rest ih =>
    obtain ⟨noOpening, noClosing, noComma⟩ := plain c (List.mem_cons_self ..)
    have same : depthAfter depth c = depth := by rw [depthAfter, if_neg noOpening, if_neg noClosing]
    refine ⟨fun separator => noComma separator.1, ?_⟩
    rw [same]
    exact ih fun d member => plain d (List.mem_cons_of_mem _ member)

theorem passes_of_all {s : List Char} (plain : s.all fun c => c != '(' && c != ')' && c != ',')
    (depth : Nat) : Passes depth s depth :=
  passes_of_plain (fun c member => by
    simpa [and_assoc] using List.all_eq_true.mp plain c member) depth

theorem passes_of_isBlankText {gap : List Char} (blank : isBlankText gap = true) (depth : Nat) :
    Passes depth gap depth :=
  passes_of_plain (fun c member => by
    have isBlank := isBlank_of_mem blank member
    refine ⟨?_, ?_, ?_⟩ <;> rintro rfl <;> exact absurd isBlank (by decide)) depth

theorem passes_of_letters {word : List Char} (alpha : ∀ c ∈ word, c.isAlpha = true) (depth : Nat) :
    Passes depth word depth :=
  passes_of_plain (fun c member => by
    have isAlpha := alpha c member
    refine ⟨?_, ?_, ?_⟩ <;> rintro rfl <;> exact absurd isAlpha (by decide)) depth

/-- The depth is what was there, plus the brackets opened, less those closed. -/
theorem passes_of_counts {s : List Char} {depth : Nat}
    (opened : ∀ before, before <+: s → before.count ')' ≤ depth + before.count '(')
    (enclosed : ∀ before, before ++ [','] <+: s → before.count ')' < depth + before.count '(') :
    Passes depth s (depth + s.count '(' - s.count ')') := by
  induction s generalizing depth with
  | nil => simp [Passes]
  | cons c rest ih =>
    have inside : ¬ (c = ',' ∧ depth = 0) := by
      rintro ⟨rfl, rfl⟩
      exact absurd (enclosed [] ⟨rest, rfl⟩) (by simp)
    -- what the rest needs is what the whole has, with `c` put in front of every prefix
    have openedRest (before : List Char) (part : before <+: rest) :=
      opened (c :: before) (List.cons_prefix_cons.mpr ⟨rfl, part⟩)
    have enclosedRest (before : List Char) (part : before ++ [','] <+: rest) :=
      enclosed (c :: before) (List.cons_prefix_cons.mpr ⟨rfl, part⟩)
    refine ⟨inside, ?_⟩
    by_cases opening : c = '('
    · subst opening
      have tail : Passes (depth + 1) rest _ := ih
        (fun before part => by have := openedRest before part; simp at this; omega)
        (fun before part => by have := enclosedRest before part; simp at this; omega)
      have total : depth + 1 + rest.count '(' - rest.count ')' =
          depth + ('(' :: rest).count '(' - ('(' :: rest).count ')' := by simp; omega
      exact total ▸ tail
    · by_cases closing : c = ')'
      · subst closing
        have deep : 1 ≤ depth := by simpa using openedRest [] (List.nil_prefix)
        have tail : Passes (depth - 1) rest _ := ih
          (fun before part => by have := openedRest before part; simp at this; omega)
          (fun before part => by have := enclosedRest before part; simp at this; omega)
        have total : depth - 1 + rest.count '(' - rest.count ')' =
            depth + (')' :: rest).count '(' - (')' :: rest).count ')' := by simp; omega
        exact total ▸ tail
      · have tail : Passes depth rest _ := ih
          (fun before part => by simpa [opening, closing] using openedRest before part)
          (fun before part => by simpa [opening, closing] using enclosedRest before part)
        simpa [depthAfter, opening, closing] using tail

/-- Inside brackets, balanced text is passed over, commas and all. -/
theorem Balanced.passes {s : List Char} (balanced : Balanced s) (depth : Nat) :
    Passes (depth + 1) s (depth + 1) := by
  have passes : Passes (depth + 1) s _ := passes_of_counts
    (fun before part => by have := balanced.opened before part; omega)
    (fun before part => by
      have := balanced.opened before ((List.prefix_append _ _).trans part); omega)
  have total : depth + 1 + s.count '(' - s.count ')' = depth + 1 := by
    have := balanced.closed; omega
  rwa [total] at passes

/-- Outside brackets, balanced text is passed over if its commas are enclosed. -/
theorem Balanced.passes_enclosed {s : List Char} (balanced : Balanced s)
    (enclosed : CommasEnclosed s) : Passes 0 s 0 := by
  have passes : Passes 0 s _ := passes_of_counts
    (fun before part => by have := balanced.opened before part; omega)
    (fun before part => by have := enclosed before part; omega)
  have total : 0 + s.count '(' - s.count ')' = 0 := by have := balanced.closed; omega
  rwa [total] at passes

theorem foldr_consFirst (s piece : List Char) (pieces : List (List Char)) :
    s.foldr consFirst (piece :: pieces) = (s ++ piece) :: pieces := by
  induction s with
  | nil => rfl
  | cons c rest ih => rw [List.foldr_cons, ih]; rfl

/-- Splitting at commas leaves a front that passes whole. -/
theorem splitArgumentsFrom_append {depth final : Nat} {s : List Char}
    (passes : Passes depth s final)
    (rest : List Char) :
    splitArgumentsFrom depth (s ++ rest) = s.foldr consFirst (splitArgumentsFrom final rest) := by
  induction s generalizing depth with
  | nil =>
    obtain rfl : depth = final := passes
    rfl
  | cons c more ih => rw [List.cons_append, splitArgumentsFrom, if_neg passes.1, ih passes.2]; rfl

/-- Splitting at the separating commas undoes joining with commas. -/
theorem splitArguments_intercalate (part : List Char) (parts : List (List Char))
    (passes : ∀ other ∈ part :: parts, Passes 0 other 0) :
    splitArguments ([','].intercalate (part :: parts)) = part :: parts := by
  rw [splitArguments]
  induction parts generalizing part with
  | nil =>
    have split := splitArgumentsFrom_append (passes part (List.mem_singleton_self _)) []
    rw [List.intercalate_singleton]
    rwa [List.append_nil, splitArgumentsFrom, foldr_consFirst, List.append_nil] at split
  | cons next rest ih =>
    have joined : [','].intercalate (part :: next :: rest) =
        part ++ ',' :: [','].intercalate (next :: rest) := by simp [List.intercalate_cons_cons]
    have tail := ih next fun other member => passes other (List.mem_cons_of_mem _ member)
    rw [joined, splitArgumentsFrom_append (passes part (List.mem_cons_self ..)),
      splitArgumentsFrom, if_pos ⟨rfl, rfl⟩, tail, foldr_consFirst, List.append_nil]

end PageHarvest.Path
