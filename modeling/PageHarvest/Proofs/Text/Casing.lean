import PageHarvest.Proofs.Text.Spelling

/-! # Lower-casing once is enough

No small letter of the case table is itself one of the capitals, so a lower-cased text is made of
characters that lower-casing leaves alone. Lower-casing a character that is not blank never gives a
blank, so a text without blanks around it has none afterwards.
-/

namespace PageHarvest.Text

/-! ## Runs of the case table -/

namespace CaseRun

/-- The small letters of a run of capitals, as a run of code points. -/
def image (run : CaseRun) : CaseRun :=
  ⟨(run.first + run.shift).toNat, (run.last + run.shift).toNat, run.step, 0⟩

/-- Whether two runs have no code point in common: one ends before the other begins, or one takes
every second code point and the other is on those in between. -/
def apart (one other : CaseRun) : Bool :=
  one.last.blt other.first || other.last.blt one.first ||
    (other.step == 2 && (one.step == 2 || one.first == one.last) &&
      one.first % 2 != other.first % 2)

/-- A run of capitals covers a letter if that is one of its steps. -/
theorem covers_iff {run : CaseRun} {code : Nat} :
    run.covers code = true ↔
      run.first ≤ code ∧ code ≤ run.last ∧ (code - run.first) % run.step = 0 := by
  simp [covers, and_assoc]

/-- Runs that are apart cover no code point both. -/
theorem covers_of_apart {one other : CaseRun} (apart : one.apart other = true) {code : Nat}
    (covered : one.covers code = true) : other.covers code = false := by
  rw [Bool.eq_false_iff]
  intro both
  rw [covers_iff] at covered both
  obtain ⟨least, most, even⟩ := covered
  obtain ⟨least', most', even'⟩ := both
  simp only [CaseRun.apart, Bool.or_eq_true, Bool.and_eq_true, beq_iff_eq, bne_iff_ne,
    Nat.blt_eq] at apart
  rcases apart with (before | behind) | ⟨⟨alternate, narrow⟩, odd⟩
  · omega
  · omega
  · rw [alternate] at even'
    rcases narrow with alternate' | single
    · rw [alternate'] at even
      omega
    · omega

/-- A capital of a run has its small letter in the image of the run. -/
theorem image_covers {run : CaseRun} (positive : 0 ≤ run.first + run.shift) {code : Nat}
    (covered : run.covers code = true) : run.image.covers (code + run.shift).toNat = true := by
  rw [covers_iff] at covered ⊢
  obtain ⟨least, most, even⟩ := covered
  have same : (code + run.shift).toNat - (run.first + run.shift).toNat = code - run.first := by
    omega
  simp only [image, same]
  omega

end CaseRun

/-- The code points of blanks, and of the two capitals that have rules of their own. -/
def specialRuns : List CaseRun := [
  ⟨9, 13, 1, 0⟩, ⟨0x1C, 0x20, 1, 0⟩, ⟨0x85, 0x85, 1, 0⟩, ⟨0xA0, 0xA0, 1, 0⟩,
  ⟨0x130, 0x130, 1, 0⟩, ⟨0x3A3, 0x3A3, 1, 0⟩, ⟨0x1680, 0x1680, 1, 0⟩, ⟨0x2000, 0x200A, 1, 0⟩,
  ⟨0x2028, 0x2029, 1, 0⟩, ⟨0x202F, 0x202F, 1, 0⟩, ⟨0x205F, 0x205F, 1, 0⟩, ⟨0x3000, 0x3000, 1, 0⟩]

/-- Small letters are no capitals, no blanks and none of the capitals with rules of their own. -/
theorem image_apart : (caseRuns.all fun run =>
    caseRuns.all run.image.apart && specialRuns.all run.image.apart) = true := by
  decide +kernel

theorem image_positive : ∀ run ∈ caseRuns, 0 ≤ run.first + run.shift := by decide +kernel

private theorem isBlank_eq_false_of_specialRuns {c : Char}
    (uncovered : ∀ run ∈ specialRuns, run.covers c.toNat = false) : isBlank c = false := by
  simp only [specialRuns, List.mem_cons, List.not_mem_nil, or_false, CaseRun.covers,
    Bool.and_eq_false_imp, Bool.and_eq_true, decide_eq_true_eq, beq_eq_false_iff_ne, ne_eq, and_imp,
    forall_eq_or_imp, Nat.mod_one, not_true_eq_false, imp_false, not_le, forall_eq] at uncovered
  simp only [isBlank, Bool.or_eq_false_iff, Bool.and_eq_false_iff, decide_eq_false_iff_not,
    beq_eq_false_iff_ne]
  omega

/-! ## Single characters -/

/-- A character that lower-casing leaves alone wherever it stands. -/
structure Settled (c : Char) : Prop where
  notDotted : c.toNat ≠ 0x130
  notSigma : c.toNat ≠ 0x3A3
  small : lowerChar c = c

instance (c : Char) : Decidable (Settled c) :=
  decidable_of_iff (c.toNat ≠ 0x130 ∧ c.toNat ≠ 0x3A3 ∧ lowerChar c = c)
    ⟨fun h => ⟨h.1, h.2.1, h.2.2⟩, fun h => ⟨h.1, h.2, h.3⟩⟩

/-- A character that is in no run of capitals is its own small letter. -/
private theorem lowerChar_eq_self {c : Char}
    (uncovered : ∀ run ∈ caseRuns, run.covers c.toNat = false) :
    lowerChar c = c := by
  rw [lowerChar]
  by_cases ascii : c.toNat < 128
  · rw [if_pos ascii]
    have capitals : (⟨65, 90, 1, 32⟩ : CaseRun).covers c.toNat = false :=
      uncovered _ (by rw [caseRuns]; exact List.mem_cons_self)
    have noCapital : ¬ (c.val ≥ 'A'.val ∧ c.val ≤ 'Z'.val) := by
      rintro ⟨least, most⟩
      have least : 65 ≤ c.toNat := least
      have most : c.toNat ≤ 90 := most
      simp only [CaseRun.covers, Nat.mod_one, BEq.rfl, Bool.and_true, Bool.and_eq_false_imp,
        decide_eq_true_eq, decide_eq_false_iff_not, not_le] at capitals
      omega
    exact dif_neg noCapital
  · have missing : caseRuns.find? (·.covers c.toNat) = none := by
      rw [List.find?_eq_none]
      intro run member
      rw [uncovered run member]
      exact Bool.false_ne_true
    rw [if_neg ascii, missing]

private theorem settled_of_uncovered {c : Char}
    (uncovered : ∀ run ∈ caseRuns, run.covers c.toNat = false)
    (special : ∀ run ∈ specialRuns, run.covers c.toNat = false) : Settled c where
  notDotted := by
    intro dotted
    have covered := special ⟨0x130, 0x130, 1, 0⟩ (by simp [specialRuns])
    rw [dotted] at covered
    exact absurd covered (by decide)
  notSigma := by
    intro sigma
    have covered := special ⟨0x3A3, 0x3A3, 1, 0⟩ (by simp [specialRuns])
    rw [sigma] at covered
    exact absurd covered (by decide)
  small := lowerChar_eq_self uncovered

private theorem settled_ascii : ∀ code < 128, Settled (lowerChar (Char.ofNat code)) ∧
    (isBlank (Char.ofNat code) = false → isBlank (lowerChar (Char.ofNat code)) = false) := by
  decide +kernel

/-- A code point of no capital and of no blank is a settled character's, and not a blank's. -/
theorem settled_ofNat {code : Nat} (uncovered : ∀ run ∈ caseRuns, run.covers code = false)
    (special : ∀ run ∈ specialRuns, run.covers code = false) :
    Settled (Char.ofNat code) ∧ isBlank (Char.ofNat code) = false := by
  by_cases valid : code.isValidChar
  · have same : (Char.ofNat code).toNat = code := by
      rw [Char.ofNat, dif_pos valid]
      rfl
    rw [← same] at uncovered special
    exact ⟨settled_of_uncovered uncovered special, isBlank_eq_false_of_specialRuns special⟩
  · have null : Char.ofNat code = Char.ofNat 0 := by
      rw [Char.ofNat, dif_neg valid]
      rfl
    rw [null]
    decide

/-- The small letter of a capital is settled and not blank. -/
theorem settled_small {run : CaseRun} (member : run ∈ caseRuns) {code : Nat}
    (covered : run.covers code = true) :
    Settled (Char.ofNat (code + run.shift).toNat) ∧
      isBlank (Char.ofNat (code + run.shift).toNat) = false := by
  have inImage := CaseRun.image_covers (image_positive run member) covered
  obtain ⟨capitals, specials⟩ :=
    Bool.and_eq_true_iff.mp (List.all_eq_true.mp image_apart run member)
  refine settled_ofNat (fun other among => ?_) (fun other among => ?_)
  · exact CaseRun.covers_of_apart (List.all_eq_true.mp capitals other among) inImage
  · exact CaseRun.covers_of_apart (List.all_eq_true.mp specials other among) inImage

/-- A lower-cased character is settled, and not blank unless it was. -/
theorem settled_lowerChar {c : Char} (notDotted : c.toNat ≠ 0x130) (notSigma : c.toNat ≠ 0x3A3) :
    Settled (lowerChar c) ∧ (isBlank c = false → isBlank (lowerChar c) = false) := by
  by_cases ascii : c.toNat < 128
  · have settled := settled_ascii c.toNat ascii
    rwa [Char.ofNat_toNat] at settled
  · rw [lowerChar, if_neg ascii]
    cases found : caseRuns.find? (·.covers c.toNat) with
    | none =>
      have same : lowerChar c = c := by rw [lowerChar, if_neg ascii, found]
      exact ⟨⟨notDotted, notSigma, same⟩, id⟩
    | some run =>
      have covered : run.covers c.toNat = true :=
        List.find?_some (p := fun other : CaseRun => other.covers c.toNat) found
      obtain ⟨settled, solid⟩ := settled_small (List.mem_of_find?_eq_some found) covered
      exact ⟨settled, fun _ => solid⟩

/-! ## Texts -/

/-- What a character is lower-cased to at some place: not nothing, settled, and without blanks
unless the character is one. -/
structure Lowers (c : Char) (small : List Char) : Prop where
  given : small ≠ []
  settled : ∀ d ∈ small, Settled d
  solid : isBlank c = false → ∀ d ∈ small, isBlank d = false

private theorem lowers_of_settled {c : Char} {small : List Char} (given : small ≠ [])
    (settled : ∀ d ∈ small, Settled d ∧ isBlank d = false) : Lowers c small where
  given := given
  settled d member := (settled d member).1
  solid _ d member := (settled d member).2

private theorem lowers_lowerChar {c : Char} (notDotted : c.toNat ≠ 0x130)
    (notSigma : c.toNat ≠ 0x3A3) :
    Lowers c [lowerChar c] := by
  obtain ⟨settled, solid⟩ := settled_lowerChar notDotted notSigma
  constructor
  · exact List.cons_ne_nil _ _
  · exact List.forall_mem_singleton.mpr settled
  · intro given
    exact List.forall_mem_singleton.mpr (solid given)

/-- A text is lower-cased character by character. -/
theorem exists_lowers (seen : List Char) (c : Char) (rest : List Char) :
    ∃ small, Lowers c small ∧
      lowerAfter seen (c :: rest) = small ++ lowerAfter (c :: seen) rest := by
  rw [lowerAfter]
  by_cases dotted : c.toNat = 0x130
  · rw [if_pos (beq_iff_eq.mpr dotted)]
    have letter := @settled_ofNat 0x69 (by decide +kernel) (by decide +kernel)
    have dot := @settled_ofNat 0x307 (by decide +kernel) (by decide +kernel)
    exact ⟨_, lowers_of_settled (List.cons_ne_nil _ _)
      (List.forall_mem_cons.mpr ⟨letter, List.forall_mem_singleton.mpr dot⟩), rfl⟩
  · rw [if_neg (by simpa using dotted)]
    by_cases sigma : c.toNat = 0x3A3
    · rw [if_pos (beq_iff_eq.mpr sigma)]
      have final := @settled_ofNat 0x3C2 (by decide +kernel) (by decide +kernel)
      have inner := @settled_ofNat 0x3C3 (by decide +kernel) (by decide +kernel)
      split
      · exact ⟨_, lowers_of_settled (List.cons_ne_nil _ _)
          (List.forall_mem_singleton.mpr final), rfl⟩
      · exact ⟨_, lowers_of_settled (List.cons_ne_nil _ _)
          (List.forall_mem_singleton.mpr inner), rfl⟩
    · rw [if_neg (by simpa using sigma)]
      exact ⟨_, lowers_lowerChar dotted sigma, rfl⟩

private theorem settled_of_mem_lowerAfter {seen s : List Char} {d : Char}
    (member : d ∈ lowerAfter seen s) : Settled d := by
  induction s generalizing seen with
  | nil => cases member
  | cons c rest ih =>
    obtain ⟨small, lowers, same⟩ := exists_lowers seen c rest
    rw [same] at member
    rcases List.mem_append.mp member with here | later
    · exact lowers.settled d here
    · exact ih later

private theorem lowerAfter_of_settled {s : List Char} (settled : ∀ c ∈ s, Settled c)
    (seen : List Char) :
    lowerAfter seen s = s := by
  induction s generalizing seen with
  | nil => rfl
  | cons c rest ih =>
    have first := settled c List.mem_cons_self
    have tail := ih (fun d member => settled d (List.mem_cons_of_mem _ member)) (c :: seen)
    rw [lowerAfter, tail, if_neg (by simpa using first.notDotted),
      if_neg (by simpa using first.notSigma), first.small]
    rfl

/-- Lower-casing a lower-cased text changes nothing. -/
theorem lower_lower (s : List Char) : lower (lower s) = lower s :=
  lowerAfter_of_settled (fun _ member => settled_of_mem_lowerAfter member) []

private theorem last_lowerAfter {seen s : List Char}
    (last : ∀ c ∈ s.getLast?, isBlank c = false) :
    ∀ d ∈ (lowerAfter seen s).getLast?, isBlank d = false := by
  induction s generalizing seen with
  | nil => simp [lowerAfter]
  | cons c rest ih =>
    obtain ⟨small, lowers, same⟩ := exists_lowers seen c rest
    intro d atEnd
    rw [same] at atEnd
    cases rest with
    | nil =>
      rw [lowerAfter, List.append_nil] at atEnd
      exact lowers.solid (last c rfl) d (List.mem_of_mem_getLast? atEnd)
    | cons next more =>
      have given := lowerAfter_ne_nil (c :: seen) (List.cons_ne_nil next more)
      rw [List.getLast?_append_of_ne_nil _ given] at atEnd
      rw [List.getLast?_cons_cons] at last
      exact ih last d atEnd

/-- A text without blanks around it has none when it is lower-cased. -/
theorem unpadded_lower {s : List Char} (unpadded : Unpadded s) : Unpadded (lower s) := by
  constructor
  · cases s with
    | nil => simp [lower, lowerAfter]
    | cons c rest =>
      obtain ⟨small, lowers, same⟩ := exists_lowers [] c rest
      intro d atFront
      rw [lower, same, List.head?_append_of_ne_nil _ lowers.given] at atFront
      exact lowers.solid (unpadded.1 c rfl) d (List.mem_of_mem_head? atFront)
  · exact last_lowerAfter unpadded.2

end PageHarvest.Text
