import Mathlib.Algebra.Order.Ring.Rat
import Mathlib.Data.Nat.Cast.Order.Basic
import Mathlib.Order.Bounds.Basic
import Mathlib.Tactic.NormNum
import PageHarvest.Fetch.Trouble

/-! # What a retry policy amounts to

A fetch goes on up to the first answer that is final, or until the attempts are used up, and the
last answer alone is reported. The pauses between the attempts double within the bounds of the
policy, so they never shrink.
-/

namespace PageHarvest

/-! ## Attempts -/

namespace RetryPolicy

section

variable {τ : Type} [NatCast τ] [LT τ] [DecidableLT τ] (policy : RetryPolicy τ)
  (send : Nat → Answer)

/-- What attempts from a number on come to: all but the last met passing trouble, each was followed
by its pause, and the last was final or there were none left. -/
structure Tried (left first : Nat) (attempts : Attempts τ) : Prop where
  last : attempts.last = send (first + attempts.retries.length)
  retries : attempts.retries = (List.range' first attempts.retries.length).map fun attempt =>
    ⟨attempt, (send attempt).problem, policy.pause attempt⟩
  passing : ∀ attempt, first ≤ attempt → attempt < first + attempts.retries.length →
    (send attempt).isPassing = true
  bound : attempts.retries.length ≤ left
  final : attempts.retries.length < left → attempts.last.isPassing = false

private theorem tryFrom_of_final {first : Nat} (final : (send first).isPassing = false)
    (left : Nat) :
    policy.tryFrom send left first = ⟨[], send first⟩ := by
  cases left with
  | zero => rfl
  | succ left => simp only [tryFrom, final, Bool.false_eq_true, if_false]

private theorem tryFrom_of_passing {first : Nat} (passing : (send first).isPassing = true)
    (left : Nat) :
    policy.tryFrom send (left + 1) first =
      ⟨⟨first, (send first).problem, policy.pause first⟩ ::
        (policy.tryFrom send left (first + 1)).retries,
        (policy.tryFrom send left (first + 1)).last⟩ := by
  simp only [tryFrom, passing, if_true]

private theorem tried_once {left first : Nat} (ends : 0 < left → (send first).isPassing = false) :
    Tried policy send left first ⟨[], send first⟩ where
  last := rfl
  retries := rfl
  passing := fun _ from_first before => absurd before (Nat.not_lt.mpr from_first)
  bound := Nat.zero_le left
  final := ends

/-- The attempts from a number on are told by what each of them comes to. -/
private theorem tried_tryFrom (left first : Nat) :
    Tried policy send left first (policy.tryFrom send left first) := by
  induction left generalizing first with
  | zero => exact tried_once policy send nofun
  | succ left ih =>
    cases passing : (send first).isPassing with
    | false =>
      rw [tryFrom_of_final policy send passing]
      exact tried_once policy send fun _ => passing
    | true =>
      obtain ⟨last, retries, others, bound, final⟩ := ih (first + 1)
      rw [tryFrom_of_passing policy send passing]
      refine ⟨?_, ?_, ?_, Nat.succ_le_succ bound, fun more => final (Nat.lt_of_succ_lt_succ more)⟩
      · refine last.trans (congrArg send ?_)
        rw [List.length_cons, Nat.add_right_comm, Nat.add_assoc]
      · rw [List.length_cons, List.range'_succ, List.map_cons, ← retries]
      · intro attempt from_first before
        rw [List.length_cons] at before
        rcases Nat.eq_or_lt_of_le from_first with rfl | later
        · exact passing
        · exact others attempt later (by omega)

private theorem tried_attempts :
    Tried policy send (policy.limit - 1).toNat 1 (policy.attempts send) :=
  tried_tryFrom policy send _ 1

/-- The number of attempts is the first at which the answer is final or the limit is reached. -/
theorem isLeast_count :
    IsLeast {k : ℕ | 1 ≤ k ∧ ((send k).isPassing = false ∨ policy.limit ≤ k)}
      (policy.attempts send).count := by
  obtain ⟨last, -, passing, bound, final⟩ := tried_attempts policy send
  rw [Attempts.count, Nat.add_comm]
  refine ⟨⟨Nat.le_add_right 1 _, ?_⟩, ?_⟩
  · rcases Nat.eq_or_lt_of_le bound with all | fewer
    · right
      omega
    · left
      rw [← last]
      exact final fewer
  · rintro k ⟨from_one, settled | reached⟩
    · by_contra before
      rw [passing k from_one (Nat.not_le.mp before)] at settled
      cases settled
    · omega

/-- The last attempt is the one whose number is the count of attempts. -/
theorem last_attempts : (policy.attempts send).last = send (policy.attempts send).count := by
  rw [(tried_attempts policy send).last, Attempts.count, Nat.add_comm]

/-- Each attempt but the last was followed by its pause. -/
theorem retries_attempts :
    (policy.attempts send).retries = (List.range' 1 ((policy.attempts send).count - 1)).map
      fun attempt => ⟨attempt, (send attempt).problem, policy.pause attempt⟩ :=
  (tried_attempts policy send).retries

end

/-! ## Pauses -/

section

variable {τ : Type} [LinearOrder τ] (policy : RetryPolicy τ)

omit policy in
private theorem longer_eq_max (a b : τ) : longer a b = max a b := by
  rw [longer]
  split
  · next less => exact (max_eq_right less.le).symm
  · next notLess => exact (max_eq_left (not_lt.mp notLess)).symm

omit policy in
private theorem shorter_eq_min (a b : τ) : shorter a b = min a b := by
  rw [shorter]
  split
  · next less => exact (min_eq_right less.le).symm
  · next notLess => exact (min_eq_left (not_lt.mp notLess)).symm

variable [AddMonoidWithOne τ]

private theorem pause_eq (attempt : Nat) :
    policy.pause attempt =
      max 0 (max policy.waitMin (min ((2 ^ (attempt - 1) : ℕ) : τ) policy.waitMax)) := by
  rw [pause, longer_eq_max, longer_eq_max, shorter_eq_min, Nat.cast_zero, max_assoc]
  rfl

private theorem pause_le (attempt : Nat) :
    policy.pause attempt ≤ max 0 (max policy.waitMin policy.waitMax) := by
  rw [pause_eq]
  exact max_le_max le_rfl (max_le_max le_rfl (min_le_right _ _))

private theorem pause_mono [AddLeftMono τ] [ZeroLEOneClass τ] {earlier later : Nat}
    (le : earlier ≤ later) : policy.pause earlier ≤ policy.pause later := by
  have doubled : ((2 ^ (earlier - 1) : ℕ) : τ) ≤ ((2 ^ (later - 1) : ℕ) : τ) :=
    Nat.mono_cast (Nat.pow_le_pow_right Nat.two_pos (Nat.sub_le_sub_right le 1))
  rw [pause_eq, pause_eq]
  exact max_le_max le_rfl (max_le_max le_rfl (min_le_min doubled le_rfl))

end

end RetryPolicy

/-! ## Transports -/

namespace Transported

/-- There is no use in another attempt: the status is none of those that may pass, or the trouble
is of none of the kinds. -/
def Settles (kinds : List TroubleKind) : Transported → Prop
  | .response status _ => status ∉ [429, 500, 502, 503, 504]
  | .thrown trouble => ∀ kind ∈ kinds, kind ∉ trouble.kinds

/-- What is reported of a last attempt. A status from 400 on, and so each that may pass, is an
error, and so is trouble with the request; other trouble is nobody's business. -/
inductive Reports (url : String) : Transported → Except Crash FetchResult → Prop
  | document {status : Int} {text : Option String} (good : status < 400) :
    Reports url (.response status text) (.ok { url, html := text, status := some status })
  | status {status : Int} {text : Option String} (bad : 400 ≤ status) :
    Reports url (.response status text)
      (.ok { url, html := none, status := some status, error := some s!"HTTP {status}" })
  | trouble {trouble : Trouble} (known : .request ∈ trouble.kinds) :
    Reports url (.thrown trouble)
      (.ok {
        url, html := none, error := some trouble.message
        status := if .passingStatus ∈ trouble.kinds then trouble.status else none })
  | crash {trouble : Trouble} (unknown : .request ∉ trouble.kinds) :
    Reports url (.thrown trouble) (.error ⟨trouble.name, trouble.message⟩)

end Transported

namespace Trouble

variable (trouble : Trouble)

private theorem isPassing_iff :
    trouble.isPassing = true ↔ ∃ kind ∈ passingKinds, kind ∈ trouble.kinds := by
  simp only [isPassing, List.any_eq_true, List.contains_iff_mem]
  exact exists_congr fun kind => and_comm

private theorem request_mem_of_isPassing (passing : trouble.isPassing = true) :
    .request ∈ trouble.kinds := by
  obtain ⟨kind, -, member⟩ := trouble.isPassing_iff.mp passing
  exact trouble.request_mem (List.ne_nil_of_mem member)

private theorem passingStatus_not_mem (final : trouble.isPassing = false) :
    .passingStatus ∉ trouble.kinds := by
  intro member
  have passing : trouble.isPassing = true :=
    trouble.isPassing_iff.mpr ⟨.passingStatus, by decide, member⟩
  rw [final] at passing
  cases passing

private theorem isPassing_answer : trouble.answer.isPassing = trouble.isPassing := by
  rw [answer]
  cases trouble.isPassing with
  | true => rfl
  | false => by_cases known : .request ∈ trouble.kinds <;> simp [known, Answer.isPassing]

private theorem reports_answer (url : String) :
    (Transported.thrown trouble).Reports url (trouble.answer.report url) := by
  by_cases known : .request ∈ trouble.kinds
  · have reports := @Transported.Reports.trouble url trouble known
    cases passing : trouble.isPassing with
    | true =>
      rw [answer, if_pos passing]
      exact reports
    | false =>
      rw [if_neg (trouble.passingStatus_not_mem passing)] at reports
      rw [answer, passing, if_neg Bool.false_ne_true, if_pos known]
      exact reports
  · have final : ¬trouble.isPassing = true :=
      fun passing => known (trouble.request_mem_of_isPassing passing)
    rw [answer, if_neg final, if_neg known]
    exact .crash known

end Trouble

namespace Transported

variable (transported : Transported)

private theorem isPassing_answer :
    transported.answer.isPassing = false ↔ transported.Settles Trouble.passingKinds := by
  cases transported with
  | response status text =>
    simp [answer, Answer.isPassing, Answer.statusPasses, Answer.passingStatuses, Settles]
  | thrown trouble =>
    rw [answer, trouble.isPassing_answer, Bool.eq_false_iff, ne_eq, trouble.isPassing_iff]
    simp only [Settles, not_exists, not_and]

theorem reports_answer (url : String) :
    transported.Reports url (transported.answer.report url) := by
  cases transported with
  | response status text =>
    rw [answer, Answer.report]
    split
    · next bad => exact .status bad
    · next good => exact .document (Int.not_le.mp good)
  | thrown trouble => exact trouble.reports_answer url

end Transported

/-! ## Fetches -/

namespace Fetcher

variable {τ : Type} [AddMonoidWithOne τ] [LinearOrder τ]

/-- A fetch follows its policy: there are as many attempts as it takes until the transport settles
the matter or the limit is reached; after each of them but the last comes a pause that doubles
within the bounds, so pauses never shrink; and what is reported is told by the last attempt. -/
theorem fetchOver_follows_policy [AddLeftMono τ] [ZeroLEOneClass τ] (fetcher : Fetcher τ)
    (url : String) (transport : Nat → Transported) :
    let visit := fetcher.fetchOver url transport
    let last := visit.attempts.count
    let pauses := visit.attempts.retries.map Retry.pause
    IsLeast {k : ℕ | 1 ≤ k ∧ ((transport k).Settles [.connection, .timeout, .passingStatus] ∨
      fetcher.policy.limit ≤ k)} last ∧
    (visit.attempts.retries.map fun retry => (retry.attempt, retry.pause)) =
      (List.range' 1 (last - 1)).map (fun attempt => (attempt,
        max 0 (max fetcher.policy.waitMin
          (min ((2 ^ (attempt - 1) : ℕ) : τ) fetcher.policy.waitMax)))) ∧
    pauses.Pairwise (· ≤ ·) ∧
    (∀ pause ∈ pauses, pause ≤ max 0 (max fetcher.policy.waitMin fetcher.policy.waitMax)) ∧
    (transport last).Reports url visit.report := by
  intro visit last pauses
  have retries := fetcher.policy.retries_attempts fun attempt => (transport attempt).answer
  have paused : pauses = (List.range' 1 (last - 1)).map fetcher.policy.pause := by
    refine (congrArg (List.map Retry.pause) retries).trans ?_
    rw [List.map_map]
    rfl
  refine ⟨?_, ?_, ?_, ?_, ?_⟩
  · have least := fetcher.policy.isLeast_count fun attempt => (transport attempt).answer
    simp only [Transported.isPassing_answer] at least
    exact least
  · refine (congrArg (List.map fun retry => (retry.attempt, retry.pause)) retries).trans ?_
    rw [List.map_map]
    refine List.map_congr_left fun attempt _ => ?_
    rw [Function.comp_apply, RetryPolicy.pause_eq]
  · rw [paused, List.pairwise_map]
    exact (List.pairwise_lt_range' 1).imp fun less => fetcher.policy.pause_mono less.le
  · intro pause among
    rw [paused] at among
    obtain ⟨attempt, -, rfl⟩ := List.mem_map.mp among
    exact fetcher.policy.pause_le attempt
  · have told : visit.attempts.last = (transport last).answer :=
      fetcher.policy.last_attempts fun attempt => (transport attempt).answer
    have reports := (transport last).reports_answer url
    rw [← told] at reports
    exact reports

/-- A passing status and a time-out, each followed by a pause, and then a document. -/
theorem fetchOver_third_attempt :
    let fetcher : Fetcher ℚ := ⟨none, "", ⟨5, 3 / 2, 10⟩, true⟩
    let transport : Nat → Transported
      | 1 => .response 503 none
      | 2 => .thrown { kinds := [.timeout, .request], name := "timeout", message := "slow" }
      | _ => .response 200 (some "<p>200</p>")
    let visit := fetcher.fetchOver "u" transport
    visit.attempts.count = 3 ∧ visit.attempts.retries.map Retry.pause = [3 / 2, 2] ∧
      (transport 3).Reports "u" visit.report := by
  intro fetcher transport visit
  have three : visit.attempts.count = 3 := rfl
  obtain ⟨-, paused, -, -, reports⟩ := fetchOver_follows_policy fetcher "u" transport
  refine ⟨three, ?_, reports⟩
  have pauses := congrArg (List.map Prod.snd) paused
  rw [List.map_map] at pauses
  refine Eq.trans pauses ?_
  change [max 0 (max (3 / 2) (min ((1 : ℕ) : ℚ) 10)),
    max 0 (max (3 / 2) (min ((2 : ℕ) : ℚ) 10))] = _
  norm_num

/-- A passing status that the transport itself throws is neither a lost connection nor a time-out,
and yet there is another attempt after it. -/
theorem passingStatus_thrown_is_tried_again :
    let fetcher : Fetcher ℤ := ⟨none, "", ⟨3, 1, 10⟩, true⟩
    let transport : Nat → Transported
      | 1 => .thrown
        { kinds := [.passingStatus, .request], name := "status", message := "no response" }
      | _ => .response 200 (some "<p>200</p>")
    IsLeast {k : ℕ | 1 ≤ k ∧ ((transport k).Settles [.connection, .timeout] ∨
        fetcher.policy.limit ≤ k)} 1 ∧
      (fetcher.fetchOver "u" transport).attempts.count = 2 := by
  intro fetcher transport
  refine ⟨⟨⟨Nat.le_refl 1, .inl ?_⟩, fun _ counted => counted.1⟩, rfl⟩
  change ∀ kind ∈ [TroubleKind.connection, .timeout], kind ∉ [TroubleKind.passingStatus, .request]
  decide

end Fetcher

end PageHarvest
