import PageHarvest.Proofs.Fetch.Policy

/-! # When a fetch gives a document

The last attempt alone decides. A response gives its text as a document if its status is below 400,
whatever class of statuses that is in; from 400 on the status is the error. Trouble never gives a
document. A report never has a document and an error both.
-/

namespace PageHarvest

variable {url : String}

/-! ## Reports -/

private theorem Fetched.ofReport_of_error {result : FetchResult} {error : String}
    (failed : result.error = some error) (told : error ≠ "") :
    ofReport url (.ok result) = .failed ⟨url, error, result.status⟩ := by
  obtain ⟨_, text, status, _⟩ := result
  cases failed
  cases text <;> simp [ofReport, FetchResult.document]

private theorem Fetched.ofReport_ne_document {result : FetchResult}
    (undone : result.success = false)
    (html : String) : ofReport url (.ok result) ≠ .document html := by
  obtain ⟨_, text, status, error⟩ := result
  cases text with
  | none => exact nofun
  | some text =>
    cases error with
    | none => cases undone
    | some error => exact nofun

namespace Transported.Reports

variable {transported : Transported} {report : Except Crash FetchResult} {result : FetchResult}

/-- A document is the text of a response whose status is below 400. -/
theorem document_iff (reports : transported.Reports url report) (html : String) :
    Fetched.ofReport url report = .document html ↔
      ∃ status, transported = .response status (some html) ∧ status < 400 := by
  cases reports with
  | @document status text good =>
    cases text with
    | none => exact iff_of_false nofun fun ⟨_, same, _⟩ => nomatch same
    | some text =>
      constructor
      · intro gives
        cases gives
        exact ⟨status, rfl, good⟩
      · rintro ⟨_, same, -⟩
        cases same
        rfl
  | status bad =>
    refine iff_of_false (Fetched.ofReport_ne_document rfl html) ?_
    rintro ⟨_, same, good⟩
    cases same
    exact absurd bad (Int.not_le.mpr good)
  | trouble =>
    exact iff_of_false (Fetched.ofReport_ne_document rfl html) fun ⟨_, same, _⟩ => nomatch same
  | crash => exact iff_of_false nofun fun ⟨_, same, _⟩ => nomatch same

private theorem success_iff (reports : transported.Reports url (.ok result)) :
    result.success = true ↔
      ∃ status text, transported = .response status (some text) ∧ status < 400 := by
  have told : result.success = true ↔
      ∃ html, Fetched.ofReport url (.ok result) = .document html := by
    cases done : result.success with
    | false =>
      refine iff_of_false nofun fun ⟨html, gives⟩ => ?_
      exact Fetched.ofReport_ne_document done html gives
    | true =>
      obtain ⟨html, text⟩ := Option.isSome_iff_exists.mp (Bool.and_eq_true_iff.mp done).1
      have clear := Option.isNone_iff_eq_none.mp (Bool.and_eq_true_iff.mp done).2
      exact iff_of_true rfl ⟨html, by rw [Fetched.ofReport, FetchResult.document, text, clear]⟩
  rw [told, exists_comm]
  exact exists_congr reports.document_iff

/-- An error stands for the document, and only a response without a text leaves both out. -/
theorem one_of (reports : transported.Reports url (.ok result)) :
    (result.html = none ∨ result.error = none) ∧
      (result.html = none ∧ result.error = none ↔
        ∃ status, transported = .response status none ∧ status < 400) := by
  cases reports with
  | @document status text good =>
    refine ⟨.inr rfl, ?_⟩
    constructor
    · rintro ⟨bare, -⟩
      cases bare
      exact ⟨status, rfl, good⟩
    · rintro ⟨_, same, -⟩
      cases same
      exact ⟨rfl, rfl⟩
  | status bad =>
    refine ⟨.inl rfl, iff_of_false (fun both => nomatch both.2) ?_⟩
    rintro ⟨_, same, good⟩
    cases same
    exact absurd bad (Int.not_le.mpr good)
  | trouble =>
    exact ⟨.inl rfl, iff_of_false (fun both => nomatch both.2) fun ⟨_, same, _⟩ => nomatch same⟩

private theorem of_status {status : Int} {text : Option String} (bad : 400 ≤ status)
    (reports : (Transported.response status text).Reports url report) :
    report = .ok { url, status := some status, error := some s!"HTTP {status}" } := by
  cases reports with
  | document good => exact absurd bad (Int.not_le.mpr good)
  | status => rfl

end Transported.Reports

private theorem statusText_ne_empty (status : Int) : s!"HTTP {status}" ≠ "" := by
  intro empty
  have begins : (s!"HTTP {status}").toList.head? = some 'H' := by simp [toString]
  rw [empty] at begins
  cases begins

/-! ## Fetches -/

namespace Fetcher

variable {τ : Type} [NatCast τ] [LT τ] [DecidableLT τ]

private theorem reports_fetchOver (fetcher : Fetcher τ) (url : String)
    (transport : Nat → Transported) :
    (transport (fetcher.fetchOver url transport).attempts.count).Reports url
      (fetcher.fetchOver url transport).report := by
  have told : (fetcher.fetchOver url transport).attempts.last =
      (transport (fetcher.fetchOver url transport).attempts.count).answer :=
    fetcher.policy.last_attempts fun attempt => (transport attempt).answer
  have reports := (transport (fetcher.fetchOver url transport).attempts.count).reports_answer url
  rw [← told] at reports
  exact reports

/-- The last attempt of a fetch decides whether there is a document: there is one just if the
attempt brought a response with a text and a status below 400. From 400 on the status is reported as
the error, and asking for the document fails with it. No report has a document and an error both,
and one that has neither is about a response without a text. -/
theorem fetchOver_documents (fetcher : Fetcher τ) (url : String) (transport : Nat → Transported) :
    let visit := fetcher.fetchOver url transport
    let last := transport visit.attempts.count
    (∀ html, Fetched.ofReport url visit.report = .document html ↔
      ∃ status, last = .response status (some html) ∧ status < 400) ∧
    (∀ status text, last = .response status text → 400 ≤ status →
      visit.report = .ok { url, status := some status, error := some s!"HTTP {status}" } ∧
      Fetched.ofReport url visit.report = .failed ⟨url, s!"HTTP {status}", some status⟩) ∧
    ∀ result, visit.report = .ok result →
      (result.success = true ↔
        ∃ status text, last = .response status (some text) ∧ status < 400) ∧
      (result.html = none ∨ result.error = none) ∧
      (result.html = none ∧ result.error = none ↔
        ∃ status, last = .response status none ∧ status < 400) := by
  intro visit last
  have reports : last.Reports url visit.report := reports_fetchOver fetcher url transport
  refine ⟨reports.document_iff, ?_, ?_⟩
  · intro status text ended bad
    have told := Transported.Reports.of_status bad (ended ▸ reports)
    refine ⟨told, ?_⟩
    rw [told]
    exact Fetched.ofReport_of_error rfl (statusText_ne_empty status)
  · intro result told
    rw [told] at reports
    exact ⟨reports.success_iff, reports.one_of⟩

/-- A passing status first, then a document without content; and a passing status to the end. -/
theorem fetchOver_documents_second :
    let fetcher : Fetcher ℤ := ⟨none, "", ⟨2, 1, 10⟩, true⟩
    let transport : Nat → Transported
      | 1 => .response 503 (some "<p>503</p>")
      | _ => .response 204 (some "")
    let busy : Nat → Transported := fun _ => .response 503 (some "<p>503</p>")
    Fetched.ofReport "u" (fetcher.fetchOver "u" transport).report = .document "" ∧
      Fetched.ofReport "u" (fetcher.fetchOver "u" busy).report =
        .failed ⟨"u", "HTTP 503", some 503⟩ := by
  intro fetcher transport busy
  obtain ⟨gives, -, -⟩ := fetchOver_documents fetcher "u" transport
  obtain ⟨-, fails, -⟩ := fetchOver_documents fetcher "u" busy
  exact ⟨(gives "").mpr ⟨204, rfl, by decide⟩, (fails 503 _ rfl (by decide)).2⟩

/-- A response that says that nothing has changed is reported as a document, although its status is
not one of success. -/
theorem fetchOver_notModified :
    let fetcher : Fetcher ℤ := ⟨none, "", ⟨3, 1, 10⟩, true⟩
    let transport : Nat → Transported := fun _ => .response 304 (some "<p>304</p>")
    let visit := fetcher.fetchOver "u" transport
    (∃ result, visit.report = .ok result ∧ result.success = true ∧ result.error = none) ∧
      ¬∃ status text, transport visit.attempts.count = .response status text ∧
        200 ≤ status ∧ status ≤ 299 := by
  intro fetcher transport visit
  refine ⟨⟨_, rfl, rfl, rfl⟩, ?_⟩
  rintro ⟨status, text, ended, -, good⟩
  cases ended
  exact absurd good (by decide)

end Fetcher

end PageHarvest
