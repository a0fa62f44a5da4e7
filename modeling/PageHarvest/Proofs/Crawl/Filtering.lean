import PageHarvest.Proofs.Crawl.Course
import PageHarvest.Proofs.Url.Resolving

/-! # What the filter of links makes of them

The filter that resolves links against a page follows web addresses, drops what leads elsewhere and
what is no address, and crashes on nothing. It rejects a link only where resolving goes astray: no
link at all if the page has an authority, and some link if it has none.
-/

namespace PageHarvest

open Text

namespace LinkFilter

variable {base link : String}

/-! ## Verdicts -/

private theorem absolutize_blank (blank : trim link.toList = []) :
    absolutize base link = .drop := by
  have blank : (trim link.toList).isEmpty = true := List.isEmpty_iff.mpr blank
  rw [absolutize]
  exact if_pos blank

/-- The verdict on a link by what it is resolved to. -/
def verdictOn : Except Url.Fault (List Char) → Verdict
  | .error fault => .malformed fault.message
  | .ok joined => match Url.parse joined with
    | .error fault => .reject fault.message
    | .ok url => if isWeb url then .follow (String.ofList joined) else .drop

private theorem absolutize_eq (given : trim link.toList ≠ []) :
    absolutize base link = verdictOn (Url.join base.toList (trim link.toList)) := by
  have given : (trim link.toList).isEmpty = false := by simpa using given
  rw [absolutize]
  simp only [given, Bool.false_eq_true, if_false]
  rfl

/-- A link is followed exactly if it is joined to an address of the web. -/
private theorem verdictOn_eq_follow_iff {joined : Except Url.Fault (List Char)} {url : String} :
    verdictOn joined = .follow url ↔
      joined = .ok url.toList ∧ ∃ parts, Url.parse url.toList = .ok parts ∧ isWeb parts = true := by
  cases joined with
  | error fault => simp [verdictOn]
  | ok text =>
    rw [verdictOn, Except.ok.injEq]
    constructor
    · intro follows
      split at follows
      · cases follows
      · next parts parsed =>
        split at follows
        · next web =>
          cases follows
          exact ⟨String.toList_ofList.symm, parts, by rwa [String.toList_ofList], web⟩
        · cases follows
    · rintro ⟨rfl, parts, parsed, web⟩
      rw [parsed]
      dsimp only
      rw [if_pos web, String.ofList_toList]

private theorem verdictOn_eq_malformed_iff {joined : Except Url.Fault (List Char)}
    {reason : String} :
    verdictOn joined = .malformed reason ↔
      ∃ fault, joined = .error fault ∧ reason = fault.message := by
  cases joined with
  | error fault => simp [verdictOn, eq_comm]
  | ok text =>
    rw [verdictOn]
    refine iff_of_false ?_ (by simp)
    split
    · exact nofun
    · split <;> exact nofun

private theorem verdictOn_eq_reject_iff {joined : Except Url.Fault (List Char)} {reason : String} :
    verdictOn joined = .reject reason ↔
      ∃ fault, (∃ text, joined = .ok text ∧ Url.parse text = .error fault) ∧
        reason = fault.message := by
  cases joined with
  | error fault => simp [verdictOn]
  | ok text =>
    rw [verdictOn]
    cases parsed : Url.parse text with
    | error fault => simp [parsed, eq_comm]
    | ok url =>
      refine iff_of_false ?_ (by simp [parsed])
      dsimp only
      split <;> exact nofun

private theorem verdictOn_ne_crash (joined : Except Url.Fault (List Char)) (crash : Crash) :
    verdictOn joined ≠ .crash crash := by
  cases joined with
  | error fault => exact nofun
  | ok text =>
    rw [verdictOn]
    split
    · exact nofun
    · split <;> exact nofun

/-- Links are dropped as malformed just if the address of the page or their own is refused. -/
theorem absolutize_eq_malformed_iff {reason : String} :
    absolutize base link = .malformed reason ↔ trim link.toList ≠ [] ∧ base ≠ "" ∧
      ∃ fault : Url.Fault, reason = fault.message ∧ (Url.parse base.toList = .error fault ∨
        (∃ page, Url.parse base.toList = .ok page) ∧
          Url.parse (trim link.toList) = .error fault) := by
  by_cases blank : trim link.toList = []
  · rw [absolutize_blank blank]
    exact iff_of_false nofun fun malformed => malformed.1 blank
  · have paged : base.toList ≠ [] ↔ base ≠ "" := not_congr String.toList_eq_nil_iff
    rw [absolutize_eq blank, verdictOn_eq_malformed_iff]
    constructor
    · rintro ⟨fault, refused, same⟩
      obtain ⟨given, cause⟩ := (Url.join_eq_error_iff blank).mp refused
      exact ⟨blank, paged.mp given, fault, same, cause⟩
    · rintro ⟨-, given, fault, same, cause⟩
      exact ⟨fault, (Url.join_eq_error_iff blank).mpr ⟨paged.mpr given, cause⟩, same⟩

/-- Links are rejected just if resolving them goes astray. -/
theorem absolutize_eq_reject_iff {reason : String} :
    absolutize base link = .reject reason ↔ trim link.toList ≠ [] ∧
      ∃ fault, Url.Strays base.toList (trim link.toList) fault ∧ reason = fault.message := by
  by_cases blank : trim link.toList = []
  · rw [absolutize_blank blank]
    exact iff_of_false nofun fun rejected => rejected.1 blank
  · rw [absolutize_eq blank, verdictOn_eq_reject_iff]
    simp only [Url.strays_iff blank, ne_eq, blank, not_false_eq_true, true_and]

private theorem absolutize_ne_crash (crash : Crash) : absolutize base link ≠ .crash crash := by
  by_cases blank : trim link.toList = []
  · rw [absolutize_blank blank]
    exact nofun
  · rw [absolutize_eq blank]
    exact verdictOn_ne_crash _ crash

private theorem isWeb_of_follow {url : String} (follows : absolutize base link = .follow url) :
    ∃ parts, Url.parse url.toList = .ok parts ∧ isWeb parts = true := by
  by_cases blank : trim link.toList = []
  · rw [absolutize_blank blank] at follows
    cases follows
  · rw [absolutize_eq blank] at follows
    exact (verdictOn_eq_follow_iff.mp follows).2

private theorem exists_reject_iff (base : String) :
    (∃ link reason, absolutize base link = .reject reason) ↔ Url.Unlocated base.toList := by
  constructor
  · rintro ⟨link, reason, rejected⟩
    obtain ⟨-, fault, strays, -⟩ := absolutize_eq_reject_iff.mp rejected
    exact strays.unlocated_base
  · intro unlocated
    obtain ⟨link, fault, trimmed, given, strays⟩ := unlocated.exists_strays
    refine ⟨String.ofList link, fault.message, absolutize_eq_reject_iff.mpr ?_⟩
    rw [String.toList_ofList, trimmed]
    exact ⟨given, fault, strays, rfl⟩

/-- There is a warning only about links that are rejected. -/
theorem level_of_not_reject {verdict : Verdict} (unrejected : ∀ reason, verdict ≠ .reject reason) :
    ∀ entry ∈ entries link verdict, entry.level = .debug := by
  cases verdict with
  | follow url | crash crash => exact nofun
  | drop => exact List.forall_mem_singleton.mpr rfl
  | malformed reason =>
    exact List.forall_mem_cons.mpr ⟨rfl, List.forall_mem_singleton.mpr rfl⟩
  | reject reason => exact absurd rfl (unrejected reason)

end LinkFilter

/-! ## Links of a page -/

/-- The address under which a link is followed, if it is. -/
def Verdict.followed? : Verdict → Option String
  | .follow url => some url
  | .drop | .malformed _ | .reject _ | .crash _ => none

namespace Crawler

variable {τ : Type}

private theorem runOn_bind {α β : Type} {work : Crawling τ α} {next : α → Crawling τ β} {value : α}
    {before after : Activity τ} (first : Crawling.runOn work before = (.ok value, after)) :
    Crawling.runOn (work >>= next) before = Crawling.runOn (next value) after := by
  have first : work.run.run before = (.ok value, after) := first
  rw [Crawling.runOn, ExceptT.run_bind, StateT.run_bind, first]
  rfl

private theorem runOn_bind_error {α β : Type} {work : Crawling τ α} {next : α → Crawling τ β}
    {abort : Abort} {before after : Activity τ}
    (first : Crawling.runOn work before = (.error abort, after)) :
    Crawling.runOn (work >>= next) before = (.error abort, after) := by
  have first : work.run.run before = (.error abort, after) := first
  rw [Crawling.runOn, ExceptT.run_bind, StateT.run_bind, first]
  rfl

/-- What is let through of a link that the filter does not crash on, and what is written. -/
theorem run_keep {link : String} {verdict : Verdict} (calm : ∀ crash, verdict ≠ .crash crash)
    (activity : Activity τ) : Crawling.runOn (keep link verdict) activity =
      (.ok verdict.followed?.toList,
        { activity with journal := activity.journal ++ LinkFilter.entries link verdict }) := by
  cases verdict with
  | crash crash => exact absurd rfl (calm crash)
  | follow url => rfl
  | drop => rfl
  | malformed reason => rfl
  | reject reason => rfl

/-- What is let through of the links when the filter crashes on none, and what is written. -/
theorem run_keepLinks {filter : LinkFilter} (calm : ∀ link crash, filter link ≠ .crash crash)
    (links : List String) (activity : Activity τ) :
    Crawling.runOn (keepLinks filter links) activity =
      (.ok (links.filterMap fun link => (filter link).followed?),
        { activity with journal := activity.journal ++
            links.flatMap fun link => LinkFilter.entries link (filter link) }) := by
  induction links generalizing activity with
  | nil =>
    rw [List.flatMap_nil, List.append_nil]
    rfl
  | cons link rest ih =>
    rw [keepLinks, runOn_bind (run_keep (calm link) activity), runOn_bind (ih _)]
    have kept : (link :: rest).filterMap (fun link => (filter link).followed?) =
        (filter link).followed?.toList ++ rest.filterMap fun link => (filter link).followed? := by
      cases followed : (filter link).followed? with
      | none => exact List.filterMap_cons_none followed
      | some url => exact List.filterMap_cons_some followed
    rw [kept, List.flatMap_cons, ← List.append_assoc]
    rfl

private theorem run_reading {α : Type} (work : Logged Selector.Unsupported α)
    (activity : Activity τ) :
    Crawling.runOn (Crawling.reading work) activity =
      (Crawling.readingOutcome work,
        { activity with journal := activity.journal ++ work.outcome.2 }) := by
  have noted : Crawling.runOn (Crawling.notes work.outcome.2) activity =
      (.ok (), { activity with journal := activity.journal ++ work.outcome.2 }) := rfl
  rw [Crawling.reading, runOn_bind noted, Crawling.readingOutcome]
  cases work.outcome.1 with
  | error what => rfl
  | ok value => rfl

/-- What discovering comes to when the filter crashes on no link, and what it writes: what reading
the page writes, and then what there is to say about each of the links. -/
theorem run_discoverLinks {crawler : Crawler τ} {filter : LinkFilter}
    (filtered : crawler.linkFilter = some filter)
    (calm : ∀ link crash, filter link ≠ .crash crash) (html : String) (activity : Activity τ) :
    let reading := Document.Place.engine.evaluate crawler.linkPath (Document.parse html)
    let links := (reading.outcome.1.toOption.map PathResult.values).getD []
    Crawling.runOn (crawler.discoverLinks html) activity =
      ((Crawling.readingOutcome reading).map fun _ =>
          links.filterMap fun link => (filter link).followed?,
        { activity with journal := activity.journal ++ reading.outcome.2 ++
            links.flatMap fun link => LinkFilter.entries link (filter link) }) := by
  intro reading links
  have read := run_reading reading activity
  rw [discoverLinks, filtered]
  cases outcome : reading.outcome.1 with
  | error what =>
    have broken : Crawling.readingOutcome reading = .error (.selector what) := by
      rw [Crawling.readingOutcome, outcome]
    have none : links = [] := by
      simp only [links, outcome]
      rfl
    rw [broken] at read ⊢
    rw [runOn_bind_error read, none, List.flatMap_nil, List.append_nil]
    rfl
  | ok found =>
    have given : Crawling.readingOutcome reading = .ok found := by
      rw [Crawling.readingOutcome, outcome]
    have values : links = found.values := by
      simp only [links, outcome]
      rfl
    rw [given] at read ⊢
    rw [runOn_bind read, values]
    exact run_keepLinks calm found.values _

end Crawler

namespace LinkFilter

/-- A link is followed under a web address or dropped, and dropped as malformed if its address or
that of the page is refused, unless resolving it goes astray: then it is rejected, and nothing
crashes. Links are rejected on just those pages whose address has no authority and a scheme with
relative addresses, the empty address among them. On any other page, discovering links writes no
more about them than notes on those that are dropped. -/
theorem absolutize_verdicts (base : String) :
    (∀ link,
      (∀ url, absolutize base link = .follow url →
        ∃ parts, Url.parse url.toList = .ok parts ∧ isWeb parts = true) ∧
      (∀ reason, absolutize base link = .malformed reason ↔ trim link.toList ≠ [] ∧ base ≠ "" ∧
        ∃ fault : Url.Fault, reason = fault.message ∧ (Url.parse base.toList = .error fault ∨
          (∃ page, Url.parse base.toList = .ok page) ∧
            Url.parse (trim link.toList) = .error fault)) ∧
      (∀ reason, absolutize base link = .reject reason ↔ trim link.toList ≠ [] ∧
        ∃ fault, Url.Strays base.toList (trim link.toList) fault ∧ reason = fault.message) ∧
      ∀ crash, absolutize base link ≠ .crash crash) ∧
    ((∃ link reason, absolutize base link = .reject reason) ↔ Url.Unlocated base.toList) ∧
    ∀ (τ : Type) (crawler : Crawler τ) (html : String) (activity : Activity τ),
      crawler.linkFilter = some (absolutize base) →
        let reading := Document.Place.engine.evaluate crawler.linkPath (Document.parse html)
        let links := (reading.outcome.1.toOption.map PathResult.values).getD []
        let told := links.flatMap fun link => entries link (absolutize base link)
        (Crawling.runOn (crawler.discoverLinks html) activity).2.journal =
            activity.journal ++ reading.outcome.2 ++ told ∧
          (¬ Url.Unlocated base.toList → ∀ entry ∈ told, entry.level = .debug) := by
  have calm (link : String) (crash : Crash) : absolutize base link ≠ .crash crash :=
    absolutize_ne_crash crash
  refine ⟨fun link => ⟨fun url => isWeb_of_follow, fun reason => absolutize_eq_malformed_iff,
    fun reason => absolutize_eq_reject_iff, calm link⟩, exists_reject_iff base, ?_⟩
  intro τ crawler html activity filtered reading links told
  refine ⟨?_, fun located entry member => ?_⟩
  · rw [Crawler.run_discoverLinks filtered calm]
  · obtain ⟨link, -, about⟩ := List.mem_flatMap.mp member
    exact level_of_not_reject
      (fun reason rejected => located ((exists_reject_iff base).mp ⟨link, reason, rejected⟩))
      entry about

/-- Without an address of the page, or with one that has no authority, a link may be rejected. -/
theorem absolutize_unlocated :
    absolutize "" "http://[" = .reject "Invalid IPv6 URL" ∧
      absolutize "http:" "////[x" = .reject "Invalid IPv6 URL" := by
  decide +kernel

end LinkFilter

end PageHarvest
