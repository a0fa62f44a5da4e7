import PageHarvest.Proofs.Json.RoundTrip

/-! # Reading indented values back

The indented form of a value has the tokens of its compact form with blanks at places where blanks
may stand: a line break before every item and member, and before the end of what holds them, and one
blank behind every colon. So it is read back under the same condition, at whatever depth it stands.
-/

namespace PageHarvest.Json

private theorem gap_newline (depth : Nat) : Gap (newline depth) := by
  intro c member
  rcases List.mem_cons.mp member with rfl | blank
  · rfl
  · rw [List.eq_of_mem_replicate blank]
    rfl

private theorem gap_blank : Gap [' '] := List.forall_mem_singleton.mpr rfl

/-- The indented items of an array are read again. -/
private theorem reads_writeItemsIndented {items : List Json} (depth : Nat) (some : items ≠ [])
    (each : ∀ item ∈ items, Reads (writeIndented (depth + 1) item) item) :
    ReadsItems (writeItemsIndented depth items) items := by
  induction items with
  | nil => exact absurd rfl some
  | cons item rest ih =>
    have one := each item List.mem_cons_self
    cases rest with
    | nil =>
      rw [writeItemsIndented, List.append_assoc]
      exact one.last (gap_newline depth)
    | cons next rest =>
      have later := ih nofun fun other member => each other (List.mem_cons_of_mem _ member)
      have read := one.more later (gap_newline (depth + 1))
      simpa [writeItemsIndented] using read

/-- The indented members of an object are read again. -/
private theorem reads_writeMembersIndented {members : List (String × Json)} (depth : Nat)
    (some : members ≠ [])
    (each : ∀ member ∈ members, Reads (writeIndented (depth + 1) member.2) member.2) :
    ReadsMembers (writeMembersIndented depth members) members := by
  induction members with
  | nil => exact absurd rfl some
  | cons member rest ih =>
    obtain ⟨name, value⟩ := member
    have one := each (name, value) List.mem_cons_self
    cases rest with
    | nil =>
      have read := one.lastMember name gap_blank (gap_newline depth)
      simpa [writeMembersIndented] using read
    | cons next rest =>
      have later := ih nofun fun other member => each other (List.mem_cons_of_mem _ member)
      have read := one.moreMember name later gap_blank (gap_newline (depth + 1))
      simpa [writeMembersIndented] using read

/-- A tidy value is read back from its indented form at any depth if its whole numbers are short
enough. -/
theorem reads_writeIndented {json : Json} (tidy : Tidy json) (brief : Brief json) (depth : Nat) :
    Reads (writeIndented depth json) json := by
  -- on the parts of the value, which stand one step deeper than what holds them
  induction tidy generalizing depth with
  | null => exact reads_null
  | bool value =>
    cases value with
    | false => exact reads_bool false
    | true => exact reads_bool true
  | int n =>
    exact reads_int (brief_int_iff.mp brief)
  | string s => exact reads_string s
  | @array items each ih =>
    have briefs := brief_array_iff.mp brief
    cases items with
    | nil => exact reads_noItems
    | cons item rest =>
      have inside := reads_writeItemsIndented depth (List.cons_ne_nil item rest)
        fun other member => ih other member (briefs other member) (depth + 1)
      exact inside.array (gap_newline (depth + 1))
  | @object members distinct each ih =>
    have briefs := brief_object_iff.mp brief
    cases members with
    | nil => exact reads_noMembers
    | cons member rest =>
      have inside := reads_writeMembersIndented depth (List.cons_ne_nil member rest)
        fun other found => ih other found (briefs other found) (depth + 1)
      exact inside.object (gap_newline (depth + 1)) distinct

/-- Reading the indented text of a tidy value gives the value back under the same condition as
reading its compact text. -/
theorem parse_indented_iff {json : Json} (tidy : Tidy json) :
    parse json.indented = .ok json ↔ Brief json := by
  refine ⟨brief_of_readWithin, fun brief => ?_⟩
  rw [parse, indented, String.toList_ofList]
  exact (reads_writeIndented tidy brief 0).whole

end PageHarvest.Json
