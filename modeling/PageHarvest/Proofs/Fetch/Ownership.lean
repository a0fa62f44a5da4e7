import Mathlib.Data.List.Nodup
import PageHarvest.Fetch.Session
import PageHarvest.Proofs.FieldMap

/-! # Who owns a session

The slots of the workers and the list of sessions to close are kept in step by every event. So a
session has one owner in a whole run, its owner keeps it up to the next closing, and that closing
ends it.
-/

namespace PageHarvest.Sessions

/-! ## One event -/

/-- The sessions after a new one was made for a worker. -/
def opened (sessions : Sessions) (worker : String) : Sessions :=
  { sessions with
    slots := (worker, sessions.made) :: sessions.slots
    held := sessions.held ++ [sessions.made]
    made := sessions.made + 1 }

private theorem opened_slots (sessions : Sessions) (worker : String) :
    (sessions.opened worker).slots = (worker, sessions.made) :: sessions.slots := rfl

/-- All that an event can do where workers have sessions. -/
inductive Does (sessions : Sessions) : Event → Shown → Sessions → Prop where
  /-- A worker gets the session in its slot. -/
  | again {worker : String} {session : Nat} (slot : sessions.slots.lookup worker = some session) :
    Does sessions (.ask worker) (.session worker (some session)) sessions
  /-- A worker without a session gets a new one. -/
  | first {worker : String} (empty : sessions.slots.lookup worker = none) :
    Does sessions (.ask worker) (.session worker (some sessions.made)) (sessions.opened worker)
  | close : Does sessions .close (.closed sessions.held) { sessions with slots := [], held := [] }

private theorem step_does {sessions : Sessions} (pooled : sessions.pooled = true) (event : Event) :
    Does sessions event (sessions.step event).1 (sessions.step event).2 := by
  obtain ⟨_, slots, held, made⟩ := sessions
  subst pooled
  cases event with
  | close => exact .close
  | ask worker =>
    simp only [step, ask, Bool.not_true, Bool.false_eq_true, ↓reduceIte]
    cases slot : slots.lookup worker with
    | some session => exact .again slot
    | none => exact .first slot

/-- The slots and the list of a moment are in step. -/
structure InStep (sessions : Sessions) : Prop where
  held_eq : sessions.held = (sessions.slots.map Prod.snd).reverse
  workers_nodup : (sessions.slots.map Prod.fst).Nodup
  sessions_nodup : (sessions.slots.map Prod.snd).Nodup
  /-- Every session in a slot was made. -/
  below : ∀ entry ∈ sessions.slots, entry.2 < sessions.made

namespace Does

variable {sessions after : Sessions} {event : Event} {shown : Shown}

private theorem pooled (does : Does sessions event shown after) :
    after.pooled = sessions.pooled := by
  cases does with
  | again slot => rfl
  | first empty => rfl
  | close => rfl

private theorem made_le (does : Does sessions event shown after) : sessions.made ≤ after.made := by
  cases does with
  | again slot => exact Nat.le_refl _
  | first empty => exact Nat.le_succ _
  | close => exact Nat.le_refl _

private theorem inStep (does : Does sessions event shown after) (before : sessions.InStep) :
    after.InStep := by
  cases does with
  | again slot => exact before
  | close => exact ⟨rfl, List.nodup_nil, List.nodup_nil, fun _ member => nomatch member⟩
  | @first worker empty =>
    have newWorker : worker ∉ sessions.slots.map Prod.fst := by
      intro member
      obtain ⟨entry, listed, rfl⟩ := List.mem_map.mp member
      simpa using List.lookup_eq_none_iff.mp empty entry listed
    have newSession : sessions.made ∉ sessions.slots.map Prod.snd := by
      intro member
      obtain ⟨entry, listed, same⟩ := List.mem_map.mp member
      exact absurd (before.below entry listed) (same ▸ Nat.lt_irrefl _)
    refine ⟨?_, List.nodup_cons.mpr ⟨newWorker, before.workers_nodup⟩,
      List.nodup_cons.mpr ⟨newSession, before.sessions_nodup⟩, ?_⟩
    · change sessions.held ++ [sessions.made] = _
      rw [before.held_eq, opened, List.map_cons, List.reverse_cons]
    · intro entry member
      change entry.2 < sessions.made + 1
      obtain rfl | earlier := List.mem_cons.mp member
      · exact Nat.lt_succ_self _
      · exact Nat.lt_succ_of_lt (before.below entry earlier)

private theorem slot_after (does : Does sessions event shown after) (open_ : event ≠ .close)
    {worker : String} {session : Nat} (slot : sessions.slots.lookup worker = some session) :
    after.slots.lookup worker = some session := by
  cases does with
  | again _ => exact slot
  | @first other empty =>
    have differ : worker ≠ other := by
      rintro rfl
      rw [slot] at empty
      cases empty
    rw [opened_slots, FieldMap.lookup_pair, if_neg differ, slot]
  | close => exact absurd rfl open_

private theorem slot_before (does : Does sessions event shown after) {worker : String}
    {session : Nat}
    (slot : after.slots.lookup worker = some session) (made : session < sessions.made) :
    event ≠ .close ∧ sessions.slots.lookup worker = some session := by
  cases does with
  | again _ => exact ⟨by simp, slot⟩
  | @first other empty =>
    rw [opened_slots, FieldMap.lookup_pair] at slot
    split at slot
    · cases slot
      exact absurd made (Nat.lt_irrefl _)
    · exact ⟨by simp, slot⟩
  | close => cases slot

end Does

namespace InStep

variable {sessions : Sessions} (inStep : sessions.InStep)

private theorem fresh (pooled : Bool) : InStep { pooled } :=
  ⟨rfl, List.nodup_nil, List.nodup_nil, fun _ member => nomatch member⟩

include inStep

private theorem slot_lt {worker : String} {session : Nat}
    (slot : sessions.slots.lookup worker = some session) : session < sessions.made :=
  inStep.below _ (mem_of_lookup slot)

private theorem owner_unique {worker other : String} {session : Nat}
    (slot : sessions.slots.lookup worker = some session)
    (slot' : sessions.slots.lookup other = some session) : worker = other :=
  congrArg Prod.fst (List.inj_on_of_nodup_map inStep.sessions_nodup (mem_of_lookup slot)
    (mem_of_lookup slot') rfl)

private theorem held_nodup : sessions.held.Nodup := by
  rw [inStep.held_eq]
  exact List.nodup_reverse.mpr inStep.sessions_nodup

/-- What is held is what stands in a slot. -/
theorem mem_held {session : Nat} :
    session ∈ sessions.held ↔ ∃ worker, sessions.slots.lookup worker = some session := by
  rw [inStep.held_eq, List.mem_reverse]
  constructor
  · intro member
    obtain ⟨⟨worker, session⟩, listed, rfl⟩ := List.mem_map.mp member
    exact ⟨worker, lookup_of_mem inStep.workers_nodup listed⟩
  · rintro ⟨worker, slot⟩
    exact List.mem_map_of_mem (mem_of_lookup slot)

end InStep

/-! ## Many events -/

/-- The sessions after some events. -/
def after (sessions : Sessions) (events : List Event) : Sessions := (sessions.run events).2

private theorem after_cons (sessions : Sessions) (event : Event) (rest : List Event) :
    sessions.after (event :: rest) = (sessions.step event).2.after rest := rfl

private theorem after_append (sessions : Sessions) (first second : List Event) :
    sessions.after (first ++ second) = (sessions.after first).after second := by
  induction first generalizing sessions with
  | nil => rfl
  | cons event rest ih => exact ih _

/-- What is shown at a position is what the event there does to the sessions by then. -/
theorem run_getElem? (sessions : Sessions) (events : List Event) (position : Nat) :
    (sessions.run events).1[position]? =
      events[position]?.map fun event =>
        ((sessions.after (events.take position)).step event).1 := by
  induction events generalizing sessions position with
  | nil => rfl
  | cons event rest ih =>
    cases position with
    | zero => rfl
    | succ position => exact ih _ position

section

variable {sessions : Sessions} (pooled : sessions.pooled = true)

include pooled

private theorem after_pooled (events : List Event) : (sessions.after events).pooled = true := by
  induction events generalizing sessions with
  | nil => exact pooled
  | cons event rest ih => exact ih ((step_does pooled event).pooled.trans pooled)

private theorem made_le_after (events : List Event) :
    sessions.made ≤ (sessions.after events).made := by
  induction events generalizing sessions with
  | nil => exact Nat.le_refl _
  | cons event rest ih =>
    have does := step_does pooled event
    exact Nat.le_trans does.made_le (ih (does.pooled.trans pooled))

private theorem inStep_after (inStep : sessions.InStep) (events : List Event) :
    (sessions.after events).InStep := by
  induction events generalizing sessions with
  | nil => exact inStep
  | cons event rest ih =>
    have does := step_does pooled event
    exact ih (does.pooled.trans pooled) (does.inStep inStep)

/-- Without a closing, slots stay as they are. -/
theorem slot_after {events : List Event} (open_ : .close ∉ events) {worker : String} {session : Nat}
    (slot : sessions.slots.lookup worker = some session) :
    (sessions.after events).slots.lookup worker = some session := by
  induction events generalizing sessions with
  | nil => exact slot
  | cons event rest ih =>
    have does := step_does pooled event
    have here : event ≠ .close := fun closes => open_ (closes ▸ List.mem_cons_self)
    rw [after_cons]
    exact ih (does.pooled.trans pooled) (fun member => open_ (List.mem_cons_of_mem _ member))
      (does.slot_after here slot)

/-- A session that was made before some events and stands in a slot after them stood there all the
time, so nothing was closed in between. -/
theorem slot_before {events : List Event} {worker : String} {session : Nat}
    (slot : (sessions.after events).slots.lookup worker = some session)
    (made : session < sessions.made) :
    .close ∉ events ∧ sessions.slots.lookup worker = some session := by
  induction events generalizing sessions with
  | nil => exact ⟨List.not_mem_nil, slot⟩
  | cons event rest ih =>
    rw [after_cons] at slot
    have does := step_does pooled event
    obtain ⟨open_, slot⟩ :=
      ih (does.pooled.trans pooled) slot (Nat.lt_of_lt_of_le made does.made_le)
    obtain ⟨here, slot⟩ := does.slot_before slot made
    exact ⟨List.not_mem_cons_of_ne_of_not_mem here.symm open_, slot⟩

end

/-! ## Positions in a run -/

/-- At a position, a worker is handed a session. -/
def Hands (shown : List Shown) (position : Nat) (worker : String) (session : Nat) : Prop :=
  shown[position]? = some (.session worker (some session))

/-- At a position, a session is closed. -/
def Closes (shown : List Shown) (position session : Nat) : Prop :=
  ∃ closed, shown[position]? = some (.closed closed) ∧ session ∈ closed

/-- Between one position and another, nothing is closed. -/
def Undivided (events : List Event) (first last : Nat) : Prop :=
  ∀ position, first < position → position < last → events[position]? ≠ some .close

/-- A whole run as its users see it, where `made` sessions were made. -/
structure Owned (events : List Event) (shown : List Shown) (made : Nat) : Prop where
  /-- Every request is given a session. -/
  given : ∀ position worker, events[position]? = some (.ask worker) →
    ∃ session, Hands shown position worker session
  /-- Two workers are never handed the same session. -/
  own : ∀ position position' worker other session, Hands shown position worker session →
    Hands shown position' other session → worker = other
  /-- A worker is handed the same session until something is closed. -/
  same : ∀ first last worker session session', first ≤ last → Hands shown first worker session →
    Hands shown last worker session' → Undivided events first last → session' = session
  /-- A worker that has not asked since the last closing is handed a session that nobody was
  handed before. -/
  new : ∀ position worker session, Hands shown position worker session →
    (∀ earlier < position, events[earlier]? = some (.ask worker) →
      ¬Undivided events earlier position) →
    ∀ earlier < position, ∀ other, ¬Hands shown earlier other session
  /-- The sessions that are made are those that are handed out. -/
  made_iff : ∀ session, session < made ↔ ∃ position worker, Hands shown position worker session
  /-- A session is closed by the first closing after it is handed out and by no other. -/
  closes_iff : ∀ position worker session, Hands shown position worker session → ∀ last,
    Closes shown last session ↔
      position < last ∧ events[last]? = some .close ∧ Undivided events position last
  /-- No closing closes a session twice, or one that was not handed out. -/
  closed : ∀ position closed, shown[position]? = some (.closed closed) → closed.Nodup ∧
    ∀ session ∈ closed, ∃ earlier < position, ∃ worker, Hands shown earlier worker session
  /-- A session is not handed out any more once it was closed. -/
  ended : ∀ first last worker session, Closes shown first session → first < last →
    ¬Hands shown last worker session

private theorem close_notMem_iff (events : List Event) (first last : Nat) :
    .close ∉ (events.take last).drop first ↔
      ∀ position, first ≤ position → position < last → events[position]? ≠ some .close := by
  rw [List.mem_iff_getElem?, not_exists]
  constructor
  · intro none position later earlier closes
    refine none (position - first) ?_
    rw [List.getElem?_drop, List.getElem?_take, Nat.add_sub_cancel' later, if_pos earlier, closes]
  · intro absent offset closes
    rw [List.getElem?_drop, List.getElem?_take] at closes
    split at closes
    · rename_i earlier
      exact absent _ (Nat.le_add_right _ _) earlier closes
    · cases closes

private theorem after_take (sessions : Sessions) (events : List Event) {first last : Nat}
    (le : first ≤ last) :
    sessions.after (events.take last) =
      (sessions.after (events.take first)).after ((events.take last).drop first) := by
  have whole := List.take_append_drop first (events.take last)
  rw [List.take_take, Nat.min_eq_left le] at whole
  rw [← after_append, whole]

private theorem after_take_succ (sessions : Sessions) {events : List Event} {position : Nat}
    {event : Event}
    (here : events[position]? = some event) :
    sessions.after (events.take (position + 1)) =
      ((sessions.after (events.take position)).step event).2 := by
  rw [List.take_add_one, here, after_append]
  rfl

section

variable {sessions : Sessions} {events : List Event}

/-- What an event of a run shows, and what it does. -/
theorem does_at (pooled : sessions.pooled = true) {position : Nat} {event : Event}
    (here : events[position]? = some event) :
    ∃ shown, (sessions.run events).1[position]? = some shown ∧
      Does (sessions.after (events.take position)) event shown
        (sessions.after (events.take (position + 1))) := by
  refine ⟨_, by rw [run_getElem?, here, Option.map_some], ?_⟩
  rw [after_take_succ sessions here]
  exact step_does (after_pooled pooled _) event

private theorem event_at {position : Nat} {shown : Shown}
    (shows : (sessions.run events).1[position]? = some shown) :
    ∃ event, events[position]? = some event := by
  rw [run_getElem?, Option.map_eq_some_iff] at shows
  obtain ⟨event, here, -⟩ := shows
  exact ⟨event, here⟩

/-- Who is handed a session has it in its slot from then on. -/
theorem Hands.slot (pooled : sessions.pooled = true) {position : Nat} {worker : String}
    {session : Nat} (hands : Hands (sessions.run events).1 position worker session) :
    events[position]? = some (.ask worker) ∧
      (sessions.after (events.take (position + 1))).slots.lookup worker = some session := by
  obtain ⟨event, here⟩ := event_at hands
  obtain ⟨shown, shows, does⟩ := does_at pooled here
  obtain rfl : _ = shown := Option.some.inj (hands.symm.trans shows)
  generalize sessions.after (events.take (position + 1)) = next at does
  cases does with
  | again slot => exact ⟨here, slot⟩
  | first empty => exact ⟨here, by rw [opened_slots, FieldMap.lookup_pair, if_pos rfl]⟩

/-- A closing closes what is held at that moment. -/
theorem closed_at (pooled : sessions.pooled = true) {position : Nat} {closed : List Nat}
    (shows : (sessions.run events).1[position]? = some (.closed closed)) :
    events[position]? = some .close ∧ closed = (sessions.after (events.take position)).held := by
  obtain ⟨event, here⟩ := event_at shows
  obtain ⟨shown, shows', does⟩ := does_at pooled here
  obtain rfl : _ = shown := Option.some.inj (shows.symm.trans shows')
  generalize sessions.after (events.take (position + 1)) = next at does
  cases does with
  | close => exact ⟨here, rfl⟩

private theorem closes_of_held (pooled : sessions.pooled = true) {position session : Nat}
    (here : events[position]? = some .close)
    (held : session ∈ (sessions.after (events.take position)).held) :
    Closes (sessions.run events).1 position session := by
  obtain ⟨shown, shows, does⟩ := does_at pooled here
  generalize sessions.after (events.take (position + 1)) = next at does
  cases does with
  | close => exact ⟨_, shows, held⟩

/-- Until something is closed, a worker is handed the same session. -/
theorem Hands.kept (pooled : sessions.pooled = true) {first last : Nat} {worker : String}
    {session session' : Nat} (le : first ≤ last)
    (hands : Hands (sessions.run events).1 first worker session)
    (later : Hands (sessions.run events).1 last worker session')
    (undivided : Undivided events first last) : session' = session := by
  obtain ⟨asks, slot'⟩ := later.slot pooled
  have open_ : .close ∉ (events.take (last + 1)).drop (first + 1) := by
    refine (close_notMem_iff events _ _).mpr fun position after before => ?_
    obtain earlier | rfl := Nat.lt_succ_iff_lt_or_eq.mp before
    · exact undivided position after earlier
    · rw [asks]
      simp
  have kept := slot_after (after_pooled pooled _) open_ (hands.slot pooled).2
  rw [← after_take sessions events (Nat.succ_le_succ le)] at kept
  exact Option.some.inj (slot'.symm.trans kept)

variable (pooled : sessions.pooled = true) (inStep : sessions.InStep)

include pooled inStep

private theorem Hands.lt_made {position : Nat} {worker : String} {session : Nat}
    (hands : Hands (sessions.run events).1 position worker session) :
    session < (sessions.after (events.take (position + 1))).made :=
  (inStep_after pooled inStep _).slot_lt (hands.slot pooled).2

/-- A session that is handed out again goes to the same worker, and nothing was closed in
between. -/
theorem Hands.unique {first last : Nat} {worker other : String} {session : Nat}
    (le : first ≤ last) (hands : Hands (sessions.run events).1 first worker session)
    (later : Hands (sessions.run events).1 last other session) :
    worker = other ∧ Undivided events first last := by
  have slot := (later.slot pooled).2
  rw [after_take sessions events (Nat.succ_le_succ le)] at slot
  obtain ⟨open_, slot⟩ :=
    slot_before (after_pooled pooled _) slot (hands.lt_made pooled inStep)
  refine ⟨(inStep_after pooled inStep _).owner_unique (hands.slot pooled).2 slot, ?_⟩
  intro position after before
  exact (close_notMem_iff events _ _).mp open_ position after (Nat.lt_succ_of_lt before)

private theorem Closes.not_hands {first last : Nat} {worker : String} {session : Nat}
    (closes : Closes (sessions.run events).1 first session) (lt : first < last) :
    ¬Hands (sessions.run events).1 last worker session := by
  intro hands
  obtain ⟨closed, shows, member⟩ := closes
  obtain ⟨here, rfl⟩ := closed_at pooled shows
  obtain ⟨owner, held⟩ := (inStep_after pooled inStep _).mem_held.mp member
  have slot := (hands.slot pooled).2
  rw [after_take sessions events (Nat.le_succ_of_le (Nat.le_of_lt lt))] at slot
  have open_ := (slot_before (after_pooled pooled _) slot
    ((inStep_after pooled inStep _).slot_lt held)).1
  exact (close_notMem_iff events _ _).mp open_ first (Nat.le_refl _) (Nat.lt_succ_of_lt lt) here

/-- The sessions made in the first events are those handed out there. -/
theorem made_take (position session : Nat) :
    session < (sessions.after (events.take position)).made ↔ session < sessions.made ∨
      ∃ earlier < position, ∃ worker, Hands (sessions.run events).1 earlier worker session := by
  constructor
  · induction position with
    | zero => exact .inl
    | succ position ih =>
      intro made
      have widen : (session < sessions.made ∨ ∃ earlier < position, ∃ worker,
          Hands (sessions.run events).1 earlier worker session) →
          session < sessions.made ∨ ∃ earlier < position + 1, ∃ worker,
            Hands (sessions.run events).1 earlier worker session :=
        Or.imp_right fun ⟨earlier, lt, hands⟩ => ⟨earlier, Nat.lt_succ_of_lt lt, hands⟩
      cases here : events[position]? with
      | none =>
        rw [List.take_add_one, here, Option.toList_none, List.append_nil] at made
        exact widen (ih made)
      | some event =>
        obtain ⟨shown, shows, does⟩ := does_at pooled here
        generalize sessions.after (events.take (position + 1)) = next at does made
        cases does with
        | again slot => exact widen (ih made)
        | close => exact widen (ih made)
        | @first worker empty =>
          obtain earlier | rfl := Nat.lt_succ_iff_lt_or_eq.mp made
          · exact widen (ih earlier)
          · exact .inr ⟨position, Nat.lt_succ_self _, worker, shows⟩
  · rintro (old | ⟨earlier, lt, worker, hands⟩)
    · exact Nat.lt_of_lt_of_le old (made_le_after pooled _)
    · rw [after_take sessions events (Nat.succ_le_of_lt lt)]
      exact Nat.lt_of_lt_of_le (hands.lt_made pooled inStep)
        (made_le_after (after_pooled pooled _) _)

/-- A session is closed by the first event that closes anything after it was handed out. -/
private theorem closes_iff_first {position : Nat} {worker : String} {session : Nat}
    (hands : Hands (sessions.run events).1 position worker session) (last : Nat) :
    Closes (sessions.run events).1 last session ↔
      position < last ∧ events[last]? = some .close ∧ Undivided events position last := by
  obtain ⟨asks, slot⟩ := hands.slot pooled
  constructor
  · intro closes
    have notEarlier : ¬last < position := fun lt => closes.not_hands pooled inStep lt hands
    obtain ⟨closed, shows, member⟩ := closes
    obtain ⟨here, rfl⟩ := closed_at pooled shows
    have differ : position ≠ last := by
      rintro rfl
      rw [here] at asks
      cases asks
    have lt : position < last := Nat.lt_of_le_of_ne (Nat.le_of_not_lt notEarlier) differ
    obtain ⟨owner, held⟩ := (inStep_after pooled inStep _).mem_held.mp member
    rw [after_take sessions events (Nat.succ_le_of_lt lt)] at held
    have open_ :=
      (slot_before (after_pooled pooled _) held (hands.lt_made pooled inStep)).1
    exact ⟨lt, here, (close_notMem_iff events _ _).mp open_⟩
  · rintro ⟨lt, here, undivided⟩
    refine closes_of_held pooled here ?_
    rw [(inStep_after pooled inStep _).mem_held, after_take sessions events (Nat.succ_le_of_lt lt)]
    exact ⟨worker, slot_after (after_pooled pooled _)
      ((close_notMem_iff events _ _).mpr undivided) slot⟩

end

/-! ## Whole runs -/

/-- Where workers do without sessions, nothing changes. -/
theorem run_unpooled {sessions : Sessions} (unpooled : sessions.pooled = false)
    (nothing : sessions.held = []) (events : List Event) :
    (sessions.run events).2.made = sessions.made ∧
      (sessions.run events).1 = events.map fun
        | .ask worker => .session worker none
        | .close => .closed [] := by
  induction events generalizing sessions with
  | nil => exact ⟨rfl, rfl⟩
  | cons event rest ih =>
    cases event with
    | ask worker =>
      obtain ⟨made, shown⟩ := ih unpooled nothing
      have idle : sessions.ask worker = (none, sessions) := by
        rw [ask, unpooled]
        rfl
      rw [run, step, idle, List.map_cons, ← shown]
      exact ⟨made, rfl⟩
    | close =>
      have emptied : ({ sessions with slots := [], held := [] } : Sessions).pooled = false :=
        unpooled
      obtain ⟨made, shown⟩ := ih emptied rfl
      rw [run, step, close, nothing, List.map_cons, ← shown]
      exact ⟨made, rfl⟩

/-- In every run, each worker owns its session from its first request up to the next closing, which
ends it; and where workers do without sessions, none is ever made. -/
theorem run_owned (events : List Event) :
    Owned events (run {} events).1 (run {} events).2.made ∧
      (run { pooled := false } events).2.made = 0 ∧
      (run { pooled := false } events).1 = events.map fun
        | .ask worker => .session worker none
        | .close => .closed [] := by
  have pooled : ({} : Sessions).pooled = true := rfl
  have inStep : InStep {} := .fresh true
  refine ⟨?_, run_unpooled rfl rfl events⟩
  constructor
  case given =>
    intro position worker here
    obtain ⟨shown, shows, does⟩ := does_at pooled here
    generalize after {} (events.take (position + 1)) = next at does
    cases does with
    | again slot => exact ⟨_, shows⟩
    | first empty => exact ⟨_, shows⟩
  case own =>
    intro position position' worker other session hands hands'
    obtain le | le := Nat.le_total position position'
    · exact (hands.unique rfl inStep le hands').1
    · exact (hands'.unique rfl inStep le hands).1.symm
  case same =>
    intro first last worker session session' le hands later undivided
    exact hands.kept rfl le later undivided
  case new =>
    intro position worker session hands notSince earlier lt other before
    obtain ⟨rfl, undivided⟩ := before.unique rfl inStep (Nat.le_of_lt lt) hands
    exact notSince earlier lt (before.slot rfl).1 undivided
  case made_iff =>
    intro session
    have taken : session < (after {} (events.take events.length)).made ↔ _ :=
      made_take pooled inStep events.length session
    rw [List.take_length] at taken
    refine taken.trans ⟨?_, fun ⟨position, worker, hands⟩ => .inr ⟨position, ?_, worker, hands⟩⟩
    · rintro (old | ⟨position, -, worker, hands⟩)
      · exact absurd old (Nat.not_lt_zero _)
      · exact ⟨position, worker, hands⟩
    · exact (List.getElem?_eq_some_iff.mp (hands.slot rfl).1).1
  case closes_iff =>
    intro position worker session hands last
    exact closes_iff_first rfl inStep hands last
  case closed =>
    intro position closed shows
    obtain ⟨-, rfl⟩ := closed_at pooled shows
    have held := inStep_after pooled inStep (events.take position)
    refine ⟨held.held_nodup, fun session member => ?_⟩
    obtain ⟨owner, slot⟩ := held.mem_held.mp member
    obtain old | handed := (made_take rfl inStep position session).mp (held.slot_lt slot)
    · exact absurd old (Nat.not_lt_zero _)
    · exact handed
  case ended =>
    intro first last worker session closes lt
    exact closes.not_hands rfl inStep lt

/-- Two workers ask, all is closed, and one of them asks again. -/
example : run {} [.ask "a", .ask "b", .ask "a", .close, .ask "b", .close, .close] =
    ([.session "a" (some 0), .session "b" (some 1), .session "a" (some 0), .closed [0, 1],
      .session "b" (some 2), .closed [2], .closed []], { made := 3 }) := by
  decide

end PageHarvest.Sessions
