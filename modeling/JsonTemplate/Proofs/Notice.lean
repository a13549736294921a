import JsonTemplate.Notice
import Mathlib.Data.List.Basic
import Mathlib.Data.List.DropRight

set_option autoImplicit false

/-! Collectors that are copies of each other form a family. A log of everything that happens
to the handles knows no buffers: it keeps for each handle the first handle of its family, and
every report and every clear under the family that it went to. After every run of operations
a handle shows the reports to its family since this was last cleared. -/

namespace JsonTemplate.Collectors

def WellFormed (collectors : Collectors) : Prop :=
  ∀ buffer ∈ collectors.handles, buffer < collectors.buffers.length

def reportAll (collectors : Collectors) (handle : Nat) (notices : List Notice) : Collectors :=
  notices.foldl (fun collectors notice => collectors.report handle notice) collectors

variable {collectors : Collectors} {handle : Nat}

private theorem exists_buffer (wellFormed : collectors.WellFormed)
    (inRange : handle < collectors.handles.length) :
    ∃ buffer, collectors.buffer? handle = some buffer ∧ buffer < collectors.buffers.length :=
  ⟨collectors.handles[handle], List.getElem?_eq_getElem inRange,
    wellFormed _ (List.getElem_mem inRange)⟩

private theorem handles_update (collectors : Collectors) (handle : Nat)
    (change : List Notice → List Notice) :
    (collectors.update handle change).handles = collectors.handles := by
  unfold update
  cases collectors.buffer? handle <;> rfl

private theorem handles_report (collectors : Collectors) (handle : Nat) (notice : Notice) :
    (collectors.report handle notice).handles = collectors.handles :=
  handles_update collectors handle _

theorem WellFormed.update (wellFormed : collectors.WellFormed) (handle : Nat)
    (change : List Notice → List Notice) : (collectors.update handle change).WellFormed := by
  have buffers : (collectors.update handle change).buffers.length = collectors.buffers.length := by
    unfold Collectors.update
    cases collectors.buffer? handle with
    | none => rfl
    | some buffer => exact List.length_modify _ _ _
  intro buffer member
  rw [handles_update] at member
  rw [buffers]
  exact wellFormed buffer member

theorem WellFormed.report (wellFormed : collectors.WellFormed) (handle : Nat) (notice : Notice) :
    (collectors.report handle notice).WellFormed :=
  wellFormed.update handle _

theorem notices_report (wellFormed : collectors.WellFormed)
    (inRange : handle < collectors.handles.length) (notice : Notice) :
    (collectors.report handle notice).notices handle = collectors.notices handle ++ [notice] := by
  obtain ⟨buffer, points, present⟩ := exists_buffer wellFormed inRange
  have pointsAfter : (collectors.report handle notice).buffer? handle = some buffer := by
    rw [buffer?, handles_report]
    exact points
  simp only [notices, pointsAfter, points]
  simp only [report, update, points, List.getElem?_modify_eq, List.getElem?_eq_getElem present,
    Option.map_eq_map, Option.map_some, Option.getD_some]

theorem notices_reportAll (wellFormed : collectors.WellFormed)
    (inRange : handle < collectors.handles.length) (notices : List Notice) :
    (collectors.reportAll handle notices).notices handle =
      collectors.notices handle ++ notices := by
  induction notices generalizing collectors with
  | nil => exact (List.append_nil _).symm
  | cons notice rest ih =>
      have inRangeAfter : handle < (collectors.report handle notice).handles.length := by
        rw [handles_report]
        exact inRange
      rw [reportAll, List.foldl_cons]
      refine (ih (wellFormed.report handle notice) inRangeAfter).trans ?_
      rw [notices_report wellFormed inRange, List.append_assoc, List.singleton_append]

inductive Operation where
  /-- A new handle, the first of a family. -/
  | fresh
  | share (handle : Nat)
  | report (handle : Nat) (notice : Notice)
  | clear (handle : Nat)

def perform (collectors : Collectors) : Operation → Collectors
  | .fresh => collectors.fresh
  | .share handle => collectors.share handle
  | .report handle notice => collectors.report handle notice
  | .clear handle => collectors.clear handle

def performAll (collectors : Collectors) (operations : List Operation) : Collectors :=
  operations.foldl perform collectors

def run (operations : List Operation) : Collectors := empty.performAll operations

inductive Event where
  | reported (notice : Notice)
  | cleared

def Event.notice? : Event → Option Notice
  | .reported notice => some notice
  | .cleared => none

def sinceCleared (events : List Event) : List Notice :=
  (events.rtakeWhile (fun event => event.notice?.isSome)).filterMap Event.notice?

/-- The first handle of the family of each handle, and all events in their order, each with
the first handle of the family that it went to. -/
structure Log where
  families : List Nat
  events : List (Nat × Event)

namespace Log

def empty : Log := ⟨[], []⟩

def shown (log : Log) (family : Nat) : List Notice :=
  sinceCleared ((log.events.filter (fun entry => entry.1 == family)).map Prod.snd)

def note (log : Log) (handle : Nat) (event : Event) : Log :=
  match log.families[handle]? with
  | some family => { log with events := log.events ++ [(family, event)] }
  | none => log

def after (log : Log) : Operation → Log
  | .fresh => { log with families := log.families ++ [log.families.length] }
  | .share handle =>
      match log.families[handle]? with
      | some family => { log with families := log.families ++ [family] }
      | none => log
  | .report handle notice => log.note handle (.reported notice)
  | .clear handle => log.note handle .cleared

def afterAll (log : Log) (operations : List Operation) : Log := operations.foldl after log

def ofRun (operations : List Operation) : Log := empty.afterAll operations

end Log

def Event.applied : Event → List Notice → List Notice
  | .reported notice, notices => notices ++ [notice]
  | .cleared, _ => []

private theorem sinceCleared_append_singleton (events : List Event) (last : Event) :
    sinceCleared (events ++ [last]) = last.applied (sinceCleared events) := by
  rw [sinceCleared, List.rtakeWhile_concat]
  cases last with
  | reported notice => exact List.filterMap_append
  | cleared => rfl

namespace Log

variable {log : Log}

private theorem shown_append_singleton (families : List Nat) (events : List (Nat × Event))
    (family : Nat) (event : Event) (other : Nat) :
    shown ⟨families, events ++ [(family, event)]⟩ other =
      if family = other then event.applied (shown ⟨families, events⟩ other)
      else shown ⟨families, events⟩ other := by
  rw [shown, List.filter_append, List.map_append]
  by_cases same : family = other
  · have kept : [(family, event)].filter (fun entry => entry.1 == other) = [(family, event)] :=
      List.filter_cons_of_pos (beq_iff_eq.mpr same)
    rw [if_pos same, kept]
    exact sinceCleared_append_singleton _ event
  · have dropped : [(family, event)].filter (fun entry => entry.1 == other) = [] :=
      List.filter_cons_of_neg (fun equal => same (beq_iff_eq.mp equal))
    rw [if_neg same, dropped, List.map_nil, List.append_nil]
    rfl

private theorem shown_of_untouched {family : Nat}
    (untouched : ∀ entry ∈ log.events, entry.1 ≠ family) :
    log.shown family = [] := by
  have none : log.events.filter (fun entry => entry.1 == family) = [] :=
    List.filter_eq_nil_iff.mpr
      (fun entry member equal => untouched entry member (beq_iff_eq.mp equal))
  rw [shown, none]
  rfl

end Log

def firstHandle (collectors : Collectors) (buffer : Nat) : Nat := collectors.handles.idxOf buffer

/-- Whether the buffers hold what a log says. The handles that point to one buffer are a
family of the log. -/
structure Follows (collectors : Collectors) (log : Log) : Prop where
  wellFormed : collectors.WellFormed
  families : log.families = collectors.handles.map collectors.firstHandle
  buffers : ∀ buffer ∈ collectors.handles,
    collectors.buffers[buffer]? = some (log.shown (collectors.firstHandle buffer))
  /-- Events went to families that there are. -/
  known : ∀ entry ∈ log.events, entry.1 < log.families.length

theorem follows_empty : Follows empty Log.empty := ⟨nofun, rfl, nofun, nofun⟩

variable {log : Log}

private theorem Follows.length_families (follows : Follows collectors log) :
    log.families.length = collectors.handles.length := by
  rw [follows.families, List.length_map]

private theorem Follows.getElem?_families (follows : Follows collectors log) (handle : Nat) :
    log.families[handle]? = (collectors.buffer? handle).map collectors.firstHandle := by
  rw [follows.families, List.getElem?_map]
  rfl

theorem Follows.notices (follows : Follows collectors log) (handle : Nat) :
    collectors.notices handle = (log.families[handle]?.map log.shown).getD [] := by
  rw [follows.getElem?_families, Collectors.notices]
  cases points : collectors.buffer? handle with
  | none => rfl
  | some buffer =>
      have held := follows.buffers buffer (List.mem_of_getElem? points)
      simp only [held, Option.map_some, Option.getD_some]

private theorem firstHandle_append {buffer : Nat} (member : buffer ∈ collectors.handles)
    (buffers : List (List Notice)) (more : List Nat) :
    firstHandle ⟨buffers, collectors.handles ++ more⟩ buffer = collectors.firstHandle buffer :=
  List.idxOf_append_of_mem member

private theorem map_firstHandle_append (collectors : Collectors) (buffers : List (List Notice))
    (more : List Nat) :
    collectors.handles.map (firstHandle ⟨buffers, collectors.handles ++ more⟩) =
      collectors.handles.map collectors.firstHandle :=
  List.map_congr_left (fun _ member => firstHandle_append member buffers more)

theorem Follows.fresh (follows : Follows collectors log) :
    Follows collectors.fresh (log.after .fresh) := by
  have new : collectors.buffers.length ∉ collectors.handles :=
    fun member => Nat.lt_irrefl _ (follows.wellFormed _ member)
  have first : collectors.fresh.firstHandle collectors.buffers.length = log.families.length := by
    rw [follows.length_families, Collectors.fresh, firstHandle, List.idxOf_append_of_notMem new,
      List.idxOf_cons_self, Nat.add_zero]
  refine ⟨?_, ?_, ?_, ?_⟩
  · rw [WellFormed, Collectors.fresh, List.length_append, List.length_singleton,
      List.forall_mem_append, List.forall_mem_singleton]
    exact ⟨fun buffer old => Nat.lt_succ_of_lt (follows.wellFormed buffer old),
      Nat.lt_succ_self _⟩
  · have before : collectors.handles.map collectors.fresh.firstHandle = log.families :=
      (map_firstHandle_append collectors _ _).trans follows.families.symm
    change log.families ++ [log.families.length] =
      (collectors.handles ++ [collectors.buffers.length]).map collectors.fresh.firstHandle
    rw [List.map_append, List.map_singleton, before, first]
  · intro buffer member
    rcases List.mem_append.mp member with old | added
    · have same : collectors.fresh.firstHandle buffer = collectors.firstHandle buffer :=
        firstHandle_append old _ _
      rw [same, Collectors.fresh, List.getElem?_append_left (follows.wellFormed buffer old)]
      exact follows.buffers buffer old
    · -- the new buffer is empty, and nothing happened yet to the new family
      rw [List.mem_singleton.mp added, first, Collectors.fresh, List.getElem?_concat_length]
      refine congrArg some (Log.shown_of_untouched ?_).symm
      intro entry happened
      exact Nat.ne_of_lt (follows.known entry happened)
  · intro entry happened
    rw [Log.after, List.length_append]
    exact Nat.lt_add_right _ (follows.known entry happened)

theorem Follows.share (follows : Follows collectors log) (handle : Nat) :
    Follows (collectors.share handle) (log.after (.share handle)) := by
  rw [Collectors.share, Log.after, follows.getElem?_families]
  cases points : collectors.buffer? handle with
  | none => exact follows
  | some copied =>
      have present : copied ∈ collectors.handles := List.mem_of_getElem? points
      have among : ∀ buffer ∈ collectors.handles ++ [copied], buffer ∈ collectors.handles := by
        rw [List.forall_mem_append, List.forall_mem_singleton]
        exact ⟨fun _ member => member, present⟩
      change Follows ⟨collectors.buffers, collectors.handles ++ [copied]⟩
        ⟨log.families ++ [collectors.firstHandle copied], log.events⟩
      refine ⟨?_, ?_, ?_, ?_⟩
      · intro buffer member
        exact follows.wellFormed buffer (among buffer member)
      · rw [follows.families, List.map_append, map_firstHandle_append, List.map_singleton,
          firstHandle_append present]
      · intro buffer member
        rw [firstHandle_append (among buffer member)]
        exact follows.buffers buffer (among buffer member)
      · intro entry happened
        rw [List.length_append]
        exact Nat.lt_add_right _ (follows.known entry happened)

theorem Follows.update (follows : Follows collectors log) (handle : Nat) (event : Event) :
    Follows (collectors.update handle event.applied) (log.note handle event) := by
  have wellFormed := follows.wellFormed.update handle event.applied
  rw [Collectors.update] at wellFormed ⊢
  rw [Log.note, follows.getElem?_families]
  cases points : collectors.buffer? handle with
  | none => exact follows
  | some target =>
      rw [points] at wellFormed
      have present : target ∈ collectors.handles := List.mem_of_getElem? points
      change Follows ⟨collectors.buffers.modify target event.applied, collectors.handles⟩
        ⟨log.families, log.events ++ [(collectors.firstHandle target, event)]⟩
      refine ⟨wellFormed, follows.families, ?_, ?_⟩
      · -- the event reaches the buffers of one family, which is one buffer
        intro buffer member
        have sameFamily : collectors.firstHandle target = collectors.firstHandle buffer ↔
            target = buffer := List.idxOf_inj present
        rw [List.getElem?_modify, follows.buffers buffer member]
        change _ = some (Log.shown _ (collectors.firstHandle buffer))
        rw [Log.shown_append_singleton]
        simp only [sameFamily, Option.map_eq_map, Option.map_some]
      · rw [List.forall_mem_append, List.forall_mem_singleton,
          follows.length_families]
        refine ⟨fun entry happened => ?_, List.idxOf_lt_length_iff.mpr present⟩
        rw [← follows.length_families]
        exact follows.known entry happened

theorem Follows.perform (follows : Follows collectors log) (operation : Operation) :
    Follows (collectors.perform operation) (log.after operation) := by
  cases operation with
  | fresh => exact follows.fresh
  | share handle => exact follows.share handle
  | report handle notice => exact follows.update handle (.reported notice)
  | clear handle => exact follows.update handle .cleared

theorem Follows.performAll (follows : Follows collectors log) (operations : List Operation) :
    Follows (collectors.performAll operations) (log.afterAll operations) := by
  induction operations generalizing collectors log with
  | nil => exact follows
  | cons operation rest ih => exact ih (follows.perform operation)

theorem follows_run (operations : List Operation) :
    Follows (run operations) (Log.ofRun operations) :=
  follows_empty.performAll operations

/-- Of a notice that was made more severe than its kind, the kind does not tell. -/
theorem hasErrors_of_raised :
    let raised : Notice := ⟨.bestGuess, .error, ['a'], []⟩
    let collectors := run [.fresh, .report 0 raised]
    collectors.notices 0 = [raised] ∧ collectors.hasErrors 0 = true ∧
      ¬ ∃ notice ∈ collectors.notices 0, notice.kind.severity = .error := by
  decide

end JsonTemplate.Collectors
