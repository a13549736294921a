import JsonTemplate.Proofs.Template.Filling
import JsonTemplate.Proofs.Walk.Notices
import JsonTemplate.Renderer

set_option autoImplicit false

/-! What the operations of a session change. An operation that fails changes nothing but the
notices, and none but the one that clears them takes notices away. All notices that a session
ever holds are as severe as their kinds. -/

namespace JsonTemplate

open JsonTemplate.Json (Value)

private theorem Attempt.forall_notices_forEach {α β : Type} {attempt : α → Attempt β}
    {holds : Notice → Prop} (each : ∀ item, ∀ notice ∈ (attempt item).notices, holds notice)
    (items : List α) : ∀ notice ∈ (forEach attempt items).notices, holds notice := by
  induction items with
  | nil => exact List.forall_mem_nil _
  | cons item rest ih =>
      rw [forEach, andThen]
      cases (attempt item).value with
      | error failure => exact each item
      | ok result => exact List.forall_mem_append.mpr ⟨each item, ih⟩

theorem Definition.graded_resolve (definition : Text) (root : Value) (registry : Registry) :
    ∀ notice ∈ (resolve definition root registry).notices, notice.Graded := by
  rw [resolve]
  refine List.forall_mem_append.mpr ⟨?_, ?_⟩
  · intro notice member
    split at member
    · rw [List.mem_singleton.mp member]
      rfl
    · cases member
  · split
    · exact List.forall_mem_nil _
    · exact Path.graded_resolve _ root _ registry

theorem Results.graded_select (document : Value) (identifier : Option Text) :
    ∀ notice ∈ (select document identifier).notices, notice.Graded := by
  have notFound : ∀ identifier message, ∀ notice ∈ [notFound identifier message],
      notice.Graded := fun _ _ => List.forall_mem_singleton.mpr rfl
  unfold select
  split
  · exact List.forall_mem_nil _
  · split
    · exact List.forall_mem_nil _
    · unfold selectBy
      split
      · exact notFound _ _
      · split
        · exact List.forall_mem_nil _
        · exact notFound _ _

namespace Renderer

theorem graded_render (renderer : Renderer) (root : Value) (template : Text) :
    ∀ notice ∈ (renderer.render root template).notices, notice.Graded := by
  have each : ∀ entry, ∀ notice ∈ (Template.entryText root renderer.registry
      renderer.options.undefinedText entry).notices, notice.Graded :=
    fun entry => Path.graded_resolve entry.path root entry.token renderer.registry
  exact Attempt.forall_notices_forEach each _

theorem graded_renderResults (renderer : Renderer) (response : Value) (results : Option Text)
    (template : Text) :
    ∀ notice ∈ (renderer.renderResults response results template).notices, notice.Graded :=
  List.forall_mem_append.mpr ⟨Results.graded_select response results,
    Attempt.forall_notices_forEach (fun item => renderer.graded_render item template) _⟩

end Renderer

namespace Session

inductive Operation where
  | load (text : Text)
  | drill (identifier : Option Text)
  | configure (text : Text)
  | register (function : Function)
  | clear
  | render (template : Text)
  | renderResults (results : Option Text) (template : Text)
  | resolve (definition : Text)
  | resolveValue (definition : Text)
  | select (identifier : Option Text)

/-- Why an operation fails, if it does, and the session after it. -/
def perform (session : Session) : Operation → Option Failure × Session
  | .load text => (session.load text).map Attempt.failure? id
  | .drill identifier => (none, (session.drill identifier).2)
  | .configure text => (session.configure text).map Attempt.failure? id
  | .register function => (none, (session.register function).2)
  | .clear => (none, session.clear)
  | .render template => (session.render template).map Attempt.failure? id
  | .renderResults results template =>
      (session.renderResults results template).map Attempt.failure? id
  | .resolve definition => (session.resolve definition).map Attempt.failure? id
  | .resolveValue definition => (session.resolveValue definition).map Attempt.failure? id
  | .select identifier => (none, (session.select identifier).2)

def performAll (session : Session) (operations : List Operation) : Session :=
  operations.foldl (fun session operation => (session.perform operation).2) session

structure Follows (before : Session) (operation : Operation) (failed : Option Failure)
    (after : Session) : Prop where
  /-- A failure leaves all but the notices as it was. -/
  spared : failed ≠ none → after.renderer = before.renderer ∧ after.document = before.document
  cleared : operation = .clear → after.notices = []
  /-- Notices come behind those that were there, as severe as their kinds. -/
  added : operation ≠ .clear → ∃ more, after.notices = before.notices ++ more ∧
    ∀ notice ∈ more, notice.Graded

private theorem added_nothing (notices : List Notice) :
    ∃ more, notices = notices ++ more ∧ ∀ notice ∈ more, notice.Graded :=
  ⟨[], (List.append_nil notices).symm, nofun⟩

private theorem follows_observe {α : Type} {session : Session} {reported : Reported α}
    {operation : Operation} {failed : Option Failure} (other : operation ≠ .clear)
    (graded : ∀ notice ∈ reported.notices, notice.Graded) :
    Follows session operation failed (session.observe reported).2 where
  spared := fun _ => ⟨rfl, rfl⟩
  cleared := fun clear => absurd clear other
  added := fun _ => ⟨reported.notices, rfl, graded⟩

theorem follows_perform (session : Session) (operation : Operation) :
    Follows session operation (session.perform operation).1 (session.perform operation).2 := by
  cases operation with
  | load text =>
      rw [perform, load]
      cases Json.read text with
      | error fault => exact ⟨fun _ => ⟨rfl, rfl⟩, nofun, fun _ => added_nothing _⟩
      | ok document => exact ⟨fun failed => absurd rfl failed, nofun, fun _ => added_nothing _⟩
  | drill identifier =>
      exact ⟨fun failed => absurd rfl failed, nofun,
        fun _ => ⟨_, rfl, Results.graded_select session.document identifier⟩⟩
  | configure text =>
      rw [perform, configure]
      cases Options.read text with
      | error fault => exact ⟨fun _ => ⟨rfl, rfl⟩, nofun, fun _ => added_nothing _⟩
      | ok options => exact ⟨fun failed => absurd rfl failed, nofun, fun _ => added_nothing _⟩
  | register function =>
      exact ⟨fun failed => absurd rfl failed, nofun, fun _ => added_nothing _⟩
  | clear => exact ⟨fun failed => absurd rfl failed, fun _ => rfl, fun other => absurd rfl other⟩
  | render template => exact follows_observe nofun (session.renderer.graded_render _ template)
  | renderResults results template =>
      exact follows_observe nofun (session.renderer.graded_renderResults _ results template)
  | resolve definition => exact follows_observe nofun (Definition.graded_resolve definition _ _)
  | resolveValue definition =>
      exact follows_observe nofun (Definition.graded_resolve definition _ _)
  | select identifier =>
      exact follows_observe nofun (Results.graded_select session.document identifier)

theorem graded_performAll {session : Session} (graded : ∀ notice ∈ session.notices, notice.Graded)
    (operations : List Operation) :
    ∀ notice ∈ (session.performAll operations).notices, notice.Graded := by
  induction operations generalizing session with
  | nil => exact graded
  | cons operation rest ih =>
      have follows := session.follows_perform operation
      refine ih ?_
      by_cases clear : operation = .clear
      · rw [follows.cleared clear]
        exact nofun
      · obtain ⟨more, notices, gradedMore⟩ := follows.added clear
        rw [notices]
        exact List.forall_mem_append.mpr ⟨graded, gradedMore⟩

end Session
end JsonTemplate
