import JspCompletion.Completion.Suggest
import JspCompletion.Proofs.Include.Staleness

/-!
# What a completion does to a workspace

Whatever the cursor is in, a completion touches the workspace in two ways only:
it asks which libraries a text declares, and it puts refreshing queries to the
registry.  So what holds of both questions holds of every completion.

Both leave the backdrop as it is: the clock, the files, the document that is
being edited and the two settings that the workspace holds.
-/

namespace JspCompletion

/-- A question that a completion puts to a workspace. -/
inductive Consultation
  /-- Which libraries does a text at a path declare? -/
  | libraries (text : List Char) (file : Option Path)
  /-- Which entries does a query select, once the listeners were called? -/
  | entries (query : Query)

namespace Workspace

/-- The workspace after a question was answered. -/
def consult (workspace : Workspace) : Consultation → Workspace
  | .libraries text file => (workspace.declaredLibraries text file).2
  | .entries query => (workspace.query query true).2

/-- The workspace after some questions were answered in order. -/
def consultAll (workspace : Workspace) (consultations : List Consultation) : Workspace :=
  consultations.foldl consult workspace

end Workspace

/-! ## The questions of a completion -/

namespace Completion

variable (request : CompletionRequest) (workspace : Workspace)

theorem exists_consultAll_inExpression (start : Nat) (inString : Bool) :
    ∃ consultations,
      (inExpression request start inString workspace).2 = workspace.consultAll consultations := by
  unfold inExpression
  dsimp only
  split
  · exact ⟨[], rfl⟩
  · exact ⟨[.libraries request.beforeCursor request.file, .entries {}], rfl⟩

theorem exists_consultAll_ofTags (nameStart : Nat) (closing : Bool) :
    ∃ consultations,
      (ofTags request nameStart closing workspace).2 = workspace.consultAll consultations := by
  unfold ofTags
  dsimp only
  split
  · exact ⟨[], rfl⟩
  · exact ⟨[.libraries request.beforeCursor request.file, .entries { kind := some .tag }], rfl⟩

theorem exists_consultAll_ofAttributes (tagStart : Nat) (tagName : String) :
    ∃ consultations,
      (ofAttributes request tagStart tagName workspace).2 =
        workspace.consultAll consultations := by
  unfold ofAttributes
  dsimp only
  split
  · exact ⟨[], rfl⟩
  · split
    · exact ⟨[], rfl⟩
    · -- The libraries are looked up before the tag, which may not be found.
      refine ⟨[.libraries request.beforeCursor request.file], ?_⟩
      split <;> rfl

theorem exists_consultAll_ofValues (attributeName : String) (valueStart : Nat) :
    ∃ consultations,
      (ofValues request attributeName valueStart workspace).2 =
        workspace.consultAll consultations := by
  unfold ofValues
  split
  · exact ⟨[], rfl⟩
  · rename_i kind _
    dsimp only
    split
    · exact ⟨[], rfl⟩
    · exact ⟨[.entries { kind := some kind }], rfl⟩

/-- A completion puts some questions to its workspace and does nothing else with
it. -/
theorem exists_consultAll_suggest :
    ∃ consultations,
      (suggest request workspace).2 = workspace.consultAll consultations := by
  unfold suggest
  split
  · exact exists_consultAll_inExpression ..
  · exact exists_consultAll_ofTags ..
  · exact exists_consultAll_ofAttributes ..
  · exact exists_consultAll_ofValues ..
  · exact ⟨[], rfl⟩
  · exact ⟨[], rfl⟩

end Completion

/-! ## What stays -/

/-- What a workspace is given from outside, and no question changes. -/
structure Backdrop where
  now : Time
  files : FileTree
  document : Option String
  scanInterval : Nat
  recheckAfter : Nat

namespace Workspace

def backdrop (workspace : Workspace) : Backdrop :=
  { now := workspace.now
    files := workspace.files
    document := workspace.document
    scanInterval := workspace.scanInterval
    recheckAfter := workspace.resolver.recheckAfter }

theorem backdrop_call
    (workspace : Workspace)
    (listener : Listener) :
    (workspace.call listener).2.backdrop = workspace.backdrop := by
  cases listener with
  | documentScanner scanner => rfl
  | hook label adds subscribes => cases adds <;> cases subscribes <;> rfl

theorem backdrop_callAll
    (workspace : Workspace)
    (listeners : List Listener) :
    (workspace.callAll listeners).2.backdrop = workspace.backdrop := by
  induction listeners generalizing workspace with
  | nil => rfl
  | cons listener rest inductionHypothesis =>
      exact (inductionHypothesis _).trans (workspace.backdrop_call listener)

theorem backdrop_query
    (workspace : Workspace)
    (query : Query)
    (refresh : Bool) :
    (workspace.query query refresh).2.backdrop = workspace.backdrop := by
  cases refresh with
  | false => rfl
  | true => exact backdrop_callAll { workspace with listeners := [] } workspace.listeners

theorem backdrop_declaredLibraries
    (workspace : Workspace)
    (text : List Char)
    (file : Option Path) :
    (workspace.declaredLibraries text file).2.backdrop = workspace.backdrop := by
  have sameRecheck : (workspace.declaredLibraries text file).2.resolver.recheckAfter =
      workspace.resolver.recheckAfter := by
    rw [resolver_declaredLibraries, Include.recheckAfter_includedFiles]
  unfold backdrop
  rw [sameRecheck]
  rfl

/-- Questions leave the backdrop as it is. -/
theorem backdrop_consultAll
    (workspace : Workspace)
    (consultations : List Consultation) :
    (workspace.consultAll consultations).backdrop = workspace.backdrop := by
  induction consultations generalizing workspace with
  | nil => rfl
  | cons consultation rest inductionHypothesis =>
      refine (inductionHypothesis _).trans ?_
      cases consultation with
      | libraries text file => exact workspace.backdrop_declaredLibraries text file
      | entries query => exact workspace.backdrop_query query true

end Workspace
end JspCompletion
