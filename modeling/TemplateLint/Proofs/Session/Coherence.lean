import TemplateLint.Proofs.Session.Run

set_option autoImplicit false

/-!
How the maps of a session hang together.

The engine remembers diagnostics of checked documents only, only open documents count as checked, and what is
remembered is what is shown.  No failure in between leaves the maps in another state.
-/

namespace TemplateLint.Session

variable {σ : Type}

structure Coherent (session : Session Collection) : Prop where
  keyed : session.Keyed
  checked : session.engine.latest.KeysWithin session.lastVersions
  isOpen : session.lastVersions.KeysWithin session.openDocuments
  mirrored : session.engine.Mirrored

theorem start_coherent (settings : Settings) (projectRoot : Path) (world : World σ) :
    (start (Engine.start settings projectRoot Collection.empty world).1).Coherent where
  keyed := start_keyed _
  checked := fun _ present => absurd rfl present
  isOpen := fun _ present => absurd rfl present
  mirrored := Engine.start_mirrored settings projectRoot Collection.empty world

/-! ### Events and checks -/

theorem Coherent.track {session : Session Collection} (coherent : session.Coherent) (document : Document) :
    (session.track document).Coherent where
  keyed := coherent.keyed.track document
  checked := coherent.checked
  isOpen := coherent.isOpen.put_right document.uri document
  mirrored := coherent.mirrored

/-- A document that is closed leaves all three maps at once. -/
theorem Coherent.close {session : Session Collection} (coherent : session.Coherent) (closed : String) :
    (session.prepare (.closed closed)).Coherent where
  keyed := coherent.keyed.prepare (.closed closed)
  checked := coherent.checked.erase closed
  isOpen := coherent.isOpen.erase closed
  mirrored := mirrored_prepare session (.closed closed) coherent.mirrored

theorem Coherent.prepare {session : Session Collection} (coherent : session.Coherent) (event : Event) :
    (session.prepare event).Coherent := by
  cases event with
  | opened document => exact coherent.track document
  | changed document => exact coherent.track document
  | saved document => exact coherent.track document
  | configurationChanged changedSection settings =>
      exact ⟨coherent.keyed, coherent.checked, coherent.isOpen, coherent.mirrored⟩
  | closed uri => exact coherent.close uri

/-- The version of an open document is noted before the check, so a check that fails breaks nothing. -/
theorem Coherent.lint {session : Session Collection} (coherent : session.Coherent) (host : Host σ)
    (document : Document) (world : World σ) (isOpen : session.openDocuments.get? document.uri ≠ none) :
    (session.lint host document world).2.1.Coherent where
  keyed := coherent.keyed
  checked := by
    rw [engine_lint, (session.engine.lint_eq_survey host document world).2.1]
    intro uri present
    by_cases atUri : uri = document.uri
    · rw [atUri]
      change (session.lastVersions.put document.uri document.version).get? document.uri ≠ none
      rw [SortedMap.get?_put_self]
      exact nofun
    · rw [session.engine.latest_absorb_of_ne document.uri uri _ atUri] at present
      exact coherent.checked.put_right document.uri document.version uri present
  isOpen := coherent.isOpen.put_left document.uri document.version isOpen
  mirrored := mirrored_lint host session document world coherent.mirrored

theorem Coherent.handle {session : Session Collection} (coherent : session.Coherent) (host : Host σ)
    (event : Event) (world : World σ) : (session.handle host event world).2.1.Coherent := by
  have kept := handle_keeps host
    (fun after => after.Coherent ∧ after.openDocuments = (session.prepare event).openDocuments)
    session event world ⟨coherent.prepare event, rfl⟩
  refine (kept ?_).1
  intro document isDue after world holds
  have isOpen : after.openDocuments.get? document.uri ≠ none := by
    rw [holds.2, coherent.keyed.due_open event document isDue]
    exact nofun
  exact ⟨holds.1.lint host document world isOpen, holds.2⟩

/-- Every session that a new one can become is coherent, so the engine remembers no more documents than are open
or shown. -/
theorem fresh_coherent (host : Host σ) (settings : Settings) (projectRoot : Path) (events : List Event)
    (world : World σ) :
    let session := (fresh host settings projectRoot Collection.empty events world).1
    session.Coherent ∧
      session.engine.trackedDocuments ≤ session.openDocuments.size ∧
      session.engine.trackedDocuments ≤ session.engine.sink.shown.size := by
  intro session
  have coherent : session.Coherent := by
    apply run_keeps host Coherent
    · intro event session world holds
      exact holds.handle host event world
    · exact start_coherent settings projectRoot world
  have shown : session.engine.latest.KeysWithin session.engine.sink.shown := by
    intro uri present
    obtain ⟨diagnostics, known⟩ := Option.ne_none_iff_exists'.1 present
    rw [coherent.mirrored uri diagnostics known]
    exact nofun
  exact ⟨coherent, Nat.le_trans coherent.checked.size_le coherent.isOpen.size_le, shown.size_le⟩

end TemplateLint.Session
