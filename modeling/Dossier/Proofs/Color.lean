import Dossier.Proofs.Parallel.Evaluator
/-! # Colors make no difference

    Two sessions that differ only in the setting for colors are a pair, and
    stay one: the setting is looked at only when rows are written, and what is
    written is the same without colors (`Formatter.alike_of_bare`).  Nothing
    is assumed about the rows; their texts may hold escape sequences, whole or
    broken.

    The commands on rings see more than the selected ring, so no pairing covers
    them in general.  Here the two stores are the SAME, and each of these
    commands is checked on its own. -/

namespace Dossier

open Session Commands Dossier.Action

namespace Session

variable {σ σ' : Session} {s s' : Store} {color : Bool}

/-- The session with another setting for colors. -/
def withColor (σ : Session) (color : Bool) : Session :=
  { σ with config := { σ.config with color := color } }

/-- The second session is the first with this setting for colors. -/
def Recolored (color : Bool) (σ σ' : Session) : Prop :=
  σ' = σ.withColor color

/-- The colors of a session are no part of its store. -/
theorem Recolored.sameStore (h : Recolored color σ σ') (hs : σ.store = some s)
    (hs' : σ'.store = some s') : s = s' := by
  subst h
  exact Option.some.inj (hs.symm.trans hs')

/-- Sessions that differ in colors write rows that differ in colors. -/
theorem recolored_alike (h : Recolored color σ σ') : σ.Alike Line.SameText σ' := by
  subst h
  exact {
    ring := rfl
    subject := rfl
    debug := rfl
    editor := rfl
    formatter := Formatter.alike_of_bare rfl
    store := rfl
    ids := fun s s' hs hs' => Recolored.sameStore rfl hs hs' ▸ .refl s
    inRing := fun s s' _ hs hs' _ => Recolored.sameStore rfl hs hs' ▸ .refl _ s
    ofSubject := fun s s' _ hs hs' _ => Recolored.sameStore rfl hs hs' ▸ .refl _ s }

/-! What becomes of the selection does not depend on colors. -/

/-- Taking over the note of a ring does not look at colors. -/
theorem refreshRing_withColor (σ : Session) (ring : Ring) :
    (σ.withColor color).refreshRing ring = (σ.refreshRing ring).withColor color := by
  rcases σ with ⟨config, store, _ | selected, subject, debug, quitRequested⟩
  · rfl
  · simp only [withColor, refreshRing]
    split <;> rfl

/-- Leaving a ring that is deleted does not look at colors. -/
theorem leaveRing_withColor (σ : Session) (id : Int) :
    (if (σ.withColor color).hasRing id then (σ.withColor color).selectRing none
      else σ.withColor color)
      = (if σ.hasRing id then σ.selectRing none else σ).withColor color := by
  have hsame : (σ.withColor color).hasRing id = σ.hasRing id := rfl
  rw [hsame]
  split <;> rfl

/-- Leaving a subject that is deleted does not look at colors. -/
theorem leaveSubject_withColor (σ : Session) (id : Int) :
    (if (σ.withColor color).hasSubject id then (σ.withColor color).selectSubject none
      else σ.withColor color)
      = (if σ.hasSubject id then σ.selectSubject none else σ).withColor color := by
  have hsame : (σ.withColor color).hasSubject id = σ.hasSubject id := rfl
  rw [hsame]
  split <;> rfl

/-- No call of the store looks at colors. -/
theorem carryOut_withColor (call : Store.Call) :
    (σ.withColor color).carryOut s call = (σ.carryOut s call).withColor color := by
  let τ : Session := { σ with store := some (s.after call) }
  cases call with
  | setRingNote id note =>
      show ((s.after _).getRing id).elim (τ.withColor color) (τ.withColor color).refreshRing
        = (((s.after _).getRing id).elim τ τ.refreshRing).withColor color
      cases (s.after _).getRing id with
      | none => rfl
      | some ring => exact refreshRing_withColor τ ring
  | deleteRing id => exact leaveRing_withColor τ id
  | deleteEntity kind id =>
      cases kind with
      | subject => exact leaveSubject_withColor τ id
      | information | location | time => rfl
  | _ => rfl

/-- **COLORS** pair sessions. -/
theorem recolored_pairing (color : Bool) : Pairing Line.SameText (Recolored color) where
  refl := Line.SameText.refl
  alike := recolored_alike
  call := by
    rintro σ _ s s' call rfl hs hs' - - -
    obtain rfl : s = s' := Recolored.sameStore rfl hs hs'
    exact carryOut_withColor call
  selectSubject := by
    rintro σ _ s s' id ring subject rfl - - - -
    rfl
  toggleDebug := by
    rintro σ _ rfl
    rfl
  quit := by
    rintro σ _ rfl
    rfl

end Session

/-! ## The commands on rings -/

namespace Commands.Rings

variable {σ σ' : Session} {color : Bool}

theorem list_recolored (color : Bool) : list.Parallel Line.SameText (Recolored color) := by
  intro around args σ σ' hI
  have hσ := recolored_alike hI
  refine lookAlike_get.bind ?_
  rintro _ _ ⟨rfl, rfl⟩
  refine (lookAlike_requireStore hσ.store).bind ?_
  rintro s s' ⟨hs, hs'⟩
  obtain rfl : s = s' := hI.sameStore hs hs'
  refine endAlike_pure ⟨listingAlike_rows rfl (fun ring => ?_), hI⟩
  have hselected : σ'.hasRing ring.id = σ.hasRing ring.id := by
    rw [hasRing, hasRing, hσ.ring]
  rw [hselected]
  exact hσ.formatter.ring ring _

theorem add_recolored (color : Bool) : add.Parallel Line.SameText (Recolored color) := by
  intro around args σ σ' hI
  refine (blind_argument args 0 _).bind_alike (fun name => ?_)
  refine (endAlike_change (recolored_alike hI).store (fun s s' hs hs' => ?_)).bind ?_
  · rw [hI.sameStore hs hs']
  rintro id τ _ τ' ⟨rfl, s, s', hs, hs', rfl, rfl⟩
  obtain rfl : s = s' := hI.sameStore hs hs'
  subst hI
  exact answerAlike_listing (recolored_pairing color) rfl _

theorem select_recolored (color : Bool) : select.Parallel Line.SameText (Recolored color) := by
  intro around args σ σ' hI
  refine (blind_argument args 0 _).bind_alike (fun text => ?_)
  refine (blind_parseId text _).bind_alike (fun id => ?_)
  refine (lookAlike_requireStore (recolored_alike hI).store).bind ?_
  rintro s s' ⟨hs, hs'⟩
  obtain rfl : s = s' := hI.sameStore hs hs'
  cases s.getRing id with
  | none => exact answerAlike_throw _
  | some ring =>
      refine (endAlike_modify _ _).bind ?_
      rintro _ τ _ τ' ⟨rfl, rfl⟩
      subst hI
      exact answerAlike_listing (recolored_pairing color) rfl _

theorem refresh_recolored (id : Int) (hI : Recolored color σ σ') :
    EndAlike (refresh id) (refresh id) σ σ' (fun _ τ _ τ' => Recolored color τ τ') := by
  refine (lookAlike_requireStore (recolored_alike hI).store).bind ?_
  rintro s s' ⟨hs, hs'⟩
  obtain rfl : s = s' := hI.sameStore hs hs'
  subst hI
  cases s.getRing id with
  | none => exact endAlike_pure rfl
  | some ring => exact refreshRing_withColor σ ring

theorem setNote_recolored (color : Bool) : setNote.Parallel Line.SameText (Recolored color) := by
  intro around args σ σ' hI
  refine (blind_argument args 0 _).bind_alike (fun text => ?_)
  refine (blind_parseId text _).bind_alike (fun id => ?_)
  refine (blind_argument args 1 _).bind_alike (fun _ => ?_)
  refine (endAlike_changeRow _ _ (recolored_alike hI).store).bind ?_
  rintro found τ _ τ' ⟨s, s', hs, hs', hfound, rfl, rfl, rfl⟩
  obtain rfl : s = s' := hI.sameStore hs hs'
  subst hI hfound
  cases (s.setRingNote id (restFrom args 1)).1 with
  | true =>
      refine (refresh_recolored id rfl).bind ?_
      rintro _ τ _ τ' hI
      exact answerAlike_listing (recolored_pairing color) hI _
  | false => exact answerAlike_throw _

theorem deleteOne_recolored (color : Bool) (id : Int) :
    RoundAlike Line.SameText (Recolored color) (fun _ => True) (deleteOne id) := by
  intro σ σ' hI _
  refine (endAlike_changeRow _ _ (recolored_alike hI).store).bind ?_
  rintro found τ _ τ' ⟨s, s', hs, hs', hfound, rfl, rfl, rfl⟩
  obtain rfl : s = s' := hI.sameStore hs hs'
  subst hI hfound
  cases (s.deleteRing id).1 with
  | true =>
      refine (endAlike_modify _ _).bind ?_
      rintro _ τ _ τ' ⟨rfl, rfl⟩
      let τ : Session := { σ with store := some (s.deleteRing id).2 }
      exact endAlike_pure ⟨.refl _, leaveRing_withColor τ id, trivial⟩
  | false => exact endAlike_pure ⟨.refl _, rfl, trivial⟩

theorem delete_recolored (color : Bool) : delete.Parallel Line.SameText (Recolored color) := by
  intro around args σ σ' hI
  refine (blind_idList args 0 _).bind_alike (fun ids => ?_)
  exact answerAlike_forEach ids (deleteOne_recolored color) hI trivial

end Commands.Rings

namespace Commands

/-- Every built-in command answers alike with and without colors. -/
theorem builtin_recolored (color : Bool) :
    builtin.Throughout (Handler.Parallel Line.SameText (Recolored color)) := by
  refine forall_builtin ?_ (System.show_parallel (recolored_pairing color))
  intro command hcommand
  rcases families_parallel (recolored_pairing color) hcommand with hring | hparallel
  · simp only [Rings.commands, List.mem_cons, List.not_mem_nil, or_false] at hring
    rcases hring with rfl | rfl | rfl | rfl | rfl
    · exact Rings.list_recolored color
    · exact Rings.add_recolored color
    · exact Rings.select_recolored color
    · exact Rings.setNote_recolored color
    · exact Rings.delete_recolored color
  · exact hparallel

end Commands

/-- **COLORS MAKE NO DIFFERENCE**: after the same lines, sessions that began with
    different settings for colors differ in nothing else; and the next line
    fails in both for the same reason, or is displayed or paged in both, with
    the same prints, the same shape, and line by line the same text without
    colors.  So every further filter leaves the same, and the pager is given
    the same text. -/
theorem colors_make_no_difference (modifier : Char) (engine : Pattern.Engine) (config : Config)
    (color : Bool) (store : Option Store) (inputs : List (Surroundings × String))
    (around : Surroundings) (line : String) :
    let ev := Evaluator.ofBuiltin modifier engine
    let σ := ev.sessionAfter inputs (start config store)
    let σ' := ev.sessionAfter inputs (start { config with color := color } store)
    let evaluated := ev.evaluate around line σ
    let evaluated' := ev.evaluate around line σ'
    σ' = σ.withColor color ∧
      evaluated'.session = evaluated.session.withColor color ∧
      evaluated'.printed = evaluated.printed ∧
      Evaluator.ResultAlike Line.SameText evaluated.result evaluated'.result ∧
      ∀ answer answer', evaluated.result = .ok answer → evaluated'.result = .ok answer' →
        answer.listing.plainText = answer'.listing.plainText ∧
        ∀ stages, Evaluation.Alike Line.SameText (Evaluator.applyStages answer.listing stages)
          (Evaluator.applyStages answer'.listing stages) := by
  intro ev σ σ' evaluated evaluated'
  have hshows : ∀ line line' : Line, line.SameText line' → line.SameText line' := fun _ _ h => h
  have hparallel := builtin_recolored color
  -- the sessions before the line are a pair, so the runs of the line are
  have hσ : Recolored color σ σ' :=
    Evaluator.sessionAfter_paired Line.SameText.refl hshows hparallel builtin_orderly inputs rfl
  obtain ⟨hresult, hsession, hprinted⟩ :
      Evaluator.Paired Line.SameText (Recolored color) evaluated evaluated' := by
    refine Evaluator.evaluate_paired Line.SameText.refl hshows (fun name command _ hfound => ?_) hσ
    have hmem := Registry.mem_of_lookup hfound
    exact ⟨hparallel command hmem, builtin_orderly command hmem⟩
  refine ⟨hσ, hsession, hprinted, hresult, ?_⟩
  intro answer answer' hanswer hanswer'
  rw [hanswer, hanswer'] at hresult
  -- an answer is displayed on both sides or paged on both sides
  have hlisting : Listing.Alike Line.SameText answer.listing answer'.listing := by
    obtain - | (hdisplay | hpage) := hresult
    · exact hdisplay
    · exact hpage
  exact ⟨hlisting.plainText hshows, fun stages => .applyStages hshows hlisting stages⟩

end Dossier
