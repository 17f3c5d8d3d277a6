import Dossier.Proofs.Integrity
import Dossier.Proofs.IdExpression
import Dossier.Proofs.Store.Removal
import Dossier.Proofs.Text.Blank
import Dossier.Proofs.Text.Utf8
/-! # What composite entries refer to

    The value of a composite entry is a text, ids with commas between them, and
    it is read back as the ids that were written (`compositeIds_of_value`).

    When a composite is made its ids are those of entries of its subject.
    Nothing keeps them so: an entry can be deleted while a composite lists it.
    What is kept is that an id RESOLVES or DANGLES: the entry is still there,
    under the same subject, or a line has asked to delete it and no entry will
    ever have its id again (`composite_references`). -/

namespace Dossier

open Text Store Session

/-! ## Values -/

section Values

variable {entry : Information} {ids : List Int}

/-- **VALUES** of composites are read back. -/
theorem Information.compositeIds_of_value (hkind : entry.kind = .composite)
    (hvalue : entry.value = compositeValue ids) (hids : ∀ id ∈ ids, inInt64 id = true) :
    entry.compositeIds = ids := by
  have hchars (id : Int) : ∀ c ∈ (toString id).toList, isBlank c = false ∧ (c == ',') = false := by
    intro c hc
    rcases mem_toString hc with hdigit | rfl
    · refine ⟨isBlank_of_isDigit hdigit, beq_false_of_ne ?_⟩
      rintro rfl
      cases hdigit
    · exact ⟨by decide, by decide⟩
  -- no number begins or ends with a blank or holds a comma, so cutting at commas gives the
  -- numbers back
  have htrim (id : Int) : trimBlank (toString id).toList = (toString id).toList :=
    trimBlank_of_ends (fun c hc => (hchars id c (List.mem_of_mem_head? hc)).1)
      (fun c hc => (hchars id c (List.mem_of_mem_getLast? hc)).1)
  have hread : ∀ id ∈ ids, readInt? (trimBlank (toString id).toList) = some id := by
    intro id hid
    rw [htrim]
    exact readInt?_toString (hids id hid)
  simp only [compositeIds, hkind, hvalue, compositeValue]
  rw [Utf8.decodeLossyFrom_encode, joined, String.toList_intercalate, List.map_map]
  cases ids with
  | nil => rfl
  | cons id ids =>
      show (pieces _ ([','].intercalate _)).filterMap _ = _
      rw [pieces_intercalate rfl ?_ (by simp), List.filterMap_map]
      · exact (List.filterMap_congr hread).trans List.filterMap_some
      · simp only [List.mem_map]
        rintro _ ⟨id, -, rfl⟩ c hc
        exact (hchars id c hc).2

/-- Other entries list no ids, whatever their value is. -/
theorem Information.compositeIds_of_ne (h : entry.kind ≠ .composite) : entry.compositeIds = [] := by
  rw [compositeIds]
  split
  · rename_i hkind
    exact absurd hkind h
  · rfl

end Values

/-! ## References -/

section References

variable {σ τ : Session} {s t : Store} {deleted : Int → Prop} {subjectId id : Int}
  {call : Store.Call}

/-- The subject has an entry of this id, or no entry has the id or will have
    it, and it is one of those that were deleted. -/
def Store.Resolves (s : Store) (deleted : Int → Prop) (subjectId id : Int) : Prop :=
  (∃ target ∈ s.information.rows, target.id = id ∧ target.subjectId = subjectId) ∨
    ¬ s.information.Has Information.id id ∧ id ≤ s.information.lastId ∧ deleted id

/-- Every id in a composite resolves for the subject of the composite. -/
def Store.Composed (s : Store) (deleted : Int → Prop) : Prop :=
  ∀ entry ∈ s.information.rows, ∀ id ∈ entry.compositeIds,
    s.Resolves deleted entry.subjectId id

/-- There are no composites at first. -/
theorem fresh_composed : fresh.Composed deleted :=
  fun _ h => nomatch h

/-- Only the table of entries matters. -/
theorem Store.Composed.congr (h : s.Composed deleted) (hsame : t.information = s.information) :
    t.Composed deleted := by
  intro entry hentry id hid
  rw [hsame] at hentry
  simp only [Store.Resolves, hsame]
  exact h entry hentry id hid

/-- Rows may be lost if an entry is lost together with all entries of its
    subject, or is one of those that were deleted. -/
theorem Store.Composed.lose {gone : Row → Prop} (h : s.Composed deleted) (hs : s.Constrained)
    (hlost : Loses s t gone)
    (hgone : ∀ entry target : Information, entry.subjectId = target.subjectId →
      gone (.information target) → gone (.information entry) ∨ deleted target.id) :
    t.Composed deleted := by
  have hlast : t.information.lastId = s.information.lastId := by
    obtain ⟨keeps, -, rfl⟩ := hlost
    rfl
  intro entry hentry id hid
  obtain ⟨hold, hstays⟩ := hlost.mem_information.mp hentry
  rcases h entry hold id hid with ⟨target, htarget, rfl, hsubject⟩ | ⟨hmissing, hbound, hdeleted⟩
  -- a listed entry that is lost alone, without the composite, is one of those that were deleted
  · by_cases hleft : gone (.information target)
    · right
      refine ⟨?_, ?_, (hgone entry target hsubject.symm hleft).resolve_left hstays⟩
      · rintro ⟨other, hother, hsame⟩
        obtain ⟨hthere, hkept⟩ := hlost.mem_information.mp hother
        obtain rfl := hs.information.eq_of_key hthere htarget hsame
        exact hkept hleft
      · rw [hlast]
        exact hs.information.bounded target htarget
    · exact .inl ⟨target, hlost.mem_information.mpr ⟨htarget, hleft⟩, rfl, hsubject⟩
  · right
    refine ⟨?_, by rw [hlast]; exact hbound, hdeleted⟩
    rintro ⟨other, hother, hsame⟩
    exact hmissing ⟨other, (hlost.mem_information.mp hother).1, hsame⟩

/-- An entry that is found for a subject is an entry of the subject. -/
theorem ofSubject_isSome {entryId : Int}
    (h : (Commands.InformationEntries.ofSubject s entryId subjectId).isSome = true) :
    ∃ target ∈ s.information.rows, target.id = entryId ∧ target.subjectId = subjectId := by
  obtain ⟨target, hmem, hid, hsubject⟩ := Table.exists_of_find?_filter h
  exact ⟨target, hmem, hid, beq_iff_eq.mp hsubject⟩

/-- A new composite is made of entries of its subject. -/
theorem Store.Composed.create (h : s.Composed deleted) {now name note : String}
    {kind : InformationKind} {value : List UInt8} {new : Int}
    (hc : s.createInformation now subjectId kind name value note = .ok (new, t))
    (hpermits : σ.Permits s (.createInformation now subjectId kind name value note)) :
    t.Composed deleted := by
  obtain ⟨-, -, ht⟩ := createInformation_granted hc
  -- what resolved still does, because the new id is above all that were given out
  have hresolves {subjectId id : Int} (hold : s.Resolves deleted subjectId id) :
      t.Resolves deleted subjectId id := by
    rw [ht]
    rcases hold with ⟨target, htarget, hfound⟩ | ⟨hmissing, hbound, hdeleted⟩
    · exact .inl ⟨target, Table.mem_add.mpr (.inl htarget), hfound⟩
    · right
      refine ⟨?_, Int.le_trans hbound (Int.le_add_one (Int.le_refl _)), hdeleted⟩
      rintro ⟨other, hother, rfl⟩
      rcases Table.mem_add.mp hother with hold | rfl
      · exact hmissing ⟨other, hold, rfl⟩
      · exact absurd hbound (Int.not_le.mpr (Int.lt_succ _))
  intro entry hentry id hid
  rw [ht] at hentry
  rcases Table.mem_add.mp hentry with hold | rfl
  · exact hresolves (h entry hold id hid)
  · by_cases hkind : kind = .composite
    · obtain ⟨text, -, hvalue, hfound⟩ := hpermits.2 hkind
      rw [Information.compositeIds_of_value hkind hvalue
        (fun id hid => IdExpression.inInt64_of_mem_ids hid)] at hid
      exact hresolves (.inl (ofSubject_isSome (hfound id hid)))
    · rw [Information.compositeIds_of_ne hkind] at hid
      cases hid

/-- Only the value of a text is edited. -/
theorem Store.Composed.edit (h : s.Composed deleted) (hs : s.Constrained) {now : String}
    {value : List UInt8} (hpermits : σ.Permits s (.updateInformationValue now id value)) :
    (s.updateInformationValue now id value).2.Composed deleted := by
  obtain ⟨subject, -, edited, hedited, htext⟩ := hpermits
  obtain ⟨hfound, -⟩ := Option.filter_eq_some_iff.mp hedited
  obtain ⟨hthere, hid⟩ := Table.mem_of_find?_key hfound
  have hkept (row : Information) :
      (if row.id == id then { row with value := value, modifiedAt := now } else row).id = row.id ∧
      (if row.id == id then { row with value := value, modifiedAt := now } else row).subjectId
        = row.subjectId := by
    split <;> exact ⟨rfl, rfl⟩
  intro entry hentry
  obtain ⟨old, hold, rfl⟩ := Table.mem_update.mp hentry
  -- only texts are edited, and they list nothing before or after
  have hids : (if old.id == id then { old with value := value, modifiedAt := now }
      else old).compositeIds = old.compositeIds := by
    split
    · rename_i hedit
      obtain rfl := hs.information.eq_of_key hold hthere ((beq_iff_eq.mp hedit).trans hid.symm)
      have hkind : old.kind ≠ .composite := by
        rw [htext]
        exact InformationKind.noConfusion
      rw [Information.compositeIds_of_ne hkind]
      exact Information.compositeIds_of_ne hkind
    · rfl
  intro listed hlisted
  rw [hids] at hlisted
  rw [(hkept old).2]
  -- ids and owners stay, so what resolved before still does
  rcases h old hold listed hlisted with ⟨target, htarget, hfound, hsubject⟩ | ⟨hmissing, hdeleted⟩
  · exact .inl ⟨_, Table.mem_update.mpr ⟨target, htarget, rfl⟩, (hkept target).1.trans hfound,
      (hkept target).2.trans hsubject⟩
  · refine .inr ⟨?_, hdeleted⟩
    rintro ⟨other, hother, hsame⟩
    obtain ⟨before, hbefore, rfl⟩ := Table.mem_update.mp hother
    exact hmissing ⟨before, hbefore, (hkept before).1.symm.trans hsame⟩

/-- A ring is lost with all entries of its subjects. -/
theorem Store.Composed.deleteRing (h : s.Composed deleted) (hs : s.Constrained) (ringId : Int) :
    (s.deleteRing ringId).2.Composed deleted := by
  rw [deleteRing_eq]
  split
  · refine h.lose hs (loses_withoutRing s ringId) ?_
    rintro entry target hsame ⟨owner, howner, hown, hring⟩
    exact .inl ⟨owner, howner, hown.trans hsame.symm, hring⟩
  · exact h

/-- A subject is lost with all of its entries; an entry of its own is one of
    those that are deleted. -/
theorem Store.Composed.deleteEntity (h : s.Composed deleted) (hs : s.Constrained)
    {kind : EntityKind} (hdeleted : kind = .information → deleted id) :
    (s.after (.deleteEntity kind id)).Composed deleted := by
  refine h.lose hs (loses_deleteEntity hs kind id) ?_
  rintro entry target hsame (⟨hkind, hsubject⟩ | ⟨hkind, rfl⟩)
  · exact .inl (.inl ⟨hkind, hsame.trans hsubject⟩)
  · exact .inr (hdeleted hkind)

/-- **ONE CALL** of a session leaves every id resolved, if the entries that it
    deletes are among the deleted ones. -/
theorem Store.Composed.after (h : s.Composed deleted) (hs : s.Constrained)
    (hpermits : σ.Permits s call)
    (hdeleted : ∀ id, call = .deleteEntity .information id → deleted id) :
    (s.after call).Composed deleted := by
  by_cases hwrites : Part.information ∈ call.parts
  · cases call with
    | createInformation now subjectId kind name value note =>
        exact left_induction h _ (fun _ _ hc => h.create hc hpermits)
    | updateInformationValue now id value => exact h.edit hs hpermits
    | deleteRing ringId => exact h.deleteRing hs ringId
    | deleteEntity kind id =>
        refine h.deleteEntity hs ?_
        rintro rfl
        exact hdeleted id rfl
    | _ => simp [Call.parts] at hwrites
  · have hsame : (s.after call).information = s.information := part_after s hwrites
    exact h.congr hsame

/-- **ONE STEP** of a session leaves every id resolved. -/
theorem Session.StepBy.composed {P : Store.Call → Prop} (hstep : StepBy P σ τ)
    (hP : ∀ id, P (.deleteEntity .information id) → deleted id)
    (h : ∃ s, σ.store = some s ∧ s.Whole ∧ s.Composed deleted) :
    ∃ t, τ.store = some t ∧ t.Whole ∧ t.Composed deleted := by
  obtain ⟨s, hs, hwhole, hcomposed⟩ := h
  obtain ⟨t, ht, hwhole'⟩ := hstep.step.intact ⟨s, hs, hwhole⟩
  refine ⟨t, ht, hwhole', ?_⟩
  rcases hstep.store hs with hsame | ⟨call, hcall, hpermits, hafter⟩
  · obtain rfl : s = t := Option.some.inj (hsame.symm.trans ht)
    exact hcomposed
  · obtain rfl : s.after call = t := Option.some.inj (hafter.symm.trans ht)
    refine hcomposed.after hwhole.constrained hpermits ?_
    rintro id rfl
    exact hP id hcall

end References

/-- **COMPOSITES RESOLVE OR DANGLE**: after any lines on a new store, every id in
    a composite is that of an entry of the same subject, or no entry has the id
    and some line has asked to delete it. -/
theorem composite_references (modifier : Char) (engine : Pattern.Engine) (config : Config)
    (inputs : List (Surroundings × String)) :
    ∃ s, ((Evaluator.ofBuiltin modifier engine).sessionAfter inputs
        (start config (some fresh))).store = some s ∧
      ∀ entry ∈ s.information.rows, ∀ id ∈ entry.compositeIds,
        (∃ target ∈ s.information.rows, target.id = id ∧ target.subjectId = entry.subjectId) ∨
          s.getInformation id = none ∧ ∃ input ∈ inputs,
            (Evaluator.ofBuiltin modifier engine).Requests input.2
              (.deleteEntity .information id) := by
  let deleted (id : Int) : Prop := ∃ input ∈ inputs,
    (Evaluator.ofBuiltin modifier engine).Requests input.2 (.deleteEntity .information id)
  have hsteps := Evaluator.sessionAfter_stepsBy modifier engine inputs (start config (some fresh))
  have hstart : ∃ s, (start config (some fresh)).store = some s ∧ s.Whole ∧ s.Composed deleted :=
    ⟨fresh, rfl, fresh_whole, fresh_composed⟩
  -- by induction on the steps of the run
  obtain ⟨s, hs, -, hcomposed⟩ :=
    hsteps.invariant (fun σ τ hstep => hstep.composed (fun _ hdeleted => hdeleted)) hstart
  refine ⟨s, hs, fun entry hentry id hid => ?_⟩
  rcases hcomposed entry hentry id hid with hfound | ⟨hmissing, -, hdeleted⟩
  · exact .inl hfound
  · refine .inr ⟨?_, hdeleted⟩
    rw [← Option.not_isSome_iff_eq_none, getInformation, Table.isSome_find?_key]
    exact hmissing

/-- The lines that make a composite of a phone number and then delete the
    number. -/
def danglingInputs : List (Surroundings × String) :=
  ["ra berlin", "rs 1", "sa WOLF", "ss 1", "ia phone 555", "iac profile 1", "id 1"].map
    (fun line => (.bare, line))

/-- The store that they lead to. -/
def dangling : Store :=
  fresh.afterAll
    [.createRing "09:00" "berlin" "", .createSubject "09:00" 1 "WOLF" "",
      .createInformation "09:00" 1 .text "phone" (Utf8.encode "555") "",
      .createInformation "09:00" 1 .composite "profile" (Information.compositeValue [1]) "",
      .deleteEntity .information 1]

/-- These lines lead to the store with a dangling reference. -/
theorem store_danglingInputs : ((Evaluator.ofBuiltin '$' .standard).sessionAfter danglingInputs
    (start .plain (some fresh))).store = some dangling := by
  decide +kernel

theorem information_dangling : dangling.information.rows =
    [⟨2, 1, .composite, "profile", Information.compositeValue [1], "", "09:00", "09:00"⟩] :=
  rfl

/-- The composite lists an id that no entry has; so it was asked to delete the
    entry. -/
theorem composite_references_dangling :
    (∃ entry ∈ dangling.information.rows, 1 ∈ entry.compositeIds) ∧
      dangling.getInformation 1 = none ∧ ∃ input ∈ danglingInputs,
        (Evaluator.ofBuiltin '$' .standard).Requests input.2 (.deleteEntity .information 1) := by
  obtain ⟨s, hs, hreferences⟩ := composite_references '$' .standard .plain danglingInputs
  obtain rfl : dangling = s := Option.some.inj (store_danglingInputs.symm.trans hs)
  have hlisted : ∃ entry ∈ dangling.information.rows, 1 ∈ entry.compositeIds := by
    rw [information_dangling]
    exact ⟨_, List.mem_singleton_self _, by decide +kernel⟩
  obtain ⟨entry, hentry, hid⟩ := hlisted
  refine ⟨⟨entry, hentry, hid⟩, ?_⟩
  rcases hreferences entry hentry 1 hid with ⟨target, htarget, hsame, -⟩ | hdeleted
  · rw [information_dangling, List.mem_singleton] at htarget
    rw [htarget] at hsame
    cases hsame
  · exact hdeleted

/-- A composite of a phone number that is then deleted: it still lists the id,
    which no entry has. -/
theorem composite_dangles :
    let lines : List String :=
      ["ra berlin", "rs 1", "sa WOLF", "ss 1", "ia phone 555", "iac profile 1", "id 1"]
    ∃ s, ((Evaluator.ofBuiltin '$' .standard).sessionAfter (lines.map (fun line => (.bare, line)))
        (start .plain (some fresh))).store = some s ∧
      ∃ entry ∈ s.information.rows, entry.kind = .composite ∧ entry.compositeIds = [1] ∧
        ∀ target ∈ s.information.rows, target.id ≠ 1 := by
  intro lines
  refine ⟨dangling, store_danglingInputs, ?_⟩
  rw [information_dangling]
  exact ⟨_, List.mem_singleton_self _, rfl, by decide +kernel, by decide +kernel⟩

end Dossier
