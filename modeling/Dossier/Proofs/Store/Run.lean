import Dossier.Proofs.Store.Ids
/-! # Runs of calls

    Whatever is called on a new store, with any arguments and in any order: the
    tables keep their promises (`Constrained.afterAll`), and a refusal is told
    exactly and leaves no trace.  A ring is refused for its NAME only; a subject
    is refused for want of its ring or for its codename, and the words of the
    refusal tell the two apart.

    `run_promises` puts this together with the ids, which are never given out
    twice. -/

namespace Dossier.Store

open Table

variable {s : Store} {now name note codename : String} {ringId : Int}

/-- **CONSTRAINTS ARE KEPT** along every run of calls. -/
theorem Constrained.afterAll (hs : s.Constrained) (calls : List Call) :
    (s.afterAll calls).Constrained := by
  induction calls generalizing s with
  | nil => exact hs
  | cons call calls ih => exact ih (hs.after call)

/-! ## Refusals -/

/-- A ring is refused exactly when its name is in use. -/
theorem createRing_refused_iff : (∃ e, s.answer (.createRing now name note) = .error e) ↔
    ∃ ring ∈ s.listRings, ring.name = name := by
  have hused : s.rings.any (fun ring => ring.name == name) = true ↔
      ∃ ring ∈ s.listRings, ring.name = name := by
    simp [Table.any, listRings]
  rw [← hused]
  simp only [answer, createRing]
  split
  · rename_i h
    exact iff_of_true ⟨_, rfl⟩ h
  · rename_i h
    refine iff_of_false ?_ h
    rintro ⟨e, he⟩
    cases he

/-- A ring exists when it is found by its id. -/
theorem hasRing_iff_getRing : s.hasRing ringId = true ↔ (s.getRing ringId).isSome = true := by
  rw [getRing, isSome_find?_key]
  exact any_key_iff

/-- The codename is that of a subject of the ring. -/
def CodenameUsed (s : Store) (ringId : Int) (codename : String) : Prop :=
  ∃ row ∈ s.listSubjects ringId, row.codename = codename

/-- The check of a codename looks into the ring. -/
theorem codenameUsed_iff : s.CodenameUsed ringId codename ↔
    s.subjects.any (fun row => row.ringId == ringId && row.codename == codename) = true := by
  simp [CodenameUsed, Table.any, listSubjects, Table.select, and_assoc]

/-- Where a codename is used, there is a ring. -/
theorem CodenameUsed.hasRing (hs : s.Constrained) (h : s.CodenameUsed ringId codename) :
    s.hasRing ringId = true := by
  obtain ⟨row, hrow, -⟩ := h
  obtain ⟨hmem, hring⟩ := List.mem_filter.mp hrow
  rw [beq_iff_eq] at hring
  rw [← hring]
  exact any_key_iff.mpr (hs.subjectRing row hmem)

/-- What comes of a new subject: the codename is looked at first. -/
theorem answer_createSubject : s.answer (.createSubject now ringId codename note) =
    if s.subjects.any (fun row => row.ringId == ringId && row.codename == codename) then
      .error (.inUse ("Subject '" ++ codename ++ "'"))
    else if s.hasRing ringId then .ok (.created .subjects s.subjects.nextId)
    else .error (.missingOwner ("Subject '" ++ codename ++ "'")) := by
  simp only [answer, createSubject]
  split
  · rfl
  · split <;> rfl

/-- A subject is refused exactly when there is no such ring or the codename is
    in use in it. -/
theorem createSubject_refused_iff :
    (∃ e, s.answer (.createSubject now ringId codename note) = .error e) ↔
      s.getRing ringId = none ∨ s.CodenameUsed ringId codename := by
  have hring : s.getRing ringId = none ↔ ¬ s.hasRing ringId = true := by
    rw [hasRing_iff_getRing, Option.not_isSome_iff_eq_none]
  rw [answer_createSubject, hring, codenameUsed_iff]
  split
  · rename_i hused
    exact iff_of_true ⟨_, rfl⟩ (.inr hused)
  · rename_i hused
    split
    · rename_i hthere
      exact iff_of_false (fun ⟨_, he⟩ => nomatch he) (not_or.mpr ⟨not_not_intro hthere, hused⟩)
    · rename_i hmissing
      exact iff_of_true ⟨_, rfl⟩ (.inl hmissing)

/-- The refusal of a subject for its ring does not read like one for its
    codename. -/
theorem message_missingOwner_ne (what codename : String) :
    (StoreError.missingOwner what).message
      ≠ "Subject '" ++ codename ++ "'" ++ " already exists" := by
  show "Failed to write " ++ what ++ ": " ++ StoreError.brokenReference ≠ _
  intro h
  -- the one begins with an F, the other with an S
  have hfirst := congrArg (fun text => text.toList.head?) h
  simp at hfirst

/-- A refusal reads "already exists" exactly for a codename that is in use in a
    ring that exists. -/
theorem createSubject_inUse_iff (hs : s.Constrained) :
    (∃ e, s.answer (.createSubject now ringId codename note) = .error e ∧
        e.message = "Subject '" ++ codename ++ "'" ++ " already exists") ↔
      (s.getRing ringId).isSome = true ∧ s.CodenameUsed ringId codename := by
  rw [answer_createSubject]
  split
  · rename_i hused
    have hcodename := codenameUsed_iff.mpr hused
    exact iff_of_true ⟨_, rfl, rfl⟩ ⟨hasRing_iff_getRing.mp (hcodename.hasRing hs), hcodename⟩
  · rename_i hunused
    refine iff_of_false ?_ (fun h => hunused (codenameUsed_iff.mp h.2))
    rintro ⟨e, he, hmessage⟩
    split at he
    · cases he
    · cases he
      exact message_missingOwner_ne _ _ hmessage

/-! ## Every run -/

/-- **THE STORE KEEPS ITS PROMISES** on every run of calls from a new store: its
    tables satisfy their constraints; no part gives out an id twice; a ring is
    refused exactly when its name is in use, a subject exactly when there is no
    such ring or the codename is in use in it, which the refusal then says if
    the ring exists; and whatever is refused changes nothing. -/
theorem run_promises (calls : List Call) :
    (fresh.afterAll calls).Constrained ∧
    (∀ part, (givenBy part fresh calls).Nodup) ∧
    (∀ now name note,
      (∃ e, (fresh.afterAll calls).answer (.createRing now name note) = .error e) ↔
        ∃ ring ∈ (fresh.afterAll calls).listRings, ring.name = name) ∧
    (∀ now ringId codename note,
      ((∃ e, (fresh.afterAll calls).answer (.createSubject now ringId codename note) = .error e) ↔
        (fresh.afterAll calls).getRing ringId = none ∨
          (fresh.afterAll calls).CodenameUsed ringId codename) ∧
      ((∃ e, (fresh.afterAll calls).answer (.createSubject now ringId codename note) = .error e ∧
          e.message = "Subject '" ++ codename ++ "'" ++ " already exists") ↔
        ((fresh.afterAll calls).getRing ringId).isSome = true ∧
          (fresh.afterAll calls).CodenameUsed ringId codename)) ∧
    ∀ call e, (fresh.afterAll calls).answer call = .error e →
      (fresh.afterAll calls).after call = fresh.afterAll calls := by
  have hconstrained := fresh_constrained.afterAll calls
  refine ⟨hconstrained, ?_, ?_, ?_, ?_⟩
  · intro part
    exact (givenBy_pairwise calls fresh).imp (fun hlt => Int.ne_of_lt hlt)
  · intro now name note
    exact createRing_refused_iff
  · intro now ringId codename note
    exact ⟨createSubject_refused_iff, createSubject_inUse_iff hconstrained⟩
  · intro call e he
    exact after_of_refused he

/-- A name that is free again: the second ring of the name gets an id of its
    own, and a third one is refused. -/
theorem run_promises_renewed :
    let calls : List Call :=
      [.createRing "08:00" "berlin" "", .deleteRing 1, .createRing "08:01" "berlin" ""]
    givenBy .rings fresh calls = [1, 2] ∧ (givenBy .rings fresh calls).Nodup ∧
      (fresh.afterAll calls).after (.createRing "08:02" "berlin" "") = fresh.afterAll calls := by
  intro calls
  obtain ⟨-, hids, -, -, hrefused⟩ := run_promises calls
  exact ⟨by decide, hids .rings, hrefused _ (.inUse "Ring 'berlin'") (by decide)⟩

end Dossier.Store
