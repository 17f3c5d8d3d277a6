import Dossier.Proofs.Store.Call
/-! # Recorded versions

    The versions of the schema that a store has been brought to are no business
    of commands: no call changes them (`versions_after`).  A store is opened by
    the highest version.  If the version in use is recorded, and no later one, the
    store is opened as it is; if a later one is recorded it is refused
    (`opened_of_recorded`). -/

namespace Dossier.Store

variable {s : Store} {version : Int}

/-! ## The highest version -/

/-- The greatest of some numbers is one of them, and none is greater. -/
theorem foldl_max_spec (versions : List Int) : ∀ first : Int,
    first ≤ versions.foldl max first ∧ (∀ v ∈ versions, v ≤ versions.foldl max first) ∧
      (versions.foldl max first = first ∨ versions.foldl max first ∈ versions) := by
  induction versions with
  | nil => exact fun first => ⟨Int.le_refl first, nofun, .inl rfl⟩
  | cons next versions ih =>
      intro first
      obtain ⟨hfirst, hall, hmem⟩ := ih (max first next)
      rw [List.foldl_cons]
      refine ⟨by omega, List.forall_mem_cons.mpr ⟨by omega, hall⟩, ?_⟩
      rcases hmem with hsame | hlater
      · rcases Int.le_total first next with hle | hle
        · rw [hsame, Int.max_eq_right hle]
          exact .inr List.mem_cons_self
        · rw [hsame, Int.max_eq_left hle]
          exact .inl rfl
      · exact .inr (List.mem_cons_of_mem next hlater)

/-- The version of a store is the highest that is recorded. -/
theorem version_spec (hne : s.versions ≠ []) :
    s.version ∈ s.versions ∧ ∀ v ∈ s.versions, v ≤ s.version := by
  rw [version]
  cases hversions : s.versions with
  | nil => exact absurd hversions hne
  | cons first versions =>
      obtain ⟨hfirst, hall, hmem⟩ := foldl_max_spec versions first
      refine ⟨?_, List.forall_mem_cons.mpr ⟨hfirst, hall⟩⟩
      rcases hmem with hsame | hlater
      · dsimp only
        rw [hsame]
        exact List.mem_cons_self
      · exact List.mem_cons_of_mem first hlater

/-! ## Opening -/

/-- **A STORE WITH THE VERSION IN USE** is opened as it is, unless a later version
    is recorded as well. -/
theorem opened_of_recorded (h : schemaVersion ∈ s.versions) :
    ((∀ v ∈ s.versions, v ≤ schemaVersion) → s.opened = .ok s) ∧
      ((∃ v ∈ s.versions, schemaVersion < v) →
        s.opened = .error (.newerSchema s.version) ∨ s.opened = .error .unreadableSchema) := by
  obtain ⟨hmem, hhighest⟩ := version_spec (List.ne_nil_of_mem h)
  constructor
  · intro hall
    have hversion : s.version = schemaVersion :=
      Int.le_antisymm (hall _ hmem) (hhighest _ h)
    rw [opened, hversion]
    rfl
  · rintro ⟨v, hv, hlater⟩
    have hahead : schemaVersion < s.version := Int.lt_of_lt_of_le hlater (hhighest v hv)
    rw [opened, if_pos hahead]
    split
    · exact .inr rfl
    · exact .inl rfl

/-! ## Calls -/

/-- **NO CALL** changes the recorded versions. -/
theorem versions_after (s : Store) (call : Call) : (s.after call).versions = s.versions := by
  have hleft {α : Type} {r : Change α} (hr : ∀ a t, r = .ok (a, t) → t.versions = s.versions) :
      (s.left r).versions = s.versions :=
    left_induction (P := fun t => t.versions = s.versions) rfl r hr
  -- no call names the table of versions; the insertions are known by what they are granted
  cases call with
  | createRing =>
      refine hleft (fun id t hop => ?_)
      obtain ⟨-, -, rfl⟩ := createRing_granted hop
      rfl
  | createSubject =>
      refine hleft (fun id t hop => ?_)
      obtain ⟨-, -, -, rfl⟩ := createSubject_granted hop
      rfl
  | createInformation =>
      refine hleft (fun id t hop => ?_)
      obtain ⟨-, -, rfl⟩ := createInformation_granted hop
      rfl
  | createLocation =>
      refine hleft (fun id t hop => ?_)
      obtain ⟨-, -, -, -, rfl⟩ := createLocation_granted hop
      rfl
  | createTime =>
      refine hleft (fun id t hop => ?_)
      obtain ⟨-, -, rfl⟩ := createTime_granted hop
      rfl
  | createAssociation =>
      refine hleft (fun id t hop => ?_)
      obtain ⟨-, -, rfl⟩ := createAssociation_granted hop
      rfl
  | addMember =>
      refine hleft (fun _ t hop => ?_)
      obtain ⟨hsame, -⟩ := addMember_outcome hop
      rw [hsame]
  | setRingNote | updateInformationValue => rfl
  | deleteRing id =>
      simp only [after, deleteRing_eq]
      split <;> rfl
  | deleteAssociation id =>
      simp only [after, deleteAssociation]
      split <;> rfl
  | deleteEntity kind id =>
      simp only [after, deleteEntity_eq]
      cases kind with
      | subject =>
          simp only [removeEntity]
          split <;> rfl
      | information | location | time => rfl

/-! ## Recording -/

/-- The store with one more version recorded. A version is recorded once. -/
def record (s : Store) (version : Int) : Store :=
  if version ∈ s.versions then s else { s with versions := s.versions ++ [version] }

/-- The version in use is recorded exactly once. -/
def Recorded (s : Store) : Prop :=
  s.versions.count schemaVersion = 1

/-- A new store has its version recorded. -/
theorem fresh_recorded : fresh.Recorded :=
  (by decide : fresh.versions.count schemaVersion = 1)

/-- What is recorded once is recorded. -/
theorem Recorded.mem (h : s.Recorded) : schemaVersion ∈ s.versions := by
  refine List.count_pos_iff.mp ?_
  rw [h]
  exact Nat.one_pos

/-- No call touches the versions. -/
theorem Recorded.after (h : s.Recorded) (call : Call) : (s.after call).Recorded := by
  rw [Recorded, versions_after]
  exact h

/-- Recording another version does not record this one again. -/
theorem Recorded.record (h : s.Recorded) (version : Int) : (s.record version).Recorded := by
  rw [Store.record]
  split
  · exact h
  · rename_i hnew
    have hne : version ≠ schemaVersion := fun heq => hnew (heq ▸ h.mem)
    rw [Recorded, List.count_append, List.count_singleton, h]
    simp [hne]

end Dossier.Store
