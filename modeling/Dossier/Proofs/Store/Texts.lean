import Dossier.Proofs.Store.Rows
import Dossier.Proofs.Text.OneLine
/-! # The texts of rows

    Names, notes, descriptions, moments and times are kept as texts; the value
    of an entry is kept as bytes and is not among them.  The texts of a new row
    are those of the call that brings it, and a row that is rewritten takes its
    new texts from the call.

    So a store is TIDY, with every text on one line, as long as the texts of
    every call are (`Tidy.after`). -/

namespace Dossier.Store

open Text

/-- The texts of a row. -/
def Row.texts : Row → List String
  | .ring row => [row.name, row.note, row.createdAt]
  | .subject row => [row.codename, row.note, row.createdAt]
  | .information row => [row.name, row.note, row.createdAt, row.modifiedAt]
  | .location row => [row.name, row.note, row.createdAt]
  | .time row => [row.moment, row.note, row.createdAt]
  | .association row => [row.description, row.createdAt]
  | .member _ => []

/-- The texts that a call hands to the store. -/
def Call.texts : Call → List String
  | .createRing now name note => [now, name, note]
  | .setRingNote _ note => [note]
  | .createSubject now _ codename note => [now, codename, note]
  | .createInformation now _ _ name _ note => [now, name, note]
  | .updateInformationValue now _ _ => [now]
  | .createLocation now _ name _ _ note => [now, name, note]
  | .createTime now _ moment note => [now, moment, note]
  | .createAssociation now _ _ description => [now, description]
  | _ => []

/-- Every text of every row is on one line. -/
def Tidy (s : Store) : Prop :=
  ∀ row, s.Holds row → ∀ text ∈ row.texts, OneLine text

variable {s : Store} {call : Call} {row : Row}

/-- There are no texts at first. -/
theorem fresh_tidy : fresh.Tidy := by
  intro row hrow
  cases row with
  | _ => cases hrow

/-! ## One call -/

/-- A new row has the texts of its call. -/
theorem Brings.texts (h : s.Brings call row) : row.texts ⊆ call.texts := by
  cases call with
  | createRing | createSubject | createInformation | createLocation | createTime
  | createAssociation =>
      obtain ⟨id, -, rfl⟩ := h
      simp [Row.texts, Call.texts]
  | addMember =>
      obtain ⟨-, rfl⟩ := h
      exact List.nil_subset _
  | setRingNote | deleteRing | updateInformationValue | deleteAssociation | deleteEntity =>
      exact h.elim

/-- A rewritten row has no other texts than before and those of the call. -/
theorem texts_rewrite (call : Call) (row : Row) :
    (call.rewrite row).texts ⊆ row.texts ++ call.texts := by
  have hsame : row.texts ⊆ row.texts ++ call.texts := List.subset_append_left _ _
  cases row with
  | ring row =>
      cases call with
      | setRingNote id note =>
          simp only [Call.rewrite, Call.rewriteRing]
          split
          · simp [Row.texts, Call.texts]
          · exact hsame
      | _ => exact hsame
  | information row =>
      cases call with
      | updateInformationValue now id value =>
          simp only [Call.rewrite, Call.rewriteEntry]
          split
          · simp [Row.texts, Call.texts]
          · exact hsame
      | _ => exact hsame
  | _ => exact hsame

/-- **ONE CALL** keeps a store tidy if its texts are on one line. -/
theorem Tidy.after (h : s.Tidy) (hs : s.Constrained)
    (hcall : ∀ text ∈ call.texts, OneLine text) : (s.after call).Tidy := by
  intro row hrow text htext
  -- a row after the call is a new one, or an old one as the call has rewritten it
  rcases (holds_after_iff hs).mp hrow with hnew | ⟨old, hold, -, rfl⟩
  · exact hcall text (hnew.texts htext)
  · rcases List.mem_append.mp (texts_rewrite call old htext) with hbefore | hcalled
    · exact h old hold text hbefore
    · exact hcall text hcalled

/-! ## Labels -/

/-- The label of an entity is made of texts of rows. -/
theorem Tidy.memberLabel (h : s.Tidy) {kind : EntityKind} {id : Int} {label : String}
    (hlabel : s.memberLabel kind id = some label) : OneLine label := by
  cases kind with
  | subject =>
      obtain ⟨row, hrow, rfl⟩ := Option.map_eq_some_iff.mp hlabel
      exact h (.subject row) (List.mem_of_find?_eq_some hrow) _ (by simp [Row.texts])
  | information =>
      rw [Store.memberLabel] at hlabel
      cases hfound : s.getInformation id with
      | none =>
          rw [hfound] at hlabel
          cases hlabel
      | some entry =>
          rw [hfound] at hlabel
          obtain ⟨owner, howner, rfl⟩ := Option.map_eq_some_iff.mp hlabel
          have hcodename : OneLine owner.codename :=
            h (.subject owner) (List.mem_of_find?_eq_some howner) _ (by simp [Row.texts])
          have hname : OneLine entry.name :=
            h (.information entry) (List.mem_of_find?_eq_some hfound) _ (by simp [Row.texts])
          exact (hcodename.append (by decide)).append hname
  | location =>
      obtain ⟨row, hrow, rfl⟩ := Option.map_eq_some_iff.mp hlabel
      exact h (.location row) (List.mem_of_find?_eq_some hrow) _ (by simp [Row.texts])
  | time =>
      obtain ⟨row, hrow, rfl⟩ := Option.map_eq_some_iff.mp hlabel
      exact h (.time row) (List.mem_of_find?_eq_some hrow) _ (by simp [Row.texts])

end Dossier.Store
