import Dossier.Proofs.Evaluator
import Dossier.Proofs.Formatter
import Dossier.Proofs.Store.Texts
/-! # What commands answer with

    The lines of an answer have few FORMS (`Session.Writes`).  A line shows a
    row, as the formatter writes it, or it is a message: a text of the program's
    own in front, and at the end perhaps a text that somebody else has written,
    an argument or the name of a row.  Every command answers with a flat listing
    of such lines, but for `a` and `sv`, which answer with a group for each
    association or subject, and for `help`.

    In the same way the texts that a command hands to the store are of few kinds:
    arguments, the present time, and texts on one line (`Surroundings.Hands`).

    There is one lemma for each command, and `builtin_shows` collects them, as
    `builtin_hands` does for the texts that are handed over.
    What holds of every form of line then holds of all answers, and what calls
    of the store keep when their texts are of these kinds is kept by all
    commands. -/

namespace Dossier

open Text Store Session Dossier.Action

/-! ## Actions whose session does not matter -/

namespace Action

variable {α β : Type} {act : Action α} {f : α → Action β} {σ : Session}

/-- In every session the answer of the action is as `P` says. -/
def Says (P : α → Prop) (act : Action α) : Prop :=
  ∀ σ, Ends act σ (fun a _ => P a) (fun _ => True)

/-- Nothing is said of the ends, so every action has such ends. -/
theorem ends_trivial : Ends act σ (fun _ _ => True) (fun _ => True) := by
  unfold Ends
  split <;> trivial

/-- Only the last of two actions answers. -/
theorem Says.bind {P : β → Prop} (h : ∀ a, Says P (f a)) : Says P (act >>= f) :=
  fun _ => ends_trivial.bind (fun a τ _ => h a τ)

theorem says_pure {P : α → Prop} {a : α} (h : P a) : Says P (pure a) :=
  fun _ => ends_pure h

theorem says_ite {P : α → Prop} {p : Prop} [Decidable p] {first second : Action α}
    (hfirst : Says P first) (hsecond : Says P second) :
    Says P (if p then first else second) := by
  split
  · exact hfirst
  · exact hsecond

/-- Two accounts of the same run. -/
theorem Ends.and {Q Q' : α → Session → Prop} {F F' : Session → Prop} (h : Ends act σ Q F)
    (h' : Ends act σ Q' F') :
    Ends act σ (fun a τ => Q a τ ∧ Q' a τ) (fun τ => F τ ∧ F' τ) := by
  unfold Ends at h h' ⊢
  revert h h'
  rcases act.run.run σ with ⟨_ | a, τ⟩
  · exact And.intro
  · exact And.intro

/-- After a step that only looks, the rest starts from the same session. -/
theorem Reads.bind_of {R : α → Prop} {Q : β → Session → Prop} {F : Session → Prop}
    (h : Reads act σ R) (hF : F σ) (k : ∀ a, R a → Ends (f a) σ Q F) :
    Ends (act >>= f) σ Q F := by
  refine Ends.bind (h.mono (fun _ _ ha => ha) ?_) ?_
  · rintro τ rfl
    exact hF
  · rintro a τ ⟨rfl, ha⟩
    exact k a ha

end Action

/-! ## Forms of lines -/

/-- The text is on one line, or it is an argument or a text of a row. -/
def Session.Knows (σ : Session) (args : List String) (text : String) : Prop :=
  OneLine text ∨ text ∈ args ∨ ∃ s row, σ.store = some s ∧ s.Holds row ∧ text ∈ row.texts

/-- The forms of the lines of a flat answer, and of those below the header of a
    group. -/
inductive Session.Writes (σ : Session) (args : List String) : Line → Prop
  | ring {s : Store} {row : Ring} (selected : Bool) : σ.store = some s → row ∈ s.rings.rows →
      Writes σ args ⟨σ.formatter.ring row selected⟩
  | subject {s : Store} {row : Subject} (selected : Bool) : σ.store = some s →
      row ∈ s.subjects.rows → Writes σ args ⟨σ.formatter.subject row selected⟩
  | information {s : Store} {row : Information} : σ.store = some s → row ∈ s.information.rows →
      Writes σ args ⟨σ.formatter.information row⟩
  | informationBelow {s : Store} {row : Information} : σ.store = some s →
      row ∈ s.information.rows → Writes σ args ⟨"  " ++ σ.formatter.information row⟩
  | location {s : Store} {row : Location} : σ.store = some s → row ∈ s.locations.rows →
      Writes σ args ⟨σ.formatter.location row⟩
  | time {s : Store} {row : TimeEntry} : σ.store = some s → row ∈ s.times.rows →
      Writes σ args ⟨σ.formatter.time row⟩
  | member {s : Store} (row : Member) : σ.store = some s →
      Writes σ args ⟨σ.formatter.member row (s.memberLabel row.kind row.targetId)⟩
  | message {front text : String} : Line.Opens front → OneLine front → σ.Knows args text →
      Writes σ args ⟨front ++ text⟩

/-- A flat answer of such lines. -/
def Session.Lists (σ : Session) (args : List String) (listing : Listing) : Prop :=
  ∃ lines, listing = .flat lines ∧ ∀ line ∈ lines, σ.Writes args line

/-- A group for each association of the selected ring. -/
def Session.GroupsAssociations (σ : Session) (listing : Listing) : Prop :=
  ∃ ring s, σ.ring = some ring ∧ σ.store = some s ∧ listing =
    .grouped ((s.listAssociations ring.id).map (Commands.Associations.group σ.formatter s))

/-- A group for each subject of the selected ring that the arguments choose. -/
def Session.GroupsSubjects (σ : Session) (args : List String) (listing : Listing) : Prop :=
  ∃ ring s, σ.ring = some ring ∧ σ.store = some s ∧ listing =
    .grouped ((Commands.Subjects.chosen s ring.id args).map
      (Commands.Subjects.group σ.formatter s))

/-- The answer of the command of a name. -/
def Session.Answers (σ : Session) (name : String) (args : List String) (listing : Listing) : Prop :=
  match name with
  | "a" | "assocs" => σ.GroupsAssociations listing
  | "sv" => σ.GroupsSubjects args listing
  | _ => σ.Lists args listing

variable {σ : Session} {s : Store} {args : List String} {front text : String}

/-- The words for kinds of rows are on one line. -/
theorem oneLine_kind (kind : EntityKind) : OneLine kind.word := by
  cases kind <;> decide

/-- What is put behind a text leaves its first character in place. -/
theorem exists_mem_head?_append {p : Char → Prop} (h : ∃ c ∈ front.toList.head?, p c)
    (rest : String) : ∃ c ∈ (front ++ rest).toList.head?, p c := by
  obtain ⟨c, hhead, hc⟩ := h
  obtain ⟨cs, hcs⟩ := List.head?_eq_some_iff.mp hhead
  refine ⟨c, ?_, hc⟩
  rw [String.toList_append, hcs]
  rfl

/-- The text can stand in front of a message. -/
def Line.Leads (front : String) : Prop :=
  Line.Opens front ∧ OneLine front

instance (front : String) : Decidable (Line.Leads front) :=
  inferInstanceAs (Decidable (_ ∧ _))

/-- A text on one line makes the front of a message longer. -/
theorem Line.Leads.append (h : Line.Leads front) (htext : OneLine text) :
    Line.Leads (front ++ text) :=
  ⟨exists_mem_head?_append h.1 text, h.2.append htext⟩

/-- A message that ends in a text of the program's own. -/
theorem Session.Writes.fixed (hfront : Line.Leads front) (htext : OneLine text) :
    σ.Writes args ⟨front ++ text⟩ :=
  .message hfront.1 hfront.2 (.inl htext)

/-- An argument is known. -/
theorem knows_argument {index : Nat} (h : args[index]? = some text) : σ.Knows args text :=
  .inr (.inl (List.mem_of_getElem? h))

/-- A text of a row that the store holds is known. -/
theorem knows_row {row : Store.Row} (hs : σ.store = some s) (hrow : s.Holds row)
    (htext : text ∈ row.texts) : σ.Knows args text :=
  .inr (.inr ⟨s, row, hs, hrow, htext⟩)

/-- The answer of a command that reports what it has done. -/
theorem lists_message (hfront : Line.Leads front) (htext : σ.Knows args text) :
    σ.Lists args (.message (front ++ text)) := by
  refine ⟨_, rfl, fun line hline => ?_⟩
  obtain rfl := List.mem_singleton.mp hline
  exact .message hfront.1 hfront.2 htext

/-- The answer of a command that lists rows. -/
theorem lists_rows {α : Type} {rows : List α} {write : α → String}
    (h : ∀ row ∈ rows, σ.Writes args ⟨write row⟩) : σ.Lists args (.ofTexts (rows.map write)) := by
  refine ⟨_, rfl, fun line hline => ?_⟩
  rw [List.map_map] at hline
  obtain ⟨row, hrow, rfl⟩ := List.mem_map.mp hline
  exact h row hrow

/-- The answer of a loop has a line of a known form for each id. -/
theorem says_forEach {g : Int → Action Line} (ids : List Int)
    (h : ∀ id, Says (σ.Writes args) (g id)) :
    Says (σ.Lists args) (ids.mapM g >>= fun lines => pure (Listing.flat lines)) := by
  intro τ
  refine (ends_mapM_answers (I := fun _ => True) (R := σ.Writes args) ids
    (fun id _ τ _ => ?_) τ trivial).bind ?_
  · exact (h id τ).mono (fun _ _ hline => ⟨hline, trivial⟩) (fun _ h => h)
  · rintro lines τ' ⟨hlines, -⟩
    exact ends_pure ⟨lines, rfl, hlines⟩

/-- A message that names a row by its number. -/
theorem lists_numbered (hfront : Line.Leads front) (id : Int) :
    σ.Lists args (.message (front ++ toString id)) :=
  lists_message hfront (.inl (oneLine_int id))

/-- A message that names a row by its number and its name. -/
theorem lists_named (hfront : Line.Leads front) (id : Int) (htext : σ.Knows args text) :
    σ.Lists args (.message (front ++ toString id ++ " " ++ text)) :=
  lists_message ((hfront.append (oneLine_int id)).append (by decide)) htext

/-- The answers of a handler have a shape, whatever becomes of the session. -/
def Handler.Shows (handler : Handler) (shape : Session → List String → Listing → Prop) : Prop :=
  ∀ around args σ,
    Ends (handler around args) σ (fun listing _ => shape σ args listing) (fun _ => True)

/-! ## The commands -/

namespace Commands

variable {around : Surroundings}

/-- A command that lists rows of the selected ring. -/
theorem ends_rows {α : Type} {rows : Store → Int → List α} {write : Formatter → α → String}
    (h : ∀ (ring : Ring) s, σ.ring = some ring → σ.store = some s →
      ∀ row ∈ rows s ring.id, σ.Writes args ⟨write σ.formatter row⟩) :
    Ends (do
      let ring ← requireRing
      let formatter ← formatter
      let store ← requireStore
      return Listing.ofTexts ((rows store ring.id).map (write formatter))) σ
      (fun listing _ => σ.Lists args listing) (fun _ => True) := by
  refine reads_requireRing.bind_of trivial (fun ring hring => ?_)
  refine reads_formatter.bind_of trivial ?_
  rintro _ rfl
  refine reads_requireStore.bind_of trivial (fun s hs => ?_)
  exact ends_pure (lists_rows (h ring s hring hs))

/-- A round of a loop that deletes a row if it is found. -/
theorem says_delete {test : Store → Bool} {operation : Store → Bool × Store}
    {deleted missing : String} {id : Int} (hdeleted : Line.Leads deleted)
    (hmissing : Line.Leads missing) :
    Says (σ.Writes args) (do
      let store ← requireStore
      if test store then
        let _ ← changeRow operation
        return ⟨deleted ++ toString id⟩
      else return ⟨missing ++ toString id⟩) := by
  refine .bind fun _ => says_ite (.bind fun _ => says_pure ?_) (says_pure ?_)
  · exact .fixed hdeleted (oneLine_int id)
  · exact .fixed hmissing (oneLine_int id)

/-- A loop over the ids that an argument lists, in the selected ring. -/
theorem ends_loop {g : Int → Int → Action Line} {usage : String}
    (h : ∀ ringId id, Says (σ.Writes args) (g ringId id)) :
    Ends (do
      let ring ← requireRing
      let ids ← idList args 0 usage
      let _ ← requireStore
      return Listing.flat (← ids.mapM (g ring.id))) σ
      (fun listing _ => σ.Lists args listing) (fun _ => True) := by
  refine ends_trivial.bind (fun ring _ _ => ends_trivial.bind (fun ids _ _ => ?_))
  refine ends_trivial.bind (fun _ τ _ => ?_)
  exact says_forEach ids (h ring.id) τ

namespace Rings

/-- `r` shows the rings. -/
theorem list_shows : list.Shows Session.Lists := by
  intro around args σ
  refine reads_get.bind_of trivial ?_
  rintro _ rfl
  refine reads_requireStore.bind_of trivial (fun s hs => ?_)
  exact ends_pure (lists_rows (fun row hrow => .ring _ hs hrow))

/-- `ra` answers with the id of the new ring and the name that it was given. -/
theorem add_shows : add.Shows Session.Lists := by
  intro around args σ
  refine reads_argument.bind_of trivial (fun name hname => ?_)
  refine ends_trivial.bind (fun id _ _ => ?_)
  exact ends_pure (lists_named (by decide) id (knows_argument hname))

/-- `rs` names the ring that it selects as the store has it. -/
theorem select_shows : select.Shows Session.Lists := by
  intro around args σ
  refine reads_argument.bind_of trivial (fun text _ => ?_)
  refine reads_parseId.bind_of trivial (fun id _ => ?_)
  refine reads_requireStore.bind_of trivial (fun s hs => ?_)
  cases hring : s.getRing id with
  | none => exact ends_throw trivial
  | some ring =>
      refine ends_trivial.bind (fun _ _ _ => ?_)
      have hrow : s.Holds (.ring ring) := List.mem_of_find?_eq_some hring
      exact ends_pure (lists_named (by decide) ring.id
        (knows_row hs hrow List.mem_cons_self))

/-- `rn` answers with the id of the ring. -/
theorem setNote_shows : setNote.Shows Session.Lists := by
  intro around args σ
  refine ends_trivial.bind (fun _ _ _ => ends_trivial.bind (fun id _ _ => ?_))
  refine ends_trivial.bind (fun _ _ _ => ends_trivial.bind (fun found _ _ => ?_))
  cases found with
  | true =>
      refine ends_trivial.bind (fun _ _ _ => ?_)
      exact ends_pure (lists_numbered (by decide) id)
  | false => exact ends_throw trivial

/-- The line for one id of `rd`, whether there was such a ring or not. -/
theorem deleteOne_writes (id : Int) : Says (σ.Writes args) (deleteOne id) :=
  .bind fun _ => says_ite
    (.bind fun _ => says_pure (.fixed (by decide) (oneLine_int id)))
    (says_pure (.fixed (by decide) (oneLine_int id)))

/-- `rd` answers with a line for each id. -/
theorem delete_shows : delete.Shows Session.Lists := by
  intro around args σ
  refine ends_trivial.bind (fun ids τ _ => ?_)
  exact says_forEach ids deleteOne_writes τ

end Rings

namespace Subjects

/-- `s` shows the subjects of the selected ring. -/
theorem list_shows : list.Shows Session.Lists := by
  intro around args σ
  refine reads_requireRing.bind_of trivial (fun ring _ => ?_)
  refine reads_get.bind_of trivial ?_
  rintro _ rfl
  refine reads_requireStore.bind_of trivial (fun s hs => ?_)
  exact ends_pure (lists_rows (fun row hrow => .subject _ hs (List.mem_of_mem_filter hrow)))

/-- `sa` answers with the id of the new subject and its codename. -/
theorem add_shows : add.Shows Session.Lists := by
  intro around args σ
  refine reads_requireRing.bind_of trivial (fun ring _ => ?_)
  refine reads_argument.bind_of trivial (fun codename hcodename => ?_)
  refine ends_trivial.bind (fun id _ _ => ?_)
  exact ends_pure (lists_named (by decide) id (knows_argument hcodename))

/-- `ss` names the subject that it selects as the store has it. -/
theorem select_shows : select.Shows Session.Lists := by
  intro around args σ
  refine reads_requireRing.bind_of trivial (fun ring _ => ?_)
  refine reads_argument.bind_of trivial (fun text _ => ?_)
  refine reads_parseId.bind_of trivial (fun id _ => ?_)
  refine reads_requireStore.bind_of trivial (fun s hs => ?_)
  cases hsubject : inRing s id ring.id with
  | none => exact ends_throw trivial
  | some subject =>
      refine ends_trivial.bind (fun _ _ _ => ?_)
      have hrow : s.Holds (.subject subject) :=
        List.mem_of_find?_eq_some (Option.filter_eq_some_iff.mp hsubject).1
      exact ends_pure (lists_named (by decide) subject.id
        (knows_row hs hrow List.mem_cons_self))

/-- The line for one id of `sd`. -/
theorem deleteOne_writes (ringId id : Int) : Says (σ.Writes args) (deleteOne ringId id) :=
  .bind fun _ => says_ite
    (.bind fun _ => .bind fun _ => says_pure (.fixed (by decide) (oneLine_int id)))
    (says_pure (.fixed (by decide) (oneLine_int id)))

/-- `sd` answers with a line for each id. -/
theorem delete_shows : delete.Shows Session.Lists := by
  intro around args σ
  refine ends_trivial.bind (fun ring _ _ => ends_trivial.bind (fun ids τ _ => ?_))
  exact says_forEach ids (deleteOne_writes ring.id) τ

/-- `sv` answers with a group for each subject that is chosen; no subject is a
    failure. -/
theorem view_shows : view.Shows Session.GroupsSubjects := by
  intro around args σ
  refine reads_requireRing.bind_of trivial (fun ring hring => ?_)
  refine reads_formatter.bind_of trivial ?_
  rintro _ rfl
  refine reads_requireStore.bind_of trivial (fun s hs => ?_)
  generalize hchosen : chosen s ring.id args = subjects
  cases subjects with
  | nil => exact ends_throw trivial
  | cons subject subjects => exact ends_pure ⟨ring, s, hring, hs, by rw [hchosen]⟩

end Subjects

namespace InformationEntries

/-- `i` shows the entries of the selected subject. -/
theorem list_shows : list.Shows Session.Lists := by
  intro around args σ
  refine reads_requireSubject.bind_of trivial (fun subject _ => ?_)
  refine reads_formatter.bind_of trivial ?_
  rintro _ rfl
  refine reads_requireStore.bind_of trivial (fun s hs => ?_)
  exact ends_pure (lists_rows (fun row hrow => .information hs (List.mem_of_mem_filter hrow)))

/-- What the three commands that create entries have in common. -/
theorem create_writes {kind : InformationKind} {name : String} {value : List UInt8}
    (hname : σ.Knows args name) : Says (σ.Lists args) (create around kind name value) :=
  .bind fun _ => .bind fun id => says_pure (lists_named (by decide) id hname)

theorem addText_shows : addText.Shows Session.Lists := by
  intro around args σ
  refine reads_argument.bind_of trivial (fun name hname => ?_)
  refine ends_trivial.bind (fun _ τ _ => ?_)
  exact create_writes (knows_argument hname) τ

/-- A file that cannot be read is a failure, so the answer of `iab` does not
    depend on what is in the file. -/
theorem addBinary_shows : addBinary.Shows Session.Lists := by
  intro around args σ
  refine reads_argument.bind_of trivial (fun name hname => ?_)
  refine ends_trivial.bind (fun path _ _ => ends_trivial.bind (fun _ τ _ => ?_))
  cases around.readFile path with
  | ok bytes => exact create_writes (knows_argument hname) τ
  | error error => exact ends_throw trivial

theorem addComposite_shows : addComposite.Shows Session.Lists := by
  intro around args σ
  refine reads_argument.bind_of trivial (fun name hname => ?_)
  refine ends_trivial.bind (fun ids _ _ => ends_trivial.bind (fun _ _ _ => ?_))
  refine ends_trivial.bind (fun _ τ _ => ?_)
  exact create_writes (knows_argument hname) τ

/-- `ie` says whether there was a change. The text itself is not shown. -/
theorem edit_shows : edit.Shows Session.Lists := by
  intro around args σ
  refine ends_trivial.bind (fun _ _ _ => ends_trivial.bind (fun id _ _ => ?_))
  refine ends_trivial.bind (fun subject _ _ => ends_trivial.bind (fun s _ _ => ?_))
  cases ofSubject s id subject.id with
  | none => exact ends_throw trivial
  | some entry =>
      dsimp only
      split
      · refine ends_trivial.bind (fun edited _ _ => ?_)
        split
        · have hfront : Line.Leads ("Information #" ++ toString id) :=
            .append (by decide) (oneLine_int id)
          exact ends_pure (lists_message hfront (.inl (by decide)))
        · refine ends_trivial.bind (fun _ _ _ => ?_)
          exact ends_pure (lists_numbered (by decide) id)
      · exact ends_throw trivial

theorem deleteOne_writes (subjectId id : Int) : Says (σ.Writes args) (deleteOne subjectId id) :=
  says_delete (by decide) (by decide)

theorem delete_shows : delete.Shows Session.Lists := by
  intro around args σ
  refine ends_trivial.bind (fun ids _ _ => ends_trivial.bind (fun subject _ _ => ?_))
  refine ends_trivial.bind (fun _ τ _ => ?_)
  exact says_forEach ids (deleteOne_writes subject.id) τ

end InformationEntries

namespace Locations

/-- `l` shows the locations of the selected ring. -/
theorem list_shows : list.Shows Session.Lists :=
  fun _ _ _ => ends_rows (fun _ _ _ hs _ hrow => .location hs (List.mem_of_mem_filter hrow))

/-- `la` answers with the id of the new location and its name. -/
theorem add_shows : add.Shows Session.Lists := by
  intro around args σ
  refine reads_requireRing.bind_of trivial (fun ring _ => ?_)
  refine reads_argument.bind_of trivial (fun _ _ => ?_)
  refine reads_coordinate.bind_of trivial (fun latitude _ => ?_)
  refine reads_argument.bind_of trivial (fun _ _ => ?_)
  refine reads_coordinate.bind_of trivial (fun longitude _ => ?_)
  refine reads_argument.bind_of trivial (fun name hname => ?_)
  refine ends_trivial.bind (fun id _ _ => ?_)
  exact ends_pure (lists_named (by decide) id (knows_argument hname))

theorem deleteOne_writes (ringId id : Int) : Says (σ.Writes args) (deleteOne ringId id) :=
  says_delete (by decide) (by decide)

theorem delete_shows : delete.Shows Session.Lists :=
  fun _ _ _ => ends_loop deleteOne_writes

end Locations

namespace Times

/-- `t` shows the times of the selected ring, in their order. -/
theorem list_shows : list.Shows Session.Lists := by
  refine fun _ _ _ => ends_rows (fun _ _ _ hs row hrow => .time hs ?_)
  exact List.mem_of_mem_filter ((sorted_perm _ _).mem_iff.mp hrow)

/-- `ta` answers with the moment as it is stored, which is on one line whatever
    the argument was. -/
theorem add_shows : add.Shows Session.Lists := by
  intro around args σ
  refine reads_requireRing.bind_of trivial (fun ring _ => ?_)
  refine reads_argument.bind_of trivial (fun _ _ => ?_)
  refine reads_moment.bind_of trivial ?_
  rintro _ ⟨m, -, rfl⟩
  refine ends_trivial.bind (fun id _ _ => ?_)
  exact ends_pure (lists_named (by decide) id (.inl (oneLine_stored m)))

theorem deleteOne_writes (ringId id : Int) : Says (σ.Writes args) (deleteOne ringId id) :=
  says_delete (by decide) (by decide)

theorem delete_shows : delete.Shows Session.Lists :=
  fun _ _ _ => ends_loop deleteOne_writes

end Times

namespace Associations

/-- `a` answers with a group for each association. -/
theorem list_shows : list.Shows (fun σ _ listing => σ.GroupsAssociations listing) := by
  intro around args σ
  refine reads_requireRing.bind_of trivial (fun ring hring => ?_)
  refine reads_formatter.bind_of trivial ?_
  rintro _ rfl
  refine reads_requireStore.bind_of trivial (fun s hs => ?_)
  exact ends_pure ⟨ring, s, hring, hs, rfl⟩

theorem add_shows : add.Shows Session.Lists := by
  intro around args σ
  refine ends_trivial.bind (fun ring _ _ => ends_trivial.bind (fun text _ _ => ?_))
  cases Text.toInt? text with
  | none => exact ends_throw trivial
  | some level =>
      refine ends_trivial.bind (fun _ _ _ => ends_trivial.bind (fun id _ _ => ?_))
      exact ends_pure (lists_numbered (by decide) id)

/-- The line for one id names the kind, the id and the association, numbers and
    words of the program's own. -/
theorem linkOne_writes (kind : EntityKind) (associationId ringId id : Int) :
    Says (σ.Writes args) (linkOne kind associationId ringId id) := by
  refine .bind fun _ => says_ite (.bind fun _ => says_pure ?linked) (says_pure ?missing)
  case linked =>
    have hword : Line.Leads ("Linked " ++ kind.word) := .append (by decide) (oneLine_kind kind)
    have hentity := (hword.append (by decide : OneLine " #")).append (oneLine_int id)
    exact .fixed (hentity.append (by decide)) (oneLine_int associationId)
  case missing =>
    have hword : Line.Leads ("No " ++ kind.word) := .append (by decide) (oneLine_kind kind)
    have hentity := hword.append (by decide : OneLine " with id ")
    exact .fixed (hentity.append (oneLine_int id)) (by decide)

/-- The commands that link answer with a line for each id. -/
theorem link_shows (kind : EntityKind) (name : String) : (link kind name).Shows Session.Lists := by
  intro around args σ
  refine ends_trivial.bind (fun ring _ _ => ends_trivial.bind (fun _ _ _ => ?_))
  refine ends_trivial.bind (fun associationId _ _ => ends_trivial.bind (fun ids _ _ => ?_))
  refine ends_trivial.bind (fun s τ _ => ?_)
  split
  · exact says_forEach ids (linkOne_writes kind associationId ring.id) τ
  · exact ends_throw trivial

theorem deleteOne_writes (ringId id : Int) : Says (σ.Writes args) (deleteOne ringId id) :=
  says_delete (by decide) (by decide)

theorem delete_shows : delete.Shows Session.Lists :=
  fun _ _ _ => ends_loop deleteOne_writes

end Associations

namespace System

theorem toggleDebug_shows : toggleDebug.Shows Session.Lists := by
  intro around args σ
  refine ends_trivial.bind (fun _ _ _ => ends_trivial.bind (fun _ _ _ => ?_))
  exact ends_pure (lists_message (by decide) (.inl (oneLine_ite (by decide) (by decide))))

theorem quit_shows : quit.Shows Session.Lists := by
  intro around args σ
  refine ends_trivial.bind (fun _ _ _ => ?_)
  exact ends_pure ⟨[], rfl, nofun⟩

end System

end Commands

/-! ## The texts that commands hand to the store -/

/-- The text is given to a command, or it is one of the program's own, on one
    line. -/
inductive Surroundings.Gives (around : Surroundings) (args : List String) : String → Prop
  | now : Gives around args around.now
  | argument {index : Nat} {text : String} : args[index]? = some text → Gives around args text
  | rest (index : Nat) : Gives around args (restFrom args index)
  | own {text : String} : OneLine text → Gives around args text

/-- Every text of the call is given. -/
def Surroundings.Hands (around : Surroundings) (args : List String) (call : Store.Call) : Prop :=
  ∀ text ∈ call.texts, around.Gives args text

/-- All texts of the calls that a handler makes are given. -/
def Handler.HandsGiven (handler : Handler) : Prop :=
  ∀ around args σ,
    Ends (handler around args) σ (fun _ τ => StepsBy (around.Hands args) σ τ) (· = σ)

namespace Commands

variable {around : Surroundings}

/-- A call with one text. -/
theorem hands_one {call : Store.Call} {a : String} (htexts : call.texts = [a])
    (ha : around.Gives args a) : around.Hands args call := by
  rw [Surroundings.Hands, htexts]
  exact List.forall_mem_singleton.mpr ha

/-- A call with two texts. -/
theorem hands_two {call : Store.Call} {a b : String} (htexts : call.texts = [a, b])
    (ha : around.Gives args a) (hb : around.Gives args b) : around.Hands args call := by
  rw [Surroundings.Hands, htexts]
  exact List.forall_mem_cons.mpr ⟨ha, List.forall_mem_singleton.mpr hb⟩

/-- A call with three texts. -/
theorem hands_three {call : Store.Call} {a b c : String} (htexts : call.texts = [a, b, c])
    (ha : around.Gives args a) (hb : around.Gives args b) (hc : around.Gives args c) :
    around.Hands args call := by
  rw [Surroundings.Hands, htexts]
  exact List.forall_mem_cons.mpr ⟨ha, List.forall_mem_cons.mpr ⟨hb,
    List.forall_mem_singleton.mpr hc⟩⟩

/-- The commands whose calls have texts. -/
def writers : List String := ["ra", "rn", "sa", "ia", "iab", "iac", "ie", "la", "ta", "aa"]

/-- The other commands delete or link, for which numbers are enough. -/
theorem command_mem_writers {call : Store.Call} (h : call.texts ≠ []) :
    call.command ∈ writers := by
  cases call with
  | createInformation _ _ kind => cases kind <;> simp [writers, Store.Call.command]
  | deleteRing | deleteAssociation | addMember | deleteEntity => exact absurd rfl h
  | _ => simp [writers, Store.Call.command]

/-- A command that is no writer makes calls without texts. -/
theorem hands_of_performs {handler : Handler} {name : String}
    (h : handler.Performs (Requests name)) (hname : name ∉ writers) : handler.HandsGiven := by
  intro around args σ
  refine (h around args σ).mono (fun _ τ hsteps => hsteps.mono ?_) (fun _ hσ => hσ)
  rintro call ⟨rfl, -⟩ text htext
  exact absurd (command_mem_writers (List.ne_nil_of_mem htext)) hname

/-- The answers of the commands of the families, and the texts that the writers
    among them hand over. -/
theorem families_answer {command : Command Handler} (hcommand : command ∈ families) :
    command.handler.Shows (fun σ => σ.Answers command.name) ∧
      (command.name ∈ writers → command.handler.HandsGiven) := by
  -- family by family: the answers of each command, and its texts if it has any
  simp only [families, List.mem_append] at hcommand
  rcases hcommand with (((((h | h) | h) | h) | h) | h) | h
  · simp only [Rings.commands, List.mem_cons, List.not_mem_nil, or_false] at h
    rcases h with rfl | rfl | rfl | rfl | rfl
    · exact ⟨Rings.list_shows, fun h => absurd h (by decide)⟩
    · exact ⟨Rings.add_shows, fun _ _ _ _ => Rings.add_steps
        (fun _ hname => hands_three rfl .now (.argument hname) (.rest 1))⟩
    · exact ⟨Rings.select_shows, fun h => absurd h (by decide)⟩
    · exact ⟨Rings.setNote_shows, fun _ around _ _ => @Rings.setNote_steps _ _ around _
        (fun _ => hands_one rfl (.rest 1))⟩
    · exact ⟨Rings.delete_shows, fun h => absurd h (by decide)⟩
  · simp only [Subjects.commands, List.mem_cons, List.not_mem_nil, or_false] at h
    rcases h with rfl | rfl | rfl | rfl | rfl
    · exact ⟨Subjects.list_shows, fun h => absurd h (by decide)⟩
    · exact ⟨Subjects.add_shows, fun _ _ _ _ => Subjects.add_steps
        (fun _ _ hname => hands_three rfl .now (.argument hname) (.rest 1))⟩
    · exact ⟨Subjects.select_shows, fun h => absurd h (by decide)⟩
    · exact ⟨Subjects.delete_shows, fun h => absurd h (by decide)⟩
    · exact ⟨Subjects.view_shows, fun h => absurd h (by decide)⟩
  · simp only [InformationEntries.commands, List.mem_cons, List.not_mem_nil, or_false] at h
    rcases h with rfl | rfl | rfl | rfl | rfl | rfl
    · exact ⟨InformationEntries.list_shows, fun h => absurd h (by decide)⟩
    · exact ⟨InformationEntries.addText_shows, fun _ _ _ _ => InformationEntries.addText_steps
        (fun _ _ _ hname => hands_three rfl .now (.argument hname) (.own (by decide)))⟩
    · exact ⟨InformationEntries.addBinary_shows, fun _ _ _ _ => InformationEntries.addBinary_steps
        (fun _ _ _ hname => hands_three rfl .now (.argument hname) (.own (by decide)))⟩
    · exact ⟨InformationEntries.addComposite_shows, fun _ _ _ _ =>
        InformationEntries.addComposite_steps
          (fun _ _ _ hname => hands_three rfl .now (.argument hname) (.own (by decide)))⟩
    · exact ⟨InformationEntries.edit_shows, fun _ _ _ _ => InformationEntries.edit_steps
        (fun _ _ => hands_one rfl .now)⟩
    · exact ⟨InformationEntries.delete_shows, fun h => absurd h (by decide)⟩
  · simp only [Locations.commands, List.mem_cons, List.not_mem_nil, or_false] at h
    rcases h with rfl | rfl | rfl
    · exact ⟨Locations.list_shows, fun h => absurd h (by decide)⟩
    · exact ⟨Locations.add_shows, fun _ _ _ _ => Locations.add_steps
        (fun _ _ _ _ hname => hands_three rfl .now (.argument hname) (.rest 3))⟩
    · exact ⟨Locations.delete_shows, fun h => absurd h (by decide)⟩
  · simp only [Times.commands, List.mem_cons, List.not_mem_nil, or_false] at h
    rcases h with rfl | rfl | rfl
    · exact ⟨Times.list_shows, fun h => absurd h (by decide)⟩
    · exact ⟨Times.add_shows, fun _ _ _ _ => Times.add_steps
        (fun _ _ m _ => hands_three rfl .now (.own (oneLine_stored m)) (.rest 1))⟩
    · exact ⟨Times.delete_shows, fun h => absurd h (by decide)⟩
  · simp only [Associations.commands, List.mem_cons, List.not_mem_nil, or_false] at h
    rcases h with rfl | rfl | rfl | rfl | rfl | rfl | rfl
    · exact ⟨Associations.list_shows, fun h => absurd h (by decide)⟩
    · exact ⟨Associations.add_shows, fun _ _ _ _ => Associations.add_steps
        (fun _ _ => hands_two rfl .now (.rest 1))⟩
    · exact ⟨Associations.link_shows .subject "aas", fun h => absurd h (by decide)⟩
    · exact ⟨Associations.link_shows .information "aai", fun h => absurd h (by decide)⟩
    · exact ⟨Associations.link_shows .location "aal", fun h => absurd h (by decide)⟩
    · exact ⟨Associations.link_shows .time "aat", fun h => absurd h (by decide)⟩
    · exact ⟨Associations.delete_shows, fun h => absurd h (by decide)⟩
  · simp only [System.commands, List.mem_cons, List.not_mem_nil, or_false] at h
    rcases h with rfl | rfl
    · exact ⟨System.toggleDebug_shows, fun h => absurd h (by decide)⟩
    · exact ⟨System.quit_shows, fun h => absurd h (by decide)⟩

/-- **ANSWERS**: every built-in command but `help` answers as its name says. -/
theorem builtin_shows {command : Command Handler} (hcommand : command ∈ builtin.commands)
    (hname : command.name ≠ "help") :
    command.handler.Shows (fun σ => σ.Answers command.name) := by
  let Q (command : Command Handler) : Prop :=
    command.name ≠ "help" → command.handler.Shows (fun σ => σ.Answers command.name)
  refine forall_commands (Q := Q) ?families ?names ?help command hcommand hname
  case families => exact fun command hcommand _ => (families_answer hcommand).1
  case names =>
    intro names hnames command hname h _
    simp only [otherNames, List.mem_cons, List.not_mem_nil, or_false] at hnames
    rcases hnames with rfl | rfl | rfl
    all_goals
      have hshows := h (by rw [hname]; decide)
      rw [hname] at hshows
      exact hshows
  case help => exact fun listing hname => absurd rfl hname

/-- **TEXTS**: every built-in command hands given texts to the store, and no
    others. -/
theorem builtin_hands : builtin.Throughout Handler.HandsGiven := by
  let Q (command : Command Handler) : Prop :=
    command.name ∈ writers → command.handler.HandsGiven
  have hwriters : ∀ command ∈ builtin.commands, Q command := by
    refine forall_commands ?families ?names ?help
    case families => exact fun command hcommand => (families_answer hcommand).2
    case names =>
      have hothers : ∀ names ∈ otherNames, names.1 ∉ writers := by decide
      exact fun names hnames command _ _ hname => absurd hname (hothers names hnames)
    case help => exact fun listing hname => absurd hname (by decide : "help" ∉ writers)
  intro command hcommand
  by_cases hname : command.name ∈ writers
  · exact hwriters command hcommand hname
  · exact hands_of_performs (builtin_performs command hcommand) hname

end Commands

end Dossier
