import Dossier.Proofs.IdExpression
import Dossier.Proofs.Integrity
import Dossier.Proofs.Losing
/-! # Deleting many rows at once

    Six commands delete the rows that an id expression lists.  They go through
    the ids one by one, and each round looks at the store, and changes the store
    and the selection that the next round finds.  Still the outcome can be told
    beforehand: every id is reported as it was when the command began, and what
    is lost is the union of what each deletion clears away (`bulk_deletion`).

    Two facts carry this.  A deletion never clears away another row of the kind
    that it is told to delete, so the later ids are found or missing as before
    (`finds_after_iff`); and what a later one clears away is, among the rows that
    are left, what it would have cleared away at first (`gone_cons_iff`).  The
    rest is that losses compose. -/

namespace Dossier

open Store Session Dossier.Action

variable {σ τ : Session} {s t : Store} {g : Row → Prop} {row : Row} {id id' : Int}

/-! ## The commands -/

/-- The commands that delete. -/
inductive DeleteCommand
  | rings
  | subjects
  | information
  | locations
  | times
  | associations
  deriving DecidableEq

/-- Where a command looks for the rows that it deletes. -/
inductive Scope
  | everywhere
  | ring (id : Int)
  | subject (id : Int)
  deriving DecidableEq

/-- The row is in the scope. -/
def Scope.Has (s : Store) : Scope → Row → Prop
  | .everywhere, _ => True
  | .ring id, row => s.Within id row
  | .subject id, row => ∃ entry, row = .information entry ∧ entry.subjectId = id

/-- A row that is left is in the scope as before. -/
theorem Scope.has_of_loses {scope : Scope} (hlost : s.Loses t g) (hs : s.Constrained)
    (ht : t.Constrained) (hrow : t.Holds row) : scope.Has t row ↔ scope.Has s row := by
  cases scope with
  | ring ringId => exact hlost.within hs ht hrow
  | everywhere | subject => exact Iff.rfl

namespace DeleteCommand

variable {c : DeleteCommand} {scope : Scope} {ids : List Int}

def name : DeleteCommand → String
  | .rings => "rd"
  | .subjects => "sd"
  | .information => "id"
  | .locations => "ld"
  | .times => "td"
  | .associations => "ad"

/-- What the command calls a row. -/
def noun : DeleteCommand → String
  | .rings => "ring"
  | .subjects => "subject"
  | .information => "information"
  | .locations => "location"
  | .times => "time entry"
  | .associations => "association"

def handler : DeleteCommand → Handler
  | .rings => Commands.Rings.delete
  | .subjects => Commands.Subjects.delete
  | .information => Commands.InformationEntries.delete
  | .locations => Commands.Locations.delete
  | .times => Commands.Times.delete
  | .associations => Commands.Associations.delete

/-- The deletion of one id. -/
def deletion : DeleteCommand → Int → Deletion
  | .rings, id => .ring id
  | .subjects, id => .entity .subject id
  | .information, id => .entity .information id
  | .locations, id => .entity .location id
  | .times, id => .entity .time id
  | .associations, id => .association id

/-- The scope in this session; without one the command is not allowed. -/
def scope? (σ : Session) : DeleteCommand → Option Scope
  | .rings => some .everywhere
  | .information => σ.subject.map (fun subject => .subject subject.id)
  | _ => σ.ring.map (fun ring => .ring ring.id)

/-- There is a row of this id in the scope. -/
def Finds (c : DeleteCommand) (s : Store) (scope : Scope) (id : Int) : Prop :=
  ∃ row, s.Holds row ∧ (c.deletion id).Names row ∧ scope.Has s row

/-- The line for an id that is found. -/
def deleted (c : DeleteCommand) (id : Int) : Line :=
  ⟨"Deleted " ++ c.noun ++ " #" ++ toString id⟩

/-- The line for an id that is not found. -/
def missing (c : DeleteCommand) (id : Int) : Line :=
  ⟨"No " ++ c.noun ++ " with id " ++ toString id⟩

/-- The line tells whether the id is one of those that are found. -/
inductive Reports (c : DeleteCommand) (found : Int → Prop) (id : Int) : Line → Prop
  | deleted : found id → Reports c found id (c.deleted id)
  | missing : ¬ found id → Reports c found id (c.missing id)

/-- The rows that go when these ids are deleted. -/
def Gone (c : DeleteCommand) (s : Store) (scope : Scope) (ids : List Int) (row : Row) : Prop :=
  ∃ id ∈ ids, c.Finds s scope id ∧ (c.deletion id).Clears s row

/-- What comes of one round: the id is found and deleted, or it is missing. -/
inductive Outcome (c : DeleteCommand) (σ : Session) (s : Store) (scope : Scope) (id : Int) :
    Line → Session → Prop
  | deleted : c.Finds s scope id →
      Outcome c σ s scope id (c.deleted id) (σ.carryOut s (c.deletion id).call)
  | missing : ¬ c.Finds s scope id → Outcome c σ s scope id (c.missing id) σ

/-- An action that is a round of the command. -/
def IsRound (c : DeleteCommand) (scope : Scope) (act : Int → Action Line) : Prop :=
  ∀ id σ s, σ.store = some s → s.Constrained →
    Ends (act id) σ (c.Outcome σ s scope id) (fun _ => False)

/-! ## Finding -/

/-- In a ring, what a command finds is what belongs to the ring. -/
theorem finds_entity_iff {kind : EntityKind} {ringId : Int} (hc : c.deletion id = .entity kind id) :
    c.Finds s (.ring ringId) id ↔ s.Belongs ringId kind id := by
  rw [belongs_iff, Finds, hc]
  refine exists_congr (fun row => ?_)
  exact and_left_comm

/-- `rd` finds the rings there are. -/
theorem finds_rings_iff : rings.Finds s .everywhere id ↔ s.hasRing id = true := by
  refine Iff.trans ⟨?_, ?_⟩ Table.any_key_iff.symm
  · rintro ⟨row, hrow, hnames, -⟩
    obtain ⟨ring, rfl, hid⟩ := Deletion.names_ring_iff.mp hnames
    exact ⟨ring, hrow, hid⟩
  · rintro ⟨ring, hring, rfl⟩
    exact ⟨.ring ring, hring, rfl, trivial⟩

/-- `sd` finds what its check finds. Since ids are keys, it is the same to look
    for a row of the id in the scope and to look the id up and ask for its
    scope. -/
theorem finds_subjects_iff (hs : s.Constrained) {ringId : Int} :
    subjects.Finds s (.ring ringId) id ↔
      (Commands.Subjects.inRing s id ringId).isSome = true := by
  rw [finds_entity_iff rfl, ← entityInRing_iff]
  refine Iff.trans ?_ hs.subjects.isSome_find?_filter.symm
  simp [entityInRing, Table.any]

/-- `id` finds what its check finds. -/
theorem finds_information_iff (hs : s.Constrained) {subjectId : Int} :
    information.Finds s (.subject subjectId) id ↔
      (Commands.InformationEntries.ofSubject s id subjectId).isSome = true := by
  refine Iff.trans ⟨?_, ?_⟩ hs.information.isSome_find?_filter.symm
  · rintro ⟨row, hrow, hnames, entry, rfl, hsubject⟩
    obtain ⟨-, hid⟩ := Prod.mk.inj (Option.some.inj hnames)
    exact ⟨entry, hrow, hid, beq_iff_eq.mpr hsubject⟩
  · rintro ⟨entry, hentry, rfl, hsubject⟩
    exact ⟨.information entry, hentry, rfl, entry, rfl, beq_iff_eq.mp hsubject⟩

/-- `ad` finds what its check finds. -/
theorem finds_associations_iff (hs : s.Constrained) {ringId : Int} :
    associations.Finds s (.ring ringId) id ↔
      (Commands.Associations.inRing s id ringId).isSome = true := by
  refine Iff.trans ⟨?_, ?_⟩ hs.associations.isSome_find?_filter.symm
  · rintro ⟨row, hrow, hnames, hin⟩
    obtain ⟨association, rfl, hid⟩ := Deletion.names_association_iff.mp hnames
    exact ⟨association, hrow, hid, beq_iff_eq.mpr hin⟩
  · rintro ⟨association, hassociation, rfl, hin⟩
    exact ⟨.association association, hassociation, rfl, beq_iff_eq.mp hin⟩

/-! ## One round -/

/-- A round asks a test whether the row is there, and deletes it.  This is all
    where the selection does not follow. -/
theorem isRound_of_test {test : Store → Int → Bool} {operation : Int → Store → Bool × Store}
    (htest : ∀ {s : Store} {id : Int}, s.Constrained → (c.Finds s scope id ↔ test s id = true))
    (hcarry : ∀ (σ : Session) (s : Store) (id : Int),
      σ.carryOut s (c.deletion id).call = { σ with store := some (operation id s).2 }) :
    c.IsRound scope (fun id => do
      let store ← requireStore
      if test store id then
        let _ ← changeRow (operation id)
        return c.deleted id
      else return c.missing id) := by
  intro id σ s hs hconstrained
  refine (requireStore_of_some hs).bind ?_
  rintro s' τ ⟨rfl, rfl⟩
  by_cases hfound : test s' id = true
  · rw [if_pos hfound]
    refine (ends_changeRow hs).bind ?_
    rintro found υ ⟨-, rfl⟩
    rw [← hcarry]
    exact ends_pure (.deleted ((htest hconstrained).mpr hfound))
  · rw [if_neg hfound]
    exact ends_pure (.missing (mt (htest hconstrained).mp hfound))

/-- A round of `rd`. -/
theorem isRound_rings : rings.IsRound .everywhere Commands.Rings.deleteOne := by
  intro id σ s hs hconstrained
  refine (ends_changeRow hs).bind ?_
  rintro found τ ⟨rfl, rfl⟩
  rw [deleteRing_found]
  by_cases hfound : s.hasRing id = true
  · rw [if_pos hfound]
    refine ends_modify.bind ?_
    rintro _ τ rfl
    exact ends_pure (.deleted (finds_rings_iff.mpr hfound))
  · have hmissing : s.hasRing id = false := Bool.eq_false_iff.mpr hfound
    rw [if_neg hfound, deleteRing_of_missing hmissing, Commands.store_self hs]
    exact ends_pure (.missing (mt finds_rings_iff.mp hfound))

/-- A round of `sd`, which leaves the subject if it is selected. -/
theorem isRound_subjects (ringId : Int) :
    subjects.IsRound (.ring ringId) (Commands.Subjects.deleteOne ringId) := by
  intro id σ s hs hconstrained
  refine (requireStore_of_some hs).bind ?_
  rintro s' τ ⟨rfl, rfl⟩
  by_cases hfound : (Commands.Subjects.inRing s' id ringId).isSome = true
  · rw [if_pos hfound]
    refine (ends_changeRow hs).bind ?_
    rintro found υ ⟨-, rfl⟩
    refine ends_modify.bind ?_
    rintro _ υ rfl
    exact ends_pure (.deleted ((finds_subjects_iff hconstrained).mpr hfound))
  · rw [if_neg hfound]
    exact ends_pure (.missing (mt (finds_subjects_iff hconstrained).mp hfound))

/-- A round of `id`. -/
theorem isRound_information (subjectId : Int) :
    information.IsRound (.subject subjectId) (Commands.InformationEntries.deleteOne subjectId) :=
  isRound_of_test (fun hs => finds_information_iff hs) (fun _ _ _ => rfl)

/-- A round of `ld`. -/
theorem isRound_locations (ringId : Int) :
    locations.IsRound (.ring ringId) (Commands.Locations.deleteOne ringId) :=
  isRound_of_test (fun _ => (finds_entity_iff rfl).trans entityInRing_iff.symm) (fun _ _ _ => rfl)

/-- A round of `td`. -/
theorem isRound_times (ringId : Int) :
    times.IsRound (.ring ringId) (Commands.Times.deleteOne ringId) :=
  isRound_of_test (fun _ => (finds_entity_iff rfl).trans entityInRing_iff.symm) (fun _ _ _ => rfl)

/-- A round of `ad`. -/
theorem isRound_associations (ringId : Int) :
    associations.IsRound (.ring ringId) (Commands.Associations.deleteOne ringId) :=
  isRound_of_test (fun hs => finds_associations_iff hs) (fun _ _ _ => rfl)

/-! ## The handlers -/

/-- A command on the selected ring that asks for the ring, the ids and the store
    before it begins. -/
theorem ends_ofRing {args : List String} {text usage : String}
    {Q : Listing → Session → Prop} {F : Session → Prop} {ring : Ring} (hs : σ.store = some s)
    (hring : σ.ring = some ring) (htext : args[0]? = some text)
    (hids : IdExpression.ids text ≠ []) {act : Int → Int → Action Line}
    (hrounds : Ends ((IdExpression.ids text).mapM (act ring.id)) σ
      (fun lines τ => Q (.flat lines) τ) F) :
    Ends (do
      let ring ← requireRing
      let ids ← idList args 0 usage
      let _ ← requireStore
      return Listing.flat (← ids.mapM (act ring.id))) σ Q F := by
  refine (requireRing_of_some hring).bind ?_
  rintro ring' τ ⟨rfl, rfl⟩
  refine (idList_of_some htext hids).bind ?_
  rintro ids τ' ⟨rfl, rfl⟩
  refine (requireStore_of_some hs).bind ?_
  rintro s' τ' ⟨rfl, rfl⟩
  exact hrounds.bind (fun _ _ hQ => ends_pure hQ)

/-- Where the command is allowed and has ids, it goes through them round by
    round. -/
theorem ends_handler {around : Surroundings} {args : List String} {text : String}
    {Q : Listing → Session → Prop} {F : Session → Prop} (hs : σ.store = some s)
    (hscope : c.scope? σ = some scope) (htext : args[0]? = some text)
    (hids : IdExpression.ids text ≠ [])
    (hrounds : ∀ act, c.IsRound scope act →
      Ends ((IdExpression.ids text).mapM act) σ (fun lines τ => Q (.flat lines) τ) F) :
    Ends (c.handler around args) σ Q F := by
  -- the commands look at ring, ids and store in different orders before their rounds begin
  cases c with
  | rings =>
      obtain rfl : Scope.everywhere = scope := Option.some.inj hscope
      refine (idList_of_some htext hids).bind ?_
      rintro ids τ ⟨rfl, rfl⟩
      refine (hrounds _ isRound_rings).bind ?_
      exact fun _ _ hQ => ends_pure hQ
  | subjects =>
      obtain ⟨ring, hring, rfl⟩ := Option.map_eq_some_iff.mp hscope
      refine (requireRing_of_some hring).bind ?_
      rintro ring' τ ⟨rfl, rfl⟩
      refine (idList_of_some htext hids).bind ?_
      rintro ids τ' ⟨rfl, rfl⟩
      refine (hrounds _ (isRound_subjects ring'.id)).bind ?_
      exact fun _ _ hQ => ends_pure hQ
  | information =>
      obtain ⟨subject, hsubject, rfl⟩ := Option.map_eq_some_iff.mp hscope
      refine (idList_of_some htext hids).bind ?_
      rintro ids τ ⟨rfl, rfl⟩
      refine (requireSubject_of_some hsubject).bind ?_
      rintro subject' τ' ⟨rfl, rfl⟩
      refine (requireStore_of_some hs).bind ?_
      rintro s' τ' ⟨rfl, rfl⟩
      refine (hrounds _ (isRound_information subject'.id)).bind ?_
      exact fun _ _ hQ => ends_pure hQ
  | locations =>
      obtain ⟨ring, hring, rfl⟩ := Option.map_eq_some_iff.mp hscope
      exact ends_ofRing hs hring htext hids (hrounds _ (isRound_locations ring.id))
  | times =>
      obtain ⟨ring, hring, rfl⟩ := Option.map_eq_some_iff.mp hscope
      exact ends_ofRing hs hring htext hids (hrounds _ (isRound_times ring.id))
  | associations =>
      obtain ⟨ring, hring, rfl⟩ := Option.map_eq_some_iff.mp hscope
      exact ends_ofRing hs hring htext hids (hrounds _ (isRound_associations ring.id))

/-! ## Another round -/

/-- A command deletes rows of one kind only. -/
theorem deletion_alike (c : DeleteCommand) (id id' : Int) :
    (c.deletion id).Alike (c.deletion id') := by
  cases c with
  | rings | associations => trivial
  | subjects | information | locations | times => rfl

/-- Rounds for different ids delete different rows. -/
theorem deletion_injective (c : DeleteCommand) : Function.Injective c.deletion := by
  intro id id' heq
  cases c with
  | rings => exact Deletion.ring.inj heq
  | associations => exact Deletion.association.inj heq
  | subjects | information | locations | times => exact (Deletion.entity.inj heq).2

/-- Whether an id is found does not depend on the deletion of another one. -/
theorem finds_after_iff (hs : s.Constrained) (ht : t.Constrained)
    (hlost : s.Loses t ((c.deletion id).Clears s)) (hne : id ≠ id') :
    c.Finds t scope id' ↔ c.Finds s scope id' := by
  constructor
  · rintro ⟨row, hrow, hnames, hin⟩
    exact ⟨row, hlost.old hrow, hnames, (Scope.has_of_loses hlost hs ht hrow).mp hin⟩
  · rintro ⟨row, hrow, hnames, hin⟩
    have hleft : t.Holds row := hlost.holds.mpr ⟨hrow, fun hgone => hne (c.deletion_injective
      (Deletion.eq_of_clears_names (c.deletion_alike id id') hgone hnames))⟩
    exact ⟨row, hleft, hnames, (Scope.has_of_loses hlost hs ht hleft).mpr hin⟩

/-- What goes with the other ids goes after the deletion of one, or goes along
    with it. -/
theorem gone_cons_iff (hs : s.Constrained) (ht : t.Constrained)
    (hlost : s.Loses t ((c.deletion id).Clears s)) (hfinds : c.Finds s scope id)
    (hnew : id ∉ ids) (hrow : s.Holds row) :
    (c.deletion id).Clears s row ∨ c.Gone t scope ids row ↔ c.Gone s scope (id :: ids) row := by
  -- the later rounds see the store after the first one: what they find and clear there is what
  -- they would have found and cleared before
  have hne {id' : Int} (hid' : id' ∈ ids) : id ≠ id' := fun heq => hnew (heq ▸ hid')
  have hdistinct {id' : Int} (hid' : id' ∈ ids) : c.deletion id ≠ c.deletion id' :=
    fun heq => hne hid' (c.deletion_injective heq)
  by_cases hfirst : (c.deletion id).Clears s row
  · exact iff_of_true (.inl hfirst) ⟨id, List.mem_cons_self, hfinds, hfirst⟩
  · have hleft : t.Holds row := hlost.holds.mpr ⟨hrow, hfirst⟩
    constructor
    · rintro (hgone | ⟨id', hid', hfound, hgone⟩)
      · exact absurd hgone hfirst
      · refine ⟨id', List.mem_cons_of_mem id hid', ?_, ?_⟩
        · exact (finds_after_iff hs ht hlost (hne hid')).mp hfound
        · exact (Deletion.clears_after_iff hs ht hlost (c.deletion_alike id id') (hdistinct hid')
            hleft).mp hgone
    · rintro ⟨id', hmem, hfound, hgone⟩
      rcases List.mem_cons.mp hmem with rfl | hid'
      · exact absurd hgone hfirst
      · refine .inr ⟨id', hid', ?_, ?_⟩
        · exact (finds_after_iff hs ht hlost (hne hid')).mpr hfound
        · exact (Deletion.clears_after_iff hs ht hlost (c.deletion_alike id id') (hdistinct hid')
            hleft).mpr hgone

/-- An id that is missing makes no difference. -/
theorem gone_cons_missing_iff (hmissing : ¬ c.Finds s scope id) :
    c.Gone s scope ids row ↔ c.Gone s scope (id :: ids) row := by
  constructor
  · rintro ⟨id', hid', hgone⟩
    exact ⟨id', List.mem_cons_of_mem id hid', hgone⟩
  · rintro ⟨id', hmem, hfound, hgone⟩
    rcases List.mem_cons.mp hmem with rfl | hid'
    · exact absurd hfound hmissing
    · exact ⟨id', hid', hfound, hgone⟩

/-! ## All rounds -/

/-- **ROUND BY ROUND** the ids are reported as they were found at first, and what
    is lost is what goes with those that were found. -/
theorem ends_rounds {act : Int → Action Line} (hround : c.IsRound scope act) {found : Int → Prop}
    (ids : List Int) : ∀ σ s, σ.store = some s → s.Constrained → σ.Current s → ids.Nodup →
      (∀ id ∈ ids, c.Finds s scope id ↔ found id) →
      Ends (ids.mapM act) σ (fun lines τ => List.Forall₂ (c.Reports found) ids lines ∧
        σ.Loses s τ (c.Gone s scope ids)) (fun _ => False) := by
  induction ids with
  | nil =>
      intro σ s hs _ hcurrent _ _
      refine ends_pure ⟨.nil, .nothing hs hcurrent ?_⟩
      rintro row - ⟨id, hid, -⟩
      exact absurd hid List.not_mem_nil
  | cons id ids ih =>
      intro σ s hs hconstrained hcurrent hnodup hfound
      obtain ⟨hnew, hnodup⟩ := List.nodup_cons.mp hnodup
      obtain ⟨hfirst, hothers⟩ := List.forall_mem_cons.mp hfound
      rw [List.mapM_cons]
      refine (hround id σ s hs hconstrained).bind ?_
      rintro line τ (hfinds | hmissing)
      · -- found: the store has changed, but the later ids are found as before
        have hconstrained' := hconstrained.after (c.deletion id).call
        have hlost := loses_carryOut hcurrent hconstrained (c.deletion id)
        have hstore := carryOut_store σ s (c.deletion id).call
        have hrows : s.Loses (s.after (c.deletion id).call) ((c.deletion id).Clears s) := by
          rw [← Deletion.run_snd]
          exact Deletion.loses_run hconstrained _
        have hlater : ∀ id' ∈ ids,
            c.Finds (s.after (c.deletion id).call) scope id' ↔ found id' := by
          intro id' hid'
          have hne : id ≠ id' := fun heq => hnew (heq ▸ hid')
          exact (finds_after_iff hconstrained hconstrained' hrows hne).trans (hothers id' hid')
        refine (ih _ _ hstore hconstrained' (hcurrent.carryOut _) hnodup hlater).bind ?_
        rintro lines υ ⟨hreports, hlost'⟩
        refine ends_pure ⟨.cons (.deleted (hfirst.mp hfinds)) hreports, ?_⟩
        refine (hlost.trans hstore hlost').congr hcurrent (fun row hrow => ?_)
        exact gone_cons_iff hconstrained hconstrained' hrows hfinds hnew hrow
      · -- missing: the later rounds start where this one did
        refine (ih σ s hs hconstrained hcurrent hnodup hothers).bind ?_
        rintro lines υ ⟨hreports, hlost⟩
        refine ends_pure ⟨.cons (.missing (mt hfirst.mpr hmissing)) hreports, ?_⟩
        exact hlost.congr hcurrent (fun _ _ => gone_cons_missing_iff hmissing)

end DeleteCommand

/-! ## Lines -/

/-- The line runs the command on an expression that has an id. -/
structure Evaluator.Deletes (ev : Evaluator) (line : String) (c : DeleteCommand) (text : String) :
    Prop where
  typed : ∃ args, ev.Runs line c.name args ∧ args[0]? = some text
  ids : IdExpression.ids text ≠ []

namespace DeleteCommand

variable {c : DeleteCommand} {scope : Scope} {ids : List Int} {modifier : Char}
  {engine : Pattern.Engine} {line text : String}

/-- The names are those of the commands in the registry. -/
theorem lookup_name (c : DeleteCommand) :
    ∃ command, Commands.builtin.lookup c.name = some command ∧ command.handler = c.handler := by
  cases c with
  | rings | subjects | information | locations | times | associations => exact ⟨_, rfl, rfl⟩

/-- **ONE LINE** reports every id as it is found, and loses what goes with those
    that are. -/
theorem evaluate_deletes (hs : σ.store = some s) (hconstrained : s.Constrained)
    (hcurrent : σ.Current s) (hscope : c.scope? σ = some scope)
    (hline : (Evaluator.ofBuiltin modifier engine).Deletes line c text) (around : Surroundings) :
    let evaluated := (Evaluator.ofBuiltin modifier engine).evaluate around line σ
    (∃ lines, evaluated.result = .ok (.display (.flat lines)) ∧
      List.Forall₂ (c.Reports (c.Finds s scope)) (IdExpression.ids text) lines) ∧
      σ.Loses s evaluated.session (c.Gone s scope (IdExpression.ids text)) := by
  intro evaluated
  obtain ⟨⟨args, hruns, htext⟩, hids⟩ := hline
  obtain ⟨command, hfound, hhandler⟩ := c.lookup_name
  have hends : Ends (command.handler around args) σ (fun answer τ =>
      (∃ lines, answer = .flat lines ∧
        List.Forall₂ (c.Reports (c.Finds s scope)) (IdExpression.ids text) lines) ∧
      σ.Loses s τ (c.Gone s scope (IdExpression.ids text))) (fun _ => False) := by
    rw [hhandler]
    refine ends_handler hs hscope htext hids (fun act hround => ?_)
    -- the rounds as one loop, what an id finds being fixed by the store at its start
    refine (ends_rounds hround _ σ s hs hconstrained hcurrent (IdExpression.nodup_ids text)
      (fun _ _ => Iff.rfl)).mono ?_ (fun _ hfalse => hfalse)
    rintro lines τ ⟨hreports, hlost⟩
    exact ⟨⟨lines, rfl, hreports⟩, hlost⟩
  obtain ⟨_, hresult, ⟨lines, rfl, hreports⟩, hlost⟩ := hruns.displays hfound hends
  exact ⟨⟨lines, hresult, hreports⟩, hlost⟩

/-- No id is found: every line says so. -/
theorem lines_of_none {found : Int → Prop} {lines : List Line}
    (h : List.Forall₂ (c.Reports found) ids lines) (hnone : ∀ id ∈ ids, ¬ found id) :
    lines = ids.map c.missing := by
  induction h with
  | nil => rfl
  | cons hreport _ ih =>
      obtain ⟨hfirst, hothers⟩ := List.forall_mem_cons.mp hnone
      cases hreport with
      | deleted hfound => exact absurd hfound hfirst
      | missing => rw [ih hothers, List.map_cons]

/-- The scope does not change as long as there is one. -/
theorem scope_eq_of_loses (hlost : σ.Loses s τ g) (hσ : c.scope? σ = some scope) {scope' : Scope}
    (hτ : c.scope? τ = some scope') : scope' = scope := by
  -- what is still selected has been selected before
  have hstill {α : Type} {gone : α → Prop} {f : α → Scope} {a b : Option α}
      (h : GivenUp gone a b) (ha : a.map f = some scope) (hb : b.map f = some scope') :
      scope' = scope := by
    rcases h.eq_none_or_eq with rfl | rfl
    · cases hb
    · exact Option.some.inj (hb.symm.trans ha)
  cases c with
  | rings => exact Option.some.inj (hτ.symm.trans hσ)
  | information => exact hstill hlost.subject hσ hτ
  | subjects | locations | times | associations => exact hstill hlost.ring hσ hτ

/-- What is deleted is not found again. -/
theorem not_finds_of_gone (hs : s.Constrained) (ht : t.Constrained)
    (hlost : s.Loses t (c.Gone s scope ids)) (hid : id ∈ ids) : ¬ c.Finds t scope id := by
  rintro ⟨row, hrow, hnames, hin⟩
  obtain ⟨hold, hleft⟩ := hlost.holds.mp hrow
  have hfound : c.Finds s scope id :=
    ⟨row, hold, hnames, (Scope.has_of_loses hlost hs ht hrow).mp hin⟩
  exact hleft ⟨id, hid, hfound, hnames.clears s⟩

end DeleteCommand

/-- Steps from the start lead to a store that keeps its constraints and to a
    selection that is current. -/
theorem Session.Steps.reached {config : Config} {s₀ : Store} (hwhole : s₀.Whole)
    (h : Steps (start config (some s₀)) σ) :
    ∃ s, σ.store = some s ∧ s.Constrained ∧ σ.Current s := by
  obtain ⟨s, hs, hcurrent⟩ := h.invariant (fun _ _ => Step.upToDate) (start_upToDate config s₀)
  obtain ⟨s', hs', hconstrained, -⟩ := h.invariant (fun _ _ => Step.intact) ⟨s₀, rfl, hwhole⟩
  obtain rfl : s = s' := Option.some.inj (hs.symm.trans hs')
  exact ⟨s, hs, hconstrained, hcurrent⟩

/-- **BULK DELETION**: wherever some lines have led, a line that deletes what an
    expression lists answers with a line for each id, where it first occurs,
    which says whether a row of this id was in the scope when the line began.
    Lost are the rows that were, with all that depends on them, and nothing
    else; what was selected is given up if it is among them.  Every other line
    with the same ids does the same, and the same line once more finds nothing
    and changes nothing. -/
theorem bulk_deletion (modifier : Char) (engine : Pattern.Engine) (config : Config) {s₀ : Store}
    (hwhole : s₀.Whole) (inputs : List (Surroundings × String)) (c : DeleteCommand) (scope : Scope)
    (line text : String) :
    let ev := Evaluator.ofBuiltin modifier engine
    let σ := ev.sessionAfter inputs (start config (some s₀))
    c.scope? σ = some scope → ev.Deletes line c text → ∃ s, σ.store = some s ∧ ∀ around,
      let after := (ev.evaluate around line σ).session
      (∃ lines, (ev.evaluate around line σ).result = .ok (.display (.flat lines)) ∧
        List.Forall₂ (c.Reports (c.Finds s scope))
          ((IdExpression.numerals text).filterMap Text.toInt?).eraseDups lines) ∧
      σ.Loses s after (c.Gone s scope (IdExpression.ids text)) ∧
      (∀ around' line' text', ev.Deletes line' c text' →
        (∀ id, id ∈ IdExpression.ids text' ↔ id ∈ IdExpression.ids text) →
        (ev.evaluate around' line' σ).session = after) ∧
      ∀ around', (c.scope? after).isSome = true →
        (ev.evaluate around' line after).result
            = .ok (.display (.flat ((IdExpression.ids text).map c.missing))) ∧
          (ev.evaluate around' line after).session = after := by
  intro ev σ hscope hline
  have hsteps : Steps (start config (some s₀)) σ :=
    Evaluator.sessionAfter_steps (Evaluator.ofBuiltin_orderly modifier engine) inputs
  obtain ⟨s, hs, hconstrained, hcurrent⟩ := hsteps.reached hwhole
  refine ⟨s, hs, fun around => ?_⟩
  intro after
  obtain ⟨hanswer, hlost⟩ :=
    DeleteCommand.evaluate_deletes hs hconstrained hcurrent hscope hline around
  refine ⟨?_, hlost, ?_, ?_⟩
  · rw [← IdExpression.ids_eq_eraseDups]
    exact hanswer
  · intro around' line' text' hline' hsame
    obtain ⟨-, hlost'⟩ :=
      DeleteCommand.evaluate_deletes hs hconstrained hcurrent hscope hline' around'
    -- the same rows are lost, and that settles the session
    refine (hlost'.congr hcurrent (fun row _ => ?_)).unique hlost
    exact exists_congr (fun id => and_congr_left' (hsame id))
  · intro around' hallowed
    have hlater : Steps σ after :=
      (Evaluator.evaluate_steps (Evaluator.ofBuiltin_orderly modifier engine)).1
    have hall : Steps (start config (some s₀)) after := hsteps.trans hlater
    obtain ⟨t, ht, hconstrained', hcurrent'⟩ := hall.reached hwhole
    obtain ⟨t', ht', hrows⟩ := hlost.store
    obtain rfl : t = t' := Option.some.inj (ht.symm.trans ht')
    obtain ⟨scope', hscope'⟩ := Option.isSome_iff_exists.mp hallowed
    obtain rfl := DeleteCommand.scope_eq_of_loses hlost hscope hscope'
    have hnone : ∀ id ∈ IdExpression.ids text, ¬ c.Finds t scope' id :=
      fun id hid => DeleteCommand.not_finds_of_gone hconstrained hconstrained' hrows hid
    obtain ⟨⟨lines, hresult, hreports⟩, hnothing⟩ :=
      DeleteCommand.evaluate_deletes ht hconstrained' hcurrent' hscope' hline around'
    constructor
    · rw [← DeleteCommand.lines_of_none hreports hnone]
      exact hresult
    · refine hnothing.unique (.nothing ht hcurrent' ?_)
      rintro row - ⟨id, hid, hfound, -⟩
      exact hnone id hid hfound

/-- Two subjects are deleted, one of them selected, by ids in any order. -/
theorem bulk_deletion_subjects :
    let ev := Evaluator.ofBuiltin '$' .standard
    let inputs := ["ra berlin", "rs 1", "sa WOLF", "sa FOX", "sa OWL", "ss 2"].map
      (fun line => (Surroundings.bare, line))
    let σ := ev.sessionAfter inputs (start .plain (some fresh))
    σ.subject ≠ none ∧ (ev.evaluate .bare "sd 2,1,2,9" σ).session.subject = none ∧
      (ev.evaluate .bare "sd 1-2,9" σ).session = (ev.evaluate .bare "sd 2,1,2,9" σ).session := by
  intro ev inputs σ
  have hscope : DeleteCommand.subjects.scope? σ = some (.ring 1) := by decide +kernel
  have hline : ev.Deletes "sd 2,1,2,9" .subjects "2,1,2,9" :=
    ⟨⟨["2,1,2,9"], ⟨"sd 2,1,2,9", by decide +kernel, by decide +kernel, by decide +kernel⟩, rfl⟩,
      by decide +kernel⟩
  have hline' : ev.Deletes "sd 1-2,9" .subjects "1-2,9" :=
    ⟨⟨["1-2,9"], ⟨"sd 1-2,9", by decide +kernel, by decide +kernel, by decide +kernel⟩, rfl⟩,
      by decide +kernel⟩
  -- the two expressions denote the same ids, in different orders
  have hids : IdExpression.ids "2,1,2,9" = [2, 1, 9] := by decide +kernel
  have hids' : IdExpression.ids "1-2,9" = [1, 2, 9] := by decide +kernel
  obtain ⟨s, hs, hdeletes⟩ :=
    bulk_deletion '$' .standard .plain fresh_whole inputs .subjects (.ring 1)
    "sd 2,1,2,9" "2,1,2,9" hscope hline
  obtain ⟨-, -, hsame, -⟩ := hdeletes .bare
  refine ⟨by decide +kernel, by decide +kernel, hsame .bare _ _ hline' (fun id => ?_)⟩
  rw [hids, hids']
  simp only [List.mem_cons]
  exact or_left_comm

end Dossier
