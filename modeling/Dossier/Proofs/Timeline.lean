import Dossier.Proofs.Calendar.Moment
import Dossier.Proofs.Integrity
import Dossier.Proofs.Registry.History
import Dossier.Proofs.Sorting
import Dossier.Proofs.Store.Rows
/-! # Time entries in order

    A time entry keeps its moment in the stored form, and the entries of a ring
    are listed in the order of these texts.  Only `ta` writes moments, and it
    writes those that it has read: so a store stays DATED, with a moment that
    was accepted behind every entry, whatever lines come (`sessionAfter_dates`).

    The listing is then as good as the order of stored forms is
    (`Moment.stored_lt_iff`).  An entry stands behind a later one only where the
    texts of their years are out of order, and that takes a year with a sign
    (`moments_sort`). -/

namespace Dossier

open Store Session Dossier.Action

variable {s : Store} {σ : Session} {ring : Ring}

/-! ## Dated stores -/

/-- Some text is read as the moment. -/
def Moment.Accepted (m : Moment) : Prop :=
  ∃ text, Moment.ofString? text = some m

/-- The entry keeps a moment that was accepted. -/
structure TimeEntry.Records (row : TimeEntry) (m : Moment) : Prop where
  accepted : m.Accepted
  stored : row.moment = m.stored

/-- Every time entry keeps a moment. -/
def Store.Dated (s : Store) : Prop :=
  ∀ row ∈ s.times.rows, ∃ m, row.Records m

/-- The call gives a new time entry the stored form of a moment. -/
def Store.Call.Dated : Store.Call → Prop
  | .createTime _ _ moment _ => ∃ m : Moment, m.Accepted ∧ moment = m.stored
  | _ => True

theorem Moment.Accepted.inRange {m : Moment} (h : m.Accepted) : m.InRange := by
  obtain ⟨text, hread⟩ := h
  exact inRange_of_read? hread

theorem fresh_dated : fresh.Dated :=
  List.forall_mem_nil _

/-- **ONE CALL** keeps a store dated if it gives a moment to the entry that it
    adds. -/
theorem Store.Dated.after (h : s.Dated) (hs : s.Constrained) {call : Store.Call}
    (hcall : call.Dated) : (s.after call).Dated := by
  intro row hrow
  -- an entry after the call is one that it has added, or an old one as it was
  have hholds : (s.after call).Holds (.time row) := hrow
  rcases (holds_after_iff hs).mp hholds with hnew | ⟨old, hold, -, heq⟩
  · cases call with
    | createTime now ringId moment note =>
        obtain ⟨m, haccepted, hmoment⟩ := hcall
        obtain ⟨id, -, hrow⟩ := hnew
        cases hrow
        exact ⟨m, haccepted, hmoment⟩
    | createRing | createSubject | createInformation | createLocation | createAssociation =>
        obtain ⟨id, -, hrow⟩ := hnew
        cases hrow
    | addMember =>
        obtain ⟨-, hrow⟩ := hnew
        cases hrow
    | setRingNote | deleteRing | updateInformationValue | deleteAssociation | deleteEntity =>
        exact hnew.elim
  · cases old with
    | time old =>
        obtain rfl : old = row := Row.time.inj heq
        exact h old hold
    | ring | subject | information | location | association | member => cases heq

namespace Commands

/-- The command that is named `ta` is the one that adds time entries. -/
theorem handler_of_ta {command : Command Handler} (hcommand : command ∈ builtin.commands)
    (hname : command.name = "ta") : command.handler = Times.add := by
  obtain ⟨add, hfound, hadd⟩ : ∃ add, builtin.lookup "ta" = some add ∧ add.handler = Times.add :=
    ⟨_, rfl, rfl⟩
  rw [eq_of_lookup hcommand hname hfound, hadd]

/-- **MOMENTS**: no built-in command hands over a moment that was not read. -/
theorem builtin_dates :
    ∀ command ∈ builtin.commands, command.handler.Performs (fun _ => Store.Call.Dated) := by
  intro command hcommand
  by_cases hname : command.name = "ta"
  · rw [handler_of_ta hcommand hname]
    exact fun around args σ => Times.add_steps (fun _ text m hread => ⟨m, ⟨text, hread⟩, rfl⟩)
  · -- under another name no call is made that has a moment
    refine (builtin_performs command hcommand).mono (fun args call hrequests => ?_)
    cases call with
    | createTime => exact absurd hrequests.1.symm hname
    | _ => trivial

end Commands

namespace Evaluator

theorem evaluate_dates (modifier : Char) (engine : Pattern.Engine) (around : Surroundings)
    (line : String) (σ : Session) :
    StepsBy Store.Call.Dated σ ((ofBuiltin modifier engine).evaluate around line σ).session := by
  refine (stepsBy_of_invoked (P := fun _ _ => Store.Call.Dated) ?_).mono ?_
  · intro command hcommand args σ
    exact Commands.builtin_dates command hcommand around args σ
  · rintro call ⟨_, _, -, hcall⟩
    exact hcall

/-- **A RUN** from a dated store leads to a dated store. -/
theorem sessionAfter_dates (modifier : Char) (engine : Pattern.Engine)
    (inputs : List (Surroundings × String))
    (hs : σ.store = some s) (hwhole : s.Whole) (hdated : s.Dated) :
    ∃ t, ((ofBuiltin modifier engine).sessionAfter inputs σ).store = some t ∧ t.Whole ∧
      t.Dated := by
  have hsteps : ∀ σ,
      StepsBy Store.Call.Dated σ ((ofBuiltin modifier engine).sessionAfter inputs σ) := by
    induction inputs with
    | nil =>
        intro σ
        exact .refl
    | cons input inputs ih =>
        intro σ
        exact (evaluate_dates modifier engine input.1 input.2 σ).trans (ih _)
  refine (hsteps σ).keep ?_ hs hwhole hdated
  intro σ s call hcall _ hwhole hdated
  exact hdated.after hwhole.constrained hcall

end Evaluator

/-! ## The listing -/

theorem timeOrder_iff {a b : TimeEntry} :
    timeOrder a b = true ↔ a.moment < b.moment ∨ a.moment = b.moment ∧ a.id ≤ b.id := by
  simp [timeOrder]

theorem timeOrder_total (a b : TimeEntry) : timeOrder a b = true ∨ timeOrder b a = true := by
  rw [timeOrder_iff, timeOrder_iff]
  rcases lt_trichotomy a.moment b.moment with hlt | heq | hgt
  · exact .inl (.inl hlt)
  · rcases Int.le_total a.id b.id with hle | hge
    · exact .inl (.inr ⟨heq, hle⟩)
    · exact .inr (.inr ⟨heq.symm, hge⟩)
  · exact .inr (.inl hgt)

theorem timeOrder_trans (a b c : TimeEntry) (hab : timeOrder a b = true)
    (hbc : timeOrder b c = true) : timeOrder a c = true := by
  rw [timeOrder_iff] at hab hbc ⊢
  rcases hab with hab | ⟨hab, hid⟩
  · rcases hbc with hbc | ⟨hbc, -⟩
    · exact .inl (hab.trans hbc)
    · exact .inl (hbc ▸ hab)
  · rcases hbc with hbc | ⟨hbc, hid'⟩
    · exact .inl (hab ▸ hbc)
    · exact .inr ⟨hab.trans hbc, hid.trans hid'⟩

/-- No entry of a listing has a smaller text than one in front of it. -/
theorem listTimes_pairwise (s : Store) (ringId : Int) :
    (s.listTimes ringId).Pairwise (fun row row' => ¬ row'.moment < row.moment) := by
  refine (sorted_pairwise timeOrder_total timeOrder_trans _).imp ?_
  intro row row' horder
  rcases timeOrder_iff.mp horder with hlt | ⟨heq, -⟩
  · exact lt_asymm hlt
  · exact heq ▸ lt_irrefl _

/-- An entry behind another one is earlier only where their years are out of
    order. -/
theorem not_yearsInOrder_of_not_lt {row row' : TimeEntry} (h : ¬ row'.moment < row.moment)
    {m m' : Moment} (hm : row.Records m) (hm' : row'.Records m') (hbefore : m'.Before m) :
    ¬ m'.YearsInOrder m := by
  intro hyears
  refine h ?_
  rw [hm.stored, hm'.stored]
  exact (Moment.stored_lt_iff hm.accepted.inRange hbefore).mpr hyears

/-- With a ring selected the time entries are listed. -/
theorem Commands.Times.list_answers (around : Surroundings) (args : List String)
    (hring : σ.ring = some ring) (hs : σ.store = some s) :
    Ends (list around args) σ (fun answer τ =>
      answer = .ofTexts ((s.listTimes ring.id).map σ.formatter.time) ∧ τ = σ)
      (fun _ => False) :=
  ends_answer (requireRing_of_some hring) hs

/-- A line that lists the time entries changes nothing. -/
theorem Evaluator.evaluate_times {modifier : Char} {engine : Pattern.Engine} {line : String}
    {args : List String} (hring : σ.ring = some ring) (hs : σ.store = some s)
    (hline : (ofBuiltin modifier engine).Runs line "t" args) (around : Surroundings) :
    ((ofBuiltin modifier engine).evaluate around line σ).result
        = .ok (.display (.ofTexts ((s.listTimes ring.id).map σ.formatter.time))) ∧
      ((ofBuiltin modifier engine).evaluate around line σ).session = σ := by
  obtain ⟨command, hfound, hhandler⟩ :
      ∃ command, Commands.builtin.lookup "t" = some command ∧
        command.handler = Commands.Times.list := ⟨_, rfl, rfl⟩
  have hends := Commands.Times.list_answers around args hring hs
  rw [← hhandler] at hends
  obtain ⟨_, hresult, rfl, hsession⟩ := hline.displays hfound hends
  exact ⟨hresult, hsession⟩

/-- **CHRONOLOGY**: of two accepted moments the earlier one has the smaller
    stored form, byte by byte, if and only if the texts of their years are in
    order, and so whenever the later one has a year from 0 to 9999.  Wherever
    some lines have led, `t` lists the time entries of the ring, each of which
    keeps an accepted moment, and an entry stands behind a later one only where
    the texts of their years are out of order; among years from 0 to 9999 this
    never happens. -/
theorem moments_sort (modifier : Char) (engine : Pattern.Engine) (config : Config) {s₀ : Store}
    (hwhole : s₀.Whole) (hdated : s₀.Dated) :
    (∀ text text' a b, Moment.ofString? text = some a → Moment.ofString? text' = some b →
      a.Before b →
        (Utf8.encode a.stored < Utf8.encode b.stored ↔ a.YearsInOrder b) ∧
        (0 ≤ b.year → b.year ≤ 9999 → Utf8.encode a.stored < Utf8.encode b.stored)) ∧
    ∀ (inputs : List (Surroundings × String)) (ring : Ring) (line : String) (args : List String),
      let ev := Evaluator.ofBuiltin modifier engine
      let σ := ev.sessionAfter inputs (start config (some s₀))
      σ.ring = some ring → ev.Runs line "t" args → ∃ s, σ.store = some s ∧
        (∀ around, (ev.evaluate around line σ).result
            = .ok (.display (.ofTexts ((s.listTimes ring.id).map σ.formatter.time))) ∧
          (ev.evaluate around line σ).session = σ) ∧
        (s.listTimes ring.id).Perm (s.times.select (fun row => row.ringId == ring.id)) ∧
        (∀ row ∈ s.listTimes ring.id, ∃ m, row.Records m) ∧
        (s.listTimes ring.id).Pairwise (fun row row' => ∀ m m', row.Records m →
          row'.Records m' → m'.Before m →
            ¬ m'.YearsInOrder m ∧ ¬ (0 ≤ m.year ∧ m.year ≤ 9999)) := by
  constructor
  · intro text text' a b _ hb hbefore
    have horder := Moment.stored_lt_iff (Moment.inRange_of_read? hb) hbefore
    rw [Utf8.encode_lt_encode_iff]
    refine ⟨horder, fun hlow hhigh => horder.mpr ?_⟩
    exact Moment.yearsInOrder_of_before hbefore hlow hhigh
  · intro inputs ring line args ev σ hring hline
    have hstart : (start config (some s₀)).store = some s₀ := rfl
    obtain ⟨s, hs, -, hdated⟩ :=
      Evaluator.sessionAfter_dates modifier engine inputs hstart hwhole hdated
    have hperm := sorted_perm timeOrder (s.times.select (fun row => row.ringId == ring.id))
    refine ⟨s, hs, fun around => Evaluator.evaluate_times hring hs hline around, hperm, ?_, ?_⟩
    · intro row hrow
      exact hdated row (List.mem_of_mem_filter (hperm.mem_iff.mp hrow))
    · refine (listTimes_pairwise s ring.id).imp ?_
      intro row row' hnot m m' hm hm' hbefore
      -- rows are listed by their texts, so a pair out of order has its years out of order
      have hyears := not_yearsInOrder_of_not_lt hnot hm hm' hbefore
      refine ⟨hyears, ?_⟩
      rintro ⟨hlow, hhigh⟩
      exact hyears (Moment.yearsInOrder_of_before hbefore hlow hhigh)

/-- A handover in March, and a meeting in January that is added later. -/
theorem moments_sort_meeting :
    let ev := Evaluator.ofBuiltin '$' .standard
    let inputs := ["ra berlin", "rs 1", "ta 2024-03-01 handover", "ta 2024-01-03T14:00 meeting"].map
      (fun line => (Surroundings.bare, line))
    let σ := ev.sessionAfter inputs (start .plain (some fresh))
    Utf8.encode "2024-01-03 14:00" < Utf8.encode "2024-03-01" ∧
      ∃ s, σ.store = some s ∧ (∀ around, (ev.evaluate around "t" σ).result
          = .ok (.display (.ofTexts ((s.listTimes 1).map σ.formatter.time)))) ∧
        (s.listTimes 1).map TimeEntry.moment = ["2024-01-03 14:00", "2024-03-01"] := by
  intro ev inputs σ
  -- the later moment was added first, so the listing is not in the order of the ids
  have hline : ev.Runs "t" "t" [] :=
    ⟨"t", by decide +kernel, by decide +kernel, by decide +kernel⟩
  have hring : σ.ring = some ⟨1, "berlin", "", "09:00"⟩ := by decide +kernel
  have hlisted : σ.store.map (fun s => (s.listTimes 1).map TimeEntry.moment)
      = some ["2024-01-03 14:00", "2024-03-01"] := by decide +kernel
  obtain ⟨htexts, hruns⟩ := moments_sort '$' .standard .plain fresh_whole fresh_dated
  obtain ⟨-, hless⟩ := htexts "2024-01-03T14:00" "2024-03-01"
    (.atTime ⟨2024, 1, 3⟩ 14 0 0) (.onDay ⟨2024, 3, 1⟩) (by decide +kernel) (by decide +kernel)
    (by decide +kernel)
  obtain ⟨s, hs, hanswers, -⟩ := hruns inputs _ "t" [] hring hline
  refine ⟨hless (by decide +kernel) (by decide +kernel), s, hs,
    fun around => (hanswers around).1, ?_⟩
  rw [hs] at hlisted
  exact Option.some.inj hlisted

/-- The year -0002 is earlier than -0001, but its text comes later: the entries
    are listed the wrong way round. -/
theorem moments_unsorted :
    let a : Moment := .onDay ⟨-2, 1, 1⟩
    let b : Moment := .onDay ⟨-1, 1, 1⟩
    let ev := Evaluator.ofBuiltin '$' .standard
    let inputs := ["ra berlin", "rs 1", "ta -0001-01-01", "ta -0002-01-01"].map
      (fun line => (Surroundings.bare, line))
    let σ := ev.sessionAfter inputs (start { Config.plain with color := false } (some fresh))
    Moment.ofString? "-0002-01-01" = some a ∧ Moment.ofString? "-0001-01-01" = some b ∧
      a.Before b ∧ ¬ Utf8.encode a.stored < Utf8.encode b.stored ∧
      (ev.evaluate .bare "t" σ).result
        = .ok (.display (.ofTexts ["    1  -0001-01-01", "    2  -0002-01-01"])) := by
  intro a b ev inputs σ
  refine ⟨?_, ?_, ?_, ?_, ?_⟩ <;> decide +kernel

end Dossier
