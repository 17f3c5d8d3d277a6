import Dossier.Proofs.Composite
import Dossier.Proofs.Store.Rows
/-! # Composites refer downwards

    A composite is made of entries that are there already.  So every id in it is
    below its own, and references never lead back to where they started
    (`Downward.acyclic`).

    What an id in a composite stands for does not change either, although the
    entry may be deleted.  A later store CONTINUES an earlier one: an entry that
    it has under an id of the earlier store was there all the time, and is the
    same apart from its value (`Continues`). -/

namespace Dossier

open Store Session

variable {σ τ : Session} {s t u : Store} {call : Store.Call} {entry : Information} {id : Int}

/-! ## Downwards -/

/-- What a composite may list: ids below its own, at least one and none of them
    twice. -/
structure Information.Downward (entry : Information) : Prop where
  nonempty : entry.compositeIds ≠ []
  nodup : entry.compositeIds.Nodup
  below : ∀ id ∈ entry.compositeIds, id < entry.id

/-- Every composite refers downwards. -/
def Store.Downward (s : Store) : Prop :=
  ∀ entry ∈ s.information.rows, entry.kind = .composite → entry.Downward

/-- An entry lists the id of another. -/
def Store.Refers (s : Store) (id listed : Int) : Prop :=
  ∃ entry ∈ s.information.rows, entry.id = id ∧ listed ∈ entry.compositeIds

/-- In a store that refers downwards a reference goes to a smaller id. -/
theorem lt_of_refers (h : s.Downward) {listed : Int} (hrefers : s.Refers id listed) :
    listed < id := by
  obtain ⟨entry, hentry, rfl, hlisted⟩ := hrefers
  by_cases hkind : entry.kind = .composite
  · exact (h entry hentry hkind).below listed hlisted
  · rw [Information.compositeIds_of_ne hkind] at hlisted
    cases hlisted

/-- A path of references goes down all the way, so it does not come back. -/
theorem lt_of_transGen_refers (h : s.Downward) {last : Int}
    (hpath : Relation.TransGen s.Refers id last) : last < id := by
  induction hpath with
  | single hrefers => exact lt_of_refers h hrefers
  | tail _ hrefers ih => exact Int.lt_trans (lt_of_refers h hrefers) ih

/-- **NO CYCLES**: references do not lead back. -/
theorem Store.Downward.acyclic (h : s.Downward) (id : Int) : ¬ Relation.TransGen s.Refers id id :=
  fun hcycle => Int.lt_irrefl id (lt_of_transGen_refers h hcycle)

/-- A session rewrites no composite. -/
theorem rewriteEntry_of_composite (hs : s.Constrained) (hpermits : σ.Permits s call)
    (hentry : entry ∈ s.information.rows) (hkind : entry.kind = .composite) :
    call.rewriteEntry entry = entry := by
  cases call with
  | updateInformationValue now id value =>
      obtain ⟨subject, -, edited, hedited, htext⟩ := hpermits
      obtain ⟨hfound, -⟩ := Option.filter_eq_some_iff.mp hedited
      obtain ⟨hthere, hid⟩ := Table.mem_of_find?_key hfound
      have hother : ¬ (entry.id == id) = true := by
        intro hsame
        obtain rfl := hs.information.eq_of_key hentry hthere ((beq_iff_eq.mp hsame).trans hid.symm)
        cases hkind.symm.trans htext
      exact if_neg hother
  | _ => rfl

/-- The list of a new composite is that of an id expression, and the store has
    its entries. -/
theorem compositeIds_of_brings (hnew : s.Brings call (.information entry))
    (hpermits : σ.Permits s call) (hkind : entry.kind = .composite) :
    ∃ text, entry.compositeIds = IdExpression.ids text ∧ entry.compositeIds ≠ [] ∧
      ∀ id ∈ entry.compositeIds,
        ∃ target ∈ s.information.rows, target.id = id ∧ target.subjectId = entry.subjectId := by
  obtain ⟨now, subjectId, kind, name, value, note, rfl, -, hentry⟩ := brings_information_iff.mp hnew
  rw [hentry] at hkind
  obtain ⟨text, hne, hvalue, hfound⟩ := hpermits.2 hkind
  have hids : entry.compositeIds = IdExpression.ids text := by
    rw [hentry]
    exact Information.compositeIds_of_value hkind hvalue
      (fun id hid => IdExpression.inInt64_of_mem_ids hid)
  refine ⟨text, hids, hids ▸ hne, fun id hid => ?_⟩
  rw [hentry]
  exact ofSubject_isSome (hfound id (hids ▸ hid))

/-- **ONE CALL** of a session leaves all composites referring downwards. -/
theorem Store.Downward.after (h : s.Downward) (hs : s.Constrained) (hpermits : σ.Permits s call) :
    (s.after call).Downward := by
  intro entry hentry hkind
  rcases (mem_information_after_iff hs).mp hentry with hnew | ⟨old, hold, -, rfl⟩
  · obtain ⟨text, hids, hne, hthere⟩ := compositeIds_of_brings hnew hpermits hkind
    have hid : entry.id = s.information.lastId + 1 := Brings.fresh hnew rfl
    refine ⟨hne, hids ▸ IdExpression.nodup_ids text, fun id hlisted => ?_⟩
    obtain ⟨target, htarget, rfl, -⟩ := hthere id hlisted
    have hbound := hs.information.bounded target htarget
    omega
  · have hsame : call.rewriteEntry old = old := by
      refine rewriteEntry_of_composite hs hpermits hold ?_
      rw [← (rewriteEntry_same call old).2.2.1]
      exact hkind
    rw [hsame] at hkind ⊢
    exact h old hold hkind

/-! ## The same entries as before -/

/-- The second store comes later, and what it has of the ids that were given out
    in the first one are entries of the first one. -/
structure Store.Continues (s t : Store) : Prop where
  precedes : s.Precedes t
  same : ∀ entry ∈ t.information.rows, entry.id ≤ s.information.lastId →
    ∃ old ∈ s.information.rows, Same entry old

theorem Store.Continues.refl (s : Store) : s.Continues s :=
  ⟨.refl s, fun entry hentry _ => ⟨entry, hentry, .refl entry⟩⟩

theorem Store.Continues.trans (h : s.Continues t) (h' : t.Continues u) : s.Continues u := by
  refine ⟨h.precedes.trans h'.precedes, fun entry hentry hbound => ?_⟩
  have hlast : s.information.lastId ≤ t.information.lastId := h.precedes.lastId_le .information
  obtain ⟨between, hbetween, hsame⟩ := h'.same entry hentry (Int.le_trans hbound hlast)
  obtain ⟨old, hold, hsame'⟩ := h.same between hbetween (hsame.1 ▸ hbound)
  exact ⟨old, hold, hsame.trans hsame'⟩

/-- **ONE CALL** continues the store. -/
theorem continues_after (hs : s.Constrained) (call : Store.Call) : s.Continues (s.after call) := by
  refine ⟨precedes_after s call, fun entry hentry hbound => ?_⟩
  rcases (mem_information_after_iff hs).mp hentry with hnew | ⟨old, hold, -, rfl⟩
  · have hid : entry.id = s.information.lastId + 1 := Brings.fresh hnew rfl
    omega
  · exact ⟨old, hold, rewriteEntry_same call old⟩

/-! ## Lines that make composites -/

/-- The composites above a bound list entries that are there, and that belong to
    their subject. -/
def Store.Backed (s : Store) (bound : Int) : Prop :=
  ∀ composite ∈ s.information.rows, bound < composite.id → ∀ id ∈ composite.compositeIds,
    ∃ target ∈ s.information.rows, target.id = id ∧ target.subjectId = composite.subjectId

variable {bound : Int}

/-- The calls of `iac` create composites. -/
theorem command_eq_iac (h : call.command = "iac") : ∃ now subjectId name value note,
    call = .createInformation now subjectId .composite name value note := by
  cases call with
  | createInformation now subjectId kind name value note =>
      cases kind with
      | composite => exact ⟨now, subjectId, name, value, note, rfl⟩
      | text | binary => simp [Store.Call.command] at h
  | addMember associationId kind targetId => cases kind <;> simp [Store.Call.command] at h
  | deleteEntity kind id => cases kind <;> simp [Store.Call.command] at h
  | _ => simp [Store.Call.command] at h

/-- A call that makes a composite takes nothing away that composites list. -/
theorem Store.Backed.create (h : s.Backed bound) (hs : s.Constrained)
    (hpermits : σ.Permits s call) (hcall : call.command = "iac") :
    (s.after call).Backed bound := by
  obtain ⟨now, subjectId, name, value, note, rfl⟩ := command_eq_iac hcall
  have hstays {target : Information} (htarget : target ∈ s.information.rows) :
      target ∈ (s.after
        (.createInformation now subjectId .composite name value note)).information.rows :=
    (mem_information_after_iff hs).mpr (.inr ⟨target, htarget, not_false, rfl⟩)
  intro composite hcomposite habove id hid
  rcases (mem_information_after_iff hs).mp hcomposite with hnew | ⟨old, hold, -, rfl⟩
  · by_cases hkind : composite.kind = .composite
    · obtain ⟨text, -, -, hthere⟩ := compositeIds_of_brings hnew hpermits hkind
      obtain ⟨target, htarget, hfound⟩ := hthere id hid
      exact ⟨target, hstays htarget, hfound⟩
    · rw [Information.compositeIds_of_ne hkind] at hid
      cases hid
  · obtain ⟨target, htarget, hfound⟩ := h old hold habove id hid
    exact ⟨target, hstays htarget, hfound⟩

/-- No entry above the bound is a composite. -/
def Store.Plain (s : Store) (bound : Int) : Prop :=
  ∀ entry ∈ s.information.rows, bound < entry.id → entry.kind ≠ .composite

/-- Where there are no composites, none lists an entry that is not there. -/
theorem Store.Plain.backed (h : s.Plain bound) : s.Backed bound := by
  intro composite hcomposite habove id hid
  rw [Information.compositeIds_of_ne (h composite hcomposite habove)] at hid
  cases hid

/-- Other commands than `iac` make no composites. -/
theorem Store.Plain.after (h : s.Plain bound) (hs : s.Constrained)
    (hcall : call.command ≠ "iac") : (s.after call).Plain bound := by
  intro entry hentry habove
  rcases (mem_information_after_iff hs).mp hentry with hnew | ⟨old, hold, -, rfl⟩
  · obtain ⟨now, subjectId, kind, name, value, note, rfl, -, hentry⟩ :=
      brings_information_iff.mp hnew
    rw [hentry]
    rintro rfl
    exact hcall rfl
  · obtain ⟨hid, -, hkind, -⟩ := rewriteEntry_same call old
    rw [hkind]
    exact h old hold (hid ▸ habove)

/-- Lines that run the same command request calls of the same command. -/
theorem Evaluator.Requests.command_eq {ev : Evaluator} {line : String} {call call' : Store.Call}
    (h : ev.Requests line call) (h' : ev.Requests line call') : call.command = call'.command := by
  obtain ⟨command, args, hinvoked, hname, -⟩ := h
  obtain ⟨command', args', hinvoked', hname', -⟩ := h'
  obtain ⟨rfl, -⟩ := Prod.mk.inj (Option.some.inj (hinvoked.symm.trans hinvoked'))
  exact hname.trans hname'.symm

/-- **A LINE** that makes a composite makes it of entries that are there
    afterwards. -/
theorem backed_evaluate (modifier : Char) (engine : Pattern.Engine) (around : Surroundings)
    (line : String) (hs : σ.store = some s) (hwhole : s.Whole) :
    ∃ t, ((Evaluator.ofBuiltin modifier engine).evaluate around line σ).session.store = some t ∧
      t.Whole ∧ s.Continues t ∧ t.Backed s.information.lastId := by
  have hsteps := Evaluator.evaluate_stepsBy modifier engine around line σ
  have hplain : s.Plain s.information.lastId := by
    intro entry hentry habove
    exact absurd (hwhole.constrained.information.bounded entry hentry) (Int.not_le.mpr habove)
  -- all calls of the line make composites, or none of them does
  by_cases hline : ∃ call,
      (Evaluator.ofBuiltin modifier engine).Requests line call ∧ call.command = "iac"
  · obtain ⟨call, hrequests, hiac⟩ := hline
    refine hsteps.keep (I := fun t => s.Continues t ∧ t.Backed s.information.lastId) ?_ hs hwhole
      ⟨.refl s, hplain.backed⟩
    rintro σ t other hother hpermits ht ⟨hcontinues, hbacked⟩
    exact ⟨hcontinues.trans (continues_after ht.constrained other),
      hbacked.create ht.constrained hpermits ((hother.command_eq hrequests).trans hiac)⟩
  · have hcall : ∀ (σ : Session) (t : Store) (other : Store.Call),
        (Evaluator.ofBuiltin modifier engine).Requests line other → σ.Permits t other → t.Whole →
        s.Continues t ∧ t.Plain s.information.lastId →
        s.Continues (t.after other) ∧ (t.after other).Plain s.information.lastId := by
      rintro σ t other hother - ht ⟨hcontinues, hplain⟩
      exact ⟨hcontinues.trans (continues_after ht.constrained other),
        hplain.after ht.constrained (fun hiac => hline ⟨other, hother, hiac⟩)⟩
    obtain ⟨t, ht, hwhole', hcontinues, hplain'⟩ := hsteps.keep hcall hs hwhole ⟨.refl s, hplain⟩
    exact ⟨t, ht, hwhole', hcontinues, hplain'.backed⟩

/-! ## Runs -/

/-- The entry of an id in the store of a session. -/
def Session.entryAt (σ : Session) (id : Int) : Option Information :=
  σ.store.bind (fun s => s.getInformation id)

/-- With a store, the entry is that of the store. -/
theorem entryAt_eq (hs : σ.store = some s) (id : Int) : σ.entryAt id = s.getInformation id := by
  rw [Session.entryAt, hs]
  rfl

/-- Lines continue a store that is whole. -/
theorem continues_sessionAfter (modifier : Char) (engine : Pattern.Engine) (hs : σ.store = some s)
    (hwhole : s.Whole) (inputs : List (Surroundings × String)) :
    ∃ t, ((Evaluator.ofBuiltin modifier engine).sessionAfter inputs σ).store = some t ∧ t.Whole ∧
      s.Continues t := by
  refine (Evaluator.sessionAfter_stepsBy modifier engine inputs σ).keep ?_ hs hwhole (.refl s)
  intro _ t call _ _ ht hcontinues
  exact hcontinues.trans (continues_after ht.constrained call)

/-- **NO DRIFT**: an id that a new composite lists is that of an entry of the
    same subject, and as long as it is that of an entry at all it is still this
    one. -/
theorem no_drift (modifier : Char) (engine : Pattern.Engine) (hs : σ.store = some s)
    (hwhole : s.Whole) (input : Surroundings × String) {composite : Information}
    (hnew : σ.entryAt composite.id = none)
    (hcomposite :
      ((Evaluator.ofBuiltin modifier engine).sessionAfter [input] σ).entryAt composite.id
        = some composite)
    (hid : id ∈ composite.compositeIds) :
    let after (inputs : List (Surroundings × String)) :=
      (Evaluator.ofBuiltin modifier engine).sessionAfter inputs σ
    ∃ target, (after [input]).entryAt id = some target ∧
      target.subjectId = composite.subjectId ∧
      ∀ part rest entry, (after (input :: (part ++ rest))).entryAt id = some entry →
        ∃ there, (after (input :: part)).entryAt id = some there ∧
          Same there target ∧ Same entry target := by
  intro after
  obtain ⟨t, ht, hwhole', hcontinues, hbacked⟩ :=
    backed_evaluate modifier engine input.1 input.2 hs hwhole
  have hfirst : (after [input]).store = some t := ht
  have hthere : t.getInformation composite.id = some composite := by
    rw [← entryAt_eq hfirst]
    exact hcomposite
  -- the composite is above all ids that were given out before the line
  have habove : s.information.lastId < composite.id := by
    by_contra hbelow
    obtain ⟨old, hold, hsame⟩ :=
      hcontinues.same composite (Table.mem_of_find?_key hthere).1 (Int.not_lt.mp hbelow)
    have hfound : s.getInformation composite.id = some old :=
      hwhole.constrained.information.find?_key_iff.mpr ⟨hold, hsame.1.symm⟩
    rw [entryAt_eq hs, hfound] at hnew
    cases hnew
  obtain ⟨target, htarget, rfl, hsubject⟩ :=
    hbacked composite (Table.mem_of_find?_key hthere).1 habove id hid
  refine ⟨target, ?_, hsubject, fun part rest entry hentry => ?_⟩
  · rw [entryAt_eq hfirst]
    exact hwhole'.constrained.information.find?_key_iff.mpr ⟨htarget, rfl⟩
  obtain ⟨u, hu, hwhole'', hcontinues'⟩ :=
    continues_sessionAfter modifier engine hfirst hwhole' part
  obtain ⟨v, hv, -, hlater⟩ := continues_sessionAfter modifier engine hu hwhole'' rest
  have hu' : (after (input :: part)).store = some u := hu
  have hv' : (after (input :: (part ++ rest))).store = some v := by
    rw [← hv, ← Evaluator.sessionAfter_append]
    rfl
  rw [entryAt_eq hv'] at hentry
  obtain ⟨hmem, hentryId⟩ := Table.mem_of_find?_key hentry
  have hbound : target.id ≤ t.information.lastId :=
    hwhole'.constrained.information.bounded target htarget
  have hbound' : target.id ≤ u.information.lastId :=
    Int.le_trans hbound (hcontinues'.precedes.lastId_le .information)
  obtain ⟨there, hthere, hsame⟩ := hlater.same entry hmem (hentryId.symm ▸ hbound')
  have hthereId : there.id = target.id := hsame.1.symm.trans hentryId
  obtain ⟨old, hold, hsame'⟩ := hcontinues'.same there hthere (hthereId.symm ▸ hbound)
  obtain rfl : old = target :=
    hwhole'.constrained.information.eq_of_key hold htarget (hsame'.1.symm.trans hthereId)
  refine ⟨there, ?_, hsame', hsame.trans hsame'⟩
  rw [entryAt_eq hu']
  exact hwhole''.constrained.information.find?_key_iff.mpr ⟨hthere, hthereId⟩

/-- **COMPOSITES REFER DOWNWARDS AND DO NOT DRIFT**: after any lines on a new
    store, a composite lists at least one id, none of them twice, and only ids
    below its own, so that no entry refers to itself by any way round.  An id
    that a composite lists when it is made is then that of an entry of its
    subject, and whatever has the id after later lines is this entry, which has
    been there after each of them. -/
theorem composites_acyclic_and_stable (modifier : Char) (engine : Pattern.Engine) (config : Config)
    (inputs : List (Surroundings × String)) :
    let after (inputs : List (Surroundings × String)) :=
      (Evaluator.ofBuiltin modifier engine).sessionAfter inputs (start config (some fresh))
    (∃ s, (after inputs).store = some s ∧
      (∀ entry ∈ s.information.rows, entry.kind = .composite →
        entry.compositeIds ≠ [] ∧ entry.compositeIds.Nodup ∧
          ∀ id ∈ entry.compositeIds, id < entry.id) ∧
      ∀ id, ¬ Relation.TransGen s.Refers id id) ∧
    ∀ before input since, inputs = before ++ input :: since →
      ∀ composite id, (after before).entryAt composite.id = none →
        (after (before ++ [input])).entryAt composite.id = some composite →
        id ∈ composite.compositeIds →
        ∃ target, (after (before ++ [input])).entryAt id = some target ∧
          target.subjectId = composite.subjectId ∧
          ∀ entry, (after inputs).entryAt id = some entry →
            ∀ part, part <+: since →
              ∃ there, (after (before ++ input :: part)).entryAt id = some there ∧
                Same there target ∧ Same entry target := by
  intro after
  constructor
  -- that a composite lists smaller ids only is kept by every call; no cycle follows
  · obtain ⟨s, hs, -, hdownward⟩ :=
      (Evaluator.sessionAfter_stepsBy modifier engine inputs (start config (some fresh))).keep
        (fun _ _ _ _ hpermits hs hdownward =>
          Store.Downward.after hdownward hs.constrained hpermits)
        rfl fresh_whole (fun _ h => nomatch h)
    refine ⟨s, hs, fun entry hentry hkind => ?_, hdownward.acyclic⟩
    obtain ⟨hne, hnodup, hbelow⟩ := hdownward entry hentry hkind
    exact ⟨hne, hnodup, hbelow⟩
  · rintro before input since rfl composite id hnew hcomposite hid
    obtain ⟨s, hs, hwhole, -⟩ :=
      continues_sessionAfter modifier engine (σ := start config (some fresh)) rfl fresh_whole before
    have hafter (others : List (Surroundings × String)) : after (before ++ others)
        = (Evaluator.ofBuiltin modifier engine).sessionAfter others (after before) :=
      Evaluator.sessionAfter_append _ before others _
    -- the run is cut where the composite appears, and `no_drift` takes it from there
    simp only [hafter] at hcomposite ⊢
    obtain ⟨target, htarget, hsubject, hstable⟩ :=
      no_drift modifier engine hs hwhole input hnew hcomposite hid
    refine ⟨target, htarget, hsubject, ?_⟩
    rintro entry hentry part ⟨rest, rfl⟩
    exact hstable part rest entry hentry

end Dossier
