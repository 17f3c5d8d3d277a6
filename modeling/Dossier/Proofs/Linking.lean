import Dossier.Proofs.Integrity
import Dossier.Proofs.Registry.History
import Dossier.Proofs.Split
import Dossier.Proofs.Store.Members
import Mathlib.Data.List.Induction
/-! # The history of members

    Which members a store has can be told from the lines that led to it: a
    member is there when some line LINKED the pair and its entity has been there
    ever since (`mem_members_sessionAfter`).

    One line does one of two things.  A line that links adds the pairs that it
    lists and the selected ring permits, whatever was linked before
    (`ends_link`).  Any other line adds none, and leaves the members that are
    still attached (`StepsBy.mem_members`).  The induction over the lines needs that
    ids are given out once: an entity that is there later was there in
    between. -/

namespace Dossier

open Store Session Dossier.Action Commands

variable {σ τ υ : Session} {s t : Store} {ev : Evaluator} {line : String} {kind : EntityKind}
  {id : Int} {m : Member}

/-! ## Adding members -/

/-- The session stays as it is, but for the members that its store gets. -/
def Session.Adds (σ : Session) (s : Store) (linked : Member → Prop) (τ : Session) : Prop :=
  ∃ members, τ = { σ with store := some { s with members := members } } ∧
    ∀ m, m ∈ members ↔ m ∈ s.members ∨ linked m

/-- Where nothing is linked, nothing is added. -/
theorem adds_nothing {linked : Member → Prop} (hs : σ.store = some s) (hnone : ∀ m, ¬ linked m) :
    σ.Adds s linked σ :=
  ⟨s.members, (store_self hs).symm, fun m => by simp [hnone m]⟩

/-- The members after a line are those before it and those that it links. -/
theorem Session.Adds.mem_members {linked : Member → Prop} (h : σ.Adds s linked τ)
    (ht : τ.store = some t) : m ∈ t.members ↔ m ∈ s.members ∨ linked m := by
  obtain ⟨members, rfl, hmembers⟩ := h
  obtain rfl : { s with members := members } = t := Option.some.inj ht
  exact hmembers m

/-! ## The commands that link -/

namespace Commands.Associations

/-- An entity is linked if it is in the ring. -/
theorem ends_linkOne {associationId ringId : Int} {F : Session → Prop} (hs : σ.store = some s)
    (hassociation : (inRing s associationId ringId).isSome = true) :
    Ends (linkOne kind associationId ringId id) σ
      (fun _ => σ.Adds s (fun m =>
        m = ⟨associationId, kind, id⟩ ∧ s.entityInRing kind id ringId = true)) F := by
  refine (requireStore_of_some hs).bind ?_
  rintro s' τ ⟨rfl, rfl⟩
  by_cases hfound : s'.entityInRing kind id ringId = true
  · rw [if_pos hfound]
    obtain ⟨t, hadd, -⟩ := addMember_of_inRing kind id hassociation
    obtain ⟨ht, hmembers⟩ := addMember_outcome hadd
    refine (ends_change_of_ok hs hadd).bind ?_
    rintro _ υ rfl
    refine ends_pure ⟨t.members, by rw [← ht], fun m => ?_⟩
    exact (hmembers m).trans (or_congr_right (and_iff_left hfound).symm)
  · rw [if_neg hfound]
    exact ends_pure (adds_nothing hs (fun m hm => hfound hm.2))

/-- The entities of the ring are linked.  Neither the ring nor what is in it is
    changed by that, so each round finds what the first one found. -/
theorem ends_linkAll {associationId ringId : Int} {F : Session → Prop} (ids : List Int) :
    ∀ σ s, σ.store = some s → (inRing s associationId ringId).isSome = true →
      Ends (ids.mapM (linkOne kind associationId ringId)) σ
        (fun _ => σ.Adds s (fun m => ∃ id ∈ ids,
          m = ⟨associationId, kind, id⟩ ∧ s.entityInRing kind id ringId = true)) F := by
  induction ids with
  | nil =>
      intro σ s hs _
      exact ends_pure (adds_nothing hs (by simp))
  | cons id ids ih =>
      intro σ s hs hassociation
      rw [List.mapM_cons]
      refine (ends_linkOne hs hassociation).bind ?_
      rintro _ τ ⟨members, rfl, hmembers⟩
      refine (ih _ { s with members := members } rfl hassociation).bind ?_
      rintro _ υ ⟨members', rfl, hmembers'⟩
      refine ends_pure ⟨members', rfl, fun m => ?_⟩
      rw [hmembers', hmembers, or_assoc]
      simp only [List.mem_cons, exists_eq_or_imp]
      exact Iff.rfl

/-- **LINKING** adds the pairs that the arguments ask for and the session
    permits; where it fails there are none. -/
theorem ends_link (kind : EntityKind) (usage : String) (around : Surroundings) (args : List String)
    (hs : σ.store = some s) :
    let linked (m : Member) : Prop :=
      m.kind = kind ∧ Asks args (.addMember m.associationId m.kind m.targetId) ∧
        σ.Permits s (.addMember m.associationId m.kind m.targetId)
    Ends (link kind usage around args) σ (fun _ => σ.Adds s linked) (σ.Adds s linked) := by
  intro linked
  -- where a check fails, nothing is both asked for and permitted
  have hnothing (hnone : ∀ m, ¬ linked m) : σ.Adds s linked σ := adds_nothing hs hnone
  refine ends_requireRing.bind_reason (fun hnone => hnothing ?noRing) (fun ring hring => ?_)
  case noRing =>
    rintro m ⟨-, -, ring, hring, -⟩
    cases hnone.symm.trans hring
  refine ends_argument.bind_reason (fun hnone => hnothing ?noArgument) (fun text htext => ?_)
  case noArgument =>
    rintro m ⟨-, ⟨⟨text, htext, -⟩, -⟩, -⟩
    cases hnone.symm.trans htext
  refine ends_parseId.bind_reason (fun hnone => hnothing ?noId) (fun associationId hid => ?_)
  case noId =>
    rintro m ⟨-, ⟨⟨text', htext', hid⟩, -⟩, -⟩
    obtain rfl : text = text' := Option.some.inj (htext.symm.trans htext')
    cases hnone.symm.trans hid
  refine ends_idList.bind_reason (fun hnone => hnothing ?noIds) ?_
  case noIds =>
    rintro m ⟨-, ⟨-, listed, hlisted, hmem⟩, -⟩
    rw [hnone listed hlisted] at hmem
    cases hmem
  rintro ids ⟨-, listed, hlisted, rfl⟩
  refine (requireStore_of_some hs).bind ?_
  rintro s' σ ⟨rfl, rfl⟩
  -- what is asked for is this association, with the ids of the list
  have hasks (m : Member) : Asks args (.addMember m.associationId m.kind m.targetId) ↔
      m.associationId = associationId ∧ m.targetId ∈ IdExpression.ids listed := by
    simp [Asks, Commands.Names, Lists, htext, hlisted, hid, eq_comm]
  have hpermits (m : Member) : σ.Permits s' (.addMember m.associationId m.kind m.targetId) ↔
      (inRing s' m.associationId ring.id).isSome = true ∧
        s'.entityInRing m.kind m.targetId ring.id = true := by
    simp [Permits, hring]
  by_cases hfound : (inRing s' associationId ring.id).isSome = true
  · rw [if_pos hfound]
    refine (ends_linkAll _ σ s' hs hfound).bind ?_
    rintro _ τ ⟨members, rfl, hmembers⟩
    refine ends_pure ⟨members, rfl, fun m => (hmembers m).trans (or_congr_right ?_)⟩
    constructor
    · rintro ⟨id, hid, rfl, hentity⟩
      exact ⟨rfl, (hasks _).mpr ⟨rfl, hid⟩, (hpermits _).mpr ⟨hfound, hentity⟩⟩
    · rintro ⟨rfl, hm, hp⟩
      obtain ⟨rfl, hlisted⟩ := (hasks m).mp hm
      exact ⟨m.targetId, hlisted, rfl, ((hpermits m).mp hp).2⟩
  · rw [if_neg hfound]
    refine ends_throw (hnothing ?_)
    rintro m ⟨-, hm, hp⟩
    obtain ⟨rfl, -⟩ := (hasks m).mp hm
    exact hfound ((hpermits m).mp hp).1

/-- The name of a command tells the kind that it links, and nothing else. -/
theorem command_addMember_iff {associationId associationId' id' : Int} {kind' : EntityKind} :
    (Store.Call.addMember associationId kind id).command
      = (Store.Call.addMember associationId' kind' id').command ↔ kind = kind' := by
  cases kind <;> cases kind' <;> simp [Store.Call.command]

/-- A built-in command with the name of one that links is that one. -/
theorem handler_of_command {command : Command Handler} (hcommand : command ∈ builtin.commands)
    {associationId : Int}
    (hname : (Store.Call.addMember associationId kind id).command = command.name) :
    ∃ usage, command.handler = link kind usage := by
  obtain ⟨linking, usage, hfound, hlink⟩ : ∃ linking usage,
      builtin.lookup (Store.Call.addMember associationId kind id).command = some linking ∧
        linking.handler = link kind usage := by
    cases kind <;> exact ⟨_, _, rfl, rfl⟩
  exact ⟨usage, by rw [eq_of_lookup hcommand hname.symm hfound, hlink]⟩

end Commands.Associations

/-! ## Lines -/

/-- The line runs a command that links. -/
def Evaluator.RunsLink (ev : Evaluator) (line : String) : Prop :=
  ∃ command args, ev.invoked? line = some (command, args) ∧
    ∃ associationId kind id,
      (Store.Call.addMember associationId kind id).command = command.name

/-- The line runs the command that links entities of the kind, with the id of
    the association and with an id expression that has the id of the entity,
    and both belong to the ring that is selected. -/
def Evaluator.Links (ev : Evaluator) (line : String) (σ : Session) (m : Member) : Prop :=
  ev.Requests line (.addMember m.associationId m.kind m.targetId) ∧
    ∃ s ∈ σ.store, ∃ ring ∈ σ.ring,
      (∃ association ∈ s.associations.rows,
        association.id = m.associationId ∧ association.ringId = ring.id) ∧
      s.Belongs ring.id m.kind m.targetId

/-- What links does not depend on the members that are there. -/
theorem permits_addMember_iff {associationId : Int} (hs : s.Constrained) :
    σ.Permits s (.addMember associationId kind id) ↔ ∃ ring ∈ σ.ring,
      (∃ association ∈ s.associations.rows,
        association.id = associationId ∧ association.ringId = ring.id) ∧
      s.Belongs ring.id kind id := by
  have hassociation (ringId : Int) : (Associations.inRing s associationId ringId).isSome = true ↔
      ∃ association ∈ s.associations.rows,
        association.id = associationId ∧ association.ringId = ringId := by
    refine hs.associations.isSome_find?_filter.trans ?_
    simp only [beq_iff_eq]
  simp only [Permits, hassociation, entityInRing_iff]

/-- To link is to make a call that is permitted. -/
theorem Evaluator.links_iff (hs : σ.store = some s) (hconstrained : s.Constrained) :
    ev.Links line σ m ↔ ev.Requests line (.addMember m.associationId m.kind m.targetId) ∧
      σ.Permits s (.addMember m.associationId m.kind m.targetId) := by
  rw [permits_addMember_iff hconstrained, Links, hs]
  simp

/-- Only commands that link ask for a link. -/
theorem Evaluator.Requests.runsLink {associationId : Int}
    (h : ev.Requests line (.addMember associationId kind id)) : ev.RunsLink line := by
  obtain ⟨command, args, hinvoked, hname, -⟩ := h
  exact ⟨command, args, hinvoked, associationId, kind, id, hname⟩

section Lines

variable {modifier : Char} {engine : Pattern.Engine}

/-- **A LINE THAT LINKS** adds what it links. -/
theorem adds_evaluate (around : Surroundings)
    (hline : (Evaluator.ofBuiltin modifier engine).RunsLink line) (hs : σ.store = some s)
    (hconstrained : s.Constrained) :
    σ.Adds s ((Evaluator.ofBuiltin modifier engine).Links line σ)
      ((Evaluator.ofBuiltin modifier engine).evaluate around line σ).session := by
  obtain ⟨command, args, hinvoked, associationId, kind, id, hname⟩ := hline
  obtain ⟨usage, hhandler⟩ :=
    Associations.handler_of_command (Evaluator.mem_of_invoked hinvoked) hname
  have hadds := (Associations.ends_link kind usage around args hs).session
  rw [← hhandler] at hadds
  rw [Evaluator.session_evaluate, hinvoked]
  obtain ⟨members, hτ, hmembers⟩ := hadds
  refine ⟨members, hτ, fun m => (hmembers m).trans (or_congr_right ?_)⟩
  -- what the rounds add is what the line links, for its command and its arguments are the line's
  rw [Evaluator.links_iff hs hconstrained]
  constructor
  · rintro ⟨hkind, hasks, hpermits⟩
    have hcommand : (Store.Call.addMember m.associationId m.kind m.targetId).command
        = command.name := (Associations.command_addMember_iff.mpr hkind).trans hname
    exact ⟨⟨command, args, hinvoked, hcommand, hasks⟩, hpermits⟩
  · rintro ⟨⟨command', args', hinvoked', hname', hasks⟩, hpermits⟩
    obtain ⟨rfl, rfl⟩ := Prod.mk.inj (Option.some.inj (hinvoked.symm.trans hinvoked'))
    exact ⟨Associations.command_addMember_iff.mp (hname'.trans hname.symm), hasks, hpermits⟩

variable {P : Store.Call → Prop}

/-- Steps keep a store whole and give out no id twice. -/
theorem Session.StepsBy.later (h : StepsBy P σ τ) (hs : σ.store = some s) (hwhole : s.Whole) :
    ∃ t, τ.store = some t ∧ t.Whole ∧ s.Precedes t := by
  refine h.keep ?_ hs hwhole (.refl s)
  intro _ t call _ _ _ hlater
  exact hlater.trans (precedes_after t call)

/-- Steps without a link keep the members that are still attached. -/
theorem Session.StepsBy.mem_members (h : StepsBy P σ τ)
    (hP : ∀ associationId kind id, ¬ P (.addMember associationId kind id))
    (hs : σ.store = some s) (hwhole : s.Whole) :
    ∃ t, τ.store = some t ∧ ∀ m, m ∈ t.members ↔ m ∈ s.members ∧ t.Attached m := by
  let I (t : Store) : Prop :=
    s.Precedes t ∧ ∀ m, m ∈ t.members ↔ m ∈ s.members ∧ t.Attached m
  have hcall : ∀ (σ : Session) (t : Store) (call : Store.Call), P call → σ.Permits t call →
      t.Whole → I t → I (t.after call) := by
    rintro σ t call hcall - hwhole' ⟨hlater, hmembers⟩
    have hne : ∀ associationId kind id, call ≠ .addMember associationId kind id := by
      rintro associationId kind id rfl
      exact hP associationId kind id hcall
    have hnext : t.Precedes (t.after call) := precedes_after t call
    refine ⟨hlater.trans hnext, fun m => ?_⟩
    rw [mem_members_after hwhole'.constrained hwhole'.sound hne, hmembers]
    constructor
    · rintro ⟨⟨hm, -⟩, hattached⟩
      exact ⟨hm, hattached⟩
    · rintro ⟨hm, hattached⟩
      -- what is attached afterwards has been attached all along
      have hissued : s.Issued m := (hwhole.sound.attached hm).issued hwhole.constrained
      exact ⟨⟨hm, hattached.of_later hnext (hissued.mono hlater)⟩, hattached⟩
  have hstart : I s := ⟨.refl s, fun m => ⟨fun hm => ⟨hm, hwhole.sound.attached hm⟩, And.left⟩⟩
  obtain ⟨t, ht, -, -, hmembers⟩ := h.keep hcall hs hwhole hstart
  exact ⟨t, ht, hmembers⟩

/-- **A LINE** leaves the members that are attached and that were there or are
    linked by it. -/
theorem mem_members_evaluate (modifier : Char) (engine : Pattern.Engine) (around : Surroundings)
    (line : String) (hs : σ.store = some s) (hwhole : s.Whole) :
    ∃ t, ((Evaluator.ofBuiltin modifier engine).evaluate around line σ).session.store = some t ∧
      t.Whole ∧ s.Precedes t ∧ ∀ m, m ∈ t.members ↔
        t.Attached m ∧ (m ∈ s.members ∨ (Evaluator.ofBuiltin modifier engine).Links line σ m) := by
  have hsteps := Evaluator.evaluate_stepsBy modifier engine around line σ
  obtain ⟨t, ht, hwhole', hlater⟩ := hsteps.later hs hwhole
  refine ⟨t, ht, hwhole', hlater, fun m => ?_⟩
  by_cases hline : (Evaluator.ofBuiltin modifier engine).RunsLink line
  · have hmembers := (adds_evaluate around hline hs hwhole.constrained).mem_members (m := m) ht
    rw [← hmembers]
    exact ⟨fun hm => ⟨hwhole'.sound.attached hm, hm⟩, And.right⟩
  · obtain ⟨t', ht', hmembers⟩ :=
      hsteps.mem_members (fun _ _ _ hrequests => hline hrequests.runsLink) hs hwhole
    obtain rfl : t' = t := Option.some.inj (ht'.symm.trans ht)
    rw [hmembers, and_comm]
    refine and_congr_right (fun _ => (or_iff_left (fun hlinks => hline ?_)).symm)
    exact hlinks.1.runsLink

/-- An entity that is not there after steps was taken by one of their calls. -/
theorem Session.StepsBy.takes (h : StepsBy P σ τ) (hs : σ.store = some s)
    (hconstrained : s.Constrained) (hthere : s.HasEntity kind id) (ht : τ.store = some t)
    (hgone : ¬ t.HasEntity kind id) : ∃ call, P call ∧ s.Takes kind id call := by
  by_contra hnone
  -- as long as the entity is there, what takes it is what took it at first
  let I (τ : Session) : Prop := ∃ t, τ.store = some t ∧ t.Constrained ∧ t.HasEntity kind id ∧
    ∀ call, t.Takes kind id call → s.Takes kind id call
  have hstep : ∀ τ υ, StepBy P τ υ → I τ → I υ := by
    rintro τ υ hstep ⟨t, ht, hconstrained, hthere, htakes⟩
    rcases hstep.store ht with hsame | ⟨call, hcall, -, hafter⟩
    · exact ⟨t, hsame, hconstrained, hthere, htakes⟩
    · refine ⟨t.after call, hafter, hconstrained.after call, ?_, fun later hlater => ?_⟩
      · exact (hasEntity_after_iff hconstrained hthere).mpr
          (fun htaken => hnone ⟨call, hcall, htakes call htaken⟩)
      · exact htakes later (hlater.of_after hconstrained hthere)
  obtain ⟨t', ht', -, hthere', -⟩ := h.invariant hstep ⟨s, hs, hconstrained, hthere, fun _ h => h⟩
  obtain rfl : t' = t := Option.some.inj (ht'.symm.trans ht)
  exact hgone hthere'

end Lines

/-! ## Runs -/

/-- The entity is there in the session. -/
def Session.HasEntity (σ : Session) (kind : EntityKind) (id : Int) : Prop :=
  ∃ s ∈ σ.store, s.HasEntity kind id

/-- A line of the run links the pair, and the entity is there after this line
    and after every line since. -/
def Evaluator.LinkedSince (ev : Evaluator) (inputs : List (Surroundings × String)) (σ : Session)
    (m : Member) : Prop :=
  ∃ before input since, inputs = before ++ input :: since ∧
    ev.Links input.2 (ev.sessionAfter before σ) m ∧
    ∀ part, part <+: since →
      (ev.sessionAfter (before ++ input :: part) σ).HasEntity m.kind m.targetId

variable {inputs links : List (Surroundings × String)} {last : Surroundings × String}

/-- Nothing is linked by no lines. -/
theorem not_linkedSince_nil : ¬ ev.LinkedSince [] σ m := by
  rintro ⟨before, input, since, hsplit, -⟩
  exact append_cons_ne_nil hsplit.symm

/-- After one more line: it links the pair, or the pair was linked before; and
    the entity is there. -/
theorem linkedSince_concat_iff : ev.LinkedSince (inputs ++ [last]) σ m ↔
    (ev.sessionAfter (inputs ++ [last]) σ).HasEntity m.kind m.targetId ∧
      (ev.LinkedSince inputs σ m ∨ ev.Links last.2 (ev.sessionAfter inputs σ) m) := by
  constructor
  · rintro ⟨before, input, since, hsplit, hlinks, hthere⟩
    refine ⟨hsplit ▸ hthere since (List.prefix_refl since), ?_⟩
    -- the link is the last line, or it lies before it
    rcases concat_eq_append_cons_iff.mp hsplit with ⟨rfl, rfl, rfl⟩ | ⟨others, rfl, rfl⟩
    · exact .inr hlinks
    · refine .inl ⟨before, input, others, rfl, hlinks, fun part hpart => ?_⟩
      exact hthere part (hpart.trans (List.prefix_append others [last]))
  · rintro ⟨hthere, ⟨before, input, since, rfl, hlinks, hsince⟩ | hlinks⟩
    · have hconcat : (before ++ input :: since) ++ [last]
          = before ++ input :: (since ++ [last]) := by
        rw [List.append_assoc, List.cons_append]
      refine ⟨before, input, since ++ [last], hconcat, hlinks, fun part hpart => ?_⟩
      rcases List.prefix_concat_iff.mp hpart with rfl | hearlier
      · rw [← hconcat]
        exact hthere
      · exact hsince part hearlier
    · refine ⟨inputs, last, [], rfl, hlinks, fun part hpart => ?_⟩
      obtain rfl := List.prefix_nil.mp hpart
      exact hthere

/-- What a line links, it can link: the association and the entity are there.
    -/
theorem Evaluator.Links.attached (h : ev.Links line σ m) (hs : σ.store = some s) :
    s.Attached m := by
  obtain ⟨-, s', hs', ring, -, ⟨association, ha, hid, -⟩, hb⟩ := h
  obtain rfl : s = s' := Option.some.inj (hs.symm.trans hs')
  exact ⟨hid ▸ List.mem_map_of_mem ha, hb.hasEntity⟩

/-- **HISTORY**: after any lines on a store without members, the members are the
    pairs that were linked and whose entities have been there since, of the
    associations that are there. -/
theorem mem_members_sessionAfter (modifier : Char) (engine : Pattern.Engine)
    (hs : σ.store = some s) (hwhole : s.Whole) (hempty : s.members = [])
    (inputs : List (Surroundings × String)) :
    ∃ t, ((Evaluator.ofBuiltin modifier engine).sessionAfter inputs σ).store = some t ∧ t.Whole ∧
      ∀ m, (m ∈ t.members ↔ m.associationId ∈ t.ids .associations ∧
          (Evaluator.ofBuiltin modifier engine).LinkedSince inputs σ m) ∧
        ((Evaluator.ofBuiltin modifier engine).LinkedSince inputs σ m → t.Issued m) := by
  -- a line is added at the end, where the session before it is known
  induction inputs using List.reverseRecOn with
  | nil =>
      refine ⟨s, hs, hwhole, fun m => ⟨?_, fun h => absurd h not_linkedSince_nil⟩⟩
      rw [hempty]
      exact iff_of_false List.not_mem_nil (fun h => not_linkedSince_nil h.2)
  | append_singleton inputs last ih =>
      obtain ⟨t, ht, hwhole, hmembers⟩ := ih
      obtain ⟨u, hu, hwhole', hlater, hmembers'⟩ :=
        mem_members_evaluate modifier engine last.1 last.2 ht hwhole
      have hconcat : (Evaluator.ofBuiltin modifier engine).sessionAfter (inputs ++ [last]) σ
          = ((Evaluator.ofBuiltin modifier engine).evaluate last.1 last.2
              ((Evaluator.ofBuiltin modifier engine).sessionAfter inputs σ)).session :=
        Evaluator.sessionAfter_append _ inputs [last] σ
      rw [hconcat]
      refine ⟨u, hu, hwhole', fun m => ?_⟩
      rw [linkedSince_concat_iff, hconcat]
      have hthere : (((Evaluator.ofBuiltin modifier engine).evaluate last.1 last.2
          ((Evaluator.ofBuiltin modifier engine).sessionAfter inputs σ)).session).HasEntity
            m.kind m.targetId ↔ u.HasEntity m.kind m.targetId := by
        simp [Session.HasEntity, hu]
      rw [hthere]
      have hissued : (Evaluator.ofBuiltin modifier engine).LinkedSince inputs σ m ∨
          (Evaluator.ofBuiltin modifier engine).Links last.2
            ((Evaluator.ofBuiltin modifier engine).sessionAfter inputs σ) m → t.Issued m := by
        rintro (hlinked | hlinks)
        · exact (hmembers m).2 hlinked
        · exact (hlinks.attached ht).issued hwhole.constrained
      refine ⟨?_, fun h => (hissued h.2).mono hlater⟩
      rw [hmembers', (hmembers m).1]
      constructor
      · rintro ⟨hattached, hm⟩
        exact ⟨hattached.association, hattached.entity, hm.imp_left And.right⟩
      · rintro ⟨hassociation, hentity, hm⟩
        refine ⟨⟨hassociation, hentity⟩, hm.imp_left (fun hlinked => ⟨?_, hlinked⟩)⟩
        -- an association that is there now was there before, because its id was given out
        exact hlater.mem_ids _ _ (hissued hm).association hassociation

/-! ## Linking again and in another order -/

/-- What a line links does not depend on the members that are there. -/
theorem links_with_members (hs : σ.store = some s) (members : List Member) :
    ev.Links line { σ with store := some { s with members := members } } m
      ↔ ev.Links line σ m := by
  have hbelongs (ringId : Int) :
      ({ s with members := members } : Store).Belongs ringId m.kind m.targetId ↔
        s.Belongs ringId m.kind m.targetId :=
    ⟨fun h => h.mono { KeepsEntities.refl s with }, fun h => h.mono { KeepsEntities.refl s with }⟩
  simp [Evaluator.Links, hs, hbelongs]

/-- **LINES THAT LINK** add what one of them links. -/
theorem adds_sessionAfter (modifier : Char) (engine : Pattern.Engine)
    (links : List (Surroundings × String)) :
    ∀ (σ : Session) (s : Store), σ.store = some s → s.Whole →
      (∀ input ∈ links, (Evaluator.ofBuiltin modifier engine).RunsLink input.2) →
      σ.Adds s (fun m => ∃ input ∈ links, (Evaluator.ofBuiltin modifier engine).Links input.2 σ m)
        ((Evaluator.ofBuiltin modifier engine).sessionAfter links σ) := by
  induction links with
  | nil =>
      intro σ s hs _ _
      exact adds_nothing hs (by simp)
  | cons input links ih =>
      intro σ s hs hwhole hlinks
      obtain ⟨hfirst, hothers⟩ := List.forall_mem_cons.mp hlinks
      obtain ⟨members, hτ, hmembers⟩ := adds_evaluate input.1 hfirst hs hwhole.constrained
      obtain ⟨t, ht, hwhole', -, -⟩ :=
        mem_members_evaluate modifier engine input.1 input.2 hs hwhole
      rw [hτ] at ht
      obtain rfl : { s with members := members } = t := Option.some.inj ht
      -- the other lines link the same as they would have at the start, since members play no part
      -- in it
      obtain ⟨members', hυ, hmembers'⟩ := ih _ _ ht hwhole' hothers
      refine ⟨members', ?_, fun m => ?_⟩
      · show (Evaluator.ofBuiltin modifier engine).sessionAfter links _ = _
        rw [hτ, hυ]
      · rw [hmembers', hmembers, or_assoc]
        simp only [List.mem_cons, exists_eq_or_imp, links_with_members hs]

/-- Lines that link, and that ask for the same pairs, lead to the same lists:
    whatever their order, and however often they ask for a pair. -/
theorem listMembers_of_links (modifier : Char) (engine : Pattern.Engine)
    {links links' : List (Surroundings × String)} (hs : σ.store = some s) (hwhole : s.Whole)
    (hlinks : ∀ input ∈ links ++ links', (Evaluator.ofBuiltin modifier engine).RunsLink input.2)
    (hsame : ∀ associationId kind id,
      (∃ input ∈ links, (Evaluator.ofBuiltin modifier engine).Requests input.2
        (.addMember associationId kind id)) ↔
      ∃ input ∈ links', (Evaluator.ofBuiltin modifier engine).Requests input.2
        (.addMember associationId kind id)) :
    ∃ t t', ((Evaluator.ofBuiltin modifier engine).sessionAfter links σ).store = some t ∧
      ((Evaluator.ofBuiltin modifier engine).sessionAfter links' σ).store = some t' ∧
      ∀ associationId, t'.listMembers associationId = t.listMembers associationId := by
  obtain ⟨hfirst, hsecond⟩ := List.forall_mem_append.mp hlinks
  have hstore {links : List (Surroundings × String)}
      (hlinks : ∀ input ∈ links, (Evaluator.ofBuiltin modifier engine).RunsLink input.2) :
      ∃ t, ((Evaluator.ofBuiltin modifier engine).sessionAfter links σ).store = some t ∧
        t.Constrained ∧
        ∀ m, m ∈ t.members ↔ m ∈ s.members ∨
          ∃ input ∈ links, (Evaluator.ofBuiltin modifier engine).Links input.2 σ m := by
    obtain ⟨t, ht, hwhole', -⟩ :=
      (Evaluator.sessionAfter_stepsBy modifier engine links σ).later hs hwhole
    have hadds := adds_sessionAfter modifier engine links σ s hs hwhole hlinks
    exact ⟨t, ht, hwhole'.constrained, fun m => hadds.mem_members ht⟩
  obtain ⟨t, ht, hconstrained, hmembers⟩ := hstore hfirst
  obtain ⟨t', ht', hconstrained', hmembers'⟩ := hstore hsecond
  refine ⟨t, t', ht, ht', fun associationId => ?_⟩
  refine hconstrained.listMembers_eq hconstrained' (fun m _ => ?_)
  rw [hmembers, hmembers']
  -- what a line links is what it asks for, as far as the selection allows
  refine or_congr_right ?_
  simp only [Evaluator.links_iff hs hwhole.constrained]
  constructor
  · rintro ⟨input, hinput, hrequests, hpermits⟩
    obtain ⟨input', hinput', hrequests'⟩ := (hsame _ _ _).mpr ⟨input, hinput, hrequests⟩
    exact ⟨input', hinput', hrequests', hpermits⟩
  · rintro ⟨input, hinput, hrequests, hpermits⟩
    obtain ⟨input', hinput', hrequests'⟩ := (hsame _ _ _).mp ⟨input, hinput, hrequests⟩
    exact ⟨input', hinput', hrequests', hpermits⟩

/-- **NO MEMBER IS LOST, INVENTED OR DUPLICATED**: after any lines on a new
    store, an association lists each pair once at most, and lists it when a line
    has linked it and its entity has been there since.  An entity goes only by a
    line that asks to delete it, its subject or its ring; and lines that link
    may as well come in another order, or link again what is linked. -/
theorem membership_history (modifier : Char) (engine : Pattern.Engine) (config : Config)
    (inputs : List (Surroundings × String)) :
    let ev := Evaluator.ofBuiltin modifier engine
    let σ := start config (some fresh)
    ∃ s, (ev.sessionAfter inputs σ).store = some s ∧
      (∀ association ∈ s.associations.rows,
        ((s.listMembers association.id).map (fun m => (m.kind, m.targetId))).Nodup ∧
        ∀ kind id, (kind, id) ∈ (s.listMembers association.id).map (fun m => (m.kind, m.targetId)) ↔
          ev.LinkedSince inputs σ ⟨association.id, kind, id⟩) ∧
      (∀ before input since, inputs = before ++ input :: since → ∀ kind id,
        (ev.sessionAfter before σ).HasEntity kind id →
        ¬ (ev.sessionAfter (before ++ [input]) σ).HasEntity kind id →
          ∃ t ∈ (ev.sessionAfter before σ).store, ∃ call,
            ev.Requests input.2 call ∧ t.Takes kind id call) ∧
      ∀ links links', (∀ input ∈ links ++ links', ev.RunsLink input.2) →
        (∀ associationId kind id,
          (∃ input ∈ links, ev.Requests input.2 (.addMember associationId kind id)) ↔
            ∃ input ∈ links', ev.Requests input.2 (.addMember associationId kind id)) →
        ∃ t t', (ev.sessionAfter (inputs ++ links) σ).store = some t ∧
          (ev.sessionAfter (inputs ++ links') σ).store = some t' ∧
          ∀ associationId, t'.listMembers associationId = t.listMembers associationId := by
  intro ev σ
  -- the one run lemma that all three parts go back to
  have hreached (inputs : List (Surroundings × String)) :
      ∃ t, (ev.sessionAfter inputs σ).store = some t ∧ t.Whole ∧
        ∀ m, (m ∈ t.members ↔ m.associationId ∈ t.ids .associations ∧ ev.LinkedSince inputs σ m) ∧
          (ev.LinkedSince inputs σ m → t.Issued m) :=
    mem_members_sessionAfter modifier engine rfl fresh_whole rfl inputs
  obtain ⟨s, hs, hwhole, hmembers⟩ := hreached inputs
  refine ⟨s, hs, ?listed, ?taken, ?linkedAgain⟩
  case listed =>
    intro association ha
    refine ⟨hwhole.constrained.listMembers_once association.id, fun kind id => ?_⟩
    have hthere : association.id ∈ s.ids .associations := List.mem_map_of_mem ha
    rw [← (and_iff_right hthere : _ ∧ ev.LinkedSince inputs σ ⟨association.id, kind, id⟩ ↔ _),
      ← (hmembers ⟨association.id, kind, id⟩).1, List.mem_map]
    constructor
    · rintro ⟨⟨associationId, _, _⟩, hm, hpair⟩
      obtain ⟨rfl, rfl⟩ := Prod.mk.inj hpair
      obtain ⟨hm, rfl⟩ := mem_listMembers_iff.mp hm
      exact hm
    · intro hm
      exact ⟨_, mem_listMembers_iff.mpr ⟨hm, rfl⟩, rfl⟩
  case taken =>
    rintro before input since - kind id ⟨t, ht, hthere⟩ hgone
    obtain ⟨t', ht', hwhole', -⟩ := hreached before
    obtain rfl : t = t' := Option.some.inj (ht.symm.trans ht')
    obtain ⟨u, hu, -⟩ := hreached (before ++ [input])
    -- the entity goes in one of the steps of this line, and the call of the step is one that the
    -- line asks for
    have hsteps :=
      Evaluator.evaluate_stepsBy modifier engine input.1 input.2 (ev.sessionAfter before σ)
    rw [Evaluator.sessionAfter_append] at hu hgone
    obtain ⟨call, hrequests, htakes⟩ :=
      hsteps.takes ht hwhole'.constrained hthere hu (fun hleft => hgone ⟨u, hu, hleft⟩)
    exact ⟨t, ht, call, hrequests, htakes⟩
  case linkedAgain =>
    intro links links' hlinks hsame
    rw [Evaluator.sessionAfter_append, Evaluator.sessionAfter_append]
    exact listMembers_of_links modifier engine hs hwhole hlinks hsame

/-- A meeting of two subjects. -/
def meeting : Store :=
  fresh.afterAll
    [.createRing "09:00" "berlin" "", .createSubject "09:00" 1 "WOLF" "",
      .createSubject "09:00" 1 "FOX" "", .createAssociation "09:00" 1 3 "meeting",
      .addMember 1 .subject 1, .addMember 1 .subject 2]

/-- Two subjects that are linked by one line, or one by one and one of them
    again. -/
theorem membership_history_meeting :
    let ev := Evaluator.ofBuiltin '$' .standard
    let σ := start .plain (some fresh)
    let typed (lines : List String) : List (Surroundings × String) :=
      lines.map (fun line => (.bare, line))
    let inputs := typed ["ra berlin", "rs 1", "sa WOLF", "sa FOX", "aa 3 meeting"]
    let links := typed ["aas 1 1,2"]
    let links' := typed ["aas 1 2", "aas 1 1-2"]
    ((∀ input ∈ links ++ links', ev.RunsLink input.2) ∧
      ∀ associationId kind id,
        (∃ input ∈ links, ev.Requests input.2 (.addMember associationId kind id)) ↔
          ∃ input ∈ links', ev.Requests input.2 (.addMember associationId kind id)) ∧
    ev.LinkedSince (inputs ++ links) σ ⟨1, .subject, 2⟩ ∧
    ∃ t t', (ev.sessionAfter (inputs ++ links) σ).store = some t ∧
      (ev.sessionAfter (inputs ++ links') σ).store = some t' ∧
      ∀ associationId, t'.listMembers associationId = t.listMembers associationId := by
  intro ev σ typed inputs links links'
  have hboth : (ev.invoked? "aas 1 1,2").map (fun invoked => (invoked.1.name, invoked.2))
      = some ("aas", ["1", "1,2"]) := by decide +kernel
  have hsecond : (ev.invoked? "aas 1 2").map (fun invoked => (invoked.1.name, invoked.2))
      = some ("aas", ["1", "2"]) := by decide +kernel
  have hrange : (ev.invoked? "aas 1 1-2").map (fun invoked => (invoked.1.name, invoked.2))
      = some ("aas", ["1", "1-2"]) := by decide +kernel
  have hlinked {line text : String} {ids : List Int}
      (hline : (ev.invoked? line).map (fun invoked => (invoked.1.name, invoked.2))
        = some ("aas", ["1", text])) (hids : IdExpression.ids text = ids)
      (associationId : Int) (kind : EntityKind) (id : Int) :
      ev.Requests line (.addMember associationId kind id) ↔
        kind = .subject ∧ associationId = 1 ∧ id ∈ ids := by
    have hone : Text.toInt? "1" = some 1 := by decide +kernel
    rw [Evaluator.requests_iff hline]
    cases kind <;> simp [Commands.Requests, Store.Call.command, Asks, Commands.Names,
      Commands.Lists, hids, hone, eq_comm]
  -- the same links in one line and in two, one of them twice
  have hlinks : ∀ input ∈ links ++ links', ev.RunsLink input.2 := by
    intro input hinput
    have hinput' : input = (.bare, "aas 1 1,2") ∨ input = (.bare, "aas 1 2") ∨
        input = (.bare, "aas 1 1-2") := by
      simpa [links, links', typed] using hinput
    rcases hinput' with rfl | rfl | rfl
    · exact ((hlinked hboth rfl 1 .subject 1).mpr (by decide +kernel)).runsLink
    · exact ((hlinked hsecond rfl 1 .subject 2).mpr (by decide +kernel)).runsLink
    · exact ((hlinked hrange rfl 1 .subject 1).mpr (by decide +kernel)).runsLink
  have hsame (associationId : Int) (kind : EntityKind) (id : Int) :
      (∃ input ∈ links, ev.Requests input.2 (.addMember associationId kind id)) ↔
        ∃ input ∈ links', ev.Requests input.2 (.addMember associationId kind id) := by
    have hids : IdExpression.ids "1,2" = [1, 2] := by decide +kernel
    have hids' : IdExpression.ids "2" = [2] := by decide +kernel
    have hidsRange : IdExpression.ids "1-2" = [1, 2] := by decide +kernel
    simp only [links, links', typed, List.map_cons, List.map_nil, List.mem_cons,
      List.not_mem_nil, or_false, exists_eq_left, exists_eq_or_imp, hlinked hboth hids,
      hlinked hsecond hids', hlinked hrange hidsRange]
    constructor
    · exact .inr
    · rintro (⟨hkind, ha, hid⟩ | hlinked)
      · exact ⟨hkind, ha, .inr hid⟩
      · exact hlinked
  have hstore : (ev.sessionAfter (inputs ++ links) σ).store = some meeting := by decide +kernel
  obtain ⟨s, hs, hlisted, -⟩ := membership_history '$' .standard .plain (inputs ++ links)
  obtain rfl : meeting = s := Option.some.inj (hstore.symm.trans hs)
  have hpair := (hlisted ⟨1, 1, 3, "meeting", "09:00"⟩ (by decide)).2 .subject 2
  obtain ⟨-, -, -, -, hagain⟩ := membership_history '$' .standard .plain inputs
  exact ⟨⟨hlinks, hsame⟩, hpair.mp (by decide), hagain links links' hlinks hsame⟩

end Dossier
