import Dossier.Proofs.Filters
/-! # The order of filters

    A filter looks at what the filters before it have left, so their order can
    matter: a group may lose the line that one filter looks for to another
    filter, and be kept by its exempt header, which no filter drops.  On a flat
    listing this cannot happen, and in groups it cannot happen when no exempt
    line matches anything.

    The heart is that a group then survives through ONE ordinary line that
    VOUCHES for it to all filters (`survives_iff_vouches`): the line that the
    last filter finds has passed all the others.  Which lines vouch for a group
    and which lines are kept does not depend on the order. -/

namespace Dossier

open Text

variable {stages stages' : List Stage} {line : Line} {group : List Line}

/-- The line is an ordinary one, or matches none of the stages. -/
def Line.Silent (stages : List Stage) (line : Line) : Prop :=
  line.isExempt = true → ∀ stage ∈ stages, stage.matchesText line.plain = false

instance (stages : List Stage) (line : Line) : Decidable (line.Silent stages) :=
  inferInstanceAs (Decidable (_ → _))

/-- The line is an ordinary one, not blank, and matches every stage. -/
def Line.vouches (stages : List Stage) (line : Line) : Bool :=
  !line.isExempt && !isBlankText line.plain
    && stages.all (fun stage => stage.matchesText line.plain)

/-- What it takes for a line to keep its group. -/
theorem Line.vouches_iff : line.vouches stages = true ↔
    line.isExempt = false ∧ isBlankText line.plain = false ∧
      ∀ stage ∈ stages, stage.matchesText line.plain = true := by
  rw [vouches, Bool.and_eq_true, Bool.and_eq_true, Bool.not_eq_true', Bool.not_eq_true',
    List.all_eq_true, and_assoc]

/-! ## Survival through one line -/

/-- Where no exempt line matches, a group survives through a line that matches
    every stage. -/
theorem survives_iff_vouches (hne : stages ≠ []) (hsilent : ∀ line ∈ group, line.Silent stages) :
    Survives stages group ↔ ∃ line ∈ group, line.vouches stages = true := by
  constructor
  · intro h
    -- the line that the last stage finds has been kept by all stages before
    obtain ⟨before, last, hstages⟩ := (List.eq_nil_or_concat stages).resolve_left hne
    rw [List.concat_eq_append] at hstages
    subst hstages
    obtain ⟨line, hline, hblank, hmatch, hkept⟩ := h before.length (by simp)
    rw [List.getElem_concat_length rfl] at hmatch
    rw [List.take_left] at hkept
    have hordinary : line.isExempt = false := by
      cases hexempt : line.isExempt with
      | false => rfl
      | true =>
          have hnone := hsilent line hline hexempt last (by simp)
          rw [hmatch] at hnone
          cases hnone
    rw [Line.kept, hordinary, Bool.false_or, List.all_eq_true] at hkept
    refine ⟨line, hline, Line.vouches_iff.mpr ⟨hordinary, hblank, ?_⟩⟩
    rw [List.forall_mem_append, List.forall_mem_singleton]
    exact ⟨hkept, hmatch⟩
  · rintro ⟨line, hline, hvouches⟩ k hk
    obtain ⟨-, hblank, hall⟩ := Line.vouches_iff.mp hvouches
    refine ⟨line, hline, hblank, hall _ (List.getElem_mem hk), ?_⟩
    rw [Line.kept, Bool.or_eq_true, List.all_eq_true]
    exact .inr (fun stage hstage => hall stage (List.mem_of_mem_take hstage))

/-- What survives of groups in which no exempt line matches. -/
theorem surviving_of_silent {groups : List (List Line)} (hne : stages ≠ [])
    (hsilent : ∀ group ∈ groups, ∀ line ∈ group, line.Silent stages) :
    surviving stages groups
      = (groups.filter (fun group => group.any (Line.vouches stages))).map
          (List.filter (Line.kept stages)) := by
  have hsurvives : ∀ group ∈ groups,
      decide (Survives stages group) = group.any (Line.vouches stages) := by
    intro group hgroup
    rw [Bool.eq_iff_iff, decide_eq_true_iff, List.any_eq_true]
    exact survives_iff_vouches hne (hsilent group hgroup)
  rw [surviving, List.filter_congr hsurvives]

/-! ## Other orders -/

/-- A line that is kept is kept by the filters in any order. -/
theorem Line.kept_perm (h : stages.Perm stages') : Line.kept stages = Line.kept stages' := by
  funext line
  rw [kept, kept, h.all_eq]

/-- A line that vouches does so in any order. -/
theorem Line.vouches_perm (h : stages.Perm stages') :
    Line.vouches stages = Line.vouches stages' := by
  funext line
  rw [vouches, vouches, h.all_eq]

theorem Line.Silent.perm (h : line.Silent stages) (hperm : stages.Perm stages') :
    line.Silent stages' :=
  fun hexempt stage hstage => h hexempt stage (hperm.mem_iff.mpr hstage)

/-- In any order the stages leave the same groups, if no exempt line matches. -/
theorem surviving_perm {groups : List (List Line)} (hperm : stages.Perm stages')
    (hsilent : ∀ group ∈ groups, ∀ line ∈ group, line.Silent stages) :
    surviving stages groups = surviving stages' groups := by
  by_cases hne : stages = []
  · subst hne
    rw [hperm.nil_eq]
  · have hne' : stages' ≠ [] := fun hnil => hne (List.perm_nil.mp (hnil ▸ hperm))
    have hsilent' : ∀ group ∈ groups, ∀ line ∈ group, line.Silent stages' :=
      fun group hgroup line hline => (hsilent group hgroup line hline).perm hperm
    rw [surviving_of_silent hne hsilent, surviving_of_silent hne' hsilent', Line.kept_perm hperm,
      Line.vouches_perm hperm]

/-- **ANY ORDER** of some filters leaves the same of a flat listing.  It leaves
    the same of groups, too, when no exempt line in them matches any of the
    filters: then the groups stay that have an ordinary line which is not blank
    and matches all filters, each with its exempt lines and the lines that match
    all filters. -/
theorem filters_in_any_order (stages stages' : List Stage)
    (hfilters : ∀ stage ∈ stages, stage.isFilter = true) (hperm : stages.Perm stages') :
    (∀ lines, Evaluator.applyStages (.flat lines) stages'
      = Evaluator.applyStages (.flat lines) stages) ∧
    ∀ groups : List (List Line), (∀ group ∈ groups, ∀ line ∈ group, line.Silent stages) →
      Evaluator.applyStages (.grouped groups) stages'
        = Evaluator.applyStages (.grouped groups) stages ∧
      (stages ≠ [] → Evaluator.applyStages (.grouped groups) stages
        = .display (.grouped ((groups.filter (fun group => group.any (Line.vouches stages))).map
            (List.filter (fun line => line.isExempt
              || stages.all (fun stage => stage.matchesText line.plain)))))) := by
  have hfilters' : ∀ stage ∈ stages', stage.isFilter = true :=
    fun stage hstage => hfilters stage (hperm.mem_iff.mpr hstage)
  constructor
  · intro lines
    rw [Evaluator.applyStages_flat hfilters, Evaluator.applyStages_flat hfilters',
      Line.kept_perm hperm]
  -- in groups the order could matter only through headers, which are silent here
  · intro groups hsilent
    constructor
    · rw [Evaluator.applyStages_grouped hfilters, Evaluator.applyStages_grouped hfilters',
        surviving_perm hperm hsilent]
    · intro hne
      rw [Evaluator.applyStages_grouped hfilters, surviving_of_silent hne hsilent]
      rfl

/-- Of two groups only the first has a line with the text that ends as the
    expression says, and it is left under its header in either order. -/
theorem filters_in_any_order_wolf :
    Evaluator.applyStages
        (.grouped [[.exempt "#1", ⟨"wolf, fox "⟩, ⟨"fox"⟩], [.exempt "#2", ⟨"fox"⟩, ⟨"wolf"⟩]])
        [.substring "wolf", .regex foxAtEnd.pattern]
      = .display (.grouped [[.exempt "#1", ⟨"wolf, fox "⟩]]) := by
  obtain ⟨-, hgrouped⟩ := filters_in_any_order [.regex foxAtEnd.pattern, .substring "wolf"]
    [.substring "wolf", .regex foxAtEnd.pattern] (by decide) (List.Perm.swap _ _ [])
  obtain ⟨hsame, hleft⟩ := hgrouped
    [[.exempt "#1", ⟨"wolf, fox "⟩, ⟨"fox"⟩], [.exempt "#2", ⟨"fox"⟩, ⟨"wolf"⟩]]
    (by decide +kernel)
  rw [hsame, hleft (List.cons_ne_nil _ _)]
  decide +kernel

/-- An exempt header that matches makes the order matter: it keeps its group for
    the second filter and not for the first. -/
example : Evaluator.applyStages (.grouped [[.exempt "fox", ⟨"wolf"⟩]])
      [.substring "wolf", .substring "fox"]
    ≠ Evaluator.applyStages (.grouped [[.exempt "fox", ⟨"wolf"⟩]])
      [.substring "fox", .substring "wolf"] := by decide +kernel

end Dossier
