import Dossier.Evaluator
/-! # Chains of filters

    What a chain of filters leaves of a listing, in closed form.  A line is
    KEPT when it is exempt or matches every stage, and on a flat listing that
    is all there is.  Groups are subtler: the stages look at a group one after
    the other, each at what the stages before it have left.  A group SURVIVES
    when every stage finds in it a line that is not blank and matches, among
    the lines that the earlier stages have kept; these need not be the same
    line for all stages.

    The heart is the recursion of survival (`survives_cons`): a group survives
    a chain when the first stage finds a line in it, and what this stage leaves
    of it survives the rest. -/

namespace Dossier

open Text

namespace Stage

/-- The stage filters lines. -/
def isFilter : Stage → Bool
  | .substring _ => true
  | .regex _ => true
  | .page => false

/-- The plain text of a line matches the stage: it contains the substring, or
    the pattern occurs in it without the blanks at its ends. -/
def matchesText : Stage → String → Bool
  | .substring text, plain => Text.contains plain text
  | .regex pattern, plain => pattern.occursIn (Text.trim plain)
  | .page, _ => true

/-- All stages but the one that pages are filters, with a test of their own. -/
theorem apply_filter {stage : Stage} (h : stage.isFilter = true) (listing : Listing) :
    stage.apply listing = listing.filter stage.matchesText := by
  cases stage with
  | substring text => rfl
  | regex pattern => rfl
  | page => cases h

end Stage

/-- The line is exempt or matches every stage. -/
def Line.kept (stages : List Stage) (line : Line) : Bool :=
  line.isExempt || stages.all (fun stage => stage.matchesText line.plain)

/-- Every stage finds a line in the group that is not blank, matches, and has
    been kept by the stages before. -/
def Survives (stages : List Stage) (group : List Line) : Prop :=
  ∀ (k : Nat) (hk : k < stages.length), ∃ line ∈ group,
    isBlankText line.plain = false ∧ stages[k].matchesText line.plain = true ∧
      line.kept (stages.take k) = true

instance (stages : List Stage) (group : List Line) : Decidable (Survives stages group) := by
  unfold Survives
  infer_instance

variable {stage : Stage} {stages : List Stage} {line : Line} {group : List Line}

/-! ## Lines -/

theorem Line.kept_nil (line : Line) : line.kept [] = true :=
  Bool.or_true _

theorem Line.kept_cons : line.kept (stage :: stages)
    = (Listing.passes stage.matchesText line && line.kept stages) := by
  rw [Line.kept, Line.kept, Listing.passes, List.all_cons, Bool.or_and_distrib_left]

/-- What a stage lets pass and the rest keeps is what the chain keeps. -/
theorem Line.filter_kept_cons (lines : List Line) :
    (lines.filter (Listing.passes stage.matchesText)).filter (Line.kept stages)
      = lines.filter (Line.kept (stage :: stages)) := by
  rw [List.filter_filter]
  refine List.filter_congr (fun line _ => ?_)
  rw [Line.kept_cons, Bool.and_comm]

/-! ## Groups -/

theorem survives_nil (group : List Line) : Survives [] group :=
  fun _ hk => absurd hk (Nat.not_lt_zero _)

/-- **THE FIRST STAGE** has to find a line, and what it leaves has to survive
    the rest. -/
theorem survives_cons : Survives (stage :: stages) group ↔
    group.any (Listing.trulyMatches stage.matchesText) = true ∧
      Survives stages (group.filter (Listing.passes stage.matchesText)) := by
  constructor
  · intro h
    constructor
    · obtain ⟨line, hline, hblank, hmatch, -⟩ := h 0 (Nat.succ_pos _)
      refine List.any_eq_true.mpr ⟨line, hline, ?_⟩
      have hmatch' : stage.matchesText line.plain = true := hmatch
      rw [Listing.trulyMatches, hblank, hmatch']
      rfl
    · -- stage `k` of the rest is stage `k + 1` of the chain
      intro k hk
      obtain ⟨line, hline, hblank, hmatch, hkept⟩ := h (k + 1) (Nat.succ_lt_succ hk)
      rw [List.take_succ_cons, Line.kept_cons, Bool.and_eq_true] at hkept
      exact ⟨line, List.mem_filter.mpr ⟨hline, hkept.1⟩, hblank, hmatch, hkept.2⟩
  · rintro ⟨hfound, hrest⟩ k hk
    cases k with
    | zero =>
        obtain ⟨line, hline, htruly⟩ := List.any_eq_true.mp hfound
        rw [Listing.trulyMatches, Bool.and_eq_true, Bool.not_eq_true'] at htruly
        exact ⟨line, hline, htruly.1, htruly.2, Line.kept_nil line⟩
    | succ k =>
        obtain ⟨line, hline, hblank, hmatch, hkept⟩ := hrest k (Nat.lt_of_succ_lt_succ hk)
        obtain ⟨hmem, hpasses⟩ := List.mem_filter.mp hline
        refine ⟨line, hmem, hblank, hmatch, ?_⟩
        rw [List.take_succ_cons, Line.kept_cons, hpasses, hkept]
        rfl

/-- What the last stage has found is among the lines that are left. -/
theorem exists_kept_of_survives (hstages : stages ≠ []) (h : Survives stages group) :
    ∃ line ∈ group, line.kept stages = true := by
  induction stages generalizing group with
  | nil => exact absurd rfl hstages
  | cons stage stages ih =>
      obtain ⟨hfound, hrest⟩ := survives_cons.mp h
      -- a line that an earlier stage has found may be gone at the end
      by_cases hlast : stages = []
      · obtain ⟨line, hline, htruly⟩ := List.any_eq_true.mp hfound
        rw [Listing.trulyMatches, Bool.and_eq_true] at htruly
        refine ⟨line, hline, ?_⟩
        rw [hlast, Line.kept_cons, Line.kept_nil, Listing.passes, htruly.2, Bool.or_true]
        rfl
      · obtain ⟨line, hline, hkept⟩ := ih hlast hrest
        obtain ⟨hmem, hpasses⟩ := List.mem_filter.mp hline
        refine ⟨line, hmem, ?_⟩
        rw [Line.kept_cons, hpasses, hkept]
        rfl

/-! ## Listings -/

/-- The groups that survive, each with the lines that are kept. -/
def surviving (stages : List Stage) (groups : List (List Line)) : List (List Line) :=
  (groups.filter (fun group => decide (Survives stages group))).map (List.filter (Line.kept stages))

theorem surviving_nil (groups : List (List Line)) : surviving [] groups = groups := by
  have hall : ∀ group ∈ groups, decide (Survives [] group) = true :=
    fun group _ => decide_eq_true (survives_nil group)
  have hlines : List.filter (Line.kept []) = id := by
    funext group
    exact List.filter_eq_self.mpr (fun line _ => Line.kept_nil line)
  rw [surviving, List.filter_eq_self.mpr hall, hlines, List.map_id]

/-- The line that keeps a group passes the filter itself. -/
theorem any_trulyMatches_filter (p : String → Bool) (group : List Line) :
    (group.filter (Listing.passes p)).any (Listing.trulyMatches p)
      = group.any (Listing.trulyMatches p) := by
  rw [List.any_filter]
  congr 1
  funext line
  rw [Listing.passes, Listing.trulyMatches]
  cases p line.plain with
  | true => rw [Bool.or_true, Bool.true_and]
  | false => rw [Bool.and_false, Bool.and_false]

/-- The closed form, one stage at a time. -/
theorem surviving_cons (groups : List (List Line)) :
    surviving stages
      ((groups.map (List.filter (Listing.passes stage.matchesText))).filter
        (fun group => group.any (Listing.trulyMatches stage.matchesText)))
      = surviving (stage :: stages) groups := by
  have hsurvives : ∀ group ∈ groups,
      (((fun group => decide (Survives stages group) &&
          group.any (Listing.trulyMatches stage.matchesText)) ∘
        List.filter (Listing.passes stage.matchesText)) group)
        = decide (Survives (stage :: stages) group) := by
    intro group _
    show (decide (Survives stages (group.filter _)) && (group.filter _).any _) = _
    rw [any_trulyMatches_filter, Bool.eq_iff_iff, Bool.and_eq_true, decide_eq_true_iff,
      decide_eq_true_iff, survives_cons, and_comm]
  rw [surviving, surviving, List.filter_filter, List.filter_map, List.map_map,
    List.filter_congr hsurvives]
  refine List.map_congr_left (fun group _ => ?_)
  exact Line.filter_kept_cons group

/-! ## Chains -/

namespace Evaluator

/-- The first filter is applied first. -/
theorem applyStages_cons (h : stage.isFilter = true) (listing : Listing) :
    applyStages listing (stage :: stages)
      = applyStages (listing.filter stage.matchesText) stages := by
  rw [← Stage.apply_filter h]
  cases stage with
  | substring text => rfl
  | regex pattern => rfl
  | page => cases h

/-- Filters are applied from left to right, and then the rest. -/
theorem applyStages_append (h : ∀ stage ∈ stages, stage.isFilter = true) (listing : Listing)
    (rest : List Stage) :
    applyStages listing (stages ++ rest) = applyStages (stages.foldl Stage.apply listing) rest := by
  induction stages generalizing listing with
  | nil => rfl
  | cons stage stages ih =>
      obtain ⟨hstage, hstages⟩ := List.forall_mem_cons.mp h
      rw [List.cons_append, applyStages_cons hstage, ih hstages, List.foldl_cons,
        Stage.apply_filter hstage]

/-- On a flat listing the stages work line by line. -/
theorem applyStages_flat (h : ∀ stage ∈ stages, stage.isFilter = true) (lines : List Line) :
    applyStages (.flat lines) stages = .display (.flat (lines.filter (Line.kept stages))) := by
  induction stages generalizing lines with
  | nil =>
      rw [List.filter_eq_self.mpr (fun line _ => Line.kept_nil line)]
      rfl
  | cons stage stages ih =>
      obtain ⟨hstage, hstages⟩ := List.forall_mem_cons.mp h
      rw [applyStages_cons hstage, Listing.filter, ih hstages, Line.filter_kept_cons]

/-- On a grouped listing the survivors are left. -/
theorem applyStages_grouped (h : ∀ stage ∈ stages, stage.isFilter = true)
    (groups : List (List Line)) :
    applyStages (.grouped groups) stages = .display (.grouped (surviving stages groups)) := by
  induction stages generalizing groups with
  | nil =>
      rw [surviving_nil]
      rfl
  | cons stage stages ih =>
      obtain ⟨hstage, hstages⟩ := List.forall_mem_cons.mp h
      rw [applyStages_cons hstage, Listing.filter, ih hstages, surviving_cons]

/-! ## The same stage twice -/

/-- What is left is left by the same filter once more: lines that matched match
    again, and the headers are still there. -/
theorem filter_filter_self (p : String → Bool) (listing : Listing) :
    (listing.filter p).filter p = listing.filter p := by
  cases listing with
  | flat lines =>
      show Listing.flat ((lines.filter _).filter _) = Listing.flat (lines.filter _)
      rw [List.filter_filter]
      simp only [Bool.and_self]
  | grouped groups =>
      let left := (groups.map (List.filter (Listing.passes p))).filter
        (fun group => group.any (Listing.trulyMatches p))
      -- what is left has been thinned out, and has a line that keeps it
      have hleft : ∀ group ∈ left,
          group.filter (Listing.passes p) = group ∧
            group.any (Listing.trulyMatches p) = true := by
        intro group hgroup
        obtain ⟨hmem, hany⟩ := List.mem_filter.mp hgroup
        obtain ⟨whole, -, rfl⟩ := List.mem_map.mp hmem
        refine ⟨?_, hany⟩
        rw [List.filter_filter]
        simp only [Bool.and_self]
      have hmap : left.map (List.filter (Listing.passes p)) = left :=
        (List.map_congr_left (fun group hgroup => (hleft group hgroup).1)).trans (List.map_id _)
      show Listing.grouped ((left.map _).filter _) = Listing.grouped left
      rw [hmap, List.filter_eq_self.mpr (fun group hgroup => (hleft group hgroup).2)]

/-- Applying a stage again right away changes nothing. -/
theorem applyStages_twice (stage : Stage) (earlier later : List Stage) (listing : Listing) :
    applyStages listing (earlier ++ stage :: stage :: later)
      = applyStages listing (earlier ++ stage :: later) := by
  induction earlier generalizing listing with
  | nil =>
      by_cases hstage : stage.isFilter = true
      · show applyStages listing (stage :: stage :: later) = applyStages listing (stage :: later)
        rw [applyStages_cons hstage, applyStages_cons hstage, applyStages_cons hstage,
          filter_filter_self]
      · cases stage with
        | page => rfl
        | substring text => exact absurd rfl hstage
        | regex pattern => exact absurd rfl hstage
  | cons first earlier ih =>
      cases first with
      | page => rfl
      | substring text => exact ih _
      | regex pattern => exact ih _

end Evaluator

/-- **CLOSED FORM** of a chain of filters: on a flat listing the lines that are
    kept, and on a grouped listing the groups that survive, each with its lines
    that are kept, all in their order.  After at least one filter no group is
    empty, and a filter that comes twice in a row might as well come once. -/
theorem filters_closed_form (stages : List Stage)
    (hstages : ∀ stage ∈ stages, stage.isFilter = true) :
    (∀ lines, Evaluator.applyStages (.flat lines) stages
      = .display (.flat (lines.filter (Line.kept stages)))) ∧
    (∀ groups, Evaluator.applyStages (.grouped groups) stages
      = .display (.grouped ((groups.filter (fun group => decide (Survives stages group))).map
          (List.filter (Line.kept stages))))) ∧
    (stages ≠ [] → ∀ groups left,
      Evaluator.applyStages (.grouped groups) stages = .display (.grouped left) →
        ∀ group ∈ left, group ≠ []) ∧
    ∀ listing earlier stage later, stages = earlier ++ stage :: later →
      Evaluator.applyStages listing (earlier ++ stage :: stage :: later)
        = Evaluator.applyStages listing stages := by
  refine ⟨Evaluator.applyStages_flat hstages, Evaluator.applyStages_grouped hstages, ?_, ?_⟩
  · intro hne groups left hleft group hgroup
    rw [Evaluator.applyStages_grouped hstages] at hleft
    obtain rfl : surviving stages groups = left := by
      injection hleft with hlisting
      injection hlisting
    obtain ⟨whole, hwhole, rfl⟩ := List.mem_map.mp hgroup
    have hsurvives := of_decide_eq_true (List.mem_filter.mp hwhole).2
    -- a group survives because some line of it is kept
    obtain ⟨line, hline, hkept⟩ := exists_kept_of_survives hne hsurvives
    exact List.ne_nil_of_mem (List.mem_filter.mpr ⟨hline, hkept⟩)
  · rintro listing earlier stage later rfl
    exact Evaluator.applyStages_twice stage earlier later listing

/-- What the expression `fox$` is read as. -/
def foxAtEnd : Pattern.Piece :=
  (Pattern.read? "fox$").get (by decide +kernel)

/-- The pattern is what the text is read as. -/
theorem build_foxAtEnd : Stage.build .standard .regex "fox$" = .ok (.regex foxAtEnd.pattern) := by
  have hread : Pattern.read? "fox$" = some foxAtEnd := (Option.some_get _).symm
  have hsize : Pattern.Engine.standard.size "fox$" ≤ Pattern.sizeLimit := by decide +kernel
  rw [Stage.build, Pattern.compile, hread]
  dsimp only
  rw [if_pos hsize]

/-- The first filter finds the line `wolf` and the second, which it does not
    match, the end of the exempt header: the group survives with its header
    alone. -/
theorem filters_closed_form_header :
    Stage.build .standard .regex "fox$" = .ok (.regex foxAtEnd.pattern) ∧
      Evaluator.applyStages
          (.grouped [[.exempt "1  fox ", ⟨"wolf"⟩], [.exempt "2  fox"], [⟨"fox wolf"⟩]])
          [.substring "wolf", .regex foxAtEnd.pattern]
        = .display (.grouped [[.exempt "1  fox "]]) := by
  have hfilters : ∀ stage ∈ [Stage.substring "wolf", .regex foxAtEnd.pattern],
      stage.isFilter = true := by decide
  refine ⟨build_foxAtEnd, ?_⟩
  rw [(filters_closed_form _ hfilters).2.1]
  decide +kernel

end Dossier
