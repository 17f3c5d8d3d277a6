import Dossier.Proofs.Registry
import Dossier.Proofs.Split
import Dossier.Proofs.Text.Utf8
import Mathlib.Data.Set.Card
import Mathlib.Data.List.Induction
/-! # The last write to a name

    A registry is filled by WRITES: a command is registered, or a command that
    is there is given another name as well.  What a write puts into the registry
    is settled at that moment (`Write.put?`), and a name belongs to the last
    write that put something there (`lookup_afterAll_iff`).

    Commands stand in the order of their names, which is the order of the bytes
    of the names (`encode_lt_encode`), and no name stands there twice.  The
    built-in commands are put in place by writes as well, so a name belongs to
    one of them (`Commands.eq_of_lookup`). -/

namespace Dossier

namespace Registry

variable {α : Type} {r : Registry α} {command c : Command α} {name target : String}

/-! ## One write -/

/-- A call that fills the registry. -/
inductive Write (α : Type)
  | register (command : Command α)
  | rename (name target : String)

/-- What a write puts into a registry: the command itself, or under another name
    what the target is there; nothing if that is unknown. -/
def Write.put? (r : Registry α) : Write α → Option (Command α)
  | .register command => some command
  | .rename name target => (r.lookup target).map (fun command => { command with name := name })

/-- The registry after a write. -/
def after (r : Registry α) : Write α → Registry α
  | .register command => r.insert command
  | .rename name target => (r.rename? name target).getD r

/-- A write that puts a command inserts it. -/
theorem after_of_put {w : Write α} (h : w.put? r = some command) :
    r.after w = r.insert command := by
  cases w with
  | register other =>
      cases h
      rfl
  | rename name target =>
      obtain ⟨found, hfound, rfl⟩ := Option.map_eq_some_iff.mp h
      simp only [after, rename?, hfound, Option.map_some, Option.getD_some]

/-- A write that puts none, to rename what is not there, changes nothing. -/
theorem after_of_put_none {w : Write α} (h : w.put? r = none) : r.after w = r := by
  cases w with
  | register other => cases h
  | rename name target =>
      simp only [after, rename?, Option.map_eq_none_iff.mp h, Option.map_none, Option.getD_none]

/-- A search by name looks at the first command first. -/
theorem find?_cons_name (first : Command α) (rest : List (Command α)) (name : String) :
    (first :: rest).find? (·.name == name)
      = if first.name = name then some first else rest.find? (·.name == name) := by
  by_cases h : first.name = name
  · rw [if_pos h, List.find?_cons_of_pos (by simpa using h)]
  · rw [if_neg h, List.find?_cons_of_neg (by simpa using h)]

/-- Insertion changes what is found under one name only. The place is found by
    order, the search goes by name, and the two agree because equal names are
    replaced. -/
theorem find?_insertInto (command : Command α) (name : String) (commands : List (Command α)) :
    (insertInto command commands).find? (·.name == name)
      = if command.name = name then some command else commands.find? (·.name == name) := by
  induction commands with
  | nil => exact find?_cons_name command [] name
  | cons first rest ih =>
      rw [insertInto]
      by_cases hless : command.name < first.name
      · rw [if_pos hless, find?_cons_name]
      rw [if_neg hless, find?_cons_name first]
      by_cases hsame : command.name = first.name
      · -- the other command of the name is not found any more
        rw [if_pos hsame, find?_cons_name, ← hsame]
        split
        · rfl
        · rfl
      · rw [if_neg hsame, find?_cons_name, ih]
        by_cases hfirst : first.name = name
        · have hname : command.name ≠ name := fun h => hsame (h.trans hfirst.symm)
          rw [if_pos hfirst, if_neg hname, if_pos hfirst]
        · rw [if_neg hfirst, if_neg hfirst]

/-- **ONE NAME** is written and no other. -/
theorem lookup_insert (r : Registry α) (command : Command α) (name : String) :
    (r.insert command).lookup name = if command.name = name then some command else r.lookup name :=
  find?_insertInto command name r.commands

/-- After a write a name finds what was just put under it, or what it found
    before if nothing was. -/
theorem lookup_after_iff {w : Write α} : (r.after w).lookup name = some c ↔
    (w.put? r = some c ∧ c.name = name) ∨
      (r.lookup name = some c ∧ ∀ put, w.put? r = some put → put.name ≠ name) := by
  cases hput : w.put? r with
  | none =>
      rw [after_of_put_none hput]
      simp
  | some command =>
      rw [after_of_put hput, lookup_insert]
      -- the command that is put is the one looked up, or it leaves that lookup as it was
      by_cases hname : command.name = name
      · rw [if_pos hname]
        constructor
        · intro h
          exact .inl ⟨h, Option.some.inj h ▸ hname⟩
        · rintro (⟨h, -⟩ | ⟨-, h⟩)
          · exact h
          · exact absurd hname (h command rfl)
      · rw [if_neg hname]
        constructor
        · intro h
          refine .inr ⟨h, ?_⟩
          rintro put ⟨⟩
          exact hname
        · rintro (⟨h, hc⟩ | ⟨h, -⟩)
          · cases h
            exact absurd hc hname
          · exact h

/-! ## Writes one after the other -/

def afterAll (writes : List (Write α)) : Registry α :=
  writes.foldl after empty

/-- The last write comes last. -/
theorem afterAll_concat (writes : List (Write α)) (w : Write α) :
    afterAll (writes ++ [w]) = (afterAll writes).after w := by
  simp [afterAll]

/-- The command is what the last write to the name has put there. -/
def LastPut (writes : List (Write α)) (name : String) (command : Command α) : Prop :=
  ∃ before w since, writes = before ++ w :: since ∧
    w.put? (afterAll before) = some command ∧ command.name = name ∧
    ∀ part later rest, since = part ++ later :: rest →
      ∀ put, later.put? (afterAll (before ++ w :: part)) = some put → put.name ≠ name

/-- The last put under a name is that of the last write, or an earlier one if
    the last write puts nothing under it. -/
theorem lastPut_concat_iff {writes : List (Write α)} {w : Write α} :
    LastPut (writes ++ [w]) name c ↔ (w.put? (afterAll writes) = some c ∧ c.name = name) ∨
      (LastPut writes name c ∧ ∀ put, w.put? (afterAll writes) = some put → put.name ≠ name) := by
  constructor
  · rintro ⟨before, first, since, hsplit, hput, hname, hsince⟩
    rcases concat_eq_append_cons_iff.mp hsplit with ⟨rfl, rfl, rfl⟩ | ⟨others, rfl, rfl⟩
    · exact .inl ⟨hput, hname⟩
    · refine .inr ⟨⟨before, first, others, rfl, hput, hname, ?_⟩, hsince others w [] rfl⟩
      rintro part later rest rfl
      exact hsince part later (rest ++ [w]) (by simp)
  · rintro (⟨hput, hname⟩ | ⟨⟨before, first, since, rfl, hput, hname, hsince⟩, hw⟩)
    · exact ⟨writes, w, [], rfl, hput, hname, fun _ _ _ hnil => absurd hnil.symm append_cons_ne_nil⟩
    · refine ⟨before, first, since ++ [w], by simp, hput, hname, ?_⟩
      intro part later rest hsplit
      rcases concat_eq_append_cons_iff.mp hsplit with ⟨rfl, rfl, rfl⟩ | ⟨others, rfl, rfl⟩
      · exact hw
      · exact hsince part later others rfl

/-- **THE LAST WRITE** to a name is what is found under it. -/
theorem lookup_afterAll_iff (writes : List (Write α)) (name : String) (c : Command α) :
    (afterAll writes).lookup name = some c ↔ LastPut writes name c := by
  induction writes using List.reverseRecOn with
  | nil =>
      constructor
      · rintro ⟨⟩
      · rintro ⟨before, w, since, hnil, -⟩
        exact absurd hnil.symm append_cons_ne_nil
  | append_singleton writes w ih =>
      rw [afterAll_concat, lookup_after_iff, lastPut_concat_iff, ih]

/-! ## The order of the names -/

/-- The commands stand in strict order of their names. -/
def Ordered (r : Registry α) : Prop :=
  r.commands.Pairwise (fun first second => first.name < second.name)

/-- Insertion keeps the order of names. -/
theorem pairwise_insertInto (command : Command α) {commands : List (Command α)}
    (h : commands.Pairwise (fun first second => first.name < second.name)) :
    (insertInto command commands).Pairwise (fun first second => first.name < second.name) := by
  induction h with
  | nil => exact List.pairwise_singleton _ _
  | @cons first rest hfirst hrest ih =>
      rw [insertInto]
      by_cases hless : command.name < first.name
      · rw [if_pos hless]
        refine .cons (List.forall_mem_cons.mpr ⟨hless, ?_⟩) (.cons hfirst hrest)
        exact fun c hc => String.lt_trans hless (hfirst c hc)
      rw [if_neg hless]
      by_cases hsame : command.name = first.name
      · rw [if_pos hsame]
        exact .cons (fun c hc => hsame ▸ hfirst c hc) hrest
      · rw [if_neg hsame]
        -- names are ordered totally, so what is neither before nor the same is after
        have hgreater : first.name < command.name := by
          by_contra h
          exact hsame (String.le_antisymm (String.not_lt.mp h) (String.not_lt.mp hless))
        refine .cons ?_ ih
        intro c hc
        rcases mem_insertInto hc with rfl | hold
        · exact hgreater
        · exact hfirst c hold

/-- So does every write. -/
theorem Ordered.after (h : r.Ordered) (w : Write α) : (r.after w).Ordered := by
  cases hput : w.put? r with
  | none => rwa [after_of_put_none hput]
  | some command =>
      rw [after_of_put hput]
      exact pairwise_insertInto command h

/-- After any writes the commands are in the order of their names. -/
theorem afterAll_ordered (writes : List (Write α)) : (afterAll writes).Ordered := by
  induction writes using List.reverseRecOn with
  | nil => exact .nil
  | append_singleton writes w ih =>
      rw [afterAll_concat]
      exact ih.after w

/-- In order no name is there twice, so every command is found. -/
theorem Ordered.lookup_of_mem (h : r.Ordered) (hc : c ∈ r.commands) :
    r.lookup c.name = some c := by
  rw [lookup]
  rw [Ordered] at h
  generalize r.commands = commands at h hc
  induction h with
  | nil => cases hc
  | @cons first rest hfirst _ ih =>
      rw [find?_cons_name]
      rcases List.mem_cons.mp hc with rfl | hrest
      · exact if_pos rfl
      · have hne : first.name ≠ c.name := fun h => String.lt_irrefl _ (h ▸ hfirst c hrest)
        rw [if_neg hne]
        exact ih hrest

theorem Ordered.names_nodup (h : r.Ordered) : r.names.Nodup := by
  refine List.pairwise_map.mpr (h.imp ?_)
  intro first second hlt heq
  exact String.lt_irrefl _ (heq ▸ hlt)

/-- The names are those under which something is found. -/
theorem mem_names_iff : name ∈ r.names ↔ ∃ c, r.lookup name = some c := by
  rw [← not_iff_not, ← lookup_eq_none_iff, Option.eq_none_iff_forall_ne_some, not_exists]

/-- A write adds the name that it puts a command under. -/
theorem mem_names_after_iff {w : Write α} : name ∈ (r.after w).names ↔
    (∃ command, w.put? r = some command ∧ command.name = name) ∨ name ∈ r.names := by
  rw [mem_names_iff, mem_names_iff]
  constructor
  · rintro ⟨c, h⟩
    rcases lookup_after_iff.mp h with hput | ⟨hold, -⟩
    · exact .inl ⟨c, hput⟩
    · exact .inr ⟨c, hold⟩
  · intro h
    by_cases hput : ∃ command, w.put? r = some command ∧ command.name = name
    · obtain ⟨command, hput⟩ := hput
      exact ⟨command, lookup_after_iff.mpr (.inl hput)⟩
    · obtain ⟨c, hold⟩ := h.resolve_left hput
      refine ⟨c, lookup_after_iff.mpr (.inr ⟨hold, ?_⟩)⟩
      exact fun command hcommand hname => hput ⟨command, hcommand, hname⟩

/-- A write has put something under the name. -/
def Written (writes : List (Write α)) (name : String) : Prop :=
  ∃ before w since command, writes = before ++ w :: since ∧
    w.put? (afterAll before) = some command ∧ command.name = name

/-- A name stays. -/
theorem mem_names_foldl_after (writes : List (Write α)) :
    ∀ r : Registry α, name ∈ r.names → name ∈ (writes.foldl after r).names := by
  induction writes with
  | nil =>
      intro r h
      exact h
  | cons w writes ih =>
      intro r h
      exact ih (r.after w) (mem_names_after_iff.mpr (.inr h))

/-- **THE NAMES** of a registry are those that have been written. -/
theorem mem_names_afterAll_iff (writes : List (Write α)) (name : String) :
    name ∈ (afterAll writes).names ↔ Written writes name := by
  constructor
  · intro h
    obtain ⟨c, hfound⟩ := mem_names_iff.mp h
    obtain ⟨before, w, since, hsplit, hput, hname, -⟩ :=
      (lookup_afterAll_iff writes name c).mp hfound
    exact ⟨before, w, since, c, hsplit, hput, hname⟩
  · rintro ⟨before, w, since, command, rfl, hput⟩
    rw [afterAll, List.foldl_append]
    exact mem_names_foldl_after since _ (mem_names_after_iff.mpr (.inl ⟨command, hput⟩))

/-- There are as many commands as names that were written. -/
theorem length_afterAll (writes : List (Write α)) :
    (afterAll writes).commands.length = {name | Written writes name}.ncard := by
  have hnames : {name | Written writes name} = ((afterAll writes).names.toFinset : Set String) := by
    ext name
    exact ((Finset.mem_coe.trans List.mem_toFinset).trans (mem_names_afterAll_iff writes name)).symm
  rw [hnames, Set.ncard_coe_finset,
    List.toFinset_card_of_nodup (afterAll_ordered writes).names_nodup, names, List.length_map]

/-- **LAST WRITE WINS**: a name is the command that the last write to it has put
    there, with another name everything but the name is carried over as it is at
    that moment, and the registry lists every name that has been written once,
    in the order of the bytes. -/
theorem last_write_wins (writes : List (Write α)) :
    let r := afterAll writes
    (∀ name c, r.lookup name = some c ↔ LastPut writes name c) ∧
    (∀ name target, r.lookup target = none →
      r.rename? name target = none ∧ r.after (.rename name target) = r) ∧
    (∀ name target c, r.lookup target = some c →
      ∃ r', r.rename? name target = some r' ∧ r.after (.rename name target) = r' ∧
        r'.lookup name = some { c with name := name } ∧
        ∀ command, command.name = target → target ≠ name →
          (r'.after (.register command)).lookup name = some { c with name := name }) ∧
    r.commands.Pairwise (fun first second => Utf8.encode first.name < Utf8.encode second.name) ∧
    (∀ name, name ∈ r.names ↔ Written writes name) ∧
    (∀ c ∈ r.commands, r.lookup c.name = some c) ∧
    r.commands.length = {name | Written writes name}.ncard := by
  intro r
  have hordered : r.Ordered := afterAll_ordered writes
  refine ⟨lookup_afterAll_iff writes, ?_, ?_, hordered.imp Utf8.encode_lt_encode,
    mem_names_afterAll_iff writes, fun c => hordered.lookup_of_mem, length_afterAll writes⟩
  · intro name target hunknown
    have hnone : r.rename? name target = none := by rw [rename?, hunknown, Option.map_none]
    refine ⟨hnone, ?_⟩
    rw [after, hnone, Option.getD_none]
  · intro name target c hfound
    have hsome : r.rename? name target = some (r.insert { c with name := name }) := by
      rw [rename?, hfound, Option.map_some]
    have hname : (r.insert { c with name := name }).lookup name = some { c with name := name } := by
      rw [lookup_insert, if_pos rfl]
    refine ⟨_, hsome, ?_, hname, ?_⟩
    · rw [after, hsome, Option.getD_some]
    · rintro command rfl hne
      -- the alias holds a copy of the command, so a later write of the target does not reach it
      rw [after, lookup_insert, if_neg hne, hname]

end Registry

/-! ## The built-in commands -/

namespace Commands

open Registry

variable {command other : Command Handler} {name : String}

/-- The writes that the built-in commands are put in place by. -/
def writes : List (Write Handler) :=
  families.map .register ++ otherNames.map (fun names => .rename names.1 names.2)
    ++ [.register (System.help .empty), .register (System.help (Help.all listed))]

/-- The built-in commands are what these writes come to. -/
theorem builtin_eq_afterAll : builtin = afterAll writes := by
  simp only [writes, afterAll, List.foldl_append, List.foldl_map]
  rfl

/-- A name belongs to one built-in command. -/
theorem eq_of_lookup (hcommand : command ∈ builtin.commands) (hname : command.name = name)
    (hfound : builtin.lookup name = some other) : command = other := by
  subst hname
  rw [builtin_eq_afterAll] at hcommand hfound
  have hsame := (afterAll_ordered writes).lookup_of_mem hcommand
  exact Option.some.inj (hsame.symm.trans hfound)

end Commands

end Dossier
