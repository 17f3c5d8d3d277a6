import Dossier.Commands
/-! # What is in the registry

    A registry holds what has been registered, and nothing else; another name
    for a command stands for the same handler.  A property of handlers
    therefore holds throughout the built-in commands once it holds for the
    commands of the families and for `help`, whatever that shows. -/

namespace Dossier

namespace Registry

variable {α : Type} {r : Registry α} {command c : Command α} {Q : Command α → Prop}

/-- Insertion brings in nothing but the command. -/
theorem mem_insertInto {commands : List (Command α)} (h : c ∈ insertInto command commands) :
    c = command ∨ c ∈ commands := by
  induction commands with
  | nil => exact .inl (List.mem_singleton.mp h)
  | cons first rest ih =>
      rw [insertInto] at h
      by_cases hless : command.name < first.name
      · rw [if_pos hless] at h
        exact List.mem_cons.mp h
      rw [if_neg hless] at h
      by_cases hsame : command.name = first.name
      · rw [if_pos hsame] at h
        rcases List.mem_cons.mp h with hc | hc
        · exact .inl hc
        · exact .inr (List.mem_cons_of_mem first hc)
      · rw [if_neg hsame] at h
        rcases List.mem_cons.mp h with hc | hc
        · exact .inr (hc ▸ List.mem_cons_self)
        · exact (ih hc).imp_right (List.mem_cons_of_mem first)

/-- What holds of the commands of a registry and of one more holds once that
    one is registered. -/
theorem forall_insert (h : ∀ c ∈ r.commands, Q c) (hc : Q command) :
    ∀ c ∈ (r.insert command).commands, Q c := by
  intro c hmem
  rcases mem_insertInto hmem with rfl | hold
  · exact hc
  · exact h c hold

/-- What holds of all commands that are inserted holds of all that are there.
    -/
theorem forall_foldl_insert {commands : List (Command α)} (h : ∀ c ∈ r.commands, Q c)
    (hc : ∀ c ∈ commands, Q c) : ∀ c ∈ (commands.foldl Registry.insert r).commands, Q c := by
  induction commands generalizing r with
  | nil => exact h
  | cons c commands ih =>
      refine ih (forall_insert h (hc c List.mem_cons_self)) ?_
      exact fun c' hc' => hc c' (List.mem_cons_of_mem c hc')

/-- All handlers of a registry have a property. -/
def Throughout (P : α → Prop) (r : Registry α) : Prop :=
  ∀ command ∈ r.commands, P command.handler

/-- A command that is found is there. -/
theorem mem_of_lookup {name : String} (h : r.lookup name = some c) : c ∈ r.commands :=
  List.mem_of_find?_eq_some h

/-- A command is found by its own name. -/
theorem name_of_lookup {name : String} (h : r.lookup name = some c) : c.name = name := by
  have hname : (c.name == name) = true :=
    List.find?_some (p := fun command : Command α => command.name == name) h
  exact beq_iff_eq.mp hname

/-- Children are commands of the registry. -/
theorem mem_of_mem_children {stem : String} (h : c ∈ r.children stem) : c ∈ r.commands := by
  have hfound : c ∈ r.startingWith stem := (List.mem_filter.mp h).1
  exact (List.dropWhile_suffix _).subset ((List.takeWhile_prefix _).subset hfound)

/-- A name that is not found belongs to no command. -/
theorem lookup_eq_none_iff {name : String} : r.lookup name = none ↔ name ∉ r.names := by
  rw [lookup, List.find?_eq_none, names, List.mem_map, not_exists]
  simp only [not_and, beq_iff_eq]

/-- Registries with the same names find, or do not find, the same names. -/
theorem lookup_eq_none_of_names {r' : Registry α} (hnames : r'.names = r.names) {name : String}
    (h : r.lookup name = none) : r'.lookup name = none := by
  rw [lookup_eq_none_iff] at h ⊢
  rw [hnames]
  exact h

end Registry

namespace Commands

open Registry

variable {Q : Command Handler → Prop} {r : Registry Handler}

/-- A further name gives a command that is there once more. -/
theorem forall_withName {names : String × String} (h : ∀ c ∈ r.commands, Q c)
    (hname : ∀ c, c.name = names.2 → Q c → Q { c with name := names.1 }) :
    ∀ c ∈ (withName r names).commands, Q c := by
  rw [withName, rename?]
  cases hfound : r.lookup names.2 with
  | none => exact h
  | some command =>
      have hcommand : Q command := h command (mem_of_lookup hfound)
      exact forall_insert h (hname command (name_of_lookup hfound) hcommand)

/-- What holds of a command may have to be shown again for the command under
    another name. -/
theorem forall_withNames {names : List (String × String)} (h : ∀ c ∈ r.commands, Q c)
    (hnames : ∀ n ∈ names, ∀ c, c.name = n.2 → Q c → Q { c with name := n.1 }) :
    ∀ c ∈ (names.foldl withName r).commands, Q c := by
  induction names generalizing r with
  | nil => exact h
  | cons first names ih =>
      refine ih (forall_withName h (hnames first List.mem_cons_self)) ?_
      exact fun n hn => hnames n (List.mem_cons_of_mem first hn)

/-- The commands that `help` lists, itself among them. -/
def listed : Registry Handler :=
  withoutHelp.insert (System.help .empty)

/-- The name `help` belongs to the command that shows all the others. -/
theorem lookup_help : builtin.lookup "help" = some (System.help (Help.all listed)) :=
  rfl

/-- What holds of the commands of the families and of `help`, and also under
    the further names, holds of every command that `help` lists. -/
theorem forall_listed (hfamilies : ∀ command ∈ families, Q command)
    (hnames : ∀ n ∈ otherNames, ∀ c, c.name = n.2 → Q c → Q { c with name := n.1 })
    (hhelp : ∀ listing, Q (System.help listing)) : ∀ c ∈ listed.commands, Q c :=
  forall_insert (forall_withNames (forall_foldl_insert nofun hfamilies) hnames) (hhelp _)

/-- It also holds of every built-in command. -/
theorem forall_commands (hfamilies : ∀ command ∈ families, Q command)
    (hnames : ∀ n ∈ otherNames, ∀ c, c.name = n.2 → Q c → Q { c with name := n.1 })
    (hhelp : ∀ listing, Q (System.help listing)) : ∀ c ∈ builtin.commands, Q c :=
  forall_insert (forall_listed hfamilies hnames hhelp) (hhelp _)

/-- What holds of the handlers of the families and of `help` holds of the
    handler of every built-in command. -/
theorem forall_builtin {P : Handler → Prop} (hfamilies : ∀ command ∈ families, P command.handler)
    (hhelp : ∀ listing, P (System.show_ listing)) : builtin.Throughout P :=
  forall_commands (Q := fun c => P c.handler) hfamilies (fun _ _ _ _ h => h) hhelp

end Commands

end Dossier
