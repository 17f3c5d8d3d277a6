import Dossier.Proofs.Evaluator
import Dossier.Proofs.Store.Codec
import Dossier.Proofs.Store.Versions
import Dossier.Proofs.Text.Utf8
import Dossier.Startup
import Mathlib.Logic.Function.Basic
/-! # Stores that are opened again

    A VISIT opens the store of a name, does something with it and closes it.  It
    is the program's own functions that open and close; what is done is to
    evaluate lines and to record versions of the schema, in any order.

    After any number of visits the file of a store holds a store in which the
    version in use is recorded exactly once (`Disk.Good`), and what the file
    holds is read back as it was written.  So to open it again gives that very
    store and leaves the file alone, or, when a later version has been
    recorded, fails and leaves the file alone as well (`reopening`). -/

namespace Dossier

open Session Store

/-! ## Files -/

/-- What the files at all paths hold. -/
abbrev Disk := String → Option (List UInt8)

/-- Access to a disk on which every file can be written. -/
def Disk.access : Files (StateM Disk) where
  read path := do return ((← get) path).map .ok
  write path content := do
    modify (fun disk => Function.update disk path (some content))
    return .ok ()
  createDirectories _ := return .ok ()

/-- The disk with a store in the file at a path. -/
def Disk.holding (disk : Disk) (path : String) (s : Store) : Disk :=
  Function.update disk path (some (Startup.bytesOf s))

/-- Opens the store of a name. -/
def Disk.openStore (disk : Disk) (name : String) : Except StoreError Store × Disk :=
  (Startup.openStore Disk.access name).run disk

/-- Closes the store of a name. -/
def Disk.closeStore (disk : Disk) (name : String) (store : Option Store) : Disk :=
  ((Startup.closeStore Disk.access (.ofName name) store).run disk).2

/-! ## Visits -/

/-- What is done while a store is open. -/
inductive Deed
  /-- A line is evaluated. -/
  | line (around : Surroundings) (text : String)
  /-- A version of the schema is recorded. -/
  | record (version : Int)

/-- The session after a deed. -/
def Deed.perform (ev : Evaluator) (σ : Session) : Deed → Session
  | .line around text => (ev.evaluate around text σ).session
  | .record version => { σ with store := σ.store.map (fun s => s.record version) }

/-- A store that is opened, and what is done until it is closed. -/
structure Visit where
  name : String
  config : Config
  modifier : Char
  engine : Pattern.Engine
  deeds : List Deed

/-- The session at the end of a visit that finds this store. -/
def Visit.session (visit : Visit) (s : Store) : Session :=
  visit.deeds.foldl (Deed.perform (.ofBuiltin visit.modifier visit.engine))
    (start visit.config (some s))

/-- The session at the end of a visit, none if the store could not be opened,
    and the disk after it. -/
def Visit.run (visit : Visit) (disk : Disk) : Option Session × Disk :=
  match disk.openStore visit.name with
  | (.error _, disk) => (none, disk)
  | (.ok s, disk) => (some (visit.session s), disk.closeStore visit.name (visit.session s).store)

/-- The disk after visits. -/
def Disk.after (disk : Disk) (visits : List Visit) : Disk :=
  visits.foldl (fun disk visit => (visit.run disk).2) disk

/-! ## Opening and closing -/

variable {disk : Disk} {name path : String} {visit : Visit} {s : Store} {σ : Session}

/-- The file that was written holds the store. -/
theorem holding_same : disk.holding path s path = some (Startup.bytesOf s) :=
  Function.update_self path _ disk

/-- Other files are as they were. -/
theorem holding_other {other : String} (h : path ≠ other) :
    disk.holding other s path = disk path :=
  Function.update_of_ne h _ disk

/-- What was written of a store is read as this store. -/
theorem read_bytesOf (s : Store) : (Utf8.decode? (Startup.bytesOf s)).bind ofText? = some s := by
  rw [Startup.bytesOf, Utf8.decode?_encode, Option.bind_some, ofText?_toText]

/-- What is written of a store is opened like the store. -/
theorem storeOf_bytesOf (s : Store) : Startup.storeOf (Startup.bytesOf s) = s.opened := by
  rw [Startup.storeOf, read_bytesOf]

/-- No two stores are written alike. -/
theorem bytesOf_injective {t : Store} (h : Startup.bytesOf s = Startup.bytesOf t) : s = t := by
  have hread := read_bytesOf s
  rw [h, read_bytesOf t] at hread
  exact (Option.some.inj hread).symm

/-- A name that stands for a file opens the file, and makes a new one if there
    is none. -/
theorem open_file (hname : Medium.ofName name = .file path) :
    disk.openStore name = match disk path with
      | some bytes => (Startup.storeOf bytes, disk)
      | none => (.ok fresh, disk.holding path fresh) := by
  have hopen : disk.openStore name = (Startup.openFile Disk.access path).run disk := by
    simp only [Disk.openStore, Startup.openStore]
    rw [hname]
    rfl
  rw [hopen]
  cases hbytes : disk path with
  | none =>
      simp [Startup.openFile, Disk.access, hbytes]
      rfl
  | some bytes =>
      simp [Startup.openFile, Disk.access, hbytes]
      rfl

/-- The file of a store that has been written is opened like the store. -/
theorem open_written (hname : Medium.ofName name = .file path)
    (hbytes : disk path = some (Startup.bytesOf s)) : disk.openStore name = (s.opened, disk) := by
  rw [open_file hname, hbytes]
  dsimp only
  rw [storeOf_bytesOf]

/-- A new file holds a new store. -/
theorem open_new (hname : Medium.ofName name = .file path) (hnew : disk path = none) :
    disk.openStore name = (.ok fresh, disk.holding path fresh) := by
  rw [open_file hname, hnew]

/-- A store is put back into its file. -/
theorem close_file (hname : Medium.ofName name = .file path) :
    disk.closeStore name (some s) = disk.holding path s := by
  simp only [Disk.closeStore, Startup.closeStore]
  rw [hname]
  rfl

/-- A name of something else does nothing to the file. -/
theorem open_other (hname : Medium.ofName name ≠ .file path) :
    (disk.openStore name).2 path = disk path := by
  cases hmedium : Medium.ofName name with
  | file other =>
      have hne : path ≠ other := fun heq => hname (heq ▸ hmedium)
      rw [open_file hmedium]
      split
      · rfl
      · exact holding_other hne
  | memory | none =>
      simp only [Disk.openStore, Startup.openStore]
      rw [hmedium]
      rfl

/-- Stores of other names go elsewhere. -/
theorem close_other (hname : Medium.ofName name ≠ .file path) (store : Option Store) :
    disk.closeStore name store path = disk path := by
  cases hmedium : Medium.ofName name with
  | file other =>
      have hne : path ≠ other := fun heq => hname (heq ▸ hmedium)
      cases store with
      | none =>
          simp only [Disk.closeStore, Startup.closeStore]
          rw [hmedium]
          rfl
      | some s =>
          rw [close_file hmedium]
          exact holding_other hne
  | memory | none =>
      simp only [Disk.closeStore, Startup.closeStore]
      rw [hmedium]
      rfl

/-! ## Files that visits leave -/

/-- The file, if it exists, is what was written of a store in which the version
    in use is recorded once. -/
def Disk.Good (disk : Disk) (path : String) : Prop :=
  ∀ bytes, disk path = some bytes → ∃ s, bytes = Startup.bytesOf s ∧ s.Recorded

/-- **TO OPEN** a good file has one of three outcomes: a new store in a new file,
    the store of the file, or a failure; an old file stays as it is. -/
inductive Disk.Opens (disk : Disk) (path : String) : Except StoreError Store × Disk → Prop
  | new : disk path = none → Opens disk path (.ok fresh, disk.holding path fresh)
  | old {s : Store} : disk path = some (Startup.bytesOf s) → s.Recorded →
      (∀ v ∈ s.versions, v ≤ schemaVersion) → Opens disk path (.ok s, disk)
  | refused {s : Store} {e : StoreError} : disk path = some (Startup.bytesOf s) → s.Recorded →
      (∃ v ∈ s.versions, schemaVersion < v) →
      e = .newerSchema s.version ∨ e = .unreadableSchema → Opens disk path (.error e, disk)

/-- A good file is opened in one of the three ways. -/
theorem Disk.Good.opens (h : disk.Good path) (hname : Medium.ofName name = .file path) :
    disk.Opens path (disk.openStore name) := by
  cases hbytes : disk path with
  | none =>
      rw [open_new hname hbytes]
      exact .new hbytes
  | some bytes =>
      obtain ⟨s, rfl, hrecorded⟩ := h bytes hbytes
      obtain ⟨hold, hrefused⟩ := opened_of_recorded hrecorded.mem
      rw [open_written hname hbytes]
      by_cases hall : ∀ v ∈ s.versions, v ≤ schemaVersion
      · rw [hold hall]
        exact .old hbytes hrecorded hall
      · have hlater : ∃ v ∈ s.versions, schemaVersion < v := by
          simpa only [not_forall, Int.not_le, exists_prop] using hall
        rcases hrefused hlater with herror | herror
        · rw [herror]
          exact .refused hbytes hrecorded hlater (.inl rfl)
        · rw [herror]
          exact .refused hbytes hrecorded hlater (.inr rfl)

/-! ## Sessions -/

/-- The session has a store, in which the version in use is recorded once. -/
def Session.Recorded (σ : Session) : Prop :=
  ∃ s, σ.store = some s ∧ s.Recorded

/-- No command touches the versions. -/
theorem Session.Step.recorded {τ : Session} (hstep : Step σ τ) (h : σ.Recorded) : τ.Recorded := by
  obtain ⟨s, hs, hrecorded⟩ := h
  cases hstep with
  | @call s' call hs' _ =>
      obtain rfl : s = s' := Option.some.inj (hs.symm.trans hs')
      exact ⟨s.after call, carryOut_store σ s call, hrecorded.after call⟩
  | selectRing | selectSubject | toggleDebug | quit => exact ⟨s, hs, hrecorded⟩

/-- **ONE DEED** keeps the version in use recorded. -/
theorem Session.Recorded.perform (h : σ.Recorded) (modifier : Char) (engine : Pattern.Engine)
    (deed : Deed) :
    (deed.perform (.ofBuiltin modifier engine) σ).Recorded := by
  cases deed with
  | line around text =>
      have hsteps : Steps σ
          ((Evaluator.ofBuiltin modifier engine).evaluate around text σ).session :=
        (Evaluator.evaluate_steps (Evaluator.ofBuiltin_orderly modifier engine)).1
      exact hsteps.invariant (fun _ _ => Step.recorded) h
  | record version =>
      obtain ⟨s, hs, hrecorded⟩ := h
      refine ⟨s.record version, ?_, hrecorded.record version⟩
      show σ.store.map _ = _
      rw [hs]
      rfl

/-- So they are still as they were when a visit ends. -/
theorem Visit.session_recorded (visit : Visit) (h : s.Recorded) :
    (visit.session s).Recorded := by
  -- by induction on the deeds, from any session
  have hdeeds (deeds : List Deed) : ∀ σ : Session, σ.Recorded →
      (deeds.foldl (Deed.perform (.ofBuiltin visit.modifier visit.engine)) σ).Recorded := by
    induction deeds with
    | nil => exact fun _ hσ => hσ
    | cons deed deeds ih => exact fun σ hσ => ih _ (hσ.perform visit.modifier visit.engine deed)
  exact hdeeds visit.deeds _ ⟨s, rfl, h⟩

/-! ## Runs of visits -/

/-- A visit that cannot open its store leaves at once. -/
theorem Visit.run_of_error {e : StoreError} {next : Disk}
    (h : disk.openStore visit.name = (.error e, next)) : visit.run disk = (none, next) := by
  rw [Visit.run, h]

/-- A visit runs its lines and then puts the store back. -/
theorem Visit.run_of_ok {next : Disk} (h : disk.openStore visit.name = (.ok s, next)) :
    visit.run disk
      = (some (visit.session s), next.closeStore visit.name (visit.session s).store) := by
  rw [Visit.run, h]

/-- A visit of the file opens it and, if that succeeds, leaves in it the store
    that the session has in the end. -/
theorem Visit.run_file (hname : Medium.ofName visit.name = .file path) (h : disk.Good path) :
    (∃ e, disk.openStore visit.name = (.error e, disk) ∧ visit.run disk = (none, disk)) ∨
      ∃ σ s, (visit.run disk).1 = some σ ∧ σ.store = some s ∧ s.Recorded ∧
        (visit.run disk).2 path = some (Startup.bytesOf s) := by
  have hleft {t : Store} {next : Disk} (ht : t.Recorded)
      (hopen : disk.openStore visit.name = (.ok t, next)) :
      ∃ σ s, (visit.run disk).1 = some σ ∧ σ.store = some s ∧ s.Recorded ∧
        (visit.run disk).2 path = some (Startup.bytesOf s) := by
    obtain ⟨s, hs, hrecorded⟩ := visit.session_recorded ht
    rw [Visit.run_of_ok hopen, hs, close_file hname]
    exact ⟨visit.session t, s, rfl, hs, hrecorded, holding_same⟩
  have hopens := h.opens hname
  generalize hopen : disk.openStore visit.name = outcome at hopens
  cases hopens with
  | new => exact .inr (hleft fresh_recorded hopen)
  | old _ hrecorded => exact .inr (hleft hrecorded hopen)
  | @refused s e _ _ _ _ =>
      exact .inl ⟨e, rfl, Visit.run_of_error hopen⟩

/-- **ONE VISIT** leaves a good file good, whatever it opens. -/
theorem Disk.Good.run (h : disk.Good path) (visit : Visit) : (visit.run disk).2.Good path := by
  by_cases hname : Medium.ofName visit.name = .file path
  · rcases Visit.run_file hname h with ⟨e, -, hrun⟩ | ⟨σ, s, -, -, hrecorded, hleft⟩
    · rw [hrun]
      exact h
    · intro bytes hbytes
      exact ⟨s, Option.some.inj (hbytes.symm.trans hleft), hrecorded⟩
  · -- a visit of another store writes its own file only
    have hopened : (disk.openStore visit.name).2 path = disk path := open_other hname
    have hsame : (visit.run disk).2 path = disk path := by
      rcases hopen : disk.openStore visit.name with ⟨e | s, next⟩
      · rw [hopen] at hopened
        rw [Visit.run_of_error hopen]
        exact hopened
      · rw [hopen] at hopened
        rw [Visit.run_of_ok hopen]
        exact (close_other hname _).trans hopened
    intro bytes hbytes
    exact h bytes (hsame.symm.trans hbytes)

/-- **FILES** stay good, whoever visits. -/
theorem Disk.Good.after (visits : List Visit) :
    ∀ {disk : Disk}, disk.Good path → (disk.after visits).Good path := by
  induction visits with
  | nil => exact fun h => h
  | cons visit visits ih => exact fun h => ih (h.run visit)

/-- A good file that is opened again is found as the first opening has left it. -/
theorem Disk.Good.openStore_twice (h : disk.Good path) (hname : Medium.ofName name = .file path) :
    (disk.openStore name).2.openStore name = disk.openStore name := by
  have hopens := h.opens hname
  generalize hopen : disk.openStore name = outcome at hopens
  cases hopens with
  | new => exact open_written hname holding_same
  | old => exact hopen
  | refused => exact hopen

/-- **STORES ARE OPENED AGAIN** as they were closed.  Where no file was before, and
    after any visits: the store of a new file is opened and has the version in
    use recorded; the file of an old store, in which that version is recorded
    once, is opened as it is if no later version is recorded, and refused if one
    is, and stays the same; to open twice is to open once; and what a session
    has in the end is what is opened next. -/
theorem reopening (name path : String) (hname : Medium.ofName name = .file path)
    (visits : List Visit) (before : Disk) (hnew : before path = none) :
    let disk := before.after visits
    (disk path = none →
      disk.openStore name = (.ok fresh, disk.holding path fresh) ∧ fresh.versions = [1]) ∧
    (∀ bytes, disk path = some bytes → ∃ s, bytes = Startup.bytesOf s ∧ s.versions.count 1 = 1 ∧
      ((∀ v ∈ s.versions, v ≤ 1) → disk.openStore name = (.ok s, disk)) ∧
      ((∃ v ∈ s.versions, 1 < v) → ∃ e, disk.openStore name = (.error e, disk) ∧
        (e = .newerSchema s.version ∨ e = .unreadableSchema) ∧
        e.fault = .persistence e.message)) ∧
    (disk.openStore name).2.openStore name = disk.openStore name ∧
    ∀ visit : Visit, visit.name = name → ∀ σ, (visit.run disk).1 = some σ →
      ∃ s, σ.store = some s ∧ (visit.run disk).2 path = some (Startup.bytesOf s) ∧
        ((∀ v ∈ s.versions, v ≤ 1) →
          (visit.run disk).2.openStore name = (.ok s, (visit.run disk).2)) := by
  intro disk
  have hbefore : before.Good path := by
    intro bytes hbytes
    cases hnew.symm.trans hbytes
  -- what the visits keep: the file, where there is one, holds a store that records version 1
  have hgood : disk.Good path := hbefore.after visits
  have hold {disk : Disk} {s : Store} (hbytes : disk path = some (Startup.bytesOf s))
      (hrecorded : s.Recorded) (hall : ∀ v ∈ s.versions, v ≤ 1) :
      disk.openStore name = (.ok s, disk) := by
    rw [open_written hname hbytes, (opened_of_recorded hrecorded.mem).1 hall]
  refine ⟨fun hnone => ⟨open_new hname hnone, rfl⟩, fun bytes hbytes => ?_,
    hgood.openStore_twice hname, ?_⟩
  · obtain ⟨s, rfl, hrecorded⟩ := hgood bytes hbytes
    refine ⟨s, rfl, hrecorded, hold hbytes hrecorded, fun hlater => ?_⟩
    rw [open_written hname hbytes]
    rcases (opened_of_recorded hrecorded.mem).2 hlater with herror | herror
    · exact ⟨_, by rw [herror], .inl rfl, rfl⟩
    · exact ⟨_, by rw [herror], .inr rfl, rfl⟩
  · rintro visit rfl σ hσ
    rcases Visit.run_file hname hgood with ⟨e, -, hrun⟩ | ⟨σ', s, hσ', hs, hrecorded, hbytes⟩
    · rw [hrun] at hσ
      cases hσ
    · obtain rfl := Option.some.inj (hσ'.symm.trans hσ)
      exact ⟨s, hs, hbytes, hold hbytes hrecorded⟩

/-- A session that makes a ring; a version is recorded as well. -/
def berlinVisit (version : Int) : Visit :=
  ⟨"notes.db", .plain, '$', .standard, [.line .bare "ra berlin", .record version]⟩

/-- The ring is there when the store is opened again, unless the version that was
    recorded is a later one. -/
theorem reopening_berlin :
    (let disk := Disk.after (fun _ => none) [berlinVisit (-3)]
      ∃ s, disk.openStore "notes.db" = (.ok s, disk) ∧
        s.listRings = [⟨1, "berlin", "", "09:00"⟩] ∧ s.versions = [1, -3]) ∧
    (let disk := Disk.after (fun _ => none) [berlinVisit 7]
      ∃ e, disk.openStore "notes.db" = (.error e, disk) ∧ e.fault = .persistence e.message) := by
  have hname : Medium.ofName "notes.db" = .file "notes.db" := by decide +kernel
  have hopen (version : Int) : Disk.openStore (fun _ => none) (berlinVisit version).name
      = (.ok fresh, Disk.holding (fun _ => none) "notes.db" fresh) := open_new hname rfl
  have hrun (version : Int) : ((berlinVisit version).run (fun _ => none)).1
      = some ((berlinVisit version).session fresh) := by
    rw [Visit.run_of_ok (hopen version)]
  obtain ⟨-, -, -, hclosed⟩ := reopening "notes.db" "notes.db" hname [] (fun _ => none) rfl
  constructor
  -- a recorded version below 1 does not make the file a newer one
  · obtain ⟨s, hs, -, hopened⟩ := hclosed (berlinVisit (-3)) rfl _ (hrun (-3))
    have hstore : ((berlinVisit (-3)).session fresh).store.map (fun s => (s.listRings, s.versions))
        = some ([⟨1, "berlin", "", "09:00"⟩], [1, -3]) := by decide +kernel
    rw [hs] at hstore
    obtain ⟨hrings, hversions⟩ := Prod.mk.inj (Option.some.inj hstore)
    refine ⟨s, hopened ?_, hrings, hversions⟩
    rw [hversions]
    decide
  -- a later version does, and the store that was written is the one refused
  · obtain ⟨s, hs, hbytes, -⟩ := hclosed (berlinVisit 7) rfl _ (hrun 7)
    have hstore : ((berlinVisit 7).session fresh).store.map versions = some [1, 7] := by
      decide +kernel
    rw [hs] at hstore
    obtain ⟨-, hold, -, -⟩ :=
      reopening "notes.db" "notes.db" hname [berlinVisit 7] (fun _ => none) rfl
    obtain ⟨t, ht, -, -, hrefused⟩ := hold _ hbytes
    obtain rfl := bytesOf_injective ht
    obtain ⟨e, herror, -, hfault⟩ := hrefused ⟨7, by rw [Option.some.inj hstore]; decide, by decide⟩
    exact ⟨e, herror, hfault⟩

end Dossier
