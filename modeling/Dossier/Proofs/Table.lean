import Dossier.Store.Table
import Mathlib.Data.List.Nodup
import Mathlib.Data.List.Sort
/-! # Tables in order

    A table gives every new row an id above all that it has given out, so its
    rows stand in the strict order of their ids and no id occurs twice.  Every
    operation keeps this: a new row goes behind the last id, and what is kept
    or changed keeps its id and its place.

    The second part follows the FIRST row that satisfies a test through the
    operations, because that row is what a look-up by id answers with. -/

namespace Dossier.Table

variable {α : Type} {key : α → Int} {t : Table α}

/-- The rows stand in the strict order of their keys, and no key is above the
    last id that the table has given out. -/
structure Ordered (key : α → Int) (t : Table α) : Prop where
  increasing : (t.rows.map key).Pairwise (· < ·)
  bounded : ∀ row ∈ t.rows, key row ≤ t.lastId

/-! ## The rows after an operation -/

/-- A row that is added comes to those there are. -/
theorem mem_add {make : Int → α} {row : α} :
    row ∈ (t.add make).rows ↔ row ∈ t.rows ∨ row = make t.nextId := by
  show row ∈ t.rows ++ [make t.nextId] ↔ _
  rw [List.mem_append, List.mem_singleton]

/-- What holds of the rows and of the new row holds of the rows with it. -/
theorem forall_mem_add {make : Int → α} {P : α → Prop} (h : ∀ row ∈ t.rows, P row)
    (hnew : P (make t.nextId)) : ∀ row ∈ (t.add make).rows, P row := by
  intro row hrow
  rcases mem_add.mp hrow with hold | rfl
  · exact h row hold
  · exact hnew

/-- The rows that are kept were there and pass the test. -/
theorem mem_keep {p : α → Bool} {row : α} :
    row ∈ (t.keep p).rows ↔ row ∈ t.rows ∧ p row = true :=
  List.mem_filter

/-- A test that all rows pass keeps the table as it is. -/
theorem keep_of_forall {p : α → Bool} (h : ∀ row ∈ t.rows, p row = true) : t.keep p = t := by
  show ({ t with rows := t.rows.filter p } : Table α) = t
  rw [List.filter_eq_self.mpr h]

/-- Every row after an update was one before it. -/
theorem mem_update {p : α → Bool} {change : α → α} {row : α} :
    row ∈ (t.update p change).rows ↔
      ∃ old ∈ t.rows, (if p old then change old else old) = row :=
  List.mem_map

/-! ## Order -/

theorem ordered_empty : (empty : Table α).Ordered key :=
  ⟨List.Pairwise.nil, fun _ h => nomatch h⟩

/-- In an ordered table a row is determined by its key. -/
theorem Ordered.eq_of_key (h : t.Ordered key) {a b : α} (ha : a ∈ t.rows) (hb : b ∈ t.rows)
    (hk : key a = key b) : a = b := by
  have hd : (t.rows.map key).Nodup := h.increasing.imp (fun hlt => Int.ne_of_lt hlt)
  exact List.inj_on_of_nodup_map hd ha hb hk

/-- Ordered tables that have the same rows of a kind list them in the same
    way. -/
theorem Ordered.select_eq {t' : Table α} (h : t.Ordered key) (h' : t'.Ordered key) {p : α → Bool}
    (hrows : ∀ row, p row = true → (row ∈ t'.rows ↔ row ∈ t.rows)) : t'.select p = t.select p := by
  have : Std.Irrefl (fun a b => key a < key b) := ⟨fun a => Int.lt_irrefl (key a)⟩
  have : Std.Antisymm (fun a b => key a < key b) :=
    ⟨fun _ _ hab hba => absurd hab (Int.lt_asymm hba)⟩
  have hincreasing : t.rows.Pairwise (fun a b => key a < key b) := List.pairwise_map.mp h.increasing
  have hincreasing' : t'.rows.Pairwise (fun a b => key a < key b) :=
    List.pairwise_map.mp h'.increasing
  refine (hincreasing'.filter p).eq_of_mem_iff (hincreasing.filter p) (fun row => ?_)
  show row ∈ t'.rows.filter p ↔ row ∈ t.rows.filter p
  rw [List.mem_filter, List.mem_filter]
  exact and_congr_left (hrows row)

/-- A new row stands behind all others. -/
theorem Ordered.add (h : t.Ordered key) (make : Int → α) (hm : ∀ id, key (make id) = id) :
    (t.add make).Ordered key := by
  refine ⟨?_, ?_⟩
  · show ((t.rows ++ [make (t.lastId + 1)]).map key).Pairwise (· < ·)
    rw [List.map_append, List.pairwise_append]
    refine ⟨h.increasing, List.pairwise_singleton _ _, ?_⟩
    intro k hk k' hk'
    obtain ⟨row, hrow, rfl⟩ := List.mem_map.mp hk
    obtain rfl : k' = t.lastId + 1 := by simpa [hm] using hk'
    have := h.bounded row hrow
    omega
  · intro row hrow
    show key row ≤ t.lastId + 1
    rcases mem_add.mp hrow with hold | rfl
    · have := h.bounded row hold
      omega
    · rw [hm]
      exact Int.le_refl _

theorem Ordered.keep (h : t.Ordered key) (p : α → Bool) : (t.keep p).Ordered key :=
  ⟨h.increasing.sublist (List.Sublist.map key List.filter_sublist),
    fun row hrow => h.bounded row (mem_keep.mp hrow).1⟩

/-- A change that leaves keys alone leaves the list of keys alone. -/
theorem map_update {β : Type} {f : α → β} {p : α → Bool} {change : α → α}
    (hc : ∀ row, f (change row) = f row) :
    (t.update p change).rows.map f = t.rows.map f := by
  show (t.rows.map _).map f = _
  rw [List.map_map]
  refine List.map_congr_left (fun row _ => ?_)
  show f (if p row then change row else row) = f row
  split
  · exact hc row
  · rfl

/-- Order is kept if keys are. -/
theorem Ordered.update (h : t.Ordered key) {p : α → Bool} {change : α → α}
    (hc : ∀ row, key (change row) = key row) : (t.update p change).Ordered key := by
  refine ⟨?_, ?_⟩
  · rw [map_update hc]
    exact h.increasing
  · intro row hrow
    obtain ⟨old, hold, rfl⟩ := mem_update.mp hrow
    have hk : key (if p old then change old else old) = key old := by
      split
      · exact hc old
      · rfl
    rw [hk]
    exact h.bounded old hold

/-! ## Presence and uniqueness -/

/-- Some row has this key. -/
def Has (key : α → Int) (t : Table α) (k : Int) : Prop :=
  ∃ row ∈ t.rows, key row = k

variable {k : Int}

/-- A row that is there has its key in the table. -/
theorem has_of_mem {row : α} (h : row ∈ t.rows) : t.Has key (key row) :=
  ⟨row, h, rfl⟩

/-- A search for the key finds it if it is there. -/
theorem any_key_iff : t.any (fun row => key row == k) = true ↔ t.Has key k := by
  show t.rows.any (fun row => key row == k) = true ↔ _
  rw [List.any_eq_true]
  simp only [beq_iff_eq]
  rfl

theorem Has.add (h : t.Has key k) (make : Int → α) : (t.add make).Has key k := by
  obtain ⟨row, hrow, hk⟩ := h
  exact ⟨row, mem_add.mpr (Or.inl hrow), hk⟩

/-- A key stays if its row is kept. -/
theorem Has.keep (h : t.Has key k) {p : α → Bool}
    (hp : ∀ row ∈ t.rows, key row = k → p row = true) : (t.keep p).Has key k := by
  obtain ⟨row, hrow, hk⟩ := h
  exact ⟨row, mem_keep.mpr ⟨hrow, hp row hrow hk⟩, hk⟩

/-- A row that is not among the selected ones outlasts their removal. -/
theorem Has.keep_unselected (h : t.Has key k) {p : α → Bool}
    (hk : ((t.select p).map key).contains k = false) :
    (t.keep (fun row => !p row)).Has key k := by
  refine h.keep (fun row hrow heq => ?_)
  rw [Bool.not_eq_true']
  refine Bool.eq_false_iff.mpr (fun hp => ?_)
  have hin : key row ∈ (t.select p).map key :=
    List.mem_map_of_mem (List.mem_filter.mpr ⟨hrow, hp⟩)
  rw [heq] at hin
  simp [hin] at hk

theorem Has.update (h : t.Has key k) {p : α → Bool} {change : α → α}
    (hc : ∀ row, key (change row) = key row) : (t.update p change).Has key k := by
  obtain ⟨row, hrow, hk⟩ := h
  refine ⟨_, mem_update.mpr ⟨row, hrow, rfl⟩, ?_⟩
  split
  · rw [hc, hk]
  · exact hk

/-- A new row does not take the key of one that is there. -/
theorem exists_add_iff {make : Int → α} {P : α → Prop} (h : t.Ordered key)
    (hm : ∀ id, key (make id) = id) (hk : t.Has key k) :
    (∃ row ∈ (t.add make).rows, key row = k ∧ P row) ↔ ∃ row ∈ t.rows, key row = k ∧ P row := by
  constructor
  · rintro ⟨row, hrow, hkey, hP⟩
    rcases mem_add.mp hrow with hold | rfl
    · exact ⟨row, hold, hkey, hP⟩
    · obtain ⟨old, hold, rfl⟩ := hk
      have hle := h.bounded old hold
      rw [hm, nextId] at hkey
      omega
  · rintro ⟨row, hrow, hkey, hP⟩
    exact ⟨row, mem_add.mpr (.inl hrow), hkey, hP⟩

/-- Removing rows of other keys does not matter for a key. -/
theorem exists_keep_iff {p : α → Bool} {P : α → Prop}
    (hp : ∀ row ∈ t.rows, key row = k → p row = true) :
    (∃ row ∈ (t.keep p).rows, key row = k ∧ P row) ↔ ∃ row ∈ t.rows, key row = k ∧ P row := by
  constructor
  · rintro ⟨row, hrow, hkey, hP⟩
    exact ⟨row, (mem_keep.mp hrow).1, hkey, hP⟩
  · rintro ⟨row, hrow, hkey, hP⟩
    exact ⟨row, mem_keep.mpr ⟨hrow, hp row hrow hkey⟩, hkey, hP⟩

/-- Values stay distinct if the new one is new. -/
theorem nodup_map_add {β : Type} {f : α → β} {make : Int → α} (h : (t.rows.map f).Nodup)
    (hnew : ∀ row ∈ t.rows, f row ≠ f (make t.nextId)) : ((t.add make).rows.map f).Nodup := by
  show ((t.rows ++ [make t.nextId]).map f).Nodup
  rw [List.map_append, List.nodup_append]
  refine ⟨h, List.nodup_singleton _, ?_⟩
  intro a ha b hb
  obtain ⟨row, hrow, rfl⟩ := List.mem_map.mp ha
  rw [List.map_singleton, List.mem_singleton] at hb
  rw [hb]
  exact hnew row hrow

/-- Values stay distinct if rows go. -/
theorem nodup_map_keep {β : Type} {f : α → β} (h : (t.rows.map f).Nodup) (p : α → Bool) :
    ((t.keep p).rows.map f).Nodup :=
  h.sublist (List.Sublist.map f List.filter_sublist)

theorem nodup_map_update {β : Type} {f : α → β} {p : α → Bool} {change : α → α}
    (h : (t.rows.map f).Nodup) (hc : ∀ row, f (change row) = f row) :
    ((t.update p change).rows.map f).Nodup := by
  rw [map_update hc]
  exact h

/-! ## The first row of its kind -/

/-- A row is found if its key is there. -/
theorem isSome_find?_key : (t.find? (fun row => key row == k)).isSome = true ↔ t.Has key k := by
  show (t.rows.find? (fun row => key row == k)).isSome = true ↔ _
  rw [List.find?_isSome]
  simp only [beq_iff_eq]
  rfl

/-- A row that is found is there, and has the key. -/
theorem mem_of_find?_key {row : α} (h : t.find? (fun row => key row == k) = some row) :
    row ∈ t.rows ∧ key row = k := by
  have hkey := List.find?_some (p := fun row => key row == k) h
  exact ⟨List.mem_of_find?_eq_some h, beq_iff_eq.mp hkey⟩

/-- A look-up by key whose row has to pass a test finds such a row. -/
theorem exists_of_find?_filter {p : α → Bool}
    (h : ((t.find? (fun row => key row == k)).filter p).isSome = true) :
    ∃ row ∈ t.rows, key row = k ∧ p row = true := by
  obtain ⟨row, hfound⟩ := Option.isSome_iff_exists.mp h
  obtain ⟨hget, hp⟩ := Option.filter_eq_some_iff.mp hfound
  obtain ⟨hrow, hkey⟩ := mem_of_find?_key hget
  exact ⟨row, hrow, hkey, hp⟩

/-- In an ordered table a look-up by key finds the row of the key. -/
theorem Ordered.find?_key_iff (h : t.Ordered key) {row : α} :
    t.find? (fun row => key row == k) = some row ↔ row ∈ t.rows ∧ key row = k := by
  refine ⟨mem_of_find?_key, ?_⟩
  rintro ⟨hrow, rfl⟩
  obtain ⟨found, hfound⟩ := Option.isSome_iff_exists.mp (isSome_find?_key.mpr (has_of_mem hrow))
  obtain ⟨hmem, hkey⟩ := mem_of_find?_key hfound
  rw [hfound, h.eq_of_key hmem hrow hkey]

/-- In an ordered table such a look-up finds the row when there is one. -/
theorem Ordered.isSome_find?_filter (h : t.Ordered key) {p : α → Bool} :
    ((t.find? (fun row => key row == k)).filter p).isSome = true ↔
      ∃ row ∈ t.rows, key row = k ∧ p row = true := by
  refine ⟨exists_of_find?_filter, ?_⟩
  rintro ⟨row, hrow, hkey, hp⟩
  have hfound : t.find? (fun row => key row == k) = some row := h.find?_key_iff.mpr ⟨hrow, hkey⟩
  exact Option.isSome_iff_exists.mpr ⟨row, Option.filter_eq_some_iff.mpr ⟨hfound, hp⟩⟩

/-- Ordered tables that have the same rows of a kind find the same one by its
    key. -/
theorem Ordered.find?_filter_eq {t' : Table α} (h : t.Ordered key) (h' : t'.Ordered key)
    {p : α → Bool} (hrows : ∀ row, p row = true → (row ∈ t'.rows ↔ row ∈ t.rows)) :
    (t'.find? (fun row => key row == k)).filter p
      = (t.find? (fun row => key row == k)).filter p := by
  ext row
  rw [Option.filter_eq_some_iff, Option.filter_eq_some_iff, h.find?_key_iff, h'.find?_key_iff]
  constructor
  · rintro ⟨⟨hrow, hkey⟩, hp⟩
    exact ⟨⟨(hrows row hp).mp hrow, hkey⟩, hp⟩
  · rintro ⟨⟨hrow, hkey⟩, hp⟩
    exact ⟨⟨(hrows row hp).mpr hrow, hkey⟩, hp⟩

/-- A row that was the first stays the first when rows are added. -/
theorem find?_add {p : α → Bool} {make : Int → α} {row : α} (h : t.find? p = some row) :
    (t.add make).find? p = some row := by
  show (t.rows ++ [make (t.lastId + 1)]).find? p = some row
  rw [List.find?_append, show t.rows.find? p = some row from h]
  rfl

/-- A row that was the first stays the first when it is kept. -/
theorem find?_keep {p q : α → Bool} {row : α} (h : t.find? p = some row) (hq : q row = true) :
    (t.keep q).find? p = some row := by
  obtain ⟨hp, before, after, hrows, hnone⟩ := List.find?_eq_some_iff_append.mp h
  show (t.rows.filter q).find? p = some row
  -- nothing in front of the row satisfied `p`, whether it is kept or not
  rw [hrows, List.filter_append, List.filter_cons_of_pos hq]
  refine List.find?_eq_some_iff_append.mpr ⟨hp, before.filter q, after.filter q, rfl, ?_⟩
  exact fun a ha => hnone a (List.mem_filter.mp ha).1

/-- A look-up that a change does not influence finds the changed row. -/
theorem find?_update {p q : α → Bool} {change : α → α}
    (hc : ∀ row, q (change row) = q row) :
    (t.update p change).find? q
      = (t.find? q).map (fun row => if p row then change row else row) := by
  show (t.rows.map _).find? q = _
  rw [List.find?_map]
  have hq : (q ∘ fun row => if p row then change row else row) = q := by
    funext row
    show q (if p row then change row else row) = q row
    split
    · exact hc row
    · rfl
  rw [hq]
  rfl

/-- Changing rows of which there are none changes nothing. -/
theorem update_of_none {p : α → Bool} {change : α → α} (h : t.any p = false) :
    t.update p change = t := by
  have hrows : t.rows.map (fun row => if p row then change row else row) = t.rows := by
    refine (List.map_congr_left (fun row hrow => ?_)).trans (List.map_id _)
    rw [if_neg (List.any_eq_false.mp h row hrow)]
    rfl
  show ({ t with rows := _ } : Table α) = t
  rw [hrows]

end Dossier.Table
