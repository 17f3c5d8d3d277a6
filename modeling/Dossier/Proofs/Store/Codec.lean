import Dossier.Proofs.Text.Blank
import Dossier.Proofs.Text.OneLine
import Dossier.Store.Codec
/-! # Stores read back

    What is written of a store is read back as the same store, whatever is in
    it (`ofText?_toText`).  Two things are needed of a field: it can be read back
    from what is written, and what is written is SEALED, without the tabs that
    stand between fields and the newlines that end lines.

    Lines are then read one after the other, and each adds to a store what it
    was written for (`Reads`).  Of a table first the last id is read and then its
    rows, in order. -/

namespace Dossier.Store

open Text

/-! ## Sealed fields -/

/-- The character divides neither fields nor lines. -/
def Divides (c : Char) : Prop := c = '\t' ∨ c = '\n'

instance (c : Char) : Decidable (Divides c) :=
  inferInstanceAs (Decidable (_ ∨ _))

/-- The text has no character that divides fields or lines. -/
def Sealed (field : String) : Prop :=
  ∀ c ∈ field.toList, ¬ Divides c

instance (field : String) : Decidable (Sealed field) :=
  List.decidableBAll _ field.toList

variable {field : String} {fields lines lines' : List String}

/-- A line break divides lines. -/
theorem Sealed.oneLine (h : Sealed field) : OneLine field :=
  fun hmem => h '\n' hmem (.inr rfl)

theorem sealed_append {a b : String} (ha : Sealed a) (hb : Sealed b) : Sealed (a ++ b) := by
  intro c hc
  rw [String.toList_append] at hc
  rcases List.mem_append.mp hc with h | h
  · exact ha c h
  · exact hb c h

/-- Digits divide nothing. -/
theorem not_divides_of_isDigit {c : Char} (h : isDigit c = true) : ¬ Divides c := by
  rintro (rfl | rfl)
  · exact absurd h (by decide)
  · exact absurd h (by decide)

theorem sealed_int (n : Int) : Sealed (toString n) := by
  intro c hc
  rcases mem_toString hc with hdigit | rfl
  · exact not_divides_of_isDigit hdigit
  · decide

/-- Escaping leaves no dividing character in a field. -/
theorem sealed_escapeField (cs : List Char) : ∀ c ∈ escapeField cs, ¬ Divides c := by
  induction cs with
  | nil => exact nofun
  | cons d cs ih =>
      have hescaped {e : Char} (he : ¬ Divides e) :
          ∀ c ∈ '\\' :: e :: escapeField cs, ¬ Divides c :=
        List.forall_mem_cons.mpr ⟨by decide, List.forall_mem_cons.mpr ⟨he, ih⟩⟩
      rw [escapeField]
      split
      · exact hescaped (by decide)
      · split
        · exact hescaped (by decide)
        · split
          · exact hescaped (by decide)
          · rename_i htab hnewline
            refine List.forall_mem_cons.mpr ⟨?_, ih⟩
            rintro (h | h)
            · exact htab h
            · exact hnewline h

/-- Texts are written in fields of their own, whatever is in them. -/
theorem sealed_textField (text : String) : Sealed (textField text) := by
  rw [Sealed, textField, String.toList_ofList]
  exact sealed_escapeField _

/-! ## Fields read back -/

/-- A text that is written is read back. -/
theorem fieldText_textField (text : String) : fieldText (textField text) = text := by
  rw [fieldText, textField, String.toList_ofList, unescapeField_escapeField, String.ofList_toList]

/-- No numeral begins with a sign. -/
theorem not_isNumeral_minus {cs : List Char} : isNumeral ('-' :: cs) = false :=
  rfl

/-- So is a number. -/
theorem fieldInt?_toString (n : Int) : fieldInt? (toString n) = some n := by
  rw [fieldInt?, toList_toString]
  by_cases hn : 0 ≤ n
  · have hnumeral := isNumeral_toDigits n.toNat
    rw [if_pos hn]
    split
    · rename_i heq
      rw [heq, not_isNumeral_minus] at hnumeral
      cases hnumeral
    · rw [if_pos hnumeral, numeralValue_toDigits, Int.toNat_of_nonneg hn]
  · have hvalue : -(((-n).toNat : Nat) : Int) = n := by omega
    rw [if_neg hn]
    simp only [isNumeral_toDigits, numeralValue_toDigits, hvalue, if_true]

/-! ### Bytes -/

/-- A byte is written in two digits. -/
theorem toList_bytesField_cons (byte : UInt8) (bytes : List UInt8) :
    (bytesField (byte :: bytes)).toList = Nat.digitChar (byte.toNat / 16)
      :: Nat.digitChar (byte.toNat % 16) :: (bytesField bytes).toList := by
  rw [bytesField, List.map_cons, String.join_cons, String.toList_append, String.toList_ofList]
  rfl

/-- Each of the sixteen digits is read back, and none divides. -/
theorem digitChar_spec :
    ∀ n < 16, nibble? (Nat.digitChar n) = some n ∧ ¬ Divides (Nat.digitChar n) := by
  decide

theorem nibbles_lt (byte : UInt8) : byte.toNat / 16 < 16 ∧ byte.toNat % 16 < 16 := by
  have hbyte := byte.toNat_lt
  omega

/-- Bytes that are written are read back. -/
theorem fieldBytes?_bytesField (bytes : List UInt8) :
    fieldBytes? (bytesField bytes).toList = some bytes := by
  induction bytes with
  | nil => rfl
  | cons byte bytes ih =>
      obtain ⟨hhigh, hlow⟩ := nibbles_lt byte
      have hbyte : 16 * (byte.toNat / 16) + byte.toNat % 16 = byte.toNat := Nat.div_add_mod _ _
      rw [toList_bytesField_cons, fieldBytes?, (digitChar_spec _ hhigh).1,
        (digitChar_spec _ hlow).1, ih]
      dsimp only
      rw [hbyte, Nat.toUInt8_eq, UInt8.ofNat_toNat]

theorem sealed_bytesField (bytes : List UInt8) : Sealed (bytesField bytes) := by
  induction bytes with
  | nil => exact nofun
  | cons byte bytes ih =>
      obtain ⟨hhigh, hlow⟩ := nibbles_lt byte
      rw [Sealed, toList_bytesField_cons]
      exact List.forall_mem_cons.mpr ⟨(digitChar_spec _ hhigh).2,
        List.forall_mem_cons.mpr ⟨(digitChar_spec _ hlow).2, ih⟩⟩

/-! ### Words and coordinates -/

/-- The kinds have different words. -/
theorem informationKind?_word (kind : InformationKind) :
    informationKind? kind.word = some kind := by
  cases kind <;> rfl

theorem sealed_signText (negative : Bool) : Sealed (Binary64.signText negative) := by
  cases negative <;> decide

theorem sealed_coordinateField (number : Binary64) : Sealed (coordinateField number) := by
  cases number with
  | nan => exact (by decide : Sealed "nan")
  | infinite negative => exact sealed_append (sealed_signText negative) (by decide)
  | finite negative units => exact sealed_append (sealed_signText negative) (sealed_int units)

theorem splitSign_of_isNumeral {cs : List Char} (h : isNumeral cs = true) :
    Binary64.splitSign cs = (false, cs) := by
  rw [Binary64.splitSign.eq_def]
  split
  · cases h
  · cases h
  · rfl

/-- The sign of a finite number is taken off again. -/
theorem splitSign_finite (negative : Bool) (units : Nat) :
    Binary64.splitSign (coordinateField (.finite negative units)).toList
      = (negative, Nat.toDigits 10 units) := by
  have hdigits : (toString units).toList = Nat.toDigits 10 units := Nat.toList_repr
  rw [coordinateField, String.toList_append, hdigits]
  cases negative with
  | false => exact splitSign_of_isNumeral (isNumeral_toDigits units)
  | true => rfl

/-- A coordinate is read back with its sign, that of zero included. -/
theorem fieldCoordinate?_coordinateField (number : Binary64) :
    fieldCoordinate? (coordinateField number) = some number := by
  cases number with
  | nan => decide
  | infinite negative => cases negative <;> decide
  | finite negative units =>
      have hsplit := splitSign_finite negative units
      have hnumeral := isNumeral_toDigits units
      -- a word would be left without its sign, and it is no numeral
      have hnan : coordinateField (.finite negative units) ≠ "nan" := by
        intro heq
        rw [heq] at hsplit
        obtain ⟨-, hword⟩ := Prod.mk.inj (hsplit.symm.trans
          (by decide : Binary64.splitSign "nan".toList = (false, ['n', 'a', 'n'])))
        rw [hword] at hnumeral
        cases hnumeral
      have hinf : Nat.toDigits 10 units ≠ ['i', 'n', 'f'] := by
        intro hword
        rw [hword] at hnumeral
        cases hnumeral
      rw [fieldCoordinate?, hsplit]
      dsimp only
      rw [if_neg hnan, if_neg hinf, if_pos hnumeral, numeralValue_toDigits]

/-! ## Lines -/

/-- Reading the lines one after the other makes one store of the other, and
    none of them has a newline. -/
def Reads (lines : List String) (s t : Store) : Prop :=
  (∀ line ∈ lines, OneLine line) ∧ s.addLines? lines = some t

variable {s t u : Store}

/-- Lines are read one after the other. -/
theorem addLines?_append (lines lines' : List String) :
    ∀ s : Store, s.addLines? (lines ++ lines')
      = (s.addLines? lines).bind (fun t => t.addLines? lines') := by
  induction lines with
  | nil => exact fun s => rfl
  | cons line lines ih =>
      intro s
      rw [List.cons_append, addLines?, addLines?]
      cases s.addFields? (splitAt '\t' line) with
      | none => rfl
      | some t => exact ih t

/-- Two parts of a file are read one after the other. -/
theorem Reads.append (h : Reads lines s t) (h' : Reads lines' t u) :
    Reads (lines ++ lines') s u := by
  refine ⟨List.forall_mem_append.mpr ⟨h.1, h'.1⟩, ?_⟩
  rw [addLines?_append, h.2]
  exact h'.2

/-- No lines change nothing. -/
theorem Reads.nil (s : Store) : Reads [] s s :=
  ⟨nofun, rfl⟩

/-- The fields of a line are those that it was made of. -/
theorem splitAt_row (h : ∀ field ∈ fields, Sealed field) (hne : fields ≠ []) :
    splitAt '\t' (row fields) = fields := by
  have htab : "\t".toList = ['\t'] := by decide
  have hpieces : pieces (· == '\t') (['\t'].intercalate (fields.map String.toList))
      = fields.map String.toList := by
    refine pieces_intercalate (by decide) ?_ (by simpa using hne)
    intro word hword d hd
    obtain ⟨field, hfield, rfl⟩ := List.mem_map.mp hword
    exact beq_false_of_ne (fun heq => h field hfield d hd (.inl heq))
  rw [splitAt, row, joined, String.toList_intercalate, htab, hpieces, List.map_map]
  simp

/-- One line, made of fields that say something. -/
theorem reads_row (h : ∀ field ∈ fields, Sealed field) (hadd : s.addFields? fields = some t) :
    Reads [row fields] s t := by
  have hne : fields ≠ [] := by
    rintro rfl
    cases hadd
  have hline : OneLine (row fields) :=
    oneLine_joined (by decide) (fun field hfield => (h field hfield).oneLine)
  refine ⟨List.forall_mem_singleton.mpr hline, ?_⟩
  rw [addLines?, splitAt_row h hne, hadd]
  rfl

/-- The lines of rows, each of which is put behind those before it. -/
theorem reads_rows {α : Type} {write : α → List String} (put : List α → Store)
    (hsealed : ∀ r, ∀ field ∈ write r, Sealed field)
    (hadd : ∀ rows r, (put rows).addFields? (write r) = some (put (rows ++ [r])))
    (rows : List α) :
    ∀ before, Reads (rows.map (fun r => row (write r))) (put before) (put (before ++ rows)) := by
  induction rows with
  | nil =>
      intro before
      rw [List.append_nil]
      exact .nil _
  | cons r rows ih =>
      intro before
      have hfirst := reads_row (hsealed r) (hadd before r)
      have hrest := ih (before ++ [r])
      rw [List.append_assoc] at hrest
      exact hfirst.append hrest

/-- The lines of a table: its last id and its rows. -/
theorem reads_table {α : Type} {name : String} {write : α → List String} (put : Table α → Store)
    (hname : Sealed name)
    (hlast : ∀ id, (put .empty).addFields? [name, toString id] = some (put ⟨[], id⟩))
    (hsealed : ∀ r, ∀ field ∈ write r, Sealed field)
    (hadd : ∀ t r, (put t).addFields? (write r) = some (put (withRow t r))) (t : Table α) :
    Reads (tableLines name t write) (put .empty) (put t) := by
  have hid : Reads [row [name, toString t.lastId]] (put .empty) (put ⟨[], t.lastId⟩) := by
    refine reads_row ?_ (hlast t.lastId)
    exact List.forall_mem_cons.mpr ⟨hname, List.forall_mem_singleton.mpr (sealed_int _)⟩
  have hrows := reads_rows (fun rows => put ⟨rows, t.lastId⟩) hsealed
    (fun rows r => hadd ⟨rows, t.lastId⟩ r) t.rows []
  exact hid.append hrows

/-! ## Stores -/

/-- The versions are read back, in their order. -/
theorem reads_versions (versions : List Int) :
    Reads (versions.map (fun v => row ["version", toString v])) blank
      { blank with versions := versions } := by
  refine reads_rows (fun versions => { blank with versions := versions }) ?_ ?_ versions []
  · intro v
    simp only [List.forall_mem_cons]
    exact ⟨by decide, sealed_int v, nofun⟩
  · intro versions v
    show (fieldInt? _).map _ = _
    rw [fieldInt?_toString]
    rfl

/-- A table is read back with its last id, which may be that of a row that has
    gone. -/
theorem reads_rings (s : Store) (rings : Table Ring) :
    Reads (tableLines "rings" rings (fun r =>
      ["ring", toString r.id, textField r.name, textField r.note, textField r.createdAt]))
      { s with rings := .empty } { s with rings := rings } := by
  refine reads_table (fun rings => { s with rings := rings }) (by decide) ?_ ?_ ?_ rings
  · intro id
    show (fieldInt? _).map _ = _
    rw [fieldInt?_toString]
    rfl
  · intro r
    simp only [List.forall_mem_cons]
    exact ⟨by decide, sealed_int _, sealed_textField _, sealed_textField _, sealed_textField _,
      nofun⟩
  · intro t r
    show (fieldInt? _ >>= fun _ => _) = _
    simp only [fieldInt?_toString, fieldText_textField]
    rfl

/-- The same for subjects. -/
theorem reads_subjects (s : Store) (subjects : Table Subject) :
    Reads (tableLines "subjects" subjects (fun r =>
      ["subject", toString r.id, toString r.ringId, textField r.codename, textField r.note,
        textField r.createdAt]))
      { s with subjects := .empty } { s with subjects := subjects } := by
  refine reads_table (fun subjects => { s with subjects := subjects }) (by decide)
    ?_ ?_ ?_ subjects
  · intro id
    show (fieldInt? _).map _ = _
    rw [fieldInt?_toString]
    rfl
  · intro r
    simp only [List.forall_mem_cons]
    exact ⟨by decide, sealed_int _, sealed_int _, sealed_textField _, sealed_textField _,
      sealed_textField _, nofun⟩
  · intro t r
    show (fieldInt? _ >>= fun _ => _) = _
    simp only [fieldInt?_toString, fieldText_textField]
    rfl

/-- The same for entries, with their values as bytes. -/
theorem reads_information (s : Store) (information : Table Information) :
    Reads (tableLines "entries" information (fun r =>
      ["entry", toString r.id, toString r.subjectId, r.kind.word, textField r.name,
        bytesField r.value, textField r.note, textField r.createdAt, textField r.modifiedAt]))
      { s with information := .empty } { s with information := information } := by
  refine reads_table (fun information => { s with information := information }) (by decide)
    ?_ ?_ ?_ information
  · intro id
    show (fieldInt? _).map _ = _
    rw [fieldInt?_toString]
    rfl
  · intro r
    have hword : Sealed r.kind.word := by cases r.kind <;> decide
    simp only [List.forall_mem_cons]
    exact ⟨by decide, sealed_int _, sealed_int _, hword, sealed_textField _, sealed_bytesField _,
      sealed_textField _, sealed_textField _, sealed_textField _, nofun⟩
  · intro t r
    show (fieldInt? _ >>= fun _ => _) = _
    simp only [fieldInt?_toString, fieldText_textField, informationKind?_word,
      fieldBytes?_bytesField]
    rfl

/-- The same for locations. -/
theorem reads_locations (s : Store) (locations : Table Location) :
    Reads (tableLines "locations" locations (fun r =>
      ["location", toString r.id, toString r.ringId, textField r.name,
        coordinateField r.latitude, coordinateField r.longitude, textField r.note,
        textField r.createdAt]))
      { s with locations := .empty } { s with locations := locations } := by
  refine reads_table (fun locations => { s with locations := locations }) (by decide)
    ?_ ?_ ?_ locations
  · intro id
    show (fieldInt? _).map _ = _
    rw [fieldInt?_toString]
    rfl
  · intro r
    simp only [List.forall_mem_cons]
    exact ⟨by decide, sealed_int _, sealed_int _, sealed_textField _, sealed_coordinateField _,
      sealed_coordinateField _, sealed_textField _, sealed_textField _, nofun⟩
  · intro t r
    show (fieldInt? _ >>= fun _ => _) = _
    simp only [fieldInt?_toString, fieldText_textField,
      fieldCoordinate?_coordinateField]
    rfl

/-- The same for times. -/
theorem reads_times (s : Store) (times : Table TimeEntry) :
    Reads (tableLines "times" times (fun r =>
      ["time", toString r.id, toString r.ringId, textField r.moment, textField r.note,
        textField r.createdAt]))
      { s with times := .empty } { s with times := times } := by
  refine reads_table (fun times => { s with times := times }) (by decide) ?_ ?_ ?_ times
  · intro id
    show (fieldInt? _).map _ = _
    rw [fieldInt?_toString]
    rfl
  · intro r
    simp only [List.forall_mem_cons]
    exact ⟨by decide, sealed_int _, sealed_int _, sealed_textField _, sealed_textField _,
      sealed_textField _, nofun⟩
  · intro t r
    show (fieldInt? _ >>= fun _ => _) = _
    simp only [fieldInt?_toString, fieldText_textField]
    rfl

/-- The same for associations. -/
theorem reads_associations (s : Store) (associations : Table Association) :
    Reads (tableLines "associations" associations (fun r =>
      ["association", toString r.id, toString r.ringId, toString r.level,
        textField r.description, textField r.createdAt]))
      { s with associations := .empty } { s with associations := associations } := by
  refine reads_table (fun associations => { s with associations := associations }) (by decide)
    ?_ ?_ ?_ associations
  · intro id
    show (fieldInt? _).map _ = _
    rw [fieldInt?_toString]
    rfl
  · intro r
    simp only [List.forall_mem_cons]
    exact ⟨by decide, sealed_int _, sealed_int _, sealed_int _, sealed_textField _,
      sealed_textField _, nofun⟩
  · intro t r
    show (fieldInt? _ >>= fun _ => _) = _
    simp only [fieldInt?_toString, fieldText_textField]
    rfl

/-- Members have no ids, so there is no last one to be read back. -/
theorem reads_members (s : Store) (members : List Member) :
    Reads (members.map (fun m =>
      row ["member", toString m.associationId, m.kind.word, toString m.targetId]))
      { s with members := [] } { s with members := members } := by
  refine reads_rows (fun members => { s with members := members }) ?_ ?_ members []
  · intro m
    have hword : Sealed m.kind.word := by cases m.kind <;> decide
    simp only [List.forall_mem_cons]
    exact ⟨by decide, sealed_int _, hword, sealed_int _, nofun⟩
  · intro members m
    show (fieldInt? _ >>= fun _ => _) = _
    simp only [fieldInt?_toString, EntityKind.ofWord?_word]
    rfl

/-- **ALL LINES** but the heading: the tables are filled in one by one. -/
theorem reads_fileLines (s : Store) :
    ∃ lines, s.fileLines = heading :: lines ∧ Reads lines blank s := by
  refine ⟨_, rfl, ?_⟩
  let withVersions : Store := { blank with versions := s.versions }
  let withRings : Store := { withVersions with rings := s.rings }
  let withSubjects : Store := { withRings with subjects := s.subjects }
  let withEntries : Store := { withSubjects with information := s.information }
  let withLocations : Store := { withEntries with locations := s.locations }
  let withTimes : Store := { withLocations with times := s.times }
  let withAssociations : Store := { withTimes with associations := s.associations }
  have hversions : Reads _ blank withVersions := reads_versions s.versions
  have hrings : Reads _ withVersions withRings := reads_rings withVersions s.rings
  have hsubjects : Reads _ withRings withSubjects := reads_subjects withRings s.subjects
  have hentries : Reads _ withSubjects withEntries := reads_information withSubjects s.information
  have hlocations : Reads _ withEntries withLocations := reads_locations withEntries s.locations
  have htimes : Reads _ withLocations withTimes := reads_times withLocations s.times
  have hassociations : Reads _ withTimes withAssociations :=
    reads_associations withTimes s.associations
  have hmembers : Reads _ withAssociations s := reads_members withAssociations s.members
  exact ((((((hversions.append hrings).append hsubjects).append hentries).append
    hlocations).append htimes).append hassociations).append hmembers

/-- Lines that are each ended by a newline are cut apart again. -/
theorem splitAt_join (h : ∀ line ∈ lines, OneLine line) :
    splitAt '\n' (String.join (lines.map (· ++ "\n"))) = lines ++ [""] := by
  induction lines with
  | nil => rfl
  | cons line lines ih =>
      obtain ⟨hline, hlines⟩ := List.forall_mem_cons.mp h
      have hnewline : ∀ c ∈ line.toList, (c == '\n') = false :=
        fun c hc => beq_false_of_ne (fun heq => hline (heq ▸ hc))
      rw [splitAt, toList_join_cons, pieces_append_cons hnewline (by decide), List.map_cons,
        String.ofList_toList, List.cons_append]
      exact congrArg (line :: ·) (ih hlines)

/-- **STORES ARE READ BACK** as they were written. -/
theorem ofText?_toText (s : Store) : ofText? s.toText = some s := by
  obtain ⟨lines, hlines, hone, hread⟩ := reads_fileLines s
  have hall : ∀ line ∈ s.fileLines, OneLine line := by
    rw [hlines]
    exact List.forall_mem_cons.mpr ⟨by decide, hone⟩
  have hsplit : splitAt '\n' s.toText = heading :: (lines ++ [""]) := by
    rw [toText, splitAt_join hall, hlines, List.cons_append]
  rw [ofText?, hsplit]
  split
  · rename_i heq
    exact absurd (List.cons.inj heq).1 (by decide : heading ≠ "")
  · rename_i first rest _ heq
    obtain ⟨rfl, rfl⟩ := List.cons.inj heq
    rw [if_pos rfl, List.dropLast_concat]
    exact hread
  · rename_i heq
    cases heq

end Dossier.Store
