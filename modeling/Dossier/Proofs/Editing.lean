import Dossier.Proofs.Evaluator
import Dossier.Proofs.Input
import Dossier.Proofs.Store.Ids
/-! # An editor that changes nothing

    The value of an entry is handed to the editor as a text, and what the
    editor leaves is compared with that text after ONE newline at its end is
    dropped.  An editor that ends well and leaves the file as it is therefore
    leaves the entry as it is, unless the text itself ends in a newline: then
    that newline is lost (`idle_edit`).

    Whether the text ends in a newline can be seen from the bytes that are
    stored, well-formed or not: no other byte is read as a newline
    (`getLast?_decodeLossy`).  A value that ends in a newline is stored when an
    editor leaves two of them. -/

namespace Dossier

open Dossier.Action Store Session Commands.InformationEntries

variable {around : Surroundings} {σ : Session} {s : Store} {subject : Subject} {id : Int}
  {entry : Information} {args : List String} {text : String}

/-! ## The newline at the end -/

theorem decodeLossyFrom_concat (front : List UInt8) :
    Utf8.decodeLossyFrom 0 (front ++ [Input.newline]) = Utf8.decodeLossyFrom 0 front ++ ['\n'] :=
  Utf8.decodeLossyFrom_append_cons (by decide) [] front 0 (Nat.zero_le _)

/-- A newline byte at the end is a newline at the end, whatever is in front of
    it. -/
theorem decodeLossy_concat (front : List UInt8) :
    Utf8.decodeLossy (front ++ [Input.newline]) = Utf8.decodeLossy front ++ "\n" := by
  rw [Utf8.decodeLossy, decodeLossyFrom_concat, String.ofList_append]
  rfl

/-- The text of some bytes ends in a newline if and only if the bytes do. -/
theorem getLast?_decodeLossy {bytes : List UInt8} :
    (Utf8.decodeLossy bytes).toList.getLast? = some '\n' ↔ bytes.getLast? = some Input.newline := by
  rw [Utf8.decodeLossy, String.toList_ofList, List.getLast?_eq_some_iff,
    List.getLast?_eq_some_iff]
  constructor
  · rintro ⟨before, hread⟩
    obtain ⟨front, rest, rfl, -, -, hrest⟩ :=
      @Utf8.append_cons_of_decodeLossyFrom Input.newline (by decide) (by decide) bytes 0 _ _
        (Nat.zero_le _) hread
    obtain rfl := Input.decodeLossyFrom_eq_nil.mp hrest
    exact ⟨front, rfl⟩
  · rintro ⟨front, rfl⟩
    exact ⟨_, decodeLossyFrom_concat front⟩

/-- A text that ends otherwise stays as it is. -/
theorem dropNewline_of_ne (h : text.toList.getLast? ≠ some '\n') : dropNewline text = text :=
  if_neg h

/-- One newline is dropped. -/
theorem dropNewline_concat (text : String) : dropNewline (text ++ "\n") = text := by
  have hchars : (text ++ "\n").toList = text.toList ++ ['\n'] := String.toList_append
  simp only [dropNewline, hchars, List.getLast?_concat, List.dropLast_concat, if_pos,
    String.ofList_toList]

/-! ## One command -/

/-- The editor ends well and leaves the file of the text as it is. -/
def Surroundings.Leaves (around : Surroundings) (editor : Program) (text : String) : Prop :=
  around.edit editor (Utf8.encode text) = .finished (Utf8.encode text)

/-- The selected subject has a text entry of the id that is named first. -/
structure Session.Edits (σ : Session) (s : Store) (args : List String) (id : Int)
    (entry : Information) : Prop where
  store : σ.store = some s
  subject : ∃ subject ∈ σ.subject, ofSubject s id subject.id = some entry
  kind : entry.kind = .text
  named : Commands.Names args 0 id

/-- An editor that leaves the file as it is hands back the text. -/
theorem ends_editText (h : around.Leaves σ.config.editor text) {F : Session → Prop} :
    Ends (editText around text) σ (fun edited τ => τ = σ ∧ edited = text) F := by
  refine Ends.bind (R := fun a τ => τ = σ ∧ a = σ) ⟨rfl, rfl⟩ ?_
  rintro _ τ ⟨rfl, rfl⟩
  rw [Surroundings.Leaves] at h
  dsimp only
  rw [h]
  dsimp only
  rw [Utf8.decode?_encode]
  exact ends_pure ⟨rfl, rfl⟩

/-- The text less its newline is compared with the text; only if they differ, it
    becomes the new value. -/
theorem ends_edit (h : σ.Edits s args id entry) {F : Session → Prop}
    (hleaves : around.Leaves σ.config.editor (Utf8.decodeLossy entry.value)) :
    Ends (edit around args) σ (fun answer τ =>
      if dropNewline (Utf8.decodeLossy entry.value) = Utf8.decodeLossy entry.value then
        answer = .message ("Information #" ++ toString id ++ " unchanged") ∧ τ = σ
      else
        answer = .message ("Updated information #" ++ toString id) ∧
          τ = { σ with store := some (s.updateInformationValue around.now id
            (Utf8.encode (dropNewline (Utf8.decodeLossy entry.value)))).2 }) F := by
  obtain ⟨hs, ⟨subject, hsubject, hentry⟩, hkind, text, htext, hid⟩ := h
  -- nothing refuses the command before the editor is run
  refine ends_argument.bind_reason (fun hnone => ?_) (fun text' htext' => ?_)
  · cases hnone.symm.trans htext
  obtain rfl : text = text' := Option.some.inj (htext.symm.trans htext')
  refine ends_parseId.bind_reason (fun hnone => ?_) (fun id' hid' => ?_)
  · cases hnone.symm.trans hid
  obtain rfl : id = id' := Option.some.inj (hid.symm.trans hid')
  refine ends_requireSubject.bind_reason (fun hnone => ?_) (fun subject' hsubject' => ?_)
  · cases hnone.symm.trans hsubject
  obtain rfl : subject = subject' := Option.some.inj (hsubject.symm.trans hsubject')
  refine (requireStore_of_some hs).bind ?_
  rintro s' τ ⟨rfl, rfl⟩
  rw [hentry]
  dsimp only
  rw [if_pos hkind]
  refine (ends_editText hleaves).bind ?_
  rintro edited τ' ⟨rfl, rfl⟩
  split
  · exact ends_pure ⟨rfl, rfl⟩
  · refine (ends_changeRow hs).bind ?_
    rintro found τ' ⟨-, rfl⟩
    exact ends_pure ⟨rfl, rfl⟩

/-- The command of the name `ie` is the one that edits. -/
theorem lookup_edit :
    ∃ command, Commands.builtin.lookup "ie" = some command ∧ command.handler = edit :=
  ⟨_, rfl, rfl⟩

/-- A newline makes a text another text, which is what the command compares. -/
theorem ne_append_newline (text : String) : text ≠ text ++ "\n" := by
  intro heq
  have hlength := congrArg String.length heq
  rw [String.length_append] at hlength
  exact Nat.succ_ne_self text.length hlength.symm

/-- A value that loses a newline is another one, even if what is left of it is
    stored in other bytes. -/
theorem encode_decodeLossy_ne (front : List UInt8) :
    Utf8.encode (Utf8.decodeLossy front) ≠ front ++ [Input.newline] := by
  intro heq
  have hread := congrArg Utf8.decodeLossy heq
  rw [decodeLossy_concat, Utf8.decodeLossy, Utf8.decodeLossyFrom_encode,
    String.ofList_toList] at hread
  exact ne_append_newline _ hread

/-! ## One line -/

/-- **AN IDLE EDITOR**: with an editor that ends well and leaves the file as it is,
    a line that edits an entry of the selected subject answers that the entry
    is unchanged and leaves the session as it was, unless the value ends in a
    newline.  A value that does is replaced by the text without it. -/
theorem idle_edit (modifier : Char) (engine : Pattern.Engine) (line base : String)
    (htokens : Token.scan modifier line = [.text base]) (hhelp : HelpRequest.ofText? base = none)
    (hcommand : Evaluator.splitCommand base = ("ie", args)) (hedits : σ.Edits s args id entry)
    (hleaves : around.Leaves σ.config.editor (Utf8.decodeLossy entry.value)) :
    let evaluated := (Evaluator.ofBuiltin modifier engine).evaluate around line σ
    (entry.value.getLast? ≠ some Input.newline →
      evaluated.result
          = .ok (.display (.message ("Information #" ++ toString id ++ " unchanged"))) ∧
        evaluated.session = σ) ∧
    ∀ front, entry.value = front ++ [Input.newline] →
      evaluated.result = .ok (.display (.message ("Updated information #" ++ toString id))) ∧
        evaluated.session = { σ with store := some (s.updateInformationValue around.now id
          (Utf8.encode (Utf8.decodeLossy front))).2 } ∧
        Utf8.encode (Utf8.decodeLossy front) ≠ entry.value := by
  intro evaluated
  obtain ⟨command, hfound, hhandler⟩ := lookup_edit
  have hevaluated : evaluated = _ :=
    Evaluator.evaluate_unstaged htokens hhelp hcommand hfound
  have hends := ends_edit hedits hleaves (F := fun _ => False)
  rw [← hhandler] at hends
  rw [hevaluated]
  rcases Evaluator.runCommand_ends hends with ⟨answer, hresult, hends⟩ | ⟨-, -, hfalse⟩
  case inr => exact hfalse.elim
  constructor
  · intro hlast
    -- no newline to drop: what comes back is what was handed over
    rw [if_pos (dropNewline_of_ne (mt getLast?_decodeLossy.mp hlast))] at hends
    obtain ⟨rfl, hsame⟩ := hends
    exact ⟨hresult, hsame⟩
  · intro front hvalue
    -- the newline is dropped from what comes back, but not from what it is compared with
    rw [hvalue, decodeLossy_concat, dropNewline_concat, if_neg (ne_append_newline _)] at hends
    obtain ⟨rfl, hsession⟩ := hends
    refine ⟨hresult, hsession, ?_⟩
    rw [hvalue]
    exact encode_decodeLossy_ne front

/-! ## A value with a newline at its end -/

/-- Surroundings in which the editor leaves these bytes. -/
def Surroundings.writing (content : List UInt8) : Surroundings :=
  { Surroundings.bare with edit := fun _ _ => .finished content }

/-- Surroundings in which the editor leaves every file as it is. -/
def Surroundings.idle : Surroundings :=
  { Surroundings.bare with edit := fun _ content => .finished content }

/-- The lines that make a note; at the end the editor leaves it with two
    newlines. -/
def noteInputs : List (Surroundings × String) :=
  ["ra berlin", "rs 1", "sa WOLF", "ss 1", "ia note x"].map (fun line => (.bare, line))
    ++ [(.writing (Utf8.encode "a\n\n"), "ie 1")]

/-- The note that they lead to. -/
def noted : Information :=
  ⟨1, 1, .text, "note", Utf8.encode "a\n", "", "09:00", "09:00"⟩

/-- The session that they lead to. -/
def noting : Session :=
  let store := fresh.afterAll
    [.createRing "09:00" "berlin" "", .createSubject "09:00" 1 "WOLF" "",
      .createInformation "09:00" 1 .text "note" (Utf8.encode "x") "",
      .updateInformationValue "09:00" 1 (Utf8.encode "a\n")]
  { start .plain (some store) with
    ring := some ⟨1, "berlin", "", "09:00"⟩
    subject := some ⟨1, 1, "WOLF", "", "09:00"⟩ }

/-- The lines lead to this session. -/
theorem sessionAfter_noteInputs :
    (Evaluator.ofBuiltin '$' .standard).sessionAfter noteInputs (start .plain (some fresh))
      = noting := by
  decide +kernel

/-- The note is an entry that the command edits. -/
theorem noting_edits : ∃ s, noting.Edits s ["1"] 1 noted :=
  ⟨_, rfl, ⟨_, rfl, by decide⟩, rfl, "1", rfl, by decide⟩

/-- Editing the note without a change takes its newline away. -/
theorem idle_edit_note :
    noted.value = Utf8.encode "a" ++ [Input.newline] ∧
      ((Evaluator.ofBuiltin '$' .standard).evaluate .idle "ie 1" noting).result
        = .ok (.display (.message "Updated information #1")) := by
  obtain ⟨s, hedits⟩ := noting_edits
  have hvalue : noted.value = Utf8.encode "a" ++ [Input.newline] := by decide +kernel
  have hedit := idle_edit '$' .standard "ie 1" "ie 1" (by decide +kernel) (by decide +kernel)
    (by decide +kernel) hedits (rfl : Surroundings.idle.Leaves noting.config.editor _)
  exact ⟨hvalue, (hedit.2 (Utf8.encode "a") hvalue).1⟩

/-- The note is edited by an editor that leaves the file as it is, and is
    changed. -/
theorem idle_edit_changes :
    let ev := Evaluator.ofBuiltin '$' .standard
    let σ := ev.sessionAfter noteInputs (start .plain (some fresh))
    let evaluated := ev.evaluate .idle "ie 1" σ
    (∀ editor bytes, Surroundings.idle.edit editor bytes = .finished bytes) ∧
      σ.store.bind (fun s => s.getInformation 1) = some noted ∧ noted.kind = .text ∧
      evaluated.result ≠ .ok (.display (.message "Information #1 unchanged")) ∧
      evaluated.session.store.bind (fun s => s.getInformation 1)
        = some { noted with value := Utf8.encode "a" } := by
  intro ev σ evaluated
  have hσ : σ = noting := sessionAfter_noteInputs
  refine ⟨fun _ _ => rfl, ?_, rfl, ?_, ?_⟩
  · rw [hσ]
    decide +kernel
  · simp only [evaluated, hσ]
    decide +kernel
  · simp only [evaluated, hσ]
    decide +kernel

end Dossier
