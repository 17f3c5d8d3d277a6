import Dossier.Proofs.Commands
import Dossier.Proofs.Parallel.Session
/-! # The commands side by side

    In two sessions of a pairing every command but those on rings does the
    same: the answers are alike line by line, failures have the same reason,
    and the sessions are a pair of the pairing again.  There is one lemma for
    each command; the steps that look only at the arguments are passed over,
    and what the others see is the same because the sessions are alike.

    The commands that go through a list of ids keep, from round to round, the
    pairing together with the SCOPE in which the checks in front of the loop
    have found the row, as they do in one run. -/

namespace Dossier

open Session Dossier.Action

/-- From `σ` and `σ'` the actions answer with listings that are alike, in
    sessions that are a pair again, or fail for the same reason. -/
def AnswerAlike (shows : Line → Line → Prop) (I : Session → Session → Prop)
    (act act' : Action Listing) (σ σ' : Session) : Prop :=
  EndAlike act act' σ σ'
    (fun listing τ listing' τ' => Listing.Alike shows listing listing' ∧ I τ τ')

/-- In every pair of sessions the handler answers alike. -/
def Handler.Parallel (shows : Line → Line → Prop) (I : Session → Session → Prop)
    (handler : Handler) : Prop :=
  ∀ around args σ σ', I σ σ' →
    AnswerAlike shows I (handler around args) (handler around args) σ σ'

namespace Commands

variable {shows : Line → Line → Prop} {I : Session → Session → Prop} {σ σ' : Session}

/-! ## Steps of commands -/

/-- An answer that does not depend on the session is the same for a pair. -/
theorem answerAlike_listing (P : Pairing shows I) (hI : I σ σ') (listing : Listing) :
    AnswerAlike shows I (pure listing) (pure listing) σ σ' :=
  endAlike_pure ⟨.refl P.refl listing, hI⟩

/-- So is a failure. -/
theorem answerAlike_throw (e : HandlerError) : AnswerAlike shows I (throw e) (throw e) σ σ' :=
  endAlike_throw e

/-- A permitted call that leaves the selection alone keeps a pair a pair. -/
theorem paired_call (P : Pairing shows I) (hI : I σ σ') {s s' : Store} (hs : σ.store = some s)
    (hs' : σ'.store = some s') (call : Store.Call) (hscoped : call.concernsRings = false)
    (hpermits : σ.Permits s call)
    (hcarry : ∀ (σ : Session) s, σ.carryOut s call = { σ with store := some (s.after call) }) :
    I { σ with store := some (s.after call) } { σ' with store := some (s'.after call) } := by
  have hpermits' := (P.alike hI).permits hs hs' call hscoped hpermits
  rw [← hcarry, ← hcarry]
  exact P.call call hI hs hs' hscoped hpermits hpermits'

/-- A command that creates a row gets the same id for it in both sessions. -/
theorem answerAlike_create (P : Pairing shows I) (hI : I σ σ')
    {operation : Store → Store.Change Int} {answer : Int → Listing} (call : Store.Call)
    (hcall : ∀ s : Store, s.after call = s.left (operation s))
    (hscoped : call.concernsRings = false)
    (hcarry : ∀ (σ : Session) s, σ.carryOut s call = { σ with store := some (s.after call) })
    (permitted : ∀ s, σ.store = some s → σ.Permits s call)
    (hsame : ∀ s s', σ.store = some s → σ'.store = some s' → Store.AnswersAlike operation s s') :
    AnswerAlike shows I (change operation >>= fun id => pure (answer id))
      (change operation >>= fun id => pure (answer id)) σ σ' := by
  refine (endAlike_change (P.alike hI).store hsame).bind ?_
  rintro id τ id' τ' ⟨rfl, s, s', hs, hs', rfl, rfl⟩
  rw [← hcall, ← hcall]
  exact endAlike_pure ⟨.refl P.refl _, paired_call P hI hs hs' call hscoped (permitted s hs) hcarry⟩

/-- From a pair with the scope as it was, a round of a loop answers with
    corresponding lines and leaves such a pair. -/
def RoundAlike (shows : Line → Line → Prop) (I : Session → Session → Prop) (K : Session → Prop)
    (act : Action Line) : Prop :=
  ∀ σ σ', I σ σ' → K σ →
    EndAlike act act σ σ' (fun line τ line' τ' => shows line line' ∧ I τ τ' ∧ K τ)

/-- **LOOPS** whose rounds answer alike answer alike. -/
theorem answerAlike_forEach {K : Session → Prop} {g : Int → Action Line} (ids : List Int)
    (round : ∀ id, RoundAlike shows I K (g id)) (hI : I σ σ') (hK : K σ) :
    AnswerAlike shows I (ids.mapM g >>= fun lines => pure (Listing.flat lines))
      (ids.mapM g >>= fun lines => pure (Listing.flat lines)) σ σ' := by
  have hrounds := endAlike_mapM (J := fun τ τ' => I τ τ' ∧ K τ) (V := shows)
    (fun id τ τ' hτ => round id τ τ' hτ.1 hτ.2) ids σ σ' ⟨hI, hK⟩
  refine hrounds.bind ?_
  rintro lines τ lines' τ' ⟨hlines, hτ, -⟩
  exact endAlike_pure ⟨.flat hlines, hτ⟩

/-- A row is found by both tests or by none, and then deleted in both stores;
    the selection does not depend on it. -/
theorem roundAlike_delete (P : Pairing shows I) {K : Session → Prop} {test : Store → Bool}
    {operation : Store → Bool × Store} {deleted missing : Line} (call : Store.Call)
    (hcall : ∀ s : Store, s.after call = (operation s).2) (hscoped : call.concernsRings = false)
    (hcarry : ∀ (σ : Session) s, σ.carryOut s call = { σ with store := some (s.after call) })
    (hsame : ∀ {σ σ' s s'}, I σ σ' → K σ → σ.store = some s → σ'.store = some s' →
      test s' = test s)
    (permitted : ∀ σ s, K σ → test s = true → σ.Permits s call)
    (hkeep : ∀ σ s, K σ → K { σ with store := some s }) :
    RoundAlike shows I K (do
      let store ← requireStore
      if test store then
        let _ ← changeRow operation
        return deleted
      else return missing) := by
  intro σ σ' hI hK
  refine (lookAlike_requireStore (P.alike hI).store).bind ?_
  rintro s s' ⟨hs, hs'⟩
  -- the test comes out the same, so both sides take the same branch
  rw [hsame hI hK hs hs']
  by_cases htest : test s = true
  · rw [if_pos htest]
    refine (endAlike_changeRow operation operation (P.alike hI).store).bind ?_
    rintro _ τ _ τ' ⟨t, t', ht, ht', -, -, rfl, rfl⟩
    obtain rfl : s = t := Option.some.inj (hs.symm.trans ht)
    obtain rfl : s' = t' := Option.some.inj (hs'.symm.trans ht')
    rw [← hcall, ← hcall]
    have hpair := paired_call P hI hs hs' call hscoped (permitted σ s hK htest) hcarry
    exact endAlike_pure ⟨P.refl deleted, hpair, hkeep σ _ hK⟩
  · rw [if_neg htest]
    exact endAlike_pure ⟨P.refl missing, hI, hK⟩

/-! ## Commands of one shape -/

/-- A command that shows what a ring has. -/
theorem answerAlike_show (P : Pairing shows I) (hI : I σ σ')
    (answer : Ring → Formatter → Store → Listing)
    (hanswer : ∀ ring s s', σ.ring = some ring → σ.store = some s → σ'.store = some s' →
      Listing.Alike shows (answer ring σ.formatter s) (answer ring σ'.formatter s')) :
    AnswerAlike shows I
      (do
        let ring ← requireRing
        let formatter ← formatter
        let store ← requireStore
        return answer ring formatter store)
      (do
        let ring ← requireRing
        let formatter ← formatter
        let store ← requireStore
        return answer ring formatter store) σ σ' := by
  have hσ := P.alike hI
  refine (lookAlike_requireRing hσ.ring).bind ?_
  rintro ring _ ⟨rfl, hring⟩
  refine lookAlike_formatter.bind ?_
  rintro _ _ ⟨rfl, rfl⟩
  refine (lookAlike_requireStore hσ.store).bind ?_
  rintro s s' ⟨hs, hs'⟩
  exact endAlike_pure ⟨hanswer ring s s' hring hs hs', hI⟩

/-- Rows that are the same in both stores are listed alike. -/
theorem listingAlike_rows {α : Type} {rows rows' : List α} {write write' : α → String}
    (hrows : rows' = rows) (hwrite : ∀ row, shows ⟨write row⟩ ⟨write' row⟩) :
    Listing.Alike shows (.ofTexts (rows.map write)) (.ofTexts (rows'.map write')) := by
  subst hrows
  refine .flat ?_
  simp only [List.forall₂_map_left_iff, List.forall₂_map_right_iff, List.forall₂_same]
  exact fun row _ => hwrite row

/-- A command that deletes rows of a ring. -/
theorem answerAlike_deletion (P : Pairing shows I) (hI : I σ σ') {g : Int → Int → Action Line}
    {args : List String} {usage : String}
    (round : ∀ (ring : Ring) id, RoundAlike shows I (fun σ => σ.ring = some ring) (g ring.id id)) :
    AnswerAlike shows I
      (do
        let ring ← requireRing
        let ids ← idList args 0 usage
        let _ ← requireStore
        return Listing.flat (← ids.mapM (g ring.id)))
      (do
        let ring ← requireRing
        let ids ← idList args 0 usage
        let _ ← requireStore
        return Listing.flat (← ids.mapM (g ring.id))) σ σ' := by
  have hσ := P.alike hI
  refine (lookAlike_requireRing hσ.ring).bind ?_
  rintro ring _ ⟨rfl, hring⟩
  refine (blind_idList args 0 usage).bind_alike (fun ids => ?_)
  refine (lookAlike_requireStore hσ.store).bind ?_
  rintro s s' -
  exact answerAlike_forEach ids (round _) hI hring

/-! ## Subjects -/

namespace Subjects

/-- What `s` shows can be read of the selected ring, which is the same on both
    sides. -/
theorem list_parallel (P : Pairing shows I) : list.Parallel shows I := by
  intro around args σ σ' hI
  have hσ := P.alike hI
  refine (lookAlike_requireRing hσ.ring).bind ?_
  rintro ring _ ⟨rfl, hring⟩
  refine lookAlike_get.bind ?_
  rintro _ _ ⟨rfl, rfl⟩
  refine (lookAlike_requireStore hσ.store).bind ?_
  rintro s s' ⟨hs, hs'⟩
  refine endAlike_pure ⟨listingAlike_rows (hσ.inRing s s' _ hs hs' hring).subjects ?_, hI⟩
  intro subject
  have hselected : σ'.hasSubject subject.id = σ.hasSubject subject.id := by
    rw [hasSubject, hasSubject, hσ.subject]
  rw [hselected]
  exact hσ.formatter.subject subject _

/-- `sa` is refused on both sides or on none, and the new subjects have the
    same id. -/
theorem add_parallel (P : Pairing shows I) : add.Parallel shows I := by
  intro around args σ σ' hI
  have hσ := P.alike hI
  refine (lookAlike_requireRing hσ.ring).bind ?_
  rintro ring _ ⟨rfl, hring⟩
  refine (blind_argument args 0 _).bind_alike (fun codename => ?_)
  exact answerAlike_create P hI (.createSubject around.now ring.id codename (restFrom args 1))
    (fun _ => rfl) rfl (fun _ _ => rfl) (fun _ _ => ⟨ring, hring, rfl⟩)
    (fun s s' hs hs' => (hσ.inRing s s' ring hs hs' hring).createSubject (hσ.ids s s' hs hs') _)

/-- `ss` finds the same subject on both sides. -/
theorem select_parallel (P : Pairing shows I) : select.Parallel shows I := by
  intro around args σ σ' hI
  have hσ := P.alike hI
  refine (lookAlike_requireRing hσ.ring).bind ?_
  rintro ring _ ⟨rfl, hring⟩
  refine (blind_argument args 0 _).bind_alike (fun text => ?_)
  refine (blind_parseId text _).bind_alike (fun id => ?_)
  refine (lookAlike_requireStore hσ.store).bind ?_
  rintro s s' ⟨hs, hs'⟩
  rw [(hσ.inRing s s' ring hs hs' hring).subject id]
  cases hsubject : inRing s id ring.id with
  | none => exact answerAlike_throw _
  | some subject =>
      refine (endAlike_modify _ _).bind ?_
      rintro _ τ _ τ' ⟨rfl, rfl⟩
      exact answerAlike_listing P (P.selectSubject hI hs hs' hring hsubject) _

/-- A round of `sd`: both sides find the subject, and both leave it if it is
    selected. -/
theorem deleteOne_roundAlike (P : Pairing shows I) (ring : Ring) (id : Int) :
    RoundAlike shows I (fun σ => σ.ring = some ring) (deleteOne ring.id id) := by
  intro σ σ' hI hring
  have hσ := P.alike hI
  refine (lookAlike_requireStore hσ.store).bind ?_
  rintro s s' ⟨hs, hs'⟩
  rw [(hσ.inRing s s' ring hs hs' hring).subject id]
  by_cases hfound : (inRing s id ring.id).isSome = true
  · rw [if_pos hfound]
    refine (endAlike_changeRow _ _ hσ.store).bind ?_
    rintro _ τ _ τ' ⟨t, t', ht, ht', -, -, rfl, rfl⟩
    obtain rfl : s = t := Option.some.inj (hs.symm.trans ht)
    obtain rfl : s' = t' := Option.some.inj (hs'.symm.trans ht')
    refine (endAlike_modify _ _).bind ?_
    rintro _ τ _ τ' ⟨rfl, rfl⟩
    -- the deletion and what the selection makes of it are one call
    have hpermits : σ.Permits s (.deleteEntity .subject id) := ⟨ring, hring, hfound⟩
    have hpermits' := hσ.permits hs hs' _ rfl hpermits
    refine endAlike_pure ⟨P.refl _, P.call _ hI hs hs' rfl hpermits hpermits', ?_⟩
    show (σ.carryOut s (.deleteEntity .subject id)).ring = some ring
    rw [carryOut_ring_deleteEntity, hring]
  · rw [if_neg hfound]
    exact endAlike_pure ⟨P.refl _, hI, hring⟩

/-- The ids of `sd` come from its argument, so both sides go through the same
    rounds. -/
theorem delete_parallel (P : Pairing shows I) : delete.Parallel shows I := by
  intro around args σ σ' hI
  refine (lookAlike_requireRing (P.alike hI).ring).bind ?_
  rintro ring _ ⟨rfl, hring⟩
  refine (blind_idList args 0 _).bind_alike (fun ids => ?_)
  exact answerAlike_forEach ids (deleteOne_roundAlike P ring) hI hring

/-- Which subjects are chosen can be read of the ring. -/
theorem chosen_eq {s s' : Store} {ringId : Int} (h : Store.SameIn ringId s s')
    (args : List String) : chosen s' ringId args = chosen s ringId args := by
  cases args with
  | nil => exact h.subjects
  | cons text _ => simp only [chosen, h.subject]

/-- `sv` has the same subjects on both sides, and the same entries for each. -/
theorem view_parallel (P : Pairing shows I) : view.Parallel shows I := by
  intro around args σ σ' hI
  have hσ := P.alike hI
  refine (lookAlike_requireRing hσ.ring).bind ?_
  rintro ring _ ⟨rfl, hring⟩
  refine lookAlike_formatter.bind ?_
  rintro _ _ ⟨rfl, rfl⟩
  refine (lookAlike_requireStore hσ.store).bind ?_
  rintro s s' ⟨hs, hs'⟩
  have hsame := hσ.inRing s s' ring hs hs' hring
  rw [chosen_eq hsame]
  cases hchosen : chosen s ring.id args with
  | nil => exact answerAlike_throw _
  | cons subject subjects =>
      refine endAlike_pure ⟨.grouped ?_, hI⟩
      rw [List.forall₂_map_left_iff, List.forall₂_map_right_iff, List.forall₂_same]
      intro chosen hmem
      rw [← hchosen] at hmem
      refine .cons (hσ.formatter.subjectHeader chosen) ?_
      rw [hsame.information chosen (mem_listSubjects_of_chosen hmem)]
      rw [List.forall₂_map_left_iff, List.forall₂_map_right_iff, List.forall₂_same]
      exact fun entry _ => hσ.formatter.informationBelow entry

end Subjects

/-! ## Information -/

namespace InformationEntries

/-- What `i` shows can be read of the selected subject. -/
theorem list_parallel (P : Pairing shows I) : list.Parallel shows I := by
  intro around args σ σ' hI
  have hσ := P.alike hI
  refine (lookAlike_requireSubject hσ.subject).bind ?_
  rintro subject _ ⟨rfl, hsubject⟩
  refine lookAlike_formatter.bind ?_
  rintro _ _ ⟨rfl, rfl⟩
  refine (lookAlike_requireStore hσ.store).bind ?_
  rintro s s' ⟨hs, hs'⟩
  have hlisted := (hσ.ofSubject s s' subject hs hs' hsubject).listed
  exact endAlike_pure ⟨listingAlike_rows hlisted hσ.formatter.information, hI⟩

/-- A new entry gets the same id in both sessions. -/
theorem create_alike (P : Pairing shows I) (hI : I σ σ') {around : Surroundings}
    {kind : InformationKind} {name : String} {value : List UInt8}
    (composed : ∀ subject s, σ.subject = some subject → σ.store = some s → kind = .composite →
      ∃ text, IdExpression.ids text ≠ [] ∧
        value = Information.compositeValue (IdExpression.ids text) ∧
        ∀ id ∈ IdExpression.ids text, (ofSubject s id subject.id).isSome = true) :
    AnswerAlike shows I (create around kind name value) (create around kind name value) σ σ' := by
  have hσ := P.alike hI
  refine (lookAlike_requireSubject hσ.subject).bind ?_
  rintro subject _ ⟨rfl, hsubject⟩
  exact answerAlike_create P hI (.createInformation around.now subject.id kind name value "")
    (fun _ => rfl) rfl (fun _ _ => rfl)
    (fun s hs => ⟨⟨subject, hsubject, rfl⟩, composed subject s hsubject hs⟩)
    (fun s s' hs hs' =>
      (hσ.ofSubject s s' subject hs hs' hsubject).createInformation (hσ.ids s s' hs hs') _ _ _)

/-- `ia` makes the same entry on both sides. -/
theorem addText_parallel (P : Pairing shows I) : addText.Parallel shows I := by
  intro around args σ σ' hI
  refine (blind_argument args 0 _).bind_alike (fun name => ?_)
  refine (blind_argument args 1 _).bind_alike (fun _ => ?_)
  refine create_alike P hI (fun _ _ _ _ hkind => ?_)
  cases hkind

/-- `iab` reads the same file on both sides. -/
theorem addBinary_parallel (P : Pairing shows I) : addBinary.Parallel shows I := by
  intro around args σ σ' hI
  refine (blind_argument args 0 _).bind_alike (fun name => ?_)
  refine (blind_argument args 1 _).bind_alike (fun path => ?_)
  refine (lookAlike_requireSubject (P.alike hI).subject).bind ?_
  rintro subject _ ⟨rfl, -⟩
  cases around.readFile path with
  | ok bytes =>
      refine create_alike P hI (fun _ _ _ _ hkind => ?_)
      cases hkind
  | error error => exact answerAlike_throw _

/-- The check of a composite passes in both sessions or in none. -/
theorem lookAlike_requireEntries (P : Pairing shows I) (hI : I σ σ') {subject : Subject}
    (hsubject : σ.subject = some subject) (ids : List Int) :
    LookAlike (requireEntries subject.id ids) (requireEntries subject.id ids) σ σ' (fun _ _ =>
      ∀ s, σ.store = some s → ∀ id ∈ ids, (ofSubject s id subject.id).isSome = true) := by
  have hσ := P.alike hI
  induction ids with
  | nil => exact ⟨rfl, rfl, fun _ _ id hid => absurd hid List.not_mem_nil⟩
  | cons id ids ih =>
      refine (lookAlike_requireStore hσ.store).bind ?_
      rintro s s' ⟨hs, hs'⟩
      rw [(hσ.ofSubject s s' subject hs hs' hsubject).entry id]
      by_cases hfound : (ofSubject s id subject.id).isSome = true
      · rw [if_pos hfound]
        refine ih.mono ?_
        rintro _ τ _ τ' ⟨hτ, hτ', hids⟩
        refine ⟨hτ, hτ', fun t ht => ?_⟩
        obtain rfl : s = t := Option.some.inj (hs.symm.trans ht)
        exact List.forall_mem_cons.mpr ⟨hfound, hids s hs⟩
      · rw [if_neg hfound]
        exact endAlike_throw _

/-- `iac` checks its ids at the selected subject. -/
theorem addComposite_parallel (P : Pairing shows I) : addComposite.Parallel shows I := by
  intro around args σ σ' hI
  have hσ := P.alike hI
  refine (blind_argument args 0 _).bind_alike (fun name => ?_)
  refine ((blind_idList args 1 _).lookAlike reads_idList).bind ?_
  rintro ids _ ⟨rfl, hne, text, -, rfl⟩
  refine (lookAlike_requireSubject hσ.subject).bind ?_
  rintro subject _ ⟨rfl, hsubject⟩
  refine (lookAlike_requireEntries P hI hsubject _).bind ?_
  rintro _ _ hentries
  refine create_alike P hI (fun subject' s hsubject' hs _ => ?_)
  obtain rfl : subject = subject' := Option.some.inj (hsubject.symm.trans hsubject')
  exact ⟨text, hne, rfl, hentries s hs⟩

/-- The editor is the same on both sides, and is handed the same text. -/
theorem lookAlike_editText (hσ : σ'.config.editor = σ.config.editor) (around : Surroundings)
    (initial : String) :
    LookAlike (editText around initial) (editText around initial) σ σ' (fun a a' => a = a') := by
  refine lookAlike_get.bind ?_
  rintro _ _ ⟨rfl, rfl⟩
  rw [hσ]
  dsimp only
  cases around.edit σ.config.editor (Utf8.encode initial) with
  | notStarted error => exact endAlike_throw _
  | failed => exact endAlike_throw _
  | lost error => exact endAlike_throw _
  | finished content =>
      dsimp only
      cases Utf8.decode? content with
      | some text => exact endAlike_pure ⟨rfl, rfl, rfl⟩
      | none => exact endAlike_throw _

/-- `ie` finds the same entry on both sides, and so the same text to edit. -/
theorem edit_parallel (P : Pairing shows I) : edit.Parallel shows I := by
  intro around args σ σ' hI
  have hσ := P.alike hI
  refine (blind_argument args 0 _).bind_alike (fun text => ?_)
  refine (blind_parseId text _).bind_alike (fun id => ?_)
  refine (lookAlike_requireSubject hσ.subject).bind ?_
  rintro subject _ ⟨rfl, hsubject⟩
  refine (lookAlike_requireStore hσ.store).bind ?_
  rintro s s' ⟨hs, hs'⟩
  rw [(hσ.ofSubject s s' subject hs hs' hsubject).entry id]
  cases hentry : ofSubject s id subject.id with
  | none => exact answerAlike_throw _
  | some entry =>
      dsimp only
      by_cases hkind : entry.kind = .text
      · rw [if_pos hkind]
        -- the same value goes to the same editor, so the same text comes back
        refine (lookAlike_editText hσ.editor around _).bind ?_
        rintro edited _ rfl
        by_cases hsame : dropNewline edited = Utf8.decodeLossy entry.value
        · rw [if_pos hsame]
          exact answerAlike_listing P hI _
        · rw [if_neg hsame]
          refine (endAlike_changeRow _ _ hσ.store).bind ?_
          rintro _ τ _ τ' ⟨t, t', ht, ht', -, -, rfl, rfl⟩
          obtain rfl : s = t := Option.some.inj (hs.symm.trans ht)
          have hpair := paired_call P hI ht ht'
            (.updateInformationValue around.now id (Utf8.encode (dropNewline edited))) rfl
            ⟨subject, hsubject, entry, hentry, hkind⟩ (fun _ _ => rfl)
          exact answerAlike_listing P hpair _
      · rw [if_neg hkind]
        exact answerAlike_throw _

/-- A round of `id` finds what is an entry of the subject. -/
theorem deleteOne_roundAlike (P : Pairing shows I) (subject : Subject) (id : Int) :
    RoundAlike shows I (fun σ => σ.subject = some subject) (deleteOne subject.id id) :=
  roundAlike_delete P (.deleteEntity .information id) (fun _ => rfl) rfl (fun _ _ => rfl)
    (fun hI hsubject hs hs' =>
      congrArg Option.isSome (((P.alike hI).ofSubject _ _ subject hs hs' hsubject).entry id))
    (fun _ _ hsubject hfound => ⟨subject, hsubject, hfound⟩) (fun _ _ hsubject => hsubject)

theorem delete_parallel (P : Pairing shows I) : delete.Parallel shows I := by
  intro around args σ σ' hI
  have hσ := P.alike hI
  refine (blind_idList args 0 _).bind_alike (fun ids => ?_)
  refine (lookAlike_requireSubject hσ.subject).bind ?_
  rintro subject _ ⟨rfl, hsubject⟩
  refine (lookAlike_requireStore hσ.store).bind ?_
  rintro s s' -
  exact answerAlike_forEach ids (deleteOne_roundAlike P subject) hI hsubject

end InformationEntries

/-! ## Locations -/

namespace Locations

/-- What `l` shows can be read of the selected ring. -/
theorem list_parallel (P : Pairing shows I) : list.Parallel shows I := by
  intro around args σ σ' hI
  have hσ := P.alike hI
  refine answerAlike_show P hI _ (fun ring s s' hring hs hs' => ?_)
  exact listingAlike_rows (hσ.inRing s s' ring hs hs' hring).locations hσ.formatter.location

/-- Coordinates are read without the session. -/
theorem blind_coordinate (text what : String) (limit : Nat) :
    Blind (coordinate text what limit) := by
  unfold coordinate
  cases Binary64.ofString? text with
  | none => exact blind_throw _
  | some value =>
      show Blind (if value.within limit = true then _ else _)
      split
      · exact blind_pure value
      · exact blind_throw _

/-- The arguments of `la` are read on both sides alike, before the ring is
    asked. -/
theorem add_parallel (P : Pairing shows I) : add.Parallel shows I := by
  intro around args σ σ' hI
  have hσ := P.alike hI
  refine (lookAlike_requireRing hσ.ring).bind ?_
  rintro ring _ ⟨rfl, hring⟩
  refine (blind_argument args 0 _).bind_alike (fun _ => ?_)
  refine (blind_coordinate _ _ _).bind_alike (fun latitude => ?_)
  refine (blind_argument args 1 _).bind_alike (fun _ => ?_)
  refine (blind_coordinate _ _ _).bind_alike (fun longitude => ?_)
  refine (blind_argument args 2 _).bind_alike (fun name => ?_)
  exact answerAlike_create P hI
    (.createLocation around.now ring.id name latitude longitude (restFrom args 3))
    (fun _ => rfl) rfl (fun _ _ => rfl) (fun _ _ => ⟨ring, hring, rfl⟩)
    (fun s s' hs hs' =>
      (hσ.inRing s s' ring hs hs' hring).createLocation (hσ.ids s s' hs hs') _ _ _)

/-- A round of `ld` finds what belongs to the ring. -/
theorem deleteOne_roundAlike (P : Pairing shows I) (ring : Ring) (id : Int) :
    RoundAlike shows I (fun σ => σ.ring = some ring) (deleteOne ring.id id) :=
  roundAlike_delete P (.deleteEntity .location id) (fun _ => rfl) rfl (fun _ _ => rfl)
    (fun hI hring hs hs' => ((P.alike hI).inRing _ _ ring hs hs' hring).entity .location id)
    (fun _ _ hring hfound => ⟨ring, hring, hfound⟩) (fun _ _ hring => hring)

theorem delete_parallel (P : Pairing shows I) : delete.Parallel shows I := by
  intro around args σ σ' hI
  exact answerAlike_deletion P hI (deleteOne_roundAlike P)

end Locations

/-! ## Time entries -/

namespace Times

/-- What `t` shows can be read of the selected ring. -/
theorem list_parallel (P : Pairing shows I) : list.Parallel shows I := by
  intro around args σ σ' hI
  have hσ := P.alike hI
  refine answerAlike_show P hI _ (fun ring s s' hring hs hs' => ?_)
  exact listingAlike_rows (hσ.inRing s s' ring hs hs' hring).times hσ.formatter.time

/-- Moments are read without the session. -/
theorem blind_moment (text : String) : Blind (moment text) := by
  unfold moment
  cases Moment.ofString? text with
  | some m => exact blind_pure _
  | none => exact blind_throw _

/-- The moment of `ta` is read on both sides alike. -/
theorem add_parallel (P : Pairing shows I) : add.Parallel shows I := by
  intro around args σ σ' hI
  have hσ := P.alike hI
  refine (lookAlike_requireRing hσ.ring).bind ?_
  rintro ring _ ⟨rfl, hring⟩
  refine (blind_argument args 0 _).bind_alike (fun _ => ?_)
  refine (blind_moment _).bind_alike (fun stored => ?_)
  exact answerAlike_create P hI (.createTime around.now ring.id stored (restFrom args 1))
    (fun _ => rfl) rfl (fun _ _ => rfl) (fun _ _ => ⟨ring, hring, rfl⟩)
    (fun s s' hs hs' => (hσ.inRing s s' ring hs hs' hring).createTime (hσ.ids s s' hs hs') _)

/-- A round of `td` finds what belongs to the ring. -/
theorem deleteOne_roundAlike (P : Pairing shows I) (ring : Ring) (id : Int) :
    RoundAlike shows I (fun σ => σ.ring = some ring) (deleteOne ring.id id) :=
  roundAlike_delete P (.deleteEntity .time id) (fun _ => rfl) rfl (fun _ _ => rfl)
    (fun hI hring hs hs' => ((P.alike hI).inRing _ _ ring hs hs' hring).entity .time id)
    (fun _ _ hring hfound => ⟨ring, hring, hfound⟩) (fun _ _ hring => hring)

theorem delete_parallel (P : Pairing shows I) : delete.Parallel shows I := by
  intro around args σ σ' hI
  exact answerAlike_deletion P hI (deleteOne_roundAlike P)

end Times

/-! ## Associations -/

namespace Associations

/-- What `a` shows can be read of the selected ring: its associations, their
    members, and the labels of these. -/
theorem list_parallel (P : Pairing shows I) : list.Parallel shows I := by
  intro around args σ σ' hI
  have hσ := P.alike hI
  refine answerAlike_show P hI _ (fun ring s s' hring hs hs' => .grouped ?_)
  have hsame := hσ.inRing s s' ring hs hs' hring
  rw [hsame.associations, List.forall₂_map_left_iff, List.forall₂_map_right_iff,
    List.forall₂_same]
  intro association hassociation
  refine .cons (hσ.formatter.associationHeader association) ?_
  rw [hsame.members association hassociation, List.forall₂_map_left_iff,
    List.forall₂_map_right_iff, List.forall₂_same]
  intro member hmember
  rw [hsame.labels association hassociation member hmember]
  exact hσ.formatter.member member _

/-- The level of `aa` is read on both sides alike. -/
theorem add_parallel (P : Pairing shows I) : add.Parallel shows I := by
  intro around args σ σ' hI
  have hσ := P.alike hI
  refine (lookAlike_requireRing hσ.ring).bind ?_
  rintro ring _ ⟨rfl, hring⟩
  refine (blind_argument args 0 _).bind_alike (fun text => ?_)
  cases Text.toInt? text with
  | none => exact answerAlike_throw _
  | some level =>
      refine (blind_argument args 1 _).bind_alike (fun _ => ?_)
      exact answerAlike_create P hI
        (.createAssociation around.now ring.id level (restFrom args 1))
        (fun _ => rfl) rfl (fun _ _ => rfl) (fun _ _ => ⟨ring, hring, rfl⟩)
        (fun s s' hs hs' =>
          (hσ.inRing s s' ring hs hs' hring).createAssociation (hσ.ids s s' hs hs') _ _)

/-- In both stores the association is there, so that the member is granted. -/
theorem addMember_alike {s s' : Store} {associationId ringId : Int} (kind : EntityKind) (id : Int)
    (h : (inRing s associationId ringId).isSome = true)
    (h' : (inRing s' associationId ringId).isSome = true) :
    Store.AnswersAlike (Store.addMember · associationId kind id) s s' := by
  obtain ⟨_, hadd, -⟩ := addMember_of_inRing kind id h
  obtain ⟨_, hadd', -⟩ := addMember_of_inRing kind id h'
  simp only [Store.AnswersAlike, hadd, hadd']
  rfl

/-- The association stays in its ring when a member is added. -/
theorem inRing_after_addMember {s : Store} {associationId ringId : Int} (kind : EntityKind)
    (id : Int) (h : (inRing s associationId ringId).isSome = true) :
    inRing (s.after (.addMember associationId kind id)) associationId ringId
      = inRing s associationId ringId := by
  obtain ⟨s', hadd, hkept⟩ := addMember_of_inRing kind id h
  show inRing (s.left (s.addMember associationId kind id)) associationId ringId = _
  rw [hadd]
  exact hkept

/-- A round of a command that links: the association stays in the ring, and
    both sides find the entity there or do not. -/
theorem linkOne_roundAlike (P : Pairing shows I) (kind : EntityKind) (ring : Ring)
    (associationId id : Int) :
    RoundAlike shows I (Scope ring associationId) (linkOne kind associationId ring.id id) := by
  intro σ σ' hI hscope
  have hσ := P.alike hI
  obtain ⟨hring, hassociation⟩ := hscope
  refine (lookAlike_requireStore hσ.store).bind ?_
  rintro s s' ⟨hs, hs'⟩
  have hsame := hσ.inRing s s' ring hs hs' hring
  rw [hsame.entity kind id]
  by_cases hfound : s.entityInRing kind id ring.id = true
  · rw [if_pos hfound]
    have hthere := hassociation s hs
    refine (endAlike_change hσ.store (fun t t' ht ht' => ?_)).bind ?_
    · refine addMember_alike kind id (hassociation t ht) ?_
      rw [(hσ.inRing t t' ring ht ht' hring).association]
      exact hassociation t ht
    rintro _ τ _ τ' ⟨-, t, t', ht, ht', rfl, rfl⟩
    obtain rfl : s = t := Option.some.inj (hs.symm.trans ht)
    have hpair := paired_call P hI ht ht' (.addMember associationId kind id) rfl
      ⟨ring, hring, hthere, hfound⟩ (fun _ _ => rfl)
    -- the association is still in the ring for the next round
    refine endAlike_pure ⟨P.refl _, hpair, hring, ?_⟩
    intro t ht
    obtain rfl : s.after (.addMember associationId kind id) = t := Option.some.inj ht
    rw [inRing_after_addMember kind id hthere]
    exact hthere
  · rw [if_neg hfound]
    exact endAlike_pure ⟨P.refl _, hI, hring, hassociation⟩

/-- The association of a link is looked up in the selected ring. -/
theorem link_parallel (P : Pairing shows I) (kind : EntityKind) (name : String) :
    (link kind name).Parallel shows I := by
  intro around args σ σ' hI
  have hσ := P.alike hI
  refine (lookAlike_requireRing hσ.ring).bind ?_
  rintro ring _ ⟨rfl, hring⟩
  refine (blind_argument args 0 _).bind_alike (fun text => ?_)
  refine (blind_parseId text _).bind_alike (fun associationId => ?_)
  refine (blind_idList args 1 _).bind_alike (fun ids => ?_)
  refine (lookAlike_requireStore hσ.store).bind ?_
  rintro s s' ⟨hs, hs'⟩
  rw [(hσ.inRing s s' ring hs hs' hring).association]
  by_cases hfound : (inRing s associationId ring.id).isSome = true
  · rw [if_pos hfound]
    have hscope : Scope ring associationId σ := by
      refine ⟨hring, fun t ht => ?_⟩
      obtain rfl : s = t := Option.some.inj (hs.symm.trans ht)
      exact hfound
    exact answerAlike_forEach ids (linkOne_roundAlike P kind ring associationId) hI hscope
  · rw [if_neg hfound]
    exact answerAlike_throw _

/-- A round of `ad` finds the associations of the ring. -/
theorem deleteOne_roundAlike (P : Pairing shows I) (ring : Ring) (id : Int) :
    RoundAlike shows I (fun σ => σ.ring = some ring) (deleteOne ring.id id) :=
  roundAlike_delete P (.deleteAssociation id) (fun _ => rfl) rfl (fun _ _ => rfl)
    (fun hI hring hs hs' =>
      congrArg Option.isSome (((P.alike hI).inRing _ _ ring hs hs' hring).association id))
    (fun _ _ hring hfound => ⟨ring, hring, hfound⟩) (fun _ _ hring => hring)

theorem delete_parallel (P : Pairing shows I) : delete.Parallel shows I := by
  intro around args σ σ' hI
  exact answerAlike_deletion P hI (deleteOne_roundAlike P)

end Associations

/-! ## Commands that keep nothing -/

namespace System

/-- `debug` turns the switch on both sides. -/
theorem toggleDebug_parallel (P : Pairing shows I) : toggleDebug.Parallel shows I := by
  intro around args σ σ' hI
  have hσ := P.alike hI
  refine lookAlike_get.bind ?_
  rintro _ _ ⟨rfl, rfl⟩
  refine (endAlike_modify _ _).bind ?_
  rintro _ τ _ τ' ⟨rfl, rfl⟩
  rw [hσ.debug]
  refine answerAlike_listing P ?_ _
  have hpair := P.toggleDebug hI
  rwa [hσ.debug] at hpair

/-- `q` asks to leave on both sides. -/
theorem quit_parallel (P : Pairing shows I) : quit.Parallel shows I := by
  intro around args σ σ' hI
  refine (endAlike_modify _ _).bind ?_
  rintro _ τ _ τ' ⟨rfl, rfl⟩
  exact answerAlike_listing P (P.quit hI) _

/-- `help` shows the same on both sides. -/
theorem show_parallel (P : Pairing shows I) (listing : Listing) :
    (show_ listing).Parallel shows I := by
  intro around args σ σ' hI
  exact answerAlike_listing P hI listing

end System

/-- **EVERY FAMILY** but that of rings answers alike under every pairing. -/
theorem families_parallel (P : Pairing shows I) {command : Command Handler}
    (hcommand : command ∈ families) :
    command ∈ Rings.commands ∨ command.handler.Parallel shows I := by
  simp only [families, List.mem_append] at hcommand
  rcases hcommand with (((((h | h) | h) | h) | h) | h) | h
  · exact .inl h
  · right
    simp only [Subjects.commands, List.mem_cons, List.not_mem_nil, or_false] at h
    rcases h with rfl | rfl | rfl | rfl | rfl
    · exact Subjects.list_parallel P
    · exact Subjects.add_parallel P
    · exact Subjects.select_parallel P
    · exact Subjects.delete_parallel P
    · exact Subjects.view_parallel P
  · right
    simp only [InformationEntries.commands, List.mem_cons, List.not_mem_nil, or_false] at h
    rcases h with rfl | rfl | rfl | rfl | rfl | rfl
    · exact InformationEntries.list_parallel P
    · exact InformationEntries.addText_parallel P
    · exact InformationEntries.addBinary_parallel P
    · exact InformationEntries.addComposite_parallel P
    · exact InformationEntries.edit_parallel P
    · exact InformationEntries.delete_parallel P
  · right
    simp only [Locations.commands, List.mem_cons, List.not_mem_nil, or_false] at h
    rcases h with rfl | rfl | rfl
    · exact Locations.list_parallel P
    · exact Locations.add_parallel P
    · exact Locations.delete_parallel P
  · right
    simp only [Times.commands, List.mem_cons, List.not_mem_nil, or_false] at h
    rcases h with rfl | rfl | rfl
    · exact Times.list_parallel P
    · exact Times.add_parallel P
    · exact Times.delete_parallel P
  · right
    simp only [Associations.commands, List.mem_cons, List.not_mem_nil, or_false] at h
    rcases h with rfl | rfl | rfl | rfl | rfl | rfl | rfl
    · exact Associations.list_parallel P
    · exact Associations.add_parallel P
    · exact Associations.link_parallel P .subject "aas"
    · exact Associations.link_parallel P .information "aai"
    · exact Associations.link_parallel P .location "aal"
    · exact Associations.link_parallel P .time "aat"
    · exact Associations.delete_parallel P
  · right
    simp only [System.commands, List.mem_cons, List.not_mem_nil, or_false] at h
    rcases h with rfl | rfl
    · exact System.toggleDebug_parallel P
    · exact System.quit_parallel P

/-- The names of the commands on rings. -/
def Rings.names : List String :=
  ["r", "rings", "ra", "rs", "rn", "rd"]

/-- **EVERY COMMAND** whose name is none of those answers alike under every
    pairing. -/
theorem builtin_parallel (P : Pairing shows I) :
    ∀ c ∈ builtin.commands, c.name ∉ Rings.names → c.handler.Parallel shows I := by
  refine forall_commands ?_ ?_ (fun listing _ => System.show_parallel P listing)
  · intro command hcommand hname
    rcases families_parallel P hcommand with hring | hparallel
    · refine absurd ?_ hname
      simp only [Rings.commands, List.mem_cons, List.not_mem_nil, or_false] at hring
      rcases hring with rfl | rfl | rfl | rfl | rfl <;> simp [Rings.names]
    · exact hparallel
  · -- of the further names, one is for a command on rings, and it is listed
    intro n hn command hname hparallel hnew
    simp only [otherNames, List.mem_cons, List.not_mem_nil, or_false] at hn
    rcases hn with rfl | rfl | rfl
    · exact absurd (by simp [Rings.names]) hnew
    · exact hparallel (by simp [hname, Rings.names])
    · exact hparallel (by simp [hname, Rings.names])

end Commands

end Dossier
