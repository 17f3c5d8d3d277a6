import Dossier.Proofs.Composite
import Dossier.Proofs.Registry.History
/-! # Composing entries

    `iac` reads an id expression and writes the ids into the value of a new
    entry, and `i` reads the value again when it lists the entry.  The three
    agree (`composites_round_trip`): what is listed are the ids of the
    expression, in its order, however it was written.

    What can go wrong is said as well: a subject MAY be given a composite of
    entries that it has, at least one (`Store.MayCompose`), and a line that
    composes fails exactly when it may not (`Evaluator.evaluate_composing`). -/

namespace Dossier

open Text Store Session Dossier.Action

variable {around : Surroundings} {σ : Session} {s : Store} {subject : Subject}
  {now name text : String} {args others : List String} {ids : List Int} {subjectId id : Int}

/-! ## A new entry -/

/-- The composite of some ids that a subject is given. -/
def Information.composed (now : String) (subjectId : Int) (name : String) (ids : List Int)
    (id : Int) : Information :=
  ⟨id, subjectId, .composite, name, compositeValue ids, "", now, now⟩

/-- The store with one more entry, which is such a composite. -/
def Store.withComposite (s : Store) (now : String) (subjectId : Int) (name : String)
    (ids : List Int) : Store :=
  { s with information := s.information.add (.composed now subjectId name ids) }

/-- The entry lists the ids that it was made of. -/
theorem compositeIds_composed (hids : ∀ n ∈ ids, inInt64 n = true) :
    (Information.composed now subjectId name ids id).compositeIds = ids :=
  Information.compositeIds_of_value rfl rfl hids

/-- The new entry is found under its id. -/
theorem getInformation_withComposite (hs : s.Constrained) :
    (s.withComposite now subjectId name ids).getInformation s.information.nextId
      = some (.composed now subjectId name ids s.information.nextId) := by
  have hordered := hs.information.add (.composed now subjectId name ids) (fun _ => rfl)
  exact hordered.find?_key_iff.mpr ⟨Table.mem_add.mpr (.inr rfl), rfl⟩

/-- The new entry is listed after the others of its subject. -/
theorem listInformation_withComposite :
    (s.withComposite now subjectId name ids).listInformation subjectId
      = s.listInformation subjectId ++ [.composed now subjectId name ids s.information.nextId] := by
  have hnew : [Information.composed now subjectId name ids s.information.nextId].filter
      (fun row => row.subjectId == subjectId)
        = [.composed now subjectId name ids s.information.nextId] :=
    List.filter_cons_of_pos (beq_self_eq_true subjectId)
  show List.filter _ (s.information.rows ++ [_]) = _
  rw [List.filter_append]
  exact congrArg (s.listInformation subjectId ++ ·) hnew

/-- The line of a composite shows its ids. -/
theorem Formatter.information_composed (f : Formatter) (hids : ∀ n ∈ ids, inInt64 n = true) :
    f.information (.composed now subjectId name ids id)
      = " " ++ f.id id ++ "  [composite] " ++ f.paint .yellow name ++ ": "
        ++ joined ", " (ids.map (fun n => "#" ++ toString n)) ++ f.metadata now (some now) := by
  have hvalue : value (.composed now subjectId name ids id)
      = joined ", " (ids.map (fun n => "#" ++ toString n)) := by
    rw [value, compositeIds_composed hids]
    rfl
  have hkind (front : String) : front ++ "  [" ++ InformationKind.composite.word ++ "] "
      = front ++ "  [composite] " := by
    have hword : "  [" ++ (InformationKind.composite.word ++ "] ") = "  [composite] " := by decide
    rw [String.append_assoc, String.append_assoc, hword]
  have hnote : note "" = "" := rfl
  rw [information, hvalue]
  simp only [Information.composed, hkind, hnote, String.append_empty]

/-- The subject can be given a composite of these ids: the store has the subject,
    there is an id, and every id is that of an entry of the subject. -/
structure Store.MayCompose (s : Store) (subjectId : Int) (ids : List Int) : Prop where
  subject : s.hasSubject subjectId = true
  nonempty : ids ≠ []
  entries : ∀ id ∈ ids, (Commands.InformationEntries.ofSubject s id subjectId).isSome = true

/-! ## Two commands -/

namespace Commands.InformationEntries

/-- The check of a composite fails only when some id is not found. -/
theorem ends_requireEntries (hs : σ.store = some s) (subjectId : Int) (ids : List Int) :
    Ends (requireEntries subjectId ids) σ
      (fun _ τ => τ = σ ∧ ∀ id ∈ ids, (ofSubject s id subjectId).isSome = true)
      (fun τ => τ = σ ∧ ¬ ∀ id ∈ ids, (ofSubject s id subjectId).isSome = true) := by
  induction ids with
  | nil => exact ⟨rfl, List.forall_mem_nil _⟩
  | cons id ids ih =>
      refine (requireStore_of_some hs).bind ?_
      rintro s' τ ⟨rfl, rfl⟩
      by_cases hfound : (ofSubject s' id subjectId).isSome = true
      · rw [if_pos hfound]
        refine ih.mono ?_ ?_
        · rintro _ τ ⟨hτ, hothers⟩
          exact ⟨hτ, List.forall_mem_cons.mpr ⟨hfound, hothers⟩⟩
        · rintro τ ⟨hτ, hmissing⟩
          exact ⟨hτ, fun hall => hmissing (List.forall_mem_cons.mp hall).2⟩
      · rw [if_neg hfound]
        exact ends_throw ⟨rfl, fun hall => hfound (List.forall_mem_cons.mp hall).1⟩

/-- A composite is made of the ids of its expression, for the selected subject,
    or the subject cannot have it. -/
theorem ends_addComposite (around : Surroundings) (name text : String) (others : List String)
    (hsubject : σ.subject = some subject) (hs : σ.store = some s) :
    Ends (addComposite around (name :: text :: others)) σ (fun answer τ =>
      s.MayCompose subject.id (IdExpression.ids text) ∧
        answer = .message
          ("Created information #" ++ toString s.information.nextId ++ " " ++ name) ∧
        τ = { σ with
          store := some (s.withComposite around.now subject.id name (IdExpression.ids text)) })
      (fun _ => ¬ s.MayCompose subject.id (IdExpression.ids text)) := by
  refine ends_argument.bind_reason (fun hnone => nomatch hnone) (fun name' hname => ?_)
  obtain rfl : name = name' := Option.some.inj hname
  refine ends_idList.bind_reason (fun hnone => fun h => h.nonempty (hnone text rfl)) ?_
  rintro ids ⟨hne, text', htext, rfl⟩
  obtain rfl : text = text' := Option.some.inj htext
  refine (requireSubject_of_some hsubject).bind ?_
  rintro subject' τ ⟨rfl, rfl⟩
  refine (ends_requireEntries hs subject'.id _).bind_reason (fun hnone => fun h => hnone h.entries)
    (fun _ hentries => ?_)
  refine (requireSubject_of_some hsubject).bind ?_
  rintro subject'' τ ⟨rfl, rfl⟩
  refine ((ends_change_of_some hs).mono (fun _ _ hmade => hmade) ?refused).bind ?made
  case refused =>
    -- the store refuses only where the subject is gone
    rintro τ ⟨-, refusal, hrefused⟩ h
    rw [createInformation, if_pos h.subject] at hrefused
    cases hrefused
  case made =>
    rintro id τ ⟨t, hgranted, rfl⟩
    obtain ⟨hthere, rfl, rfl⟩ := createInformation_granted hgranted
    exact ends_pure ⟨⟨hthere, hne, hentries⟩, rfl, rfl⟩

/-- Without a store no composite is made. -/
theorem ends_addComposite_closed (around : Surroundings) (args : List String)
    (hs : σ.store = none) :
    Ends (addComposite around args) σ (fun _ _ => False) (· = σ) := by
  refine Reads.bind reads_argument (fun name _ => ?_)
  refine Reads.bind reads_idList (fun ids _ => ?_)
  refine Reads.bind reads_requireSubject (fun subject _ => ?_)
  refine Reads.bind (reads_requireEntries subject.id ids) (fun _ _ => ?_)
  refine Reads.bind reads_requireSubject (fun subject _ => ?_)
  refine ends_change.bind ?_
  rintro id τ ⟨s, -, hopen, -⟩
  cases hopen.symm.trans hs

/-- With a subject selected its entries are listed. -/
theorem list_answers (around : Surroundings) (args : List String)
    (hsubject : σ.subject = some subject) (hs : σ.store = some s) :
    Ends (list around args) σ (fun answer τ =>
      answer = .ofTexts ((s.listInformation subject.id).map σ.formatter.information) ∧ τ = σ)
      (fun _ => False) :=
  ends_answer (requireSubject_of_some hsubject) hs

end Commands.InformationEntries

/-! ## Two lines -/

namespace Evaluator

variable {modifier : Char} {engine : Pattern.Engine} {line : String}

/-- The command that a line runs is the built-in one of its name. -/
theorem invoked_of_lookup {command : Command Handler}
    (hline : ((ofBuiltin modifier engine).invoked? line).map
        (fun invoked => (invoked.1.name, invoked.2))
      = some (name, args))
    (hfound : Commands.builtin.lookup name = some command) :
    (ofBuiltin modifier engine).invoked? line = some (command, args) := by
  obtain ⟨⟨invoked, args'⟩, hinvoked, heq⟩ := Option.map_eq_some_iff.mp hline
  obtain ⟨hname, rfl⟩ := Prod.mk.inj heq
  rw [hinvoked, Commands.eq_of_lookup (mem_of_invoked hinvoked) hname hfound]

/-- **A LINE THAT COMPOSES** adds the composite, or it fails because the subject
    cannot be given it. -/
theorem evaluate_composing (around : Surroundings) (hsubject : σ.subject = some subject)
    (hline : ((ofBuiltin modifier engine).invoked? line).map
        (fun invoked => (invoked.1.name, invoked.2))
      = some ("iac", name :: text :: others)) :
    let evaluated := (ofBuiltin modifier engine).evaluate around line σ
    let ids := IdExpression.ids text
    (∃ s stages, σ.store = some s ∧ s.MayCompose subject.id ids ∧
      evaluated.result = .ok (applyStages
        (.message ("Created information #" ++ toString s.information.nextId ++ " " ++ name))
        stages) ∧
      evaluated.session
        = { σ with store := some (s.withComposite around.now subject.id name ids) }) ∨
    (∃ e, evaluated.result = .error e) ∧ ¬ ∃ s ∈ σ.store, s.MayCompose subject.id ids := by
  intro evaluated ids
  obtain ⟨command, hfound, hhandler⟩ : ∃ command, Commands.builtin.lookup "iac" = some command ∧
      command.handler = Commands.InformationEntries.addComposite := ⟨_, rfl, rfl⟩
  have hinvoked := invoked_of_lookup hline hfound
  cases hs : σ.store with
  | none =>
      have hends := Commands.InformationEntries.ends_addComposite_closed around
        (name :: text :: others) hs
      rw [← hhandler] at hends
      rcases ends_of_invoked hinvoked hends with ⟨_, _, -, hfalse⟩ | ⟨e, hresult, -⟩
      · exact hfalse.elim
      · exact .inr ⟨⟨e, hresult⟩, fun ⟨_, hs', _⟩ => nomatch hs'⟩
  | some s =>
      -- with a store the command succeeds exactly if it may
      have hends := Commands.InformationEntries.ends_addComposite around name text others
        hsubject hs
      rw [← hhandler] at hends
      rcases ends_of_invoked hinvoked hends with
        ⟨_, stages, hresult, hmay, rfl, hsession⟩ | ⟨e, hresult, hnot⟩
      · exact .inl ⟨s, stages, rfl, hmay, hresult, hsession⟩
      · refine .inr ⟨⟨e, hresult⟩, ?_⟩
        rintro ⟨s', hs', hmay⟩
        obtain rfl : s = s' := Option.some.inj hs'
        exact hnot hmay

/-- A line that lists the entries changes nothing. -/
theorem evaluate_entries (hsubject : σ.subject = some subject) (hs : σ.store = some s)
    (hline : (ofBuiltin modifier engine).Runs line "i" args) (around : Surroundings) :
    ((ofBuiltin modifier engine).evaluate around line σ).result
        = .ok (.display (.ofTexts
          ((s.listInformation subject.id).map σ.formatter.information))) ∧
      ((ofBuiltin modifier engine).evaluate around line σ).session = σ := by
  obtain ⟨command, hfound, hhandler⟩ : ∃ command, Commands.builtin.lookup "i" = some command ∧
      command.handler = Commands.InformationEntries.list := ⟨_, rfl, rfl⟩
  have hends := Commands.InformationEntries.list_answers around args hsubject hs
  rw [← hhandler] at hends
  obtain ⟨_, hresult, rfl, hsession⟩ := hline.displays hfound hends
  exact ⟨hresult, hsession⟩

end Evaluator

/-- **COMPOSITES ROUND TRIP**: ids with commas between them are read back from
    the value of a composite.  A line that asks for a composite of an id
    expression is answered if and only if the selected subject may be given it.
    Then one entry is added and nothing else is changed; the ids of the entry are
    those of the expression, and a line that lists the entries of the subject
    shows it last, with just these ids in this order. -/
theorem composites_round_trip (modifier : Char) (engine : Pattern.Engine) :
    (∀ (entry : Information) (ids : List Int), (∀ id ∈ ids, inInt64 id = true) →
      entry.kind = .composite → entry.value = Utf8.encode (joined "," (ids.map toString)) →
        entry.compositeIds = ids) ∧
    ∀ around line σ subject name text others,
      let ev := Evaluator.ofBuiltin modifier engine
      let τ := (ev.evaluate around line σ).session
      let ids := IdExpression.ids text
      let f := σ.formatter
      σ.subject = some subject →
      (ev.invoked? line).map (fun invoked => (invoked.1.name, invoked.2))
        = some ("iac", name :: text :: others) →
      ((∃ answer, (ev.evaluate around line σ).result = .ok answer) ↔
        ∃ s ∈ σ.store, s.MayCompose subject.id ids) ∧
      ∀ answer, (ev.evaluate around line σ).result = .ok answer →
        ∃ s t entry stages, σ.store = some s ∧ τ = { σ with store := some t } ∧
          t = { s with information := ⟨s.information.rows ++ [entry], entry.id⟩ } ∧
          (s.Constrained → t.getInformation entry.id = some entry) ∧
          entry.kind = .composite ∧ entry.name = name ∧ entry.subjectId = subject.id ∧
          entry.compositeIds = ids ∧
          answer = Evaluator.applyStages
            (.message ("Created information #" ++ toString entry.id ++ " " ++ name)) stages ∧
          ∀ around' line' args, ev.Runs line' "i" args →
            (ev.evaluate around' line' τ).result = .ok (.display (.ofTexts
              ((s.listInformation subject.id).map f.information ++
                [" " ++ f.id entry.id ++ "  [composite] " ++ f.paint .yellow name ++ ": "
                  ++ joined ", " (ids.map (fun id => "#" ++ toString id))
                  ++ f.metadata around.now (some around.now)]))) ∧
            (ev.evaluate around' line' τ).session = τ := by
  refine ⟨fun entry ids hids hkind hvalue =>
    Information.compositeIds_of_value hkind hvalue hids, ?_⟩
  intro around line σ subject name text others ev τ ids f hsubject hline
  have hids : ∀ id ∈ ids, inInt64 id = true := fun id hid => IdExpression.inInt64_of_mem_ids hid
  rcases Evaluator.evaluate_composing around hsubject hline with
    ⟨s, stages, hs, hmay, hresult, hτ⟩ | ⟨⟨e, herror⟩, hnot⟩
  case inr =>
    refine ⟨iff_of_false ?_ hnot, fun answer hanswer => ?_⟩
    · rintro ⟨answer, hanswer⟩
      cases herror.symm.trans hanswer
    · cases herror.symm.trans hanswer
  refine ⟨iff_of_true ⟨_, hresult⟩ ⟨s, hs, hmay⟩, fun answer hanswer => ?_⟩
  obtain rfl := Except.ok.inj (hresult.symm.trans hanswer)
  -- what was made is the entry with the next id, at the end of the table
  let t := s.withComposite around.now subject.id name ids
  let entry : Information := .composed around.now subject.id name ids s.information.nextId
  have hτ : τ = { σ with store := some t } := hτ
  refine ⟨s, t, entry, stages, hs, hτ, rfl, getInformation_withComposite, rfl, rfl, rfl,
    compositeIds_composed hids, rfl, ?_⟩
  intro around' line' args hlists
  have hsubject' : τ.subject = some subject := by rw [hτ]; exact hsubject
  have hstore : τ.store = some t := by rw [hτ]
  have hformatter : τ.formatter = f := by rw [hτ]; rfl
  obtain ⟨hlisted, hsession⟩ := Evaluator.evaluate_entries hsubject' hstore hlists around'
  -- so the new line is the last one
  refine ⟨hlisted.trans ?_, hsession⟩
  rw [hformatter, listInformation_withComposite, List.map_append, List.map_singleton,
    f.information_composed hids]
  rfl

/-- Two entries, in a session without colors. -/
def composingInputs : List (Surroundings × String) :=
  ["ra berlin", "rs 1", "sa WOLF", "ss 1", "ia phone 555", "ia mail wolf"].map
    (fun line => (.bare, line))

/-- An expression with a leading zero, and with a range that has an id again. -/
theorem composites_round_trip_overlap :
    let ev := Evaluator.ofBuiltin '$' .standard
    let σ := ev.sessionAfter composingInputs
      (start { Config.plain with color := false } (some fresh))
    let τ := (ev.evaluate .bare "iac profile 02,1-2" σ).session
    IdExpression.ids "02,1-2" = [2, 1] ∧
      (∃ t, τ.store = some t ∧ ∃ entry ∈ t.information.rows,
        entry.id = 3 ∧ entry.compositeIds = [2, 1]) ∧
      ∃ texts, (ev.evaluate .bare "i" τ).result
        = .ok (.display (.ofTexts (texts ++ ["    3  [composite] profile: #2, #1"]))) := by
  intro ev σ τ
  have hids : IdExpression.ids "02,1-2" = [2, 1] := by decide
  have hsubject : σ.subject = some ⟨1, 1, "WOLF", "", "09:00"⟩ := by decide +kernel
  have hline : (ev.invoked? "iac profile 02,1-2").map
      (fun invoked => (invoked.1.name, invoked.2)) = some ("iac", ["profile", "02,1-2"]) := by
    decide +kernel
  have hanswer : (ev.evaluate .bare "iac profile 02,1-2" σ).result
      = .ok (.display (.message "Created information #3 profile")) := by decide +kernel
  have hlast : τ.store.map (fun t => t.information.lastId) = some 3 := by decide +kernel
  have hformatter : σ.formatter = ⟨false, false⟩ := by decide +kernel
  have hlists : ev.Runs "i" "i" [] :=
    ⟨"i", by decide +kernel, by decide +kernel, by decide +kernel⟩
  obtain ⟨-, hlines⟩ := composites_round_trip '$' .standard
  obtain ⟨-, hmade⟩ := hlines _ _ _ _ _ _ _ hsubject hline
  obtain ⟨s, t, entry, stages, -, hτ, ht, -, -, -, -, hcomposite, -, hlisted⟩ := hmade _ hanswer
  have hτ : τ = { σ with store := some t } := hτ
  have hstore : τ.store = some t := by rw [hτ]
  have hid : entry.id = 3 := by
    rw [hstore, ht] at hlast
    exact Option.some.inj hlast
  -- the entry that was made is that with the id 3, whatever its other fields are
  have hmem : entry ∈ t.information.rows := by
    rw [ht]
    exact List.mem_append_right _ (List.mem_singleton_self entry)
  refine ⟨hids, ⟨t, hstore, entry, hmem, hid, hcomposite.trans hids⟩,
    (s.listInformation 1).map σ.formatter.information, ?_⟩
  refine (hlisted .bare "i" [] hlists).1.trans ?_
  rw [hid, hids, hformatter]
  rfl

end Dossier
