import SqliteReconcile.EditCommands

/-!
# Runs of edit commands

Whatever commands were given before, every shown label names one statement, and a command hits
the statement that its label names.
-/
namespace SqliteReconcile.EditSessions
open Models SqlMetadata LogMerge TerminalUi StatementLogging EditCommands

lemma foldr_min_le {indexes : List ℤ} {index : ℤ} (h : index ∈ indexes) :
    indexes.foldr min 0 ≤ index := by
  induction indexes with
  | nil => cases h
  | cons first rest ih =>
    rw [List.foldr_cons]
    rcases List.mem_cons.mp h with rfl | hrest
    · exact min_le_left _ _
    · exact (min_le_right _ _).trans (ih hrest)

lemma newStatementSql_lt (reader : SqlReader) {transaction : ShownTransaction}
    {statement : StatementObject} (prepared : PreparedSql)
    (h : statement ∈ transaction.statements) :
    (newStatementSql reader transaction.logged prepared).branchIndex <
      statement.statement.branchIndex := by
  have hmem : statement.statement.branchIndex ∈
      transaction.logged.statements.map (·.branchIndex) :=
    List.mem_map_of_mem (List.mem_map_of_mem h)
  have hle := foldr_min_le hmem
  have hindex : (newStatementSql reader transaction.logged prepared).branchIndex =
      (transaction.logged.statements.map (·.branchIndex)).foldr min 0 - 1 := rfl
  omega

inductive Revised (session : Session) : Session → Prop
  | unchanged : Revised session session
  | update (nextRef : ℕ) (label : List Char) (transaction : ShownTransaction)
      (statements : List StatementObject) :
      session.nextRef ≤ nextRef → (label, transaction) ∈ session.shown →
      Distinct nextRef statements →
      Revised session
        (Session.update ⟨session.shown, nextRef⟩ label (transaction.withStatements statements))

section
variable {unicode : Unicode} {reader : SqlReader} {session : Session}

lemma revised_edit (hdistinct : session.AllDistinct) {label transactionLabel : List Char}
    {transaction : ShownTransaction} {before after : List StatementObject}
    {statement : StatementObject}
    (h : Shows session.shown label transactionLabel transaction before statement after)
    (prepared : PreparedSql) :
    Revised session (session.allocate.update transactionLabel
      (transaction.withStatements (before ++
        ⟨session.nextRef, replaceStatementSql reader statement.statement prepared⟩ :: after))) := by
  have hold := hdistinct _ h.mem
  simp only [h.statements] at hold
  exact .update _ _ _ _ (Nat.le_succ _) h.mem (hold.remove.place rfl hold.index_ne)

lemma revised_insert (hdistinct : session.AllDistinct) {label transactionLabel : List Char}
    {transaction : ShownTransaction} {before after : List StatementObject}
    {statement : StatementObject}
    (h : Shows session.shown label transactionLabel transaction before statement after)
    (position : InsertPosition) (prepared : PreparedSql) :
    Revised session (session.allocate.update transactionLabel
      (transaction.withStatements (insertAt position before statement
        ⟨session.nextRef, newStatementSql reader transaction.logged prepared⟩ after))) := by
  have hold := hdistinct _ h.mem
  have hindex : ∀ s ∈ transaction.statements, s.statement.branchIndex ≠
      (newStatementSql reader transaction.logged prepared).branchIndex := by
    intro s hs heq
    have hlt := newStatementSql_lt reader prepared hs
    omega
  simp only [h.statements] at hold hindex
  cases position with
  | before => exact .update _ _ _ _ (Nat.le_succ _) h.mem (hold.place rfl hindex)
  | after =>
    have happend : before ++ statement :: after = (before ++ [statement]) ++ after := by simp
    rw [happend] at hold hindex
    let new : StatementObject :=
      ⟨session.nextRef, newStatementSql reader transaction.logged prepared⟩
    have hplaced := hold.place (rfl : new.ref = session.nextRef) hindex
    rw [List.append_assoc, List.singleton_append] at hplaced
    exact .update _ _ _ _ (Nat.le_succ _) h.mem hplaced

lemma revised_delete (hdistinct : session.AllDistinct) {label transactionLabel : List Char}
    {transaction : ShownTransaction} {before after : List StatementObject}
    {statement : StatementObject}
    (h : Shows session.shown label transactionLabel transaction before statement after) :
    Revised session
      (session.update transactionLabel (transaction.withStatements (before ++ after))) := by
  have hold := hdistinct _ h.mem
  simp only [h.statements] at hold
  exact .update _ _ _ _ le_rfl h.mem hold.remove

lemma distinct_nil (nextRef : ℕ) : Distinct nextRef [] :=
  ⟨by simp, by simp, List.nodup_nil⟩

/-- Every command revises one transaction at most. -/
lemma revised_handle (hlabels : ApartLabels unicode (session.shown.map Prod.fst))
    (hdistinct : session.AllDistinct) (input : Interaction) :
    Revised session (EditCommands.handleTransactionEditCommand unicode reader session input).2 := by
  have hits : HitsShown unicode reader session := hitsShown hlabels hdistinct
  cases hread : readCommand unicode input.raw with
  | none =>
    rw [hits.noCommand input hread]
    exact .unchanged
  | some command =>
    by_cases hshown : ∃ transactionLabel transaction before statement after,
        Shows session.shown command.label transactionLabel transaction before statement after
    · obtain ⟨transactionLabel, transaction, before, statement, after, h⟩ := hshown
      cases command with
      | delete label =>
        rw [hits.delete input label _ _ _ _ _ hread h]
        exact revised_delete hdistinct h
      | insert position anchorLabel =>
        rw [hits.insert input position anchorLabel _ _ _ _ _ hread h]
        split
        · exact .unchanged
        · exact .unchanged
        · exact revised_insert hdistinct h position _
      | edit label =>
        rw [hits.edit input label _ _ _ _ _ hread h]
        split
        · exact .unchanged
        · exact revised_delete hdistinct h
        · exact revised_edit hdistinct h _
    · by_cases hall : ∃ label transaction, command = .delete label ∧
          (label, transaction) ∈ session.shown
      · obtain ⟨label, transaction, rfl, hmem⟩ := hall
        rcases hits.deleteAll input label transaction hread hmem with h | h
        · rw [h]
          exact .unchanged
        · rw [h]
          exact .update _ _ _ _ le_rfl hmem (distinct_nil _)
      · rw [hits.unknown input command hread]
        · exact .unchanged
        · intro transactionLabel transaction before statement after h
          exact hshown ⟨_, _, _, _, _, h⟩
        · intro label transaction hcommand hmem
          exact hall ⟨label, transaction, hcommand, hmem⟩

/-- The metadata is the union over the statements. -/
structure UnionMetadata (transaction : ShownTransaction) : Prop where
  statements : transaction.metadata.statements =
    transaction.statements.map (·.statement.metadata)
  updated : ∀ table column,
    column ∈ transaction.metadata.tablesUpdatedToColumnsUpdated.columns table ↔
      ∃ s ∈ transaction.statements,
        column ∈ s.statement.metadata.tablesUpdatedToColumnsUpdated.columns table
  referenced : ∀ table column,
    column ∈ transaction.metadata.tablesReferencedToColumnsReferenced.columns table ↔
      ∃ s ∈ transaction.statements,
        column ∈ s.statement.metadata.tablesReferencedToColumnsReferenced.columns table
  cascades : ∀ event, event ∈ transaction.metadata.cascadeWriteEvents ↔
    ∃ s ∈ transaction.statements, event ∈ s.statement.metadata.cascadeWriteEvents
  hasInsert : transaction.metadata.hasInsert ↔
    ∃ s ∈ transaction.statements, s.statement.metadata.statementKind = .insert
  hasUpdate : transaction.metadata.hasUpdate ↔
    ∃ s ∈ transaction.statements, s.statement.metadata.statementKind = .update
  hasDelete : transaction.metadata.hasDelete ↔
    ∃ s ∈ transaction.statements, s.statement.metadata.statementKind = .delete
  hasCascades : transaction.metadata.hasCascadeEffects ↔
    ∃ s ∈ transaction.statements, s.statement.metadata.hasCascadeEffects

lemma mem_columns_foldl (f : StatementMetadata → Utils.ColumnMap)
    (statements : List StatementMetadata) (table column : String) :
    column ∈ (statements.foldl (fun m s => unionColumnMaps m (f s)) ∅).columns table ↔
      ∃ s ∈ statements, column ∈ (f s).columns table := by
  have h := Loops.list_foldl_iff (fun m s => unionColumnMaps m (f s))
    (fun m => column ∈ m.columns table) (fun s => column ∈ (f s).columns table)
    (fun m s => by rw [columns_unionColumnMaps, Finset.mem_union]) ∅ statements
  simpa using h

lemma unionMetadata_withStatements (transaction : ShownTransaction)
    (statements : List StatementObject) :
    UnionMetadata (transaction.withStatements statements) where
  statements := rfl
  updated table column := by
    refine (mem_columns_foldl _ _ table column).trans ?_
    simp [ShownTransaction.withStatements]
  referenced table column := by
    refine (mem_columns_foldl _ _ table column).trans ?_
    simp [ShownTransaction.withStatements]
  cascades event := by simp [ShownTransaction.withStatements, transactionMetadata]
  hasInsert := by simp [ShownTransaction.withStatements, transactionMetadata]
  hasUpdate := by simp [ShownTransaction.withStatements, transactionMetadata]
  hasDelete := by simp [ShownTransaction.withStatements, transactionMetadata]
  hasCascades := by simp [ShownTransaction.withStatements, transactionMetadata]

lemma map_fst_update (session : Session) (label : List Char) (updated : ShownTransaction) :
    (session.update label updated).shown.map Prod.fst = session.shown.map Prod.fst := by
  simp only [Session.update, List.map_map]
  apply List.map_congr_left
  intro entry hentry
  simp only [Function.comp_apply]
  split
  · rename_i heq
    exact heq.symm
  · rfl

lemma mem_update {label : List Char} {updated : ShownTransaction}
    {entry : List Char × ShownTransaction} (h : entry ∈ (session.update label updated).shown) :
    entry ∈ session.shown ∨ entry.2 = updated := by
  obtain ⟨old, hold, heq⟩ := List.mem_map.mp h
  split at heq
  · rw [← heq]
    exact .inr rfl
  · rw [← heq]
    exact .inl hold

variable {session' : Session}

lemma Revised.labels (h : Revised session session') :
    session'.shown.map Prod.fst = session.shown.map Prod.fst := by
  cases h with
  | unchanged => rfl
  | update => exact map_fst_update _ _ _

lemma Revised.allDistinct (h : Revised session session') (hdistinct : session.AllDistinct) :
    session'.AllDistinct := by
  cases h with
  | unchanged => exact hdistinct
  | update nextRef label transaction statements hle hmem hnew =>
    intro entry hentry
    rcases mem_update hentry with hold | hupdated
    · exact (hdistinct entry hold).mono hle
    · rw [hupdated]
      exact hnew

lemma Revised.metadata (h : Revised session session') {entry : List Char × ShownTransaction}
    (hentry : entry ∈ session'.shown) : entry ∈ session.shown ∨ UnionMetadata entry.2 := by
  cases h with
  | unchanged => exact .inl hentry
  | update nextRef label transaction statements hle hmem hnew =>
    rcases mem_update hentry with hold | hupdated
    · exact .inl hold
    · rw [hupdated]
      exact .inr (unionMetadata_withStatements _ _)

variable (reader) in
/-- Whatever holds of the shown transactions and of what a command makes of them, holds after
any commands. -/
lemma runCommands_invariant {P : Session → Prop} (hlabels : ApartLabels unicode
      (session.shown.map Prod.fst)) (hdistinct : session.AllDistinct) (h : P session)
    (hstep : ∀ before after, Revised before after → P before → P after)
    (inputs : List Interaction) : P (runCommands unicode reader session inputs) ∧
      (runCommands unicode reader session inputs).AllDistinct ∧
      (runCommands unicode reader session inputs).shown.map Prod.fst =
        session.shown.map Prod.fst := by
  induction inputs generalizing session with
  | nil => exact ⟨h, hdistinct, rfl⟩
  | cons input inputs ih =>
    have hrevised := @revised_handle _ reader _ hlabels hdistinct input
    have hsame := hrevised.labels
    obtain ⟨hP, hall, hmap⟩ := ih (hsame ▸ hlabels) (hrevised.allDistinct hdistinct)
      (hstep _ _ hrevised h)
    exact ⟨hP, hall, hmap.trans hsame⟩

end

section
variable {unicode : Unicode} {label : List Char}

lemma strip_of_ends {first last : Char} (middle : List Char)
    (hfirst : isPythonSpace first = false) (hlast : isPythonSpace last = false) :
    strip (first :: (middle ++ [last])) = first :: (middle ++ [last]) := by
  unfold strip
  rw [List.dropWhile_cons_of_neg (by simp [hfirst]), ← List.cons_append,
    List.rdropWhile_concat_neg _ _ _ (by simp [hlast])]

lemma commandText_of_ends {first last : Char} (middle : List Char)
    (hfirst : isPythonSpace first = false) (hlast : isPythonSpace last = false)
    (hsemicolon : last ≠ ';') :
    commandText (first :: (middle ++ [last])) = first :: (middle ++ [last]) := by
  have hstrip := strip_of_ends middle hfirst hlast
  have hkept : (first :: (middle ++ [last])).rdropWhile (· = ';') =
      first :: (middle ++ [last]) := by
    rw [← List.cons_append, List.rdropWhile_concat_neg _ _ _ (by simp [hsemicolon])]
  rw [commandText, hstrip, hkept, hstrip]

lemma digit_facts {c : Char} (h : c.isDigit = true) :
    c.val < 128 ∧ c.toUpper = c ∧ isPythonSpace c = false ∧ c ≠ ';' := by
  have hall : ∀ n ∈ List.range' 48 10, (Char.ofNat n).val < 128 ∧
      (Char.ofNat n).toUpper = Char.ofNat n ∧ isPythonSpace (Char.ofNat n) = false ∧
      Char.ofNat n ≠ ';' := by decide +kernel
  simp only [Char.isDigit, Bool.and_eq_true, decide_eq_true_eq] at h
  have hlow : 48 ≤ c.toNat := h.1
  have hhigh : c.toNat ≤ 57 := h.2
  have hc := hall c.toNat (List.mem_range'_1.mpr (by omega))
  rwa [Char.ofNat_toNat] at hc

/-- A label as the commands read it: an upper-case word that ends in no semicolon. -/
structure LabelWord (unicode : Unicode) (label : List Char) : Prop where
  upper : unicode.upperCase label = label
  word : ∀ c ∈ label, isPythonSpace c = false
  last : ∃ first last, label = first ++ [last] ∧ last ≠ ';'

lemma LabelWord.ne_nil (h : LabelWord unicode label) : label ≠ [] := by
  obtain ⟨first, last, rfl, -⟩ := h.last
  simp

lemma LabelWord.strip_eq (h : LabelWord unicode label) : strip (' ' :: label) = label := by
  have hdrop : (' ' :: label).dropWhile isPythonSpace = label := by
    rw [List.dropWhile_cons_of_pos (by decide)]
    cases hlabel : label with
    | nil => rfl
    | cons c rest =>
      exact List.dropWhile_cons_of_neg (by simp [h.word c (by simp [hlabel])])
  obtain ⟨first, last, hlast, -⟩ := h.last
  have hspace : isPythonSpace last = false := h.word last (by simp [hlast])
  unfold strip
  rw [hdrop, hlast, List.rdropWhile_concat_neg _ _ _ (by simp [hspace])]

lemma LabelWord.commandText_eq (h : LabelWord unicode label) (verb : List Char) {c : Char}
    (hc : isPythonSpace c = false) :
    commandText (c :: verb ++ ' ' :: label) = c :: verb ++ ' ' :: label := by
  obtain ⟨first, last, hlast, hsemicolon⟩ := h.last
  have hspace : isPythonSpace last = false := h.word last (by simp [hlast])
  have htext := commandText_of_ends (verb ++ ' ' :: first) hc hspace hsemicolon
  rw [hlast]
  simpa using htext

lemma labelAfterWord_eq (h : LabelWord unicode label) {verb : List Char}
    (hverb : verb.all (!isPythonSpace ·) = true) :
    labelAfterWord unicode (verb ++ ' ' :: label) = label := by
  have hdrop : (verb ++ ' ' :: label).dropWhile (!isPythonSpace ·) = ' ' :: label := by
    rw [List.dropWhile_append_of_pos (by simpa using hverb),
      List.dropWhile_cons_of_neg (by decide)]
  rw [labelAfterWord, hdrop, h.strip_eq, h.upper]

lemma upperCase_ascii (unicode : Unicode) {text : List Char}
    (h : text.all (·.val < 128) = true) : unicode.upperCase text = text.map Char.toUpper := by
  induction text with
  | nil => rfl
  | cons c text ih =>
    simp only [List.all_cons, Bool.and_eq_true, decide_eq_true_eq] at h
    rw [upperCase_cons_ascii h.1, ih h.2, List.map_cons]

lemma labelAfter_eq (h : LabelWord unicode label) {verb written : List Char}
    (hverb : written.all (!isPythonSpace ·) = true)
    (hupper : unicode.upperCase written = verb) :
    labelAfter unicode verb (written ++ ' ' :: label) = some label := by
  have htext : unicode.upperCase (written ++ ' ' :: label) = verb ++ ' ' :: label := by
    rw [upperCase_append, upperCase_cons_ascii (by decide), hupper, h.upper]
    rfl
  unfold labelAfter
  rw [htext, if_neg (by simp), if_pos (by simp), labelAfterWord_eq h hverb]

lemma labelAfter_eq_none {first verbFirst : Char} {verb rest : List Char}
    (hascii : first.val < 128) (hne : first.toUpper ≠ verbFirst) :
    labelAfter unicode (verbFirst :: verb) (first :: rest) = none := by
  unfold labelAfter
  rw [upperCase_cons_ascii hascii, if_neg, if_neg]
  · simp [Ne.symm hne]
  · intro heq
    exact hne (List.cons.inj heq).1

lemma readCommand_delete (h : LabelWord unicode label) :
    readCommand unicode ("delete ".toList ++ label) = some (.delete label) := by
  have htext := h.commandText_eq "elete".toList (c := 'd') (by decide)
  have hlabel : labelAfter unicode "DELETE".toList ("delete".toList ++ ' ' :: label) =
      some label :=
    labelAfter_eq h (by decide +kernel) ((upperCase_ascii unicode (by decide +kernel)).trans (by decide +kernel))
  have hparse : parseDeleteCommand unicode ("delete ".toList ++ label) = some label := by
    unfold parseDeleteCommand
    exact (congrArg _ htext).trans hlabel
  rw [readCommand, hparse]

lemma splitWords_append {first rest : List Char} (hne : first ≠ [])
    (hword : first.all (!isPythonSpace ·) = true) :
    splitWords (first ++ ' ' :: rest) = first :: splitWords rest := by
  unfold splitWords
  rw [List.splitOnP_append_cons_of_forall_mem (by simpa using hword) _ (by decide),
    List.filter_cons_of_pos (by simpa)]

lemma splitWords_word {first : List Char} (hne : first ≠ [])
    (hword : first.all (!isPythonSpace ·) = true) : splitWords first = [first] := by
  unfold splitWords
  rw [List.splitOnP_eq_singleton (by simpa using hword), List.filter_cons_of_pos (by simpa), List.filter_nil]

lemma readCommand_insert (h : LabelWord unicode label) (word : List Char)
    {position : InsertPosition} (hposition : parsePosition word = some position)
    (hne : word ≠ []) (hword : word.all (!isPythonSpace ·) = true) :
    readCommand unicode ("insert ".toList ++ word ++ ' ' :: label) =
      some (.insert position label) := by
  have htext := h.commandText_eq ("nsert ".toList ++ word) (c := 'i') (by decide)
  have hdelete : parseDeleteCommand unicode ("insert ".toList ++ word ++ ' ' :: label) = none := by
    unfold parseDeleteCommand
    exact (congrArg _ htext).trans (labelAfter_eq_none (by decide) (by decide))
  have hwords : splitWords (commandText ("insert ".toList ++ word ++ ' ' :: label)) =
      ["insert".toList, word, label] := by
    calc splitWords (commandText ("insert ".toList ++ word ++ ' ' :: label))
        = splitWords ("insert".toList ++ ' ' :: (word ++ ' ' :: label)) :=
          (congrArg _ htext).trans (by simp)
      _ = "insert".toList :: splitWords (word ++ ' ' :: label) :=
          splitWords_append (by decide +kernel) (by decide +kernel)
      _ = ["insert".toList, word, label] := by
          rw [splitWords_append hne hword, splitWords_word h.ne_nil (by simpa using h.word)]
  have hinsert : parseInsertCommand unicode ("insert ".toList ++ word ++ ' ' :: label) =
      some (position, label) := by
    unfold parseInsertCommand
    rw [hwords]
    simp only
    rw [if_pos ((upperCase_ascii unicode (by decide +kernel)).trans (by decide +kernel)), hposition, h.upper]
    rfl
  rw [readCommand, hdelete, hinsert]

lemma readCommand_edit (h : LabelWord unicode label) :
    readCommand unicode ("edit ".toList ++ label) = some (.edit label) := by
  have htext := h.commandText_eq "dit".toList (c := 'e') (by decide)
  have hdelete : parseDeleteCommand unicode ("edit ".toList ++ label) = none := by
    unfold parseDeleteCommand
    exact (congrArg _ htext).trans (labelAfter_eq_none (by decide) (by decide))
  have hwords : splitWords (commandText ("edit ".toList ++ label)) = ["edit".toList, label] := by
    calc splitWords (commandText ("edit ".toList ++ label))
        = splitWords ("edit".toList ++ ' ' :: label) := congrArg _ htext
      _ = ["edit".toList, label] := by
          rw [splitWords_append (by decide +kernel) (by decide +kernel), splitWords_word h.ne_nil (by simpa using h.word)]
  have hinsert : parseInsertCommand unicode ("edit ".toList ++ label) = none := by
    unfold parseInsertCommand
    rw [hwords]
  have hcolon : labelAfter unicode ":EDIT".toList (commandText ("edit ".toList ++ label)) = none :=
    (congrArg _ htext).trans (labelAfter_eq_none (by decide) (by decide))
  have hedit : labelAfter unicode "EDIT".toList (commandText ("edit ".toList ++ label)) =
      some label :=
    (congrArg _ htext).trans
      (labelAfter_eq h (by decide +kernel) ((upperCase_ascii unicode (by decide +kernel)).trans (by decide +kernel)))
  rw [readCommand, hdelete, hinsert, parseEditCommand]
  simp only [List.findSome?_cons, hcolon, hedit, Option.map_some]

end

section
variable {unicode : Unicode} {reader : SqlReader} {session : Session}
  {label transactionLabel : List Char} {transaction : ShownTransaction}
  {before after : List StatementObject} {statement : StatementObject}

lemma labelWord_of_shows (hlabels : ApartLabels unicode (session.shown.map Prod.fst))
    (h : Shows session.shown label transactionLabel transaction before statement after) :
    LabelWord unicode label := by
  have hmem : transactionLabel ∈ session.shown.map Prod.fst := List.mem_map_of_mem h.mem
  have hlabel := h.label_eq.trans (transactionStatementLabel_eq _ _ _)
  have hsuffix : ∀ c ∈ '.' :: labelSuffix statement before.length,
      c = '.' ∨ c = 'N' ∨ c.isDigit = true := by
    intro c hc
    rcases List.mem_cons.mp hc with hc | hc
    · exact .inl hc
    · exact .inr (isDigit_of_mem_labelSuffix hc)
  have hcharacter : ∀ c ∈ '.' :: labelSuffix statement before.length,
      c.val < 128 ∧ c.toUpper = c ∧ isPythonSpace c = false ∧ c ≠ ';' := by
    intro c hc
    rcases hsuffix c hc with rfl | rfl | hdigit
    · decide
    · decide
    · exact digit_facts hdigit
  refine ⟨?_, ?_, ?_⟩
  · have hrest : unicode.upperCase ('.' :: labelSuffix statement before.length) =
        '.' :: labelSuffix statement before.length := by
      rw [upperCase_ascii unicode (by
        rw [List.all_eq_true]
        intro c hc
        simpa using (hcharacter c hc).1)]
      calc ('.' :: labelSuffix statement before.length).map Char.toUpper
          = ('.' :: labelSuffix statement before.length).map id :=
            List.map_congr_left fun c hc => (hcharacter c hc).2.1
        _ = '.' :: labelSuffix statement before.length := List.map_id _
    rw [hlabel, upperCase_append, hlabels.upper _ hmem, hrest]
  · intro c hc
    rw [hlabel] at hc
    rcases List.mem_append.mp hc with hc | hc
    · exact hlabels.word _ hmem c hc
    · exact (hcharacter c hc).2.2.1
  · obtain ⟨first, last, hlast⟩ : ∃ first last,
        '.' :: labelSuffix statement before.length = first ++ [last] :=
      (List.eq_nil_or_concat' _).resolve_left (List.cons_ne_nil _ _)
    refine ⟨transactionLabel ++ first, last, ?_, ?_⟩
    · rw [hlabel, hlast, List.append_assoc]
    · exact (hcharacter last (by simp [hlast])).2.2.2

/-- Commands address the shown statements, one by one. -/
structure Addressable (unicode : Unicode) (reader : SqlReader) (session : Session) : Prop where
  indexes : ∀ entry ∈ session.shown, (entry.2.statements.map (·.statement.branchIndex)).Nodup
  /-- No two shown statements have one label. -/
  injective : ∀ label transactionLabel transaction before statement after transactionLabel'
    transaction' before' statement' after',
    Shows session.shown label transactionLabel transaction before statement after →
    Shows session.shown label transactionLabel' transaction' before' statement' after' →
    transactionLabel = transactionLabel' ∧ transaction = transaction' ∧ before = before' ∧
      statement = statement' ∧ after = after'
  /-- The lookup finds every shown statement under its label. -/
  lookup : ∀ label transactionLabel transaction before statement after,
    Shows session.shown label transactionLabel transaction before statement after →
    statementLookup session.shown label = some (transactionLabel, transaction, statement)
  /-- The label can be written in every command. -/
  readable : ∀ label transactionLabel transaction before statement after,
    Shows session.shown label transactionLabel transaction before statement after →
    readCommand unicode ("delete ".toList ++ label) = some (.delete label) ∧
    readCommand unicode ("edit ".toList ++ label) = some (.edit label) ∧
    readCommand unicode ("insert before ".toList ++ label) = some (.insert .before label) ∧
    readCommand unicode ("insert after ".toList ++ label) = some (.insert .after label)
  hits : HitsShown unicode reader session

lemma addressable (hlabels : ApartLabels unicode (session.shown.map Prod.fst))
    (hdistinct : session.AllDistinct) : Addressable unicode reader session where
  indexes entry hentry := (hdistinct entry hentry).indexes
  injective _ _ _ _ _ _ _ _ _ _ _ h h' := h.unique hlabels.nodup hdistinct h'
  lookup _ _ _ _ _ _ h := statementLookup_shows hlabels.nodup hdistinct h
  readable label _ _ _ _ _ h := by
    have hword := labelWord_of_shows hlabels h
    refine ⟨readCommand_delete hword, readCommand_edit hword, ?_, ?_⟩
    · exact readCommand_insert hword "before".toList (by decide +kernel)
        (by decide +kernel) (by decide +kernel)
    · exact readCommand_insert hword "after".toList (by decide +kernel)
        (by decide +kernel) (by decide +kernel)
  hits := hitsShown hlabels hdistinct

/-- After any commands on transactions under labels that are apart, every label names one
statement, commands hit what they name, and a revised transaction has the metadata of its
statements. -/
theorem addressable_runCommands (hlabels : ApartLabels unicode (session.shown.map Prod.fst))
    (hdistinct : session.AllDistinct) (inputs : List Interaction) :
    Addressable unicode reader (runCommands unicode reader session inputs) ∧
      (runCommands unicode reader session inputs).shown.map Prod.fst =
        session.shown.map Prod.fst ∧
      ∀ entry ∈ (runCommands unicode reader session inputs).shown,
        entry ∈ session.shown ∨ UnionMetadata entry.2 := by
  have hrun := runCommands_invariant reader
    (P := fun reached => ∀ entry ∈ reached.shown, entry ∈ session.shown ∨ UnionMetadata entry.2)
    hlabels hdistinct (fun _ hentry => .inl hentry) (by
      intro before after hrevised hbefore entry hentry
      rcases hrevised.metadata hentry with hold | hunion
      · exact hbefore entry hold
      · exact .inr hunion) inputs
  obtain ⟨hmetadata, hall, hsame⟩ := hrun
  exact ⟨addressable (hsame ▸ hlabels) hall, hsame, hmetadata⟩

end

lemma other_target : (none : Option String).isSome ↔ StatementKind.other ≠ .other :=
  iff_of_false Bool.false_ne_true fun h => h rfl

def otherMetadata : StatementMetadata :=
  parseStatementMetadata none ⟨"", none, false⟩ ⟨.other, none, [], none, ∅, other_target⟩

def plainReader : SqlReader := ⟨id, fun _ => .ok otherMetadata, fun _ => otherMetadata⟩

def deleteRows : PreparedSql := ⟨"DELETE FROM t", "DELETE FROM t", true, none⟩

def shownStatement (branch : BranchName) (ref : ℕ) (index : ℤ) : StatementObject :=
  ⟨ref, makeLoggedStatement plainReader branch index 1 "2026-01-01" deleteRows⟩

def shownTransaction (branch : BranchName) (statements : List StatementObject) :
    ShownTransaction :=
  ShownTransaction.withStatements ⟨branch, 0, 1, "2026-01-01", [], transactionMetadata []⟩
    statements

def pairSession : Session where
  shown := [("L1".toList, shownTransaction .ours [shownStatement .ours 0 0, shownStatement .ours 1 1]),
    ("R1".toList, shownTransaction .theirs [shownStatement .theirs 2 0])]
  nextRef := 3

lemma distinct_pairSession : pairSession.AllDistinct := by
  intro entry hentry
  simp only [pairSession, List.mem_cons, List.not_mem_nil, or_false] at hentry
  rcases hentry with rfl | rfl
  · refine ⟨?_, ?_, ?_⟩
    · decide +kernel
    · intro s hs s' hs'
      simp only [shownTransaction, ShownTransaction.withStatements, List.mem_cons,
        List.not_mem_nil, or_false] at hs hs'
      rcases hs with rfl | rfl <;> rcases hs' with rfl | rfl <;> simp [shownStatement]
    · decide +kernel
  · refine ⟨?_, ?_, ?_⟩
    · decide +kernel
    · intro s hs s' hs'
      simp only [shownTransaction, ShownTransaction.withStatements, List.mem_singleton] at hs hs'
      rw [hs, hs']
      simp
    · decide +kernel

lemma apartLabels_pairSession :
    ApartLabels asciiUnicode (pairSession.shown.map Prod.fst) where
  nodup := by decide +kernel
  upper := by decide +kernel
  word := by
    have hwords : (pairSession.shown.map Prod.fst).all (·.all (!isPythonSpace ·)) = true := by
      decide +kernel
    simp only [List.all_eq_true, Bool.not_eq_true'] at hwords
    exact hwords
  apart := by
    have hdots : ∀ label ∈ pairSession.shown.map Prod.fst, '.' ∉ label := by decide +kernel
    intro label hlabel label' hlabel' rest heq
    apply hdots label' hlabel'
    rw [heq]
    simp

theorem addressable_pairSession :
    Addressable asciiUnicode plainReader (runCommands asciiUnicode plainReader pairSession
      [⟨"insert before L1.2".toList, some "DELETE FROM t".toList, some deleteRows⟩,
        ⟨"delete L1.1".toList, none, none⟩]) :=
  (addressable_runCommands apartLabels_pairSession distinct_pairSession _).1

/-- A transaction's label that reads like a statement's. -/
def nestedSession : Session where
  shown := [("A".toList, shownTransaction .ours [shownStatement .ours 0 0]),
    ("A.1".toList, shownTransaction .theirs [shownStatement .theirs 1 0])]
  nextRef := 2

/-- Under such labels a command does not reach the statement that the label shows. -/
theorem nested_label_misses :
    (nestedSession.shown.map Prod.fst).Nodup ∧
      (∀ label ∈ nestedSession.shown.map Prod.fst, asciiUnicode.upperCase label = label) ∧
      Shows nestedSession.shown "A.1".toList "A".toList
        (shownTransaction .ours [shownStatement .ours 0 0]) [] (shownStatement .ours 0 0) [] ∧
      readCommand asciiUnicode "delete A.1;".toList = some (.delete "A.1".toList) ∧
      (EditCommands.handleTransactionEditCommand asciiUnicode plainReader nestedSession
        ⟨"delete A.1;".toList, none, none⟩).2.shown.map
          (fun entry => (entry.1, entry.2.statements.map (·.ref))) =
        [("A".toList, [0]), ("A.1".toList, [])] := by
  refine ⟨by decide +kernel, by decide +kernel, ⟨?_, rfl, by decide +kernel⟩, by decide +kernel,
    by decide +kernel⟩
  simp [nestedSession]

end SqliteReconcile.EditSessions
