import TableFlow.Export.Sql
import TableFlow.Proofs.Cell.Empty

/-!
# Exported values are read back

The values of an SQL script are read here with the lexical rules of SQL alone: tuples stand between
parentheses, with commas between them and a semicolon at the end; the values of a tuple have commas
between them; a value between apostrophes is a text, in which two apostrophes stand for one; any
other value is bare and ends in front of white space, a comma or a parenthesis. The reader goes
through the characters one at a time, so no character is read twice and none is looked up ahead.

Read in this way, the script has one tuple for each row and one value for each column, whatever the
cells hold. A text is read as itself, so it can neither end the value it stands in nor begin another
one.

## Main results

* `Reader.reaches_intercalate`: what is read of pieces, if it is known of each piece.
* `exists_reads_literal`: the literal of a cell is read as the cell.
* `read_script`: the values of a script are the cells of the rows.
-/

namespace TableFlow.Sql

/-! ## Reading tuples of values -/

/-- A value as it is read. -/
inductive Value where
  | bare (text : String)
  | quoted (text : String)
deriving DecidableEq, Repr

namespace Reader

/-- The part of the script that the reader is in. -/
inductive Place where
  | beforeTuple
  | beforeValue
  | inBare (text : List Char)
  | inQuoted (text : List Char)
  /-- Behind an apostrophe, which ends a text unless another one follows. -/
  | atMark (text : List Char)
  | afterValue (value : Value)
  | afterTuple
  | ended
deriving DecidableEq, Repr

/-- What was read: whole tuples, and the values of the tuple that is being read. -/
structure State where
  tuples : List (List Value)
  values : List Value
  place : Place
deriving DecidableEq, Repr

/-- Tells if a bare value may hold the character. -/
def isBareChar (c : Char) : Bool := !Text.isBlank c && c ∉ ['\'', ',', '(', ')', ';']

/-- A character behind a value. -/
def finish (s : State) (value : Value) (c : Char) : Option State :=
  if Text.isBlank c then some { s with place := .afterValue value }
  else if c = ',' then some { s with values := s.values ++ [value], place := .beforeValue }
  else if c = ')' then some ⟨s.tuples ++ [s.values ++ [value]], [], .afterTuple⟩
  else none

/-- Reads a character. -/
def step (s : State) (c : Char) : Option State :=
  match s.place with
  | .beforeTuple =>
      if Text.isBlank c then some s
      else if c = '(' then some { s with place := .beforeValue } else none
  | .beforeValue =>
      if Text.isBlank c then some s
      else if c = '\'' then some { s with place := .inQuoted [] }
      else if isBareChar c then some { s with place := .inBare [c] } else none
  | .inBare text =>
      if isBareChar c then some { s with place := .inBare (text ++ [c]) }
      else finish s (.bare (String.ofList text)) c
  | .inQuoted text =>
      some { s with place := if c = '\'' then .atMark text else .inQuoted (text ++ [c]) }
  | .atMark text =>
      if c = '\'' then some { s with place := .inQuoted (text ++ [c]) }
      else finish s (.quoted (String.ofList text)) c
  | .afterValue value => finish s value c
  | .afterTuple =>
      if Text.isBlank c then some s
      else if c = ',' then some { s with place := .beforeTuple }
      else if c = ';' then some { s with place := .ended } else none
  | .ended => if Text.isBlank c then some s else none

/-- Reads characters. -/
def run (s : State) (cs : List Char) : Option State := cs.foldlM step s

end Reader

/-- The tuples of a text that a semicolon ends. -/
def read (text : String) : Option (List (List Value)) :=
  match Reader.run ⟨[], [], .beforeTuple⟩ text.toList with
  | some ⟨tuples, _, .ended⟩ => some tuples
  | _ => none

namespace Reader

/-- Reading the characters ends in a state of a kind. -/
def Reaches (s : State) (cs : List Char) (good : State → Prop) : Prop :=
  ∃ s', run s cs = some s' ∧ good s'

variable {s : State} {cs ds : List Char} {good good' : State → Prop}

theorem Reaches.append (h : Reaches s cs good) (hNext : ∀ s', good s' → Reaches s' ds good') :
    Reaches s (cs ++ ds) good' := by
  obtain ⟨middle, hRun, hGood⟩ := h
  obtain ⟨s', hRest, hGood'⟩ := hNext middle hGood
  refine ⟨s', ?_, hGood'⟩
  rw [run, List.foldlM_append]
  show (run s cs >>= fun s => run s ds) = _
  rw [hRun]
  exact hRest

theorem reaches_cons {c : Char} {next : State} (h : step s c = some next)
    (hRest : Reaches next cs good) : Reaches s (c :: cs) good := by
  obtain ⟨s', hRun, hGood⟩ := hRest
  refine ⟨s', ?_, hGood⟩
  rw [run, List.foldlM_cons, h]
  exact hRun

theorem reaches_nil (h : good s) : Reaches s [] good := ⟨s, rfl, h⟩

/-- What is read of pieces with separators between them, if it is known of each piece. -/
theorem reaches_intercalate {α : Type} {before after : List α → State → Prop}
    {separator : List Char} {pieces : List (List Char)} {xs : List α} (hSome : pieces ≠ [])
    (hSeparator : ∀ xs s, after xs s → Reaches s separator (before xs))
    (hPieces : List.Forall₂ (fun piece x => ∀ xs s, before xs s →
      Reaches s piece (after (xs ++ [x]))) pieces xs) (front : List α) (hBefore : before front s) :
    Reaches s (separator.intercalate pieces) (after (front ++ xs)) := by
  induction hPieces generalizing front s with
  | nil => exact absurd rfl hSome
  | @cons piece x pieces xs hFirst hRest ih =>
      cases hRest with
      | nil =>
          rw [List.intercalate_singleton]
          exact hFirst front s hBefore
      | cons hSecond hOthers =>
          rw [List.intercalate_cons_cons, List.append_assoc]
          refine (hFirst front s hBefore).append fun s hAfter => ?_
          refine (hSeparator _ s hAfter).append fun s hNext => ?_
          have hTail := ih (List.cons_ne_nil _ _) (front ++ [x]) hNext
          rwa [List.append_assoc] at hTail

/-! ### Values -/

/-- The value that ends at a place, unless more characters of it follow. -/
def Place.value? : Place → Option Value
  | .inBare text => some (.bare (String.ofList text))
  | .atMark text => some (.quoted (String.ofList text))
  | .afterValue value => some value
  | _ => none

theorem step_of_value? {value : Value} (h : s.place.value? = some value) {c : Char}
    (hMark : c ≠ '\'') (hBare : isBareChar c = false) : step s c = finish s value c := by
  obtain ⟨tuples, values, place⟩ := s
  cases place with
  | inBare text =>
      cases h
      exact if_neg (by rw [hBare]; exact Bool.false_ne_true)
  | atMark text =>
      cases h
      exact if_neg hMark
  | afterValue value =>
      cases h
      rfl
  | _ => cases h

/-- Where a value may stand, the characters are read as the value. -/
def Encodes (cs : List Char) (value : Value) : Prop :=
  ∀ tuples values, Reaches ⟨tuples, values, .beforeValue⟩ cs fun s =>
    s.tuples = tuples ∧ s.values = values ∧ s.place.value? = some value

section

variable {tuples : List (List Value)} {values : List Value}

theorem reaches_inBare (cs read : List Char) (h : ∀ c ∈ cs, isBareChar c = true) :
    Reaches ⟨tuples, values, .inBare read⟩ cs (· = ⟨tuples, values, .inBare (read ++ cs)⟩) := by
  induction cs generalizing read with
  | nil => exact reaches_nil (by rw [List.append_nil])
  | cons c cs ih =>
      obtain ⟨hFirst, hRest⟩ := List.forall_mem_cons.1 h
      have hTail := ih (read ++ [c]) hRest
      rw [List.append_assoc] at hTail
      exact reaches_cons (if_pos hFirst) hTail

/-- Doubled apostrophes are read as single ones. -/
theorem reaches_inQuoted (cs read : List Char) :
    Reaches ⟨tuples, values, .inQuoted read⟩ (Text.replaceChar '\'' ['\'', '\''] cs)
      (· = ⟨tuples, values, .inQuoted (read ++ cs)⟩) := by
  induction cs generalizing read with
  | nil => exact reaches_nil (by rw [List.append_nil])
  | cons c cs ih =>
      have hTail := ih (read ++ [c])
      rw [List.append_assoc] at hTail
      rw [Text.replaceChar, List.flatMap_cons]
      by_cases hMark : c = '\''
      · subst hMark
        exact reaches_cons rfl (reaches_cons rfl hTail)
      · rw [if_neg hMark]
        refine reaches_cons ?_ hTail
        show some _ = some _
        rw [if_neg hMark]

end

theorem encodes_bare {text : String} (hSome : text ≠ "")
    (hChars : text.toList.all isBareChar = true) : Encodes text.toList (.bare text) := by
  intro tuples values
  have hBack := String.ofList_toList (s := text)
  cases hText : text.toList with
  | nil => exact absurd (String.toList_eq_nil_iff.1 hText) hSome
  | cons c cs =>
      rw [hText] at hChars hBack
      obtain ⟨hFirst, hRest⟩ := List.forall_mem_cons.1 (List.all_eq_true.1 hChars)
      have hStep : step ⟨tuples, values, .beforeValue⟩ c =
          some ⟨tuples, values, .inBare [c]⟩ := by
        have hKind := hFirst
        simp only [isBareChar, Bool.and_eq_true, Bool.not_eq_true', decide_eq_true_eq,
          List.mem_cons, not_or] at hKind
        simp only [step, hKind.1, Bool.false_eq_true, if_false, hKind.2.1, hFirst, if_true]
      refine reaches_cons hStep ?_
      obtain ⟨s, hRun, rfl⟩ := @reaches_inBare tuples values cs [c] hRest
      exact ⟨_, hRun, rfl, rfl, congrArg (some ∘ Value.bare) hBack⟩

theorem encodes_quoted (text : String) : Encodes (quoted text).toList (.quoted text) := by
  intro tuples values
  have hText : (quoted text).toList =
      '\'' :: (Text.replaceChar '\'' ['\'', '\''] text.toList ++ ['\'']) := by
    simp [quoted]
  rw [hText]
  refine reaches_cons rfl ((reaches_inQuoted text.toList []).append ?_)
  rintro s rfl
  refine reaches_cons rfl (reaches_nil ⟨rfl, rfl, ?_⟩)
  exact congrArg (some ∘ Value.quoted) String.ofList_toList

/-! ### Tuples -/

/-- Values between parentheses are read as one tuple. -/
theorem reaches_tuple (tuples : List (List Value)) {literals : List String} {values : List Value}
    (hSome : literals ≠ [])
    (hValues : List.Forall₂ (fun literal value => Encodes literal.toList value) literals values) :
    Reaches ⟨tuples, [], .beforeTuple⟩ ("(" ++ commaSeparated literals ++ ")").toList
      (· = ⟨tuples ++ [values], [], .afterTuple⟩) := by
  have hText : ("(" ++ commaSeparated literals ++ ")").toList =
      '(' :: ([',', ' '].intercalate (literals.map String.toList) ++ [')']) := by
    simp [commaSeparated, String.toList_intercalate]
  let after (read : List Value) (s : State) : Prop :=
    ∃ front value, read = front ++ [value] ∧ s.tuples = tuples ∧ s.values = front ∧
      s.place.value? = some value
  have hSeparator : ∀ read s, after read s →
      Reaches s [',', ' '] (· = ⟨tuples, read, .beforeValue⟩) := by
    rintro _ ⟨_, _, place⟩ ⟨front, value, rfl, rfl, rfl, hValue⟩
    refine reaches_cons (step_of_value? hValue (by decide) (by decide)) ?_
    exact reaches_cons rfl (reaches_nil rfl)
  have hPieces : List.Forall₂ (fun piece value => ∀ read s, s = ⟨tuples, read, .beforeValue⟩ →
      Reaches s piece (after (read ++ [value]))) (literals.map String.toList) values := by
    rw [List.forall₂_map_left_iff]
    refine hValues.imp fun literal value hEncodes read s hPlace => ?_
    obtain ⟨s', hRun, hRead⟩ := hEncodes tuples read
    rw [hPlace]
    exact ⟨s', hRun, read, value, rfl, hRead⟩
  rw [hText]
  refine reaches_cons rfl (Reaches.append
    (reaches_intercalate (List.map_eq_nil_iff.not.2 hSome) hSeparator hPieces [] rfl) ?_)
  rintro ⟨_, _, place⟩ ⟨front, value, rfl, rfl, rfl, hValue⟩
  exact reaches_cons (step_of_value? hValue (by decide) (by decide)) (reaches_nil rfl)

/-- Texts of tuples with a semicolon behind them are read as the tuples. -/
theorem read_tuples {texts : List String} {tuples : List (List Value)} (hSome : texts ≠ [])
    (hTuples : List.Forall₂ (fun text values => ∀ front, Reaches ⟨front, [], .beforeTuple⟩
      text.toList (· = ⟨front ++ [values], [], .afterTuple⟩)) texts tuples) :
    read (",\n".intercalate texts ++ ";") = some tuples := by
  have hText : (",\n".intercalate texts ++ ";").toList =
      [',', '\n'].intercalate (texts.map String.toList) ++ [';'] := by
    simp [String.toList_intercalate]
  have hSeparator : ∀ (front : List (List Value)) (s : State), s = ⟨front, [], .afterTuple⟩ →
      Reaches s [',', '\n'] (· = ⟨front, [], .beforeTuple⟩) := by
    rintro front s rfl
    exact reaches_cons rfl (reaches_cons rfl (reaches_nil rfl))
  have hPieces : List.Forall₂ (fun piece values => ∀ (front : List (List Value)) (s : State),
      s = ⟨front, [], .beforeTuple⟩ → Reaches s piece (· = ⟨front ++ [values], [], .afterTuple⟩))
      (texts.map String.toList) tuples := by
    rw [List.forall₂_map_left_iff]
    refine hTuples.imp fun text values hReads front s hPlace => ?_
    rw [hPlace]
    exact hReads front
  have hWhole : Reaches ⟨[], [], .beforeTuple⟩ (",\n".intercalate texts ++ ";").toList
      (· = ⟨tuples, [], .ended⟩) := by
    rw [hText]
    refine Reaches.append
      (reaches_intercalate (List.map_eq_nil_iff.not.2 hSome) hSeparator hPieces [] rfl) ?_
    rintro s rfl
    exact reaches_cons rfl (reaches_nil rfl)
  obtain ⟨s, hRun, rfl⟩ := hWhole
  rw [read, hRun]

end Reader

/-! ## Scripts -/

/-- A value is what a cell is to be read as: `NULL` if it is missing, its text as it is if it is a
number, and a quoted text otherwise. -/
structure Shows (cell : Cell) (value : Value) : Prop where
  bare_null_iff : value = .bare "NULL" ↔ cell.isMissing
  bare_iff : ∀ text, cell.toText = .ok text → (value = .bare text ↔ cell.isNumber)
  quoted : cell.isMissing = false → cell.isNumber = false →
    ∀ text, cell.toText = .ok text → value = .quoted text

namespace Shows

theorem missing : Shows .missing (.bare "NULL") where
  bare_null_iff := iff_of_true rfl rfl
  bare_iff := by
    rintro text ⟨⟩
    exact iff_of_false (by decide) Bool.false_ne_true
  quoted hSome := nomatch hSome

/-- No number has the text that stands for missing cells. -/
theorem number {cell : Cell} (hNumber : cell.isNumber) {text : String}
    (hText : cell.toText = .ok text) : Shows cell (.bare text) where
  bare_null_iff := by
    obtain ⟨-, hChars⟩ := Cell.text_of_isNumber hNumber hText
    refine iff_of_false (fun hSame => ?_) fun hMissing => ?_
    · have hLetter : 'L' ∈ text.toList := by
        rw [Value.bare.inj hSame]
        decide
      exact absurd (hChars hLetter) (by decide)
    · cases cell with
      | missing => cases hNumber
      | _ => cases hMissing
  bare_iff := by
    intro other hOther
    cases hText.symm.trans hOther
    exact iff_of_true rfl hNumber
  quoted _ hNot := by
    cases hNumber.symm.trans hNot

theorem text {cell : Cell} (hMissing : cell.isMissing = false) (hNumber : cell.isNumber = false)
    {text : String} (hText : cell.toText = .ok text) : Shows cell (.quoted text) where
  bare_null_iff := by
    rw [hMissing]
    exact iff_of_false (fun hSame => nomatch hSame) Bool.false_ne_true
  bare_iff := by
    intro other _
    rw [hNumber]
    exact iff_of_false (fun hSame => nomatch hSame) Bool.false_ne_true
  quoted _ _ other hOther := by
    cases hText.symm.trans hOther
    rfl

end Shows

theorem literal_eq {cell : Cell} (hMissing : cell.isMissing = false) {text : String}
    (hText : cell.toText = .ok text) :
    literal cell = .ok (if cell.isNumber then text else quoted text) := by
  have hBind : literal cell = (do
      let text ← cell.toText
      .ok (if cell.isNumber then text else quoted text)) := by
    cases cell with
    | missing => cases hMissing
    | _ => rfl
  rw [hBind, hText]
  rfl

/-- The text of a number is read as a bare value. -/
theorem encodes_number {cell : Cell} (hNumber : cell.isNumber) {text : String}
    (hText : cell.toText = .ok text) : Reader.Encodes text.toList (.bare text) := by
  obtain ⟨hSome, hChars⟩ := Cell.text_of_isNumber hNumber hText
  have hKnown : numberChars.all Reader.isBareChar = true := by decide
  refine Reader.encodes_bare hSome (List.all_eq_true.2 fun c hc => ?_)
  exact List.all_eq_true.1 hKnown c (hChars hc)

/-- The literal of a cell is read as the cell. -/
theorem exists_reads_literal {cell : Cell} (h : HasValue cell.toText) :
    ∃ text value, literal cell = .ok text ∧ Reader.Encodes text.toList value ∧
      Shows cell value := by
  obtain ⟨text, hText, -⟩ := h
  cases hMissing : cell.isMissing with
  | true =>
      cases cell with
      | missing =>
          exact ⟨"NULL", .bare "NULL", rfl, Reader.encodes_bare (by decide) (by decide), .missing⟩
      | _ => cases hMissing
  | false =>
      have hLiteral := literal_eq hMissing hText
      cases hNumber : cell.isNumber with
      | true =>
          rw [hNumber, if_pos rfl] at hLiteral
          exact ⟨text, .bare text, hLiteral, encodes_number hNumber hText, .number hNumber hText⟩
      | false =>
          rw [hNumber, if_neg Bool.false_ne_true] at hLiteral
          exact ⟨quoted text, .quoted text, hLiteral, Reader.encodes_quoted text,
            .text hMissing hNumber hText⟩

/-- The text of a row is read as one tuple, with a value for each column. -/
theorem exists_reads_tuple {columns : List String} (hColumns : columns ≠ []) {row : Row}
    (h : ∀ column ∈ columns, HasValue (row.get column).toText) :
    ∃ text values, tuple columns row = .ok text ∧
      (∀ tuples, Reader.Reaches ⟨tuples, [], .beforeTuple⟩ text.toList
        (· = ⟨tuples ++ [values], [], .afterTuple⟩)) ∧
      List.Forall₂ (fun column value => Shows (row.get column) value) columns values := by
  obtain ⟨literals, values, hLiterals, hEncodes, hShows⟩ :=
    exists_mapM fun column hColumn => exists_reads_literal (h column hColumn)
  have hSome := ne_nil_of_mapM hColumns hLiterals
  refine ⟨_, values, ?_, fun tuples => Reader.reaches_tuple tuples hSome hEncodes, hShows⟩
  rw [tuple, hLiterals]
  rfl

/-- What stands in front of the values: the statement that creates the table, and the line that
begins the statement with the values. -/
def opening (columns : List String) (table : String) : String :=
  let names := columns.map fun column => String.ofList (columnName column.toList)
  "CREATE TABLE " ++ table ++ " (\n" ++
    ",\n".intercalate (names.map fun name => "  " ++ name ++ " TEXT") ++ "\n);\n\n" ++
    "INSERT INTO " ++ table ++ " (" ++ commaSeparated names ++ ") VALUES\n"

/-- **Exported values are read back.** Behind the header, the script of some rows and columns whose
cells have texts is read as one tuple for each row and one value for each column, in order. A value
is `NULL` for a missing cell only, the text of the cell itself for numbers only, and otherwise a
quoted text, which is the text of the cell. -/
theorem read_script {rows : List Row} {columns : List String} (table : String) (hRows : rows ≠ [])
    (hColumns : columns ≠ [])
    (h : ∀ row ∈ rows, ∀ column ∈ columns, HasValue (row.get column).toText) :
    ∃ body tuples,
      script rows columns table = .ok (opening columns table ++ body) ∧ read body = some tuples ∧
      List.Forall₂ (fun row values =>
        List.Forall₂ (fun column value => Shows (row.get column) value) columns values)
        rows tuples := by
  obtain ⟨texts, tuples, hTexts, hReads, hShows⟩ :=
    exists_mapM fun row hRow => exists_reads_tuple hColumns (h row hRow)
  refine ⟨_, tuples, ?_, Reader.read_tuples (ne_nil_of_mapM hRows hTexts) hReads, hShows⟩
  rw [script, if_neg (by rwa [List.isEmpty_iff]), ← String.append_assoc]
  dsimp only
  rw [hTexts]
  rfl

/-- Texts with all that ends values, tuples and scripts, beside cells that are written bare. -/
def hardRows : List Row := [
  Row.ofEntries [("a", .text "O'Neil'); DROP TABLE t; --"), ("b", .int (-12))],
  Row.ofEntries [("a", .text "NULL"), ("b", .missing)],
  Row.ofEntries [("a", .text "''"), ("b", .text "),\n("), ("c", .float (.infinite true))],
  Row.ofEntries [("b", .bool true), ("c", .text "")]]

theorem read_script_hardRows :
    ∃ body tuples,
      script hardRows ["a", "b", "c"] "t" = .ok (opening ["a", "b", "c"] "t" ++ body) ∧
      read body = some tuples ∧
      List.Forall₂ (fun row values =>
        List.Forall₂ (fun column value => Shows (row.get column) value) ["a", "b", "c"] values)
        hardRows tuples :=
  read_script "t" (List.cons_ne_nil _ _) (List.cons_ne_nil _ _) (by decide +kernel)

example : read "('O''Neil', 30 ,NULL),\n('a);--', -1.5e+16, '');" =
    some [[.quoted "O'Neil", .bare "30", .bare "NULL"],
      [.quoted "a);--", .bare "-1.5e+16", .quoted ""]] := by
  decide +kernel

end TableFlow.Sql
