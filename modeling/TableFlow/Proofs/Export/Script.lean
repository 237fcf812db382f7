import TableFlow.Export.Script
import TableFlow.Proofs.Success
import TableFlow.Proofs.Text.Lines

/-!
# What a configuration changes in a script

A script tells in comments which stages were configured, and nothing else in it depends on the
configuration. The comments show texts of the configuration as they are. Where such a text ends a
line, the comment ends with it, and what follows is code unless it begins with a number sign.

## Main results

* `strayText_eq_nil`: texts that do not end a line stay in the comments.
* `withoutComments_script_eq_iff`: when two configurations give scripts of the same code.
-/

namespace TableFlow

/-! ## Texts that do not end a line -/

section

variable {ends : List Char}

/-- A text of the program that does not end a line for any reader. -/
theorem disjoint_literal (hEnds : ends ⊆ Text.lineEnds) {text : String}
    (hText : text.toList.all (· ∉ Text.lineEnds)) : text.toList.Disjoint ends :=
  fun c hc hEnd => of_decide_eq_true (List.all_eq_true.1 hText c hc) (hEnds hEnd)

theorem disjoint_commaSeparated (hEnds : ends ⊆ Text.lineEnds) {parts : List String}
    (hParts : ∀ part ∈ parts, part.toList.Disjoint ends) :
    (commaSeparated parts).toList.Disjoint ends := by
  rw [commaSeparated, String.toList_intercalate]
  refine Text.disjoint_intercalate (disjoint_literal hEnds (by decide)) fun part hPart => ?_
  obtain ⟨text, hText, rfl⟩ := List.mem_map.1 hPart
  exact hParts text hText

/-- Texts are quoted among the names of a list, so only names that are no texts can end a line. -/
theorem disjoint_cellsLiteral (hEnds : ends ⊆ Text.lineEnds) {names : List Cell}
    (hNames : ∀ name ∈ names, ¬ name.IsText → name.shownLiteral.toList.Disjoint ends) :
    (cellsLiteral names).toList.Disjoint ends := by
  simp only [cellsLiteral, String.toList_append, List.append_assoc, List.disjoint_append_left]
  refine ⟨disjoint_literal hEnds (by decide), disjoint_commaSeparated hEnds fun part hPart => ?_,
    disjoint_literal hEnds (by decide)⟩
  obtain ⟨name, hName, rfl⟩ := List.mem_map.1 hPart
  by_cases hText : name.IsText
  · obtain ⟨text, rfl⟩ := hText
    exact List.disjoint_of_subset_right hEnds (Text.disjoint_quote text)
  · exact hNames name hName hText

end

namespace Configuration

/-- The comments about the configuration in a script. -/
def comments (config : Configuration) : List (List Char) :=
  config.describe.map fun text => '#' :: ' ' :: text.toList

/-- What is left of these comments if the lines that begin with a number sign are taken away. -/
def strayText (ends : List Char) (config : Configuration) : List Char :=
  config.comments.flatMap fun comment => Text.withoutComments ends (comment ++ ['\n'])

/-- The column names of a pivot. -/
def pivotNames (config : Configuration) : List Cell :=
  config.pivot.toList.flatMap fun layout => layout.rows ++ layout.columns ++ layout.values

/-- The texts that the description shows as they are; those among the column names of a pivot are
quoted. -/
def shownTexts (config : Configuration) : List String :=
  config.filters.flatMap (fun f => [f.column.shown, f.operator.shown, f.value]) ++
    config.sort.map (·.column.shown) ++ config.aggregation.toList.map (·.column.shown) ++
    (config.pivotNames.filter (¬ ·.IsText)).map Cell.shownLiteral ++
    config.formulas.flatMap fun column => [column.name.shown, column.formula.shown]

/-! ## Summaries -/

variable {ends : List Char}

theorem disjoint_summaryLine (hEnds : ends ⊆ Text.lineEnds) {stage content : String}
    (hStage : stage.toList.all (· ∉ Text.lineEnds)) (hContent : content.toList.Disjoint ends) :
    (summaryLine stage content).toList.Disjoint ends := by
  simp only [summaryLine, String.toList_append, List.append_assoc, List.disjoint_append_left]
  refine ⟨disjoint_literal hEnds (by decide), disjoint_literal hEnds hStage,
    disjoint_literal hEnds (by decide), ?_⟩
  split
  · exact disjoint_literal hEnds (by decide)
  · exact hContent

theorem disjoint_filterSummary (hEnds : ends ⊆ Text.lineEnds) {f : FilterConfig}
    (hColumn : f.column.shown.toList.Disjoint ends)
    (hOperator : f.operator.shown.toList.Disjoint ends) (hValue : f.value.toList.Disjoint ends) :
    f.summary.toList.Disjoint ends := by
  simp only [FilterConfig.summary, String.toList_append, List.append_assoc,
    List.disjoint_append_left]
  exact ⟨hColumn, disjoint_literal hEnds (by decide), hOperator,
    disjoint_literal hEnds (by decide), hValue, disjoint_literal hEnds (by decide)⟩

theorem disjoint_sortSummary (hEnds : ends ⊆ Text.lineEnds) {key : SortConfig}
    (hColumn : key.column.shown.toList.Disjoint ends) : key.summary.toList.Disjoint ends := by
  have hName : key.direction.name.toList.all (· ∉ Text.lineEnds) := by
    cases key.direction <;> decide
  simp only [SortConfig.summary, String.toList_append, List.append_assoc,
    List.disjoint_append_left]
  exact ⟨hColumn, disjoint_literal hEnds (by decide), disjoint_literal hEnds hName⟩

theorem disjoint_aggregationSummary (hEnds : ends ⊆ Text.lineEnds)
    {aggregation : AggregationConfig} (hColumn : aggregation.column.shown.toList.Disjoint ends) :
    aggregation.summary.toList.Disjoint ends := by
  have hName : (Aggregation.operationName aggregation.operation).toList.all
      (· ∉ Text.lineEnds) := by
    cases aggregation.operation <;> decide
  simp only [AggregationConfig.summary, String.toList_append, List.append_assoc,
    List.disjoint_append_left]
  exact ⟨disjoint_literal hEnds hName, disjoint_literal hEnds (by decide), hColumn,
    disjoint_literal hEnds (by decide)⟩

theorem disjoint_pivotSummary (hEnds : ends ⊆ Text.lineEnds) {layout : PivotConfig}
    (hNames : ∀ name ∈ layout.rows ++ layout.columns ++ layout.values, ¬ name.IsText →
      name.shownLiteral.toList.Disjoint ends) : layout.summary.toList.Disjoint ends := by
  have hName : layout.aggregation.name.toList.all (· ∉ Text.lineEnds) := by
    cases layout.aggregation <;> decide
  obtain ⟨hNames, hValues⟩ := List.forall_mem_append.1 hNames
  obtain ⟨hRows, hColumns⟩ := List.forall_mem_append.1 hNames
  simp only [PivotConfig.summary, String.toList_append, List.append_assoc,
    List.disjoint_append_left]
  exact ⟨disjoint_literal hEnds (by decide), disjoint_cellsLiteral hEnds hRows,
    disjoint_literal hEnds (by decide), disjoint_cellsLiteral hEnds hColumns,
    disjoint_literal hEnds (by decide), disjoint_cellsLiteral hEnds hValues,
    disjoint_literal hEnds (by decide), disjoint_literal hEnds hName⟩

theorem disjoint_formulaSummary (hEnds : ends ⊆ Text.lineEnds) {column : FormulaColumn}
    (hName : column.name.shown.toList.Disjoint ends)
    (hText : column.formula.shown.toList.Disjoint ends) :
    column.summary.toList.Disjoint ends := by
  simp only [FormulaColumn.summary, String.toList_append, List.append_assoc,
    List.disjoint_append_left]
  exact ⟨hName, disjoint_literal hEnds (by decide), hText⟩

theorem disjoint_describe (hEnds : ends ⊆ Text.lineEnds) {config : Configuration}
    (hShown : ∀ text ∈ config.shownTexts, text.toList.Disjoint ends) :
    ∀ text ∈ config.describe, text.toList.Disjoint ends := by
  simp only [shownTexts, List.forall_mem_append, List.forall_mem_flatMap, List.forall_mem_map,
    List.forall_mem_cons] at hShown
  obtain ⟨⟨⟨⟨hFilters, hSort⟩, hAggregation⟩, hPivot⟩, hFormulas⟩ := hShown
  simp only [describe, List.forall_mem_cons]
  refine ⟨disjoint_summaryLine hEnds (by decide) ?_, disjoint_summaryLine hEnds (by decide) ?_,
    disjoint_summaryLine hEnds (by decide) ?_, disjoint_summaryLine hEnds (by decide) ?_,
    disjoint_summaryLine hEnds (by decide) ?_, by simp⟩
  · refine disjoint_commaSeparated hEnds (List.forall_mem_map.2 fun f hf => ?_)
    obtain ⟨hColumn, hOperator, hValue, -⟩ := hFilters f hf
    exact disjoint_filterSummary hEnds hColumn hOperator hValue
  · exact disjoint_commaSeparated hEnds (List.forall_mem_map.2 fun key hKey =>
      disjoint_sortSummary hEnds (hSort key hKey))
  · cases hStage : config.aggregation with
    | none => simp
    | some aggregation =>
        exact disjoint_aggregationSummary hEnds (hAggregation aggregation (by simp [hStage]))
  · cases hStage : config.pivot with
    | none => simp
    | some layout =>
        refine disjoint_pivotSummary hEnds fun name hName hText => hPivot name ?_
        exact List.mem_filter.2 ⟨by simpa [pivotNames, hStage] using hName, by simpa using hText⟩
  · refine disjoint_commaSeparated hEnds (List.forall_mem_map.2 fun column hColumn => ?_)
    obtain ⟨hName, hText, -⟩ := hFormulas column hColumn
    exact disjoint_formulaSummary hEnds hName hText

/-- Nothing is left of the comments exactly if each of their lines is one. -/
theorem strayText_eq_nil_iff {config : Configuration} :
    config.strayText ends = [] ↔ ∀ comment ∈ config.comments,
      ∀ line ∈ Text.linesEndedBy ends (comment ++ ['\n']), line.head? = some '#' := by
  simp only [strayText, List.flatMap_eq_nil_iff, Text.withoutComments_eq_nil_iff]

/-- Texts that do not end a line stay in the comments. -/
theorem strayText_eq_nil (hEnds : ends ⊆ Text.lineEnds) {config : Configuration}
    (hShown : ∀ text ∈ config.shownTexts, text.toList.Disjoint ends) :
    config.strayText ends = [] := by
  have hMark : ['#', ' '].Disjoint Text.lineEnds := by simp [Text.lineEnds]
  rw [strayText_eq_nil_iff]
  intro comment hComment
  obtain ⟨text, hText, rfl⟩ := List.mem_map.1 hComment
  have hFree : ('#' :: ' ' :: text.toList).Disjoint ends := List.disjoint_append_left.2
    ⟨List.disjoint_of_subset_right hEnds hMark, disjoint_describe hEnds hShown text hText⟩
  rw [Text.linesEndedBy_of_disjoint hFree]
  intro line hLine
  cases List.mem_singleton.1 hLine
  rfl

end Configuration

namespace Script

/-- The script before the description of the stages. -/
def opening (rows : List Row) (data : String) : String :=
  "# Python/Pandas script for data transformation\nimport pandas as pd\n\n# Sample data (" ++
    String.ofList (Decimal.numeral rows.length) ++ " rows)\ndata = " ++ data ++
    "\n\ndf = pd.DataFrame(data)\n\n"

/-- The description of the stages. -/
def stageComments (config : Configuration) : String :=
  "\n".intercalate (config.describe.map ("# " ++ ·))

theorem script_eq (rows : List Row) (config : Configuration) (columns : List String) :
    script rows config columns = (do
      let records ← rows.mapM (record columns)
      let data ← WrappedLiteral.records records
      .ok (opening rows data ++ stageComments config ++ closing)) := rfl

theorem lineFeed_suffix_opening (rows : List Row) (data : String) :
    ['\n'] <:+ (opening rows data).toList := by
  have hLast : ['\n'] <:+ "\n\ndf = pd.DataFrame(data)\n\n".toList := by decide +kernel
  unfold opening
  rewrite [String.toList_append]
  exact hLast.trans (List.suffix_append _ _)

theorem lineFeed_prefix_closing : ['\n'] <+: closing.toList := by
  have hFirst : ['\n'] <+:
      "\n\n# Display first few rows\nprint(df.head())\n\n# Basic statistics\n".toList := by
    decide +kernel
  unfold closing
  simp only [String.toList_append, List.append_assoc]
  exact hFirst.trans (List.prefix_append _ _)

theorem toList_stageComments (config : Configuration) :
    (stageComments config).toList = ['\n'].intercalate config.comments := by
  rw [stageComments, String.toList_intercalate, List.map_map]
  congr 1
  simp [Configuration.comments]

/-- The configuration is seen in a few lines of a script, and not in whether there is a script. -/
theorem exists_script_eq (rows : List Row) (columns : List String) :
    (∃ cause, ∀ config, script rows config columns = .error cause) ∨
      ∃ front back : List Char, ∀ config, ∃ s, script rows config columns = .ok s ∧
        s.toList = front ++ '\n' :: (['\n'].intercalate config.comments ++ '\n' :: back) := by
  cases hRecords : rows.mapM (record columns) with
  | error cause =>
      refine .inl ⟨cause, fun config => ?_⟩
      rw [script_eq, hRecords]
      rfl
  | ok records =>
      cases hData : WrappedLiteral.records records with
      | error cause =>
          refine .inl ⟨cause, fun config => ?_⟩
          rw [script_eq, hRecords]
          show WrappedLiteral.records records >>= _ = _
          rw [hData]
          rfl
      | ok data =>
          obtain ⟨front, hFront⟩ := lineFeed_suffix_opening rows data
          obtain ⟨back, hBack⟩ := lineFeed_prefix_closing
          refine .inr ⟨front, back, fun config =>
            ⟨opening rows data ++ stageComments config ++ closing, ?_, ?_⟩⟩
          · rw [script_eq]
            exact bind_eq_ok_iff.2 ⟨records, hRecords, bind_eq_ok_iff.2 ⟨data, hData, rfl⟩⟩
          · rw [String.toList_append, String.toList_append, ← hFront, ← hBack,
              toList_stageComments, List.append_assoc, List.append_assoc, List.singleton_append,
              List.singleton_append]

/-- What is left of a script is what surrounds the description, and what is left of that. -/
theorem withoutComments_script {ends : List Char} (hFeed : '\n' ∈ ends) (front back : List Char)
    (config : Configuration) :
    Text.withoutComments ends
        (front ++ '\n' :: (['\n'].intercalate config.comments ++ '\n' :: back)) =
      Text.withoutComments ends (front ++ ['\n']) ++
        (config.strayText ends ++ Text.withoutComments ends back) := by
  have hComments : config.comments ≠ [] := by simp [Configuration.comments, Configuration.describe]
  rw [Text.withoutComments_append_lineFeed hFeed,
    Text.withoutComments_intercalate hFeed hComments, Configuration.strayText]

/-- **The code of a script and the configuration.** Let the line feed end lines, and any others of
the characters that end lines for some readers. For all rows and columns, and for any two
configurations, either both scripts fail with the same cause or both exist. Then they are the same
without the lines that begin with a number sign exactly if the same is left of the comments about
the configurations. Nothing is left exactly if every line of these comments begins with a number
sign, as it does if no text that is shown ends a line. -/
theorem withoutComments_script_eq_iff {ends : List Char} (hFeed : '\n' ∈ ends)
    (hEnds : ends ⊆ Text.lineEnds) :
    (∀ (rows : List Row) (columns : List String) (config config' : Configuration),
      (∃ cause, script rows config columns = .error cause ∧
        script rows config' columns = .error cause) ∨
      ∃ s s', script rows config columns = .ok s ∧ script rows config' columns = .ok s' ∧
        (Text.withoutComments ends s.toList = Text.withoutComments ends s'.toList ↔
          config.strayText ends = config'.strayText ends)) ∧
    (∀ config : Configuration, config.strayText ends = [] ↔ ∀ comment ∈ config.comments,
      ∀ line ∈ Text.linesEndedBy ends (comment ++ ['\n']), line.head? = some '#') ∧
    ∀ config : Configuration, (∀ text ∈ config.shownTexts, text.toList.Disjoint ends) →
      config.strayText ends = [] := by
  refine ⟨fun rows columns config config' => ?_, fun _ => Configuration.strayText_eq_nil_iff,
    fun _ => Configuration.strayText_eq_nil hEnds⟩
  rcases exists_script_eq rows columns with ⟨cause, hFails⟩ | ⟨front, back, hScript⟩
  · exact .inl ⟨cause, hFails config, hFails config'⟩
  · obtain ⟨s, hs, hText⟩ := hScript config
    obtain ⟨s', hs', hText'⟩ := hScript config'
    refine .inr ⟨s, s', hs, hs', ?_⟩
    rw [hText, hText', withoutComments_script hFeed, withoutComments_script hFeed,
      List.append_right_inj, List.append_left_inj]

/-- A configuration with number signs and quotation marks in its texts, and a line feed in the name
of a column of its pivot. -/
def markedConfiguration : Configuration where
  filters := [⟨.text "#a", .text "contains", "\"# b", none⟩]
  pivot := some ⟨[.text "x\ny"], [], [.text "v"], .sum⟩
  formulas := [.ofText "n" "ROW() # c"]

theorem withoutComments_script_marked :
    ∃ s s', script [Row.empty.set "a" (.int 1)] markedConfiguration ["a"] = .ok s ∧
      script [Row.empty.set "a" (.int 1)] .empty ["a"] = .ok s' ∧
      Text.withoutComments ['\n', '\r'] s.toList = Text.withoutComments ['\n', '\r'] s'.toList := by
  obtain ⟨hScripts, -, hStray⟩ :=
    @withoutComments_script_eq_iff ['\n', '\r'] (by decide) (by simp [Text.lineEnds])
  have hMarked : ∀ text ∈ markedConfiguration.shownTexts, text.toList.Disjoint ['\n', '\r'] := by
    simp [markedConfiguration, Configuration.shownTexts, FormulaColumn.ofText,
      Configuration.pivotNames, Cell.shown, Cell.IsText]
  have hEmpty : ∀ text ∈ Configuration.empty.shownTexts, text.toList.Disjoint ['\n', '\r'] := by
    simp [Configuration.empty, Configuration.shownTexts, Configuration.pivotNames]
  have hValue : HasValue (script [Row.empty.set "a" (.int 1)] .empty ["a"]) := by decide +kernel
  obtain ⟨_, hValue, -⟩ := hValue
  rcases hScripts [Row.empty.set "a" (.int 1)] ["a"] markedConfiguration .empty with
    ⟨cause, -, hFails⟩ | ⟨s, s', hs, hs', hSame⟩
  · cases hValue.symm.trans hFails
  · exact ⟨s, s', hs, hs', hSame.2 ((hStray _ hMarked).trans (hStray _ hEmpty).symm)⟩

/-- A filter for a value of three lines, of which the second one is code. -/
def lineBreakingConfiguration : Configuration where
  filters := [⟨.text "a", .text "equals", "\nimport os\n#", none⟩]

/-- A text of the configuration can become code of the script. -/
theorem exists_code_from_configuration :
    ¬ ∀ (rows : List Row) (columns : List String) (config config' : Configuration) (s s' : String),
      script rows config columns = .ok s → script rows config' columns = .ok s' →
        Text.withoutComments ['\n'] s.toList = Text.withoutComments ['\n'] s'.toList := by
  intro h
  have hDiffers : lineBreakingConfiguration.strayText ['\n'] ≠
      Configuration.empty.strayText ['\n'] := by
    decide +kernel
  have hValue : HasValue (script [] .empty []) := by decide +kernel
  rcases exists_script_eq [] [] with ⟨cause, hFails⟩ | ⟨front, back, hScript⟩
  · obtain ⟨_, hValue, -⟩ := hValue
    cases hValue.symm.trans (hFails .empty)
  · obtain ⟨s, hs, hText⟩ := hScript lineBreakingConfiguration
    obtain ⟨s', hs', hText'⟩ := hScript .empty
    have hSame := h [] [] _ _ s s' hs hs'
    rw [hText, hText', withoutComments_script (by decide), withoutComments_script (by decide),
      List.append_right_inj, List.append_left_inj] at hSame
    exact hDiffers hSame

end Script

end TableFlow
