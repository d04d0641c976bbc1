import ColorMarkup.Proofs.Acceptance

/-!
# The table that a text holds

A text is a table if every line of it that is not blank has two tabs.  The first of these lines
holds the headers and the others hold the rows, so blank lines and the way in which lines end make
no difference to the table.  A text that is no table is reported with the first line that is not as
it should be, and there the blank lines before it count.

* `Tsv.readLines_add` and `Tsv.readLines_append` say how lines are read on; from these
  `Tsv.readLines_append_blank` is what a blank line among others does.
* `Tsv.physicalLines` are the lines of a text as they are counted, `Tsv.countedLines` those that are
  not blank, and `Tsv.read_eq_readLines` says that the former are read.
* `Tsv.lines_withReturns` and `Tsv.read_join_blank` are the changes to a text that leave what is
  read of it alone.
* `Table.ofTsv_reads` says what comes of a text.
-/

namespace ColorMarkup

namespace Tsv

/-! ## Reading on -/

/-- What is read of lines does not depend on the number of the first of them, except for the number
of the line that is bad. -/
theorem readLines_add (number shift : ℕ) (lines : List Text) :
    readLines (number + shift) lines
      = ⟨(readLines number lines).rows,
          (readLines number lines).bad.map fun bad => { bad with line := bad.line + shift }⟩ := by
  fun_induction readLines number lines with
  | case1 => rfl
  | case2 number line rest hblank ih => rw [readLines, if_pos hblank, Nat.add_right_comm, ih]
  | case3 number line rest hblank fields hcells => simp [readLines, hblank, hcells]
  | case4 number line rest hblank row hcells later ih =>
    simp [readLines, hblank, hcells, Nat.add_right_comm number shift 1, ih, later]

/-- Lines after others are read as well, unless one of those is bad. -/
theorem readLines_append (number : ℕ) (before after : List Text) :
    readLines number (before ++ after)
      = if (readLines number before).bad = none then
          ⟨(readLines number before).rows ++ (readLines (number + before.length) after).rows,
            (readLines (number + before.length) after).bad⟩
        else readLines number before := by
  fun_induction readLines number before with
  | case1 => simp
  | case2 number line rest hblank ih =>
    rw [List.cons_append, readLines, if_pos hblank, ih, List.length_cons, Nat.add_right_comm,
      Nat.add_assoc number]
  | case3 number line rest hblank fields hcells => simp [readLines, hblank, hcells]
  | case4 number line rest hblank row hcells later ih =>
    have hlength : number + (rest.length + 1) = number + 1 + rest.length := by omega
    simp only [List.cons_append, readLines, hblank, hcells, ih, List.length_cons, hlength]
    by_cases hbad : later.bad = none <;> simp [later, hbad]

/-- An empty line at the end is not read. -/
theorem readLines_append_empty (number : ℕ) (lines : List Text) :
    readLines number (lines ++ [[]]) = readLines number lines := by
  have hempty : readLines (number + lines.length) [[]] = ⟨[], none⟩ := rfl
  rw [readLines_append, hempty, List.append_nil]
  split
  · next hbad => rw [← hbad]
  · rfl

/-- Where a bad row is when one more line has come in at the given number. -/
def BadRow.makeRoom (number : ℕ) (bad : BadRow) : BadRow :=
  if bad.line < number then bad else { bad with line := bad.line + 1 }

/-- A bad row is on one of the lines that are read. -/
theorem line_of_bad_readLines {number : ℕ} {lines : List Text} {bad : BadRow}
    (h : (readLines number lines).bad = some bad) :
    number ≤ bad.line ∧ bad.line < number + lines.length := by
  obtain ⟨before, line, after, rfl, _, _, rfl⟩ := bad_readLines_eq_some_iff.1 h
  simp

/-- A line that comes in before all others gives each of them the next number. -/
theorem map_makeRoom_bad (number : ℕ) (lines : List Text) :
    (readLines number lines).bad.map (.makeRoom number) = (readLines (number + 1) lines).bad := by
  rw [readLines_add]
  refine Option.map_congr fun bad hbad => ?_
  have hline : ¬bad.line < number := Nat.not_lt.2 (line_of_bad_readLines hbad).1
  rw [BadRow.makeRoom, if_neg hline]

/-- A blank line adds nothing to what is read, and only the lines after it get other numbers. -/
theorem readLines_append_blank {blank : Text} (h : blank.isBlank = true) (number : ℕ)
    (before after : List Text) :
    readLines number (before ++ blank :: after)
      = ⟨(readLines number (before ++ after)).rows,
          (readLines number (before ++ after)).bad.map (.makeRoom (number + before.length))⟩ := by
  have hblank : readLines (number + before.length) (blank :: after)
      = ⟨(readLines (number + before.length) after).rows,
          (readLines (number + before.length) after).bad.map
            (.makeRoom (number + before.length))⟩ := by
    rw [readLines, if_pos h, map_makeRoom_bad, readLines_add]
  rw [readLines_append, readLines_append, hblank]
  by_cases hbefore : (readLines number before).bad = none
  · simp only [if_pos hbefore]
  · obtain ⟨bad, hbad⟩ := Option.ne_none_iff_exists'.1 hbefore
    have hroom : bad.makeRoom (number + before.length) = bad :=
      if_pos (line_of_bad_readLines hbad).2
    simp only [if_neg hbefore]
    rw [hbad, Option.map_some, hroom, ← hbad]

/-! ## Physical lines -/

/-- A line without the carriage return at its end, if there is one. -/
def dropReturn (line : Text) : Text :=
  if line.getLast? = some '\r' then line.dropLast else line

/-- The lines of a text as they are counted.  A line feed ends a line, with a carriage return before
it or without; what follows the last line feed is a line if there is anything of it.  Then the
carriage returns that are still at the end of a line are dropped. -/
def physicalLines (input : Text) : List Text :=
  let parts := input.splitOn '\n'
  let ended := parts.dropLast.map dropReturn
  let last := parts.getLast?.toList.filter (· ≠ [])
  (ended ++ last).map (Text.dropEndWhile (· == '\r'))

example : physicalLines "a\r\r\n\r\nb\n".toList = ["a".toList, [], "b".toList] := by decide

/-- The lines that count. -/
def countedLines (input : Text) : List Text :=
  (physicalLines input).filter fun line => !line.isBlank

theorem dropEndWhile_dropReturn (line : Text) :
    (dropReturn line).dropEndWhile (· == '\r') = line.dropEndWhile (· == '\r') := by
  unfold dropReturn
  split
  · next hlast =>
    have hreturn : ∀ c ∈ ['\r'], (c == '\r') = true := List.forall_mem_singleton.2 rfl
    rw [← Text.dropEndWhile_append hreturn line.dropLast, List.dropLast_append_getLast? '\r' hlast]
  · rfl

/-- The lines that are read are the ones that are counted, and perhaps an empty one after them. -/
theorem lines_cases (input : Text) :
    lines input = physicalLines input ∨ lines input = physicalLines input ++ [[]] := by
  obtain ⟨init, last, htokens⟩ := Markup.exists_tokens_eq_concat '\n' input
  have hparts : input.splitOn '\n' = init ++ [last] := htokens
  have hinit : (init.map dropReturn).map (Text.dropEndWhile (· == '\r'))
      = init.map (Text.dropEndWhile (· == '\r')) := by
    rw [List.map_map]
    exact List.map_congr_left fun line _ => dropEndWhile_dropReturn line
  by_cases hlast : last = []
  · have hempty : Text.dropEndWhile (· == '\r') [] = [] := rfl
    exact .inr (by simp [lines, physicalLines, hparts, hlast, hinit, hempty])
  · exact .inl (by simp [lines, physicalLines, hparts, hlast, hinit])

theorem read_eq_readLines (input : Text) : read input = readLines 1 (physicalLines input) := by
  rcases lines_cases input with hlines | hlines
  · rw [read, hlines]
  · rw [read, hlines, readLines_append_empty]

/-! ## Line ends and blank lines -/

theorem lines_append_newline (a b : Text) : lines (a ++ '\n' :: b) = lines a ++ lines b := by
  have hcut : (a ++ '\n' :: b).splitOn '\n' = a.splitOn '\n' ++ b.splitOn '\n' :=
    Markup.tokens_append_delimiter a b
  rw [lines, hcut, List.map_append, lines, lines]

/-- Carriage returns at the end of a text belong to the end of its last line. -/
theorem lines_append_returns (count : ℕ) (a : Text) :
    lines (a ++ List.replicate count '\r') = lines a := by
  have hreturns : '\n' ∉ List.replicate count '\r' := by simp
  have hdropped : ∀ c ∈ List.replicate count '\r', (c == '\r') = true := by simp
  obtain ⟨init, last, ha⟩ := Markup.exists_tokens_eq_concat '\n' a
  have hcut : (a ++ List.replicate count '\r').splitOn '\n'
      = init ++ [last ++ List.replicate count '\r'] :=
    Markup.tokens_append ha (Markup.tokens_of_not_mem hreturns)
  have hparts : a.splitOn '\n' = init ++ [last] := ha
  rw [lines, hcut, lines, hparts, List.map_append, List.map_append, List.map_singleton,
    List.map_singleton, Text.dropEndWhile_append hdropped]

/-- The text with the given number of carriage returns before every line feed. -/
def withReturns (count : ℕ) (input : Text) : Text :=
  input.flatMap fun c => if c = '\n' then List.replicate count '\r' ++ ['\n'] else [c]

theorem withReturns_of_not_mem (count : ℕ) {line : Text} (h : '\n' ∉ line) :
    withReturns count line = line := by
  have hkept : ∀ c ∈ line,
      (if c = '\n' then List.replicate count '\r' ++ ['\n'] else [c]) = [c] :=
    fun c hc => if_neg (ne_of_mem_of_not_mem hc h)
  rw [withReturns, List.flatMap_congr hkept, List.flatMap_singleton']

theorem withReturns_append_newline (count : ℕ) (a b : Text) :
    withReturns count (a ++ '\n' :: b)
      = (withReturns count a ++ List.replicate count '\r') ++ '\n' :: withReturns count b := by
  have hnewline : withReturns count ('\n' :: b)
      = (List.replicate count '\r' ++ ['\n']) ++ withReturns count b := rfl
  calc withReturns count (a ++ '\n' :: b)
    _ = withReturns count a ++ withReturns count ('\n' :: b) := List.flatMap_append
    _ = _ := by
      rw [hnewline]
      simp only [List.append_assoc, List.singleton_append]

/-- Carriage returns before the line feeds make no difference. -/
theorem lines_withReturns (count : ℕ) (input : Text) :
    lines (withReturns count input) = lines input := by
  -- by induction on the lines, for every text that they are cut from
  generalize hcut : Markup.tokens '\n' input = cut
  induction cut generalizing input with
  | nil => exact absurd hcut (Markup.tokens_ne_nil '\n' input)
  | cons first later ih =>
    rcases Markup.tokens_cases '\n' input with ⟨hnot, _⟩ | ⟨line, rest, hline, rfl, hcons⟩
    · rw [withReturns_of_not_mem count hnot]
    · have hrest : Markup.tokens '\n' rest = later := (List.cons.inj (hcons.symm.trans hcut)).2
      rw [withReturns_append_newline, withReturns_of_not_mem count hline, lines_append_newline,
        lines_append_returns, ih rest hrest, lines_append_newline]

theorem read_append_newline (input : Text) : read (input ++ ['\n']) = read input := by
  have hlast : lines [] = [[]] := rfl
  rw [read, lines_append_newline, hlast, readLines_append_empty, read]

/-- Lines that are joined are read as they are. -/
theorem read_join {parts : List Text} (h : ∀ line ∈ parts, '\n' ∉ line) :
    read (Text.lines parts) = readLines 1 (parts.map (Text.dropEndWhile (· == '\r'))) := by
  by_cases hparts : parts = []
  · subst hparts
    rfl
  · rw [read, lines, Text.lines, List.splitOn_intercalate '\n' h hparts]

theorem isBlank_dropEndWhile {line : Text} (h : line.isBlank = true) (p : Char → Bool) :
    Text.isBlank (line.dropEndWhile p) = true := by
  obtain ⟨dropped, hline, _⟩ := line.exists_dropEndWhile_append p
  rw [← hline, Text.isBlank, List.all_append, Bool.and_eq_true] at h
  exact h.1

/-- A blank line among others adds nothing to what is read of them. -/
theorem read_join_blank {before after : List Text} {blank : Text} (hblank : blank.isBlank = true)
    (h : ∀ line ∈ before ++ blank :: after, '\n' ∉ line) :
    read (Text.lines (before ++ blank :: after))
      = ⟨(read (Text.lines (before ++ after))).rows,
          (read (Text.lines (before ++ after))).bad.map (.makeRoom (before.length + 1))⟩ := by
  have hothers : ∀ line ∈ before ++ after, '\n' ∉ line := by
    intro line hline
    refine h line ?_
    rcases List.mem_append.1 hline with hmem | hmem
    · exact List.mem_append_left _ hmem
    · exact List.mem_append_right _ (List.mem_cons_of_mem _ hmem)
  rw [read_join h, read_join hothers, List.map_append, List.map_append, List.map_cons,
    readLines_append_blank (isBlank_dropEndWhile hblank _), List.length_map, Nat.add_comm 1]

/-! ## Lines that make a row -/

theorem offends_iff {line : Text} :
    Offends line ↔ line.isBlank = false ∧ line.count '\t' ≠ 2 := by
  rw [Offends, isBlank_eq_false_iff, fieldCount_eq]
  exact and_congr_right fun _ => by omega

theorem not_offends_iff {line : Text} :
    ¬Offends line ↔ (line.isBlank = false → line.count '\t' = 2) := by
  rw [offends_iff]
  simp

end Tsv

namespace Table

/-! ## The table -/

variable (highlighter : Highlighter) (fragment : Text) {input : Text}

/-- A text is a table if every line that counts has two tabs. -/
theorem exists_ofTsv_eq_ok_iff :
    (∃ table, ofTsv highlighter fragment input = .ok table)
      ↔ ∀ line ∈ Tsv.countedLines input, line.count '\t' = 2 := by
  simp only [ofTsv_eq_ok_iff, exists_and_left, exists_eq', and_true, Tsv.read_eq_readLines,
    Tsv.bad_readLines_eq_none_iff, Tsv.not_offends_iff, Tsv.countedLines, List.mem_filter,
    Bool.not_eq_true', and_imp]

/-- The table holds the lines that count, cut at their tabs: the first one as it is and the others
highlighted. -/
theorem ofTsv_holds {table : Table} (h : ofTsv highlighter fragment input = .ok table) :
    table.headers.toList
        = ((Tsv.countedLines input).head?.map (List.splitOn '\t')).getD [[], [], []]
      ∧ table.rows.map Columns.toList = (Tsv.countedLines input).tail.map (fun line =>
          (line.splitOn '\t').map (highlighter.highlight fragment))
      ∧ table.delimiter = highlighter.delimiter := by
  obtain ⟨hbad, rfl⟩ := ofTsv_eq_ok_iff.1 h
  rw [Tsv.read_eq_readLines] at hbad ⊢
  have hrows := Tsv.map_toList_rows_readLines hbad
  rw [← Tsv.countedLines] at hrows
  generalize (Tsv.readLines 1 (Tsv.physicalLines input)).rows = rows at hrows
  refine ⟨?_, ?_, delimiter_ofRows highlighter fragment rows⟩
  · rw [headers_ofRows, ← List.head?_map, ← hrows]
    cases rows <;> rfl
  · calc (ofRows highlighter fragment rows).rows.map Columns.toList
      _ = rows.tail.map fun row => row.toList.map (highlighter.highlight fragment) := by
        rw [rows_ofRows, List.map_map]
        rfl
      _ = (rows.map Columns.toList).tail.map (List.map (highlighter.highlight fragment)) := by
        rw [← List.map_tail, List.map_map]
        rfl
      _ = _ := by
        rw [hrows, ← List.map_tail, List.map_map]
        rfl

/-- The first line that counts and has not two tabs is reported. -/
theorem ofTsv_eq_error_iff_exists {bad : Tsv.BadRow} :
    ofTsv highlighter fragment input = .error bad
      ↔ ∃ before line after, Tsv.physicalLines input = before ++ line :: after
        ∧ (∀ other ∈ before, other.isBlank = false → other.count '\t' = 2)
        ∧ line.isBlank = false ∧ line.count '\t' ≠ 2
        ∧ bad = ⟨before.length + 1, line.count '\t' + 1⟩ := by
  rw [ofTsv_eq_error_iff, Tsv.read_eq_readLines, Tsv.bad_readLines_eq_some_iff]
  -- the lines before the bad one first: what they are not would be written out otherwise
  simp only [Tsv.not_offends_iff]
  simp only [Tsv.offends_iff, and_assoc, Tsv.fieldCount_eq, Nat.add_comm 1]

/-- What is changed of a text only where its bad row is, is changed of the table only there. -/
theorem ofTsv_of_read {a b : Text} (change : Tsv.BadRow → Tsv.BadRow)
    (h : Tsv.read a = ⟨(Tsv.read b).rows, (Tsv.read b).bad.map change⟩) :
    ofTsv highlighter fragment a = (ofTsv highlighter fragment b).mapError change := by
  unfold ofTsv
  rw [h]
  cases hbad : (Tsv.read b).bad <;> simp [hbad, Except.mapError]

/-- A text is a table, and then which one, or there is a line that is no row, and then the first
such line is reported.  Ends of lines and blank lines do not count, but for the number of the line
that is reported. -/
theorem ofTsv_reads (input : Text) :
    ((∃ table, ofTsv highlighter fragment input = .ok table)
      ↔ ∀ line ∈ Tsv.countedLines input, line.count '\t' = 2)
    ∧ (∀ table, ofTsv highlighter fragment input = .ok table →
        table.headers.toList
            = ((Tsv.countedLines input).head?.map (List.splitOn '\t')).getD [[], [], []]
          ∧ table.rows.map Columns.toList = (Tsv.countedLines input).tail.map (fun line =>
              (line.splitOn '\t').map (highlighter.highlight fragment))
          ∧ table.rows.length = (Tsv.countedLines input).length - 1
          ∧ table.delimiter = highlighter.delimiter)
    ∧ (∀ bad, ofTsv highlighter fragment input = .error bad
      ↔ ∃ before line after, Tsv.physicalLines input = before ++ line :: after
        ∧ (∀ other ∈ before, other.isBlank = false → other.count '\t' = 2)
        ∧ line.isBlank = false ∧ line.count '\t' ≠ 2
        ∧ bad = ⟨before.length + 1, line.count '\t' + 1⟩)
    ∧ (∀ count, ofTsv highlighter fragment (Tsv.withReturns count input)
        = ofTsv highlighter fragment input)
    ∧ (∀ count before after, input = before ++ '\n' :: after →
        ofTsv highlighter fragment (before ++ List.replicate count '\r' ++ '\n' :: after)
          = ofTsv highlighter fragment input)
    ∧ ofTsv highlighter fragment (input ++ ['\n']) = ofTsv highlighter fragment input
    ∧ ∀ before after blank, input = Text.lines (before ++ after) →
        (∀ line ∈ before ++ blank :: after, '\n' ∉ line) → blank.isBlank = true →
        ofTsv highlighter fragment (Text.lines (before ++ blank :: after))
          = (ofTsv highlighter fragment input).mapError (.makeRoom (before.length + 1)) := by
  refine ⟨exists_ofTsv_eq_ok_iff highlighter fragment, ?_,
    fun bad => ofTsv_eq_error_iff_exists highlighter fragment, ?_, ?_, ?_, ?_⟩
  · intro table htable
    obtain ⟨hheaders, hrows, hdelimiter⟩ := ofTsv_holds highlighter fragment htable
    have hlength := congrArg List.length hrows
    rw [List.length_map, List.length_map, List.length_tail] at hlength
    exact ⟨hheaders, hrows, hlength, hdelimiter⟩
  · intro count
    rw [ofTsv, Tsv.read, Tsv.lines_withReturns, ofTsv, Tsv.read]
  · rintro count before after rfl
    rw [ofTsv, Tsv.read, Tsv.lines_append_newline, Tsv.lines_append_returns, ofTsv, Tsv.read,
      Tsv.lines_append_newline]
  · rw [ofTsv, Tsv.read_append_newline, ofTsv]
  · rintro before after blank rfl hlines hblank
    exact ofTsv_of_read highlighter fragment _ (Tsv.read_join_blank hblank hlines)

end Table

end ColorMarkup
