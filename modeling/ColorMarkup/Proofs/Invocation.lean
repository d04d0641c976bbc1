import Mathlib.Algebra.GroupWithZero.Nat
import Mathlib.Algebra.Order.BigOperators.Group.List
import Mathlib.Algebra.Order.Group.Nat
import Mathlib.Data.List.Nodup
import Mathlib.Data.List.Perm.Subperm
import Mathlib.Data.Option.Basic
import ColorMarkup.CommandLine.Parse
import ColorMarkup.Proofs.ColorName

/-!
# Command lines that write a choice

Options and a command can be written in many ways: an option may stand before the name of the
command or after it, in any order, and the letter that asks for more detail in the log may come
alone or in bundles.  Whatever follows two dashes is a word, be it the text of an option.  However a
choice is written, it is read as it was made.

* `Choice` is what can be chosen and `Choice.invocation` what it asks for.
* `Layout` is a way to write a choice, and `Layout.arguments` the command line that does.
* `Choice.givenBy` are the options of a choice that some entries give.  `take_text` says that an
  entry that is read gives what it gives and nothing else; `foldlM_take_texts` and
  `parseFrom_texts` say so of all the entries of a level.
* `parse_arguments` says that the command line is read as the choice.
-/

namespace ColorMarkup

namespace CommandLine

/-! ## Choices -/

/-- A text that names a color. -/
structure ColorWord where
  text : Text
  color : Color
  spells : Color.SpellsWithin text color

@[simp] theorem colorValue_text (word : ColorWord) : colorValue word.text = .ok word.color := by
  rw [colorValue, Color.parse_eq_ok_iff.2 word.spells]

theorem pathValue_of_ne_nil {path : Text} (h : path ≠ []) : pathValue path = .ok path := by
  cases path with
  | nil => exact absurd rfl h
  | cons _ _ => rfl

/-- A command as it can be chosen. -/
inductive ChosenCommand where
  /-- Show markup lines, of which there must be one. -/
  | render (lines : List Text) (hlines : lines ≠ [])
  /-- Show a table with a fragment highlighted, in a color if one is chosen. -/
  | table (fragment : Text) (highlight : Option ColorWord)

namespace ChosenCommand

/-- The name of the command. -/
def word : ChosenCommand → Text
  | render .. => "render".toList
  | table .. => "table".toList

/-- The words that the command is about. -/
def positionals : ChosenCommand → List Text
  | render lines _ => lines
  | table fragment _ => [fragment]

/-- The color chosen for the highlighted fragment. -/
def highlight? : ChosenCommand → Option ColorWord
  | render .. => none
  | table _ highlight => highlight

/-- What the name of the command stands for. -/
def name : ChosenCommand → CommandName
  | render .. => .render
  | table .. => .table

/-- Where the arguments of the command stand. -/
def scope : ChosenCommand → Scope
  | render .. => .render
  | table .. => .table

/-- What the program is to do.  A fragment is highlighted in green unless a color is chosen. -/
def command : ChosenCommand → Command
  | render lines _ => .render lines
  | table fragment highlight => .table fragment ((highlight.map ColorWord.color).getD .green)

end ChosenCommand

/-- What can be chosen on a command line; what may be left out is an option. -/
structure Choice where
  foreground : Option ColorWord := none
  background : Option ColorWord := none
  delimiter : Option Char := none
  log : Option { path : Text // path ≠ [] } := none
  noNewline : Bool := false
  /-- How often more detail in the log is asked for. -/
  verbosity : ℕ := 0
  verbosity_le : verbosity ≤ 255 := by decide
  command : ChosenCommand

/-- What a choice asks for. -/
def Choice.invocation (choice : Choice) : Invocation :=
  { config :=
      { defaults :=
          ⟨choice.foreground.map ColorWord.color, choice.background.map ColorWord.color⟩
        noNewline := choice.noNewline
        delimiter := choice.delimiter.getD '#' }
    verbosity := choice.verbosity
    log := choice.log.map Subtype.val
    command := choice.command.command }

/-! ## Ways to write a choice -/

/-- An option as one argument of a command line. -/
inductive Entry where
  | setting (which : Setting) (value : Text)
  | noNewline
  /-- A bundle of the letter that asks for more detail in the log: one, and so many more. -/
  | verbose (more : ℕ)
  deriving DecidableEq

/-- How a setting and its value are written, up to the value. -/
def Setting.lead : Setting → Text
  | foreground => "--fg=".toList
  | background => "--bg=".toList
  | delimiter => "--delimiter=".toList
  | log => "--log=".toList
  | highlightColor => "--highlight-color=".toList

namespace Entry

def text : Entry → Text
  | setting which value => which.lead ++ value
  | noNewline => "--no-newline".toList
  | verbose more => '-' :: List.replicate (more + 1) 'v'

/-- The setting that an option gives. -/
@[simp] def setting? : Entry → Option Setting
  | setting which _ => some which
  | noNewline => none
  | verbose _ => none

/-- Whether an option may stand in the scope. -/
def AllowedIn (scope : Scope) (entry : Entry) : Prop :=
  ∀ setting ∈ entry.setting?, setting.allowedIn scope = true

/-- How often an option asks for more detail in the log. -/
@[simp] def detail : Entry → ℕ
  | setting _ _ => 0
  | noNewline => 0
  | verbose more => more + 1

end Entry

/-- The text of the value that is chosen for a setting. -/
def Choice.value? (choice : Choice) : Setting → Option Text
  | .foreground => choice.foreground.map ColorWord.text
  | .background => choice.background.map ColorWord.text
  | .delimiter => choice.delimiter.map fun c => [c]
  | .log => choice.log.map Subtype.val
  | .highlightColor => choice.command.highlight?.map ColorWord.text

/-- The chosen settings. -/
def Choice.settings (choice : Choice) : List Entry :=
  Setting.all.filterMap fun setting => (choice.value? setting).map (.setting setting)

/-- The chosen options, each once, with the letters that ask for more detail in bundles. -/
def Choice.entries (choice : Choice) (bundles : List ℕ) : List Entry :=
  choice.settings ++ (if choice.noNewline then [.noNewline] else []) ++ bundles.map .verbose

/-- A way to write a choice on a command line. -/
structure Layout (choice : Choice) where
  /-- The options before the name of the command. -/
  outer : List Entry
  /-- The options after the name of the command. -/
  inner : List Entry
  /-- How the letters that ask for more detail are bundled; each bundle has one letter more than is
  said here. -/
  bundles : List ℕ
  complete : (outer ++ inner).Perm (choice.entries bundles)
  bundled : (bundles.map (· + 1)).sum = choice.verbosity
  /-- All bundles stand on the same side of the name of the command. -/
  oneSided : (∀ more, .verbose more ∉ outer) ∨ ∀ more, .verbose more ∉ inner
  /-- The color of the highlighted fragment stands after the name of the command. -/
  highlightInner : ∀ value, .setting .highlightColor value ∉ outer

/-- The command line of a layout. -/
def Layout.arguments {choice : Choice} (layout : Layout choice) : List Text :=
  layout.outer.map Entry.text
    ++ choice.command.word
    :: (layout.inner.map Entry.text ++ "--".toList :: choice.command.positionals)

/-- Every choice can be written: with all options after the name of the command, and each letter
by itself. -/
instance (choice : Choice) : Inhabited (Layout choice) where
  default :=
    { outer := []
      inner := choice.entries (List.replicate choice.verbosity 0)
      bundles := List.replicate choice.verbosity 0
      complete := List.Perm.refl _
      bundled := by simp
      oneSided := Or.inl (by simp)
      highlightInner := by simp }

/-! ## Options that some entries give -/

/-- The settings that some entries give. -/
def settingsOf (entries : List Entry) : List Setting :=
  entries.filterMap Entry.setting?

/-- How often some entries ask for more detail in the log. -/
def detailOf (entries : List Entry) : ℕ :=
  (entries.map Entry.detail).sum

@[simp] theorem settingsOf_append (before after : List Entry) :
    settingsOf (before ++ after) = settingsOf before ++ settingsOf after :=
  List.filterMap_append

@[simp] theorem detailOf_append (before after : List Entry) :
    detailOf (before ++ after) = detailOf before + detailOf after := by
  rw [detailOf, List.map_append, List.sum_append, detailOf, detailOf]

@[simp] theorem settingsOf_nil : settingsOf [] = [] :=
  rfl

@[simp] theorem detailOf_nil : detailOf [] = 0 :=
  rfl

@[simp] theorem settingsOf_singleton (entry : Entry) :
    settingsOf [entry] = entry.setting?.toList := by
  cases entry <;> rfl

@[simp] theorem detailOf_singleton (entry : Entry) : detailOf [entry] = entry.detail :=
  Nat.add_zero _

@[simp] theorem settingsOf_verbose (bundles : List ℕ) : settingsOf (bundles.map .verbose) = [] := by
  simp [settingsOf]

@[simp] theorem detailOf_verbose (bundles : List ℕ) :
    detailOf (bundles.map .verbose) = (bundles.map (· + 1)).sum := by
  simp [detailOf, Function.comp_def]

theorem mem_settingsOf_iff {entries : List Entry} {setting : Setting} :
    setting ∈ settingsOf entries ↔ ∃ value, .setting setting value ∈ entries := by
  rw [settingsOf, List.mem_filterMap]
  constructor
  · rintro ⟨entry, hentry, hsetting⟩
    cases entry with
    | setting other value =>
      obtain rfl : other = setting := Option.some.inj hsetting
      exact ⟨value, hentry⟩
    | noNewline => cases hsetting
    | verbose more => cases hsetting
  · rintro ⟨value, hvalue⟩
    exact ⟨_, hvalue, rfl⟩

theorem detailOf_eq_zero_of_forall {entries : List Entry}
    (h : ∀ more, .verbose more ∉ entries) : detailOf entries = 0 := by
  apply List.sum_eq_zero
  intro count hcount
  obtain ⟨entry, hentry, rfl⟩ := List.mem_map.1 hcount
  cases entry with
  | verbose more => exact absurd hentry (h more)
  | setting => rfl
  | noNewline => rfl

section IfAmong

variable {α : Type}

/-- What is chosen for a setting, if the setting is among those that some entries give. -/
def ifAmong (entries : List Entry) (setting : Setting) (chosen : Option α) : Option α :=
  if setting ∈ settingsOf entries then chosen else none

variable {entries before : List Entry} {setting : Setting} {chosen : Option α}

theorem ifAmong_of_mem (h : chosen.isSome → setting ∈ settingsOf entries) :
    ifAmong entries setting chosen = chosen := by
  cases chosen with
  | none => exact ite_self none
  | some value => exact if_pos (h rfl)

theorem ifAmong_of_notMem (h : setting ∉ settingsOf entries) :
    ifAmong entries setting chosen = none :=
  if_neg h

/-- An entry that does not give a setting leaves it as it is. -/
theorem ifAmong_append_singleton {entry : Entry} (h : entry.setting? ≠ some setting) :
    ifAmong (before ++ [entry]) setting chosen = ifAmong before setting chosen := by
  have hother : setting ∉ settingsOf [entry] := by
    rw [settingsOf, List.mem_filterMap]
    rintro ⟨other, hmem, hsetting⟩
    obtain rfl : other = entry := List.mem_singleton.1 hmem
    exact h hsetting
  simp only [ifAmong, settingsOf_append, List.mem_append, hother, or_false]

theorem ifAmong_orElse (outer inner : List Entry) :
    (ifAmong inner setting chosen <|> ifAmong outer setting chosen)
      = ifAmong (outer ++ inner) setting chosen := by
  by_cases hinner : setting ∈ settingsOf inner <;> by_cases houter : setting ∈ settingsOf outer
    <;> simp [ifAmong, hinner, houter]

/-- The entry of a setting gives what is chosen. -/
@[simp] theorem ifAmong_append_setting (value : Text) :
    ifAmong (before ++ [.setting setting value]) setting chosen = chosen := by
  apply ifAmong_of_mem
  intro _
  rw [settingsOf_append, List.mem_append]
  exact Or.inr (List.mem_singleton.2 rfl)

/-- A setting that has not been given takes its value. -/
theorem fill_ifAmong (h : setting ∉ settingsOf before) (value : Except UsageError α) :
    fill (ifAmong before setting chosen) value = some <$> value := by
  rw [ifAmong_of_notMem h]
  rfl

end IfAmong

/-- The options of a choice that some entries give.  The values are those of the choice, so that it
does not matter in which order the entries stand. -/
def Choice.givenBy (choice : Choice) (entries : List Entry) : Given :=
  { foreground := ifAmong entries .foreground (choice.foreground.map ColorWord.color)
    background := ifAmong entries .background (choice.background.map ColorWord.color)
    delimiter := ifAmong entries .delimiter choice.delimiter
    log := ifAmong entries .log (choice.log.map Subtype.val)
    highlightColor :=
      ifAmong entries .highlightColor (choice.command.highlight?.map ColorWord.color)
    noNewline := decide (.noNewline ∈ entries)
    verbosity := detailOf entries }

variable {choice : Choice} {scope : Scope}

/-- A setting that has not been given is given by its entry. -/
theorem set_givenBy {before : List Entry} {setting : Setting} {value : Text}
    (hvalue : choice.value? setting = some value) (hfresh : setting ∉ settingsOf before) :
    (choice.givenBy before).set setting value
      = .ok (choice.givenBy (before ++ [.setting setting value])) := by
  have hother {α : Type} {other : Setting} {chosen : Option α} (h : setting ≠ other) :
      ifAmong (before ++ [.setting setting value]) other chosen = ifAmong before other chosen :=
    ifAmong_append_singleton (Option.some_injective _ |>.ne h)
  cases setting with
  | foreground | background | highlightColor =>
    obtain ⟨word, hword, rfl⟩ := Option.map_eq_some_iff.1 hvalue
    simp [Given.set, Choice.givenBy, hword, fill_ifAmong hfresh, hother]
  | delimiter =>
    obtain ⟨c, hc, rfl⟩ := Option.map_eq_some_iff.1 hvalue
    simp [Given.set, Choice.givenBy, hc, fill_ifAmong hfresh, charValue, hother]
  | log =>
    obtain ⟨path, hpath, rfl⟩ := Option.map_eq_some_iff.1 hvalue
    simp [Given.set, Choice.givenBy, hpath, fill_ifAmong hfresh, pathValue_of_ne_nil path.2, hother]

theorem turnOn_noNewline_givenBy {before : List Entry} (hfresh : .noNewline ∉ before) :
    (choice.givenBy before).turnOn .noNewline
      = .ok (choice.givenBy (before ++ [.noNewline])) := by
  have hsame {α : Type} {setting : Setting} {chosen : Option α} :
      ifAmong (before ++ [.noNewline]) setting chosen = ifAmong before setting chosen :=
    ifAmong_append_singleton nofun
  simp [Given.turnOn, Choice.givenBy, hfresh, hsame]

theorem givenBy_append_verbose (choice : Choice) (before : List Entry) (more : ℕ) :
    choice.givenBy (before ++ [.verbose more])
      = { choice.givenBy before with
          verbosity := (choice.givenBy before).verbosity + (more + 1) } := by
  have hsame {α : Type} {setting : Setting} {chosen : Option α} :
      ifAmong (before ++ [.verbose more]) setting chosen = ifAmong before setting chosen :=
    ifAmong_append_singleton nofun
  simp [Choice.givenBy, hsame]

/-! ## Reading one entry -/

/-- The entries are options of a choice, none of them twice, and ask for no more detail than can be
counted. -/
structure Choice.Offers (choice : Choice) (entries : List Entry) : Prop where
  chosen : ∀ setting value, .setting setting value ∈ entries → choice.value? setting = some value
  once : (settingsOf entries).Nodup
  noNewlineOnce : entries.count .noNewline ≤ 1
  counted : detailOf entries ≤ maxVerbosity

/-- Some of the entries may be left out, and they may stand in another order. -/
theorem Choice.Offers.of_subperm {all entries : List Entry} (h : choice.Offers all)
    (hsub : entries.Subperm all) : choice.Offers entries := by
  obtain ⟨part, hperm, hpart⟩ := hsub
  have hdetail : detailOf entries = detailOf part := (hperm.map Entry.detail).sum_eq.symm
  have hle : detailOf part ≤ detailOf all :=
    (hpart.map Entry.detail).sum_le_sum fun _ _ => Nat.zero_le _
  have hsettings : (settingsOf part).Perm (settingsOf entries) := hperm.filterMap Entry.setting?
  exact {
    chosen := fun setting value hmem =>
      h.chosen setting value (hpart.subset (hperm.symm.subset hmem))
    once := hsettings.nodup_iff.1 (h.once.sublist (hpart.filterMap Entry.setting?))
    noNewlineOnce := by
      rw [← hperm.count_eq]
      exact (hpart.count_le _).trans h.noNewlineOnce
    counted := hdetail ▸ hle.trans h.counted }

theorem Choice.Offers.left {before after : List Entry} (h : choice.Offers (before ++ after)) :
    choice.Offers before :=
  h.of_subperm (List.sublist_append_left before after).subperm

theorem Choice.Offers.right {before after : List Entry} (h : choice.Offers (before ++ after)) :
    choice.Offers after :=
  h.of_subperm (List.sublist_append_right before after).subperm

/-- Only the color of the highlighted fragment may not stand everywhere. -/
theorem Entry.allowedIn_iff {entry : Entry} :
    entry.AllowedIn scope ↔ ∀ value, entry = .setting .highlightColor value → scope = .table := by
  cases entry with
  | setting setting value =>
    cases setting <;> simp [Entry.AllowedIn, Setting.allowedIn]
  | noNewline => simp [Entry.AllowedIn]
  | verbose more => simp [Entry.AllowedIn]

theorem Scope.setting?_name {setting : Setting} (h : setting.allowedIn scope = true) :
    scope.setting? setting.name = some setting := by
  revert h
  cases setting <;> cases scope <;> decide

theorem Argument.of_lead (setting : Setting) (value : Text) :
    Argument.of (setting.lead ++ value) = .long setting.name (some value) := by
  cases setting <;> rfl

section Settled

-- On the levels that are met here no setting waits for its value, as an entry brings its own.
variable {given next : Given}

theorem take_of_long {text name : Text} {value? : Option Text}
    (h : Argument.of text = .long name value?) :
    Level.take scope { given } text = Level.takeLong { given } scope name value? := by
  simp only [Level.take, h]
  rfl

theorem take_of_letters {text letters : Text} (h : Argument.of text = .letters letters) :
    Level.take scope { given } text = Level.takeLetters { given } scope letters := by
  simp only [Level.take, h]
  rfl

theorem takeSetting_of_set {setting : Setting} {value : Text}
    (h : given.set setting value = .ok next) :
    Level.takeSetting { given } setting (some value) = .ok { given := next } := by
  show (do return { given := ← given.set setting value } : Except UsageError Level) = _
  rw [h]
  rfl

theorem takeSwitch_of_turnOn {switch : Switch} (h : given.turnOn switch = .ok next) :
    Level.takeSwitch { given } switch = .ok { given := next } := by
  show (do return { given := ← given.turnOn switch } : Except UsageError Level) = _
  rw [h]
  rfl

end Settled

/-- A bundle of letters asks for as much detail as it has letters, up to what can be counted. -/
theorem takeLetters_replicate (scope : Scope) (given : Given) (count : ℕ)
    (h : given.verbosity + count ≤ maxVerbosity) :
    Level.takeLetters { given } scope (List.replicate count 'v')
      = .ok { given := { given with verbosity := given.verbosity + count } } := by
  induction count generalizing given with
  | zero => rfl
  | succ count ih =>
    have hswitch : scope.letterSwitch? 'v' = some .verbose := by cases scope <;> rfl
    have hturn : given.turnOn .verbose
        = .ok { given with verbosity := given.verbosity + 1 } := by
      rw [Given.turnOn, min_eq_right (by omega)]
    have hrest := ih { given with verbosity := given.verbosity + 1 } (by simp only; omega)
    rw [List.replicate_succ, Level.takeLetters, hswitch]
    simp only [takeSwitch_of_turnOn hturn]
    apply hrest.trans
    simp only [Nat.add_assoc, Nat.add_comm 1]

/-- Reading an entry that may stand where it does gives what it gives, and nothing else. -/
theorem take_text {before : List Entry} {entry : Entry} (h : choice.Offers (before ++ [entry]))
    (hallowed : entry.AllowedIn scope) :
    Level.take scope { given := choice.givenBy before } entry.text
      = .ok { given := choice.givenBy (before ++ [entry]) } := by
  cases entry with
  | setting setting value =>
    have hvalue : choice.value? setting = some value := h.chosen setting value (by simp)
    have hfresh : setting ∉ settingsOf before := by
      have honce := h.once
      rw [settingsOf_append] at honce
      intro hmem
      exact List.disjoint_of_nodup_append honce hmem (by simp)
    have hlong : Argument.of (Entry.setting setting value).text = .long setting.name (some value) :=
      Argument.of_lead setting value
    have hscope : scope.setting? setting.name = some setting :=
      Scope.setting?_name (hallowed setting rfl)
    rw [take_of_long hlong]
    unfold Level.takeLong
    rw [hscope]
    exact takeSetting_of_set (set_givenBy hvalue hfresh)
  | noNewline =>
    have hfresh : .noNewline ∉ before := by
      have honce := h.noNewlineOnce
      rw [List.count_append, List.count_singleton_self] at honce
      exact List.count_eq_zero.1 (by omega)
    have hlong : Argument.of Entry.noNewline.text = .long "no-newline".toList none := rfl
    have hsetting : scope.setting? "no-newline".toList = none := by cases scope <;> rfl
    have hswitch : scope.switch? "no-newline".toList = some .noNewline := by cases scope <;> rfl
    rw [take_of_long hlong]
    unfold Level.takeLong
    rw [hsetting, hswitch]
    exact takeSwitch_of_turnOn (turnOn_noNewline_givenBy hfresh)
  | verbose more =>
    have hcounted : detailOf before + (more + 1) ≤ maxVerbosity := by
      have hall := h.counted
      rwa [detailOf_append, detailOf_singleton] at hall
    have hletters : Argument.of (Entry.verbose more).text
        = .letters (List.replicate (more + 1) 'v') := rfl
    rw [take_of_letters hletters, takeLetters_replicate scope _ _ hcounted,
      givenBy_append_verbose]

/-! ## Reading a level -/

theorem foldlM_take_texts {before after : List Entry} (h : choice.Offers (before ++ after))
    (hallowed : ∀ entry ∈ after, entry.AllowedIn scope) :
    (after.map Entry.text).foldlM (Level.take scope) { given := choice.givenBy before }
      = .ok { given := choice.givenBy (before ++ after) } := by
  induction after generalizing before with
  | nil =>
    rw [List.append_nil]
    rfl
  | cons entry after ih =>
    obtain ⟨hentry, hafter⟩ := List.forall_mem_cons.1 hallowed
    rw [List.append_cons] at h ⊢
    have hstep := take_text h.left hentry
    rw [List.map_cons, List.foldlM_cons, hstep]
    exact ih h hafter

/-- No option is the name of a command. -/
theorem command?_text (given : Given) (entry : Entry) :
    Level.command? { given } entry.text = none := by
  cases entry with
  | setting setting value => cases setting <;> rfl
  | noNewline => rfl
  | verbose more => rfl

theorem parseFrom_texts {before after : List Entry} (h : choice.Offers (before ++ after))
    (hallowed : ∀ entry ∈ after, entry.AllowedIn .program) (rest : List Text) :
    parseFrom { given := choice.givenBy before } (after.map Entry.text ++ rest)
      = parseFrom { given := choice.givenBy (before ++ after) } rest := by
  induction after generalizing before with
  | nil =>
    rw [List.append_nil]
    rfl
  | cons entry after ih =>
    obtain ⟨hentry, hafter⟩ := List.forall_mem_cons.1 hallowed
    rw [List.append_cons] at h ⊢
    have hstep := take_text h.left hentry
    rw [List.map_cons, List.cons_append, parseFrom, command?_text, hstep]
    exact ih h hafter

/-- After two dashes all arguments of a rendering are lines, whatever they look like. -/
theorem foldlM_take_words (given : Given) (words lines : List Text) :
    lines.foldlM (Level.take .render) { given, wordsOnly := true, words }
      = .ok { given, wordsOnly := true, words := words ++ lines } := by
  induction lines generalizing words with
  | nil =>
    rw [List.append_nil]
    rfl
  | cons line lines ih =>
    rw [List.append_cons, List.foldlM_cons]
    exact ih (words ++ [line])

theorem foldlM_take_positionals (command : ChosenCommand) (given : Given) :
    command.positionals.foldlM (Level.take command.scope) { given, wordsOnly := true }
      = .ok { given, wordsOnly := true, words := command.positionals } := by
  cases command with
  | render lines hlines => exact foldlM_take_words given [] lines
  | table fragment highlight => rfl

/-- The arguments after the name of a command are read as options of the choice and as the words of
the command. -/
theorem takeAll_texts {inner : List Entry} (h : choice.Offers inner)
    (hallowed : ∀ entry ∈ inner, entry.AllowedIn choice.command.scope) :
    Level.takeAll choice.command.scope
        (inner.map Entry.text ++ "--".toList :: choice.command.positionals)
      = .ok { given := choice.givenBy inner, wordsOnly := true,
              words := choice.command.positionals } := by
  have hstart : choice.Offers ([] ++ inner) := h
  have hinner : (inner.map Entry.text).foldlM (Level.take choice.command.scope) {}
      = .ok { given := choice.givenBy inner } :=
    foldlM_take_texts hstart hallowed
  unfold Level.takeAll
  rw [List.foldlM_append, hinner]
  show (do
    (← choice.command.positionals.foldlM (Level.take choice.command.scope)
        { given := choice.givenBy inner, wordsOnly := true }).settle) = _
  rw [foldlM_take_positionals]
  rfl

/-- The command is what was chosen, if the color of the highlighted fragment is among its
options. -/
theorem parseCommand_texts {inner : List Entry} (h : choice.Offers inner)
    (hallowed : ∀ entry ∈ inner, entry.AllowedIn choice.command.scope)
    (hhighlight : choice.command.highlight?.isSome → .highlightColor ∈ settingsOf inner) :
    parseCommand choice.command.name
        (inner.map Entry.text ++ "--".toList :: choice.command.positionals)
      = .ok (choice.givenBy inner, choice.command.command) := by
  have htake := takeAll_texts h hallowed
  cases hcommand : choice.command with
  | render lines hlines =>
    rw [hcommand] at htake
    have hlevel : Level.takeAll .render (inner.map Entry.text ++ "--".toList :: lines)
        = .ok { given := choice.givenBy inner, wordsOnly := true, words := lines } := htake
    show parseRender (inner.map Entry.text ++ "--".toList :: lines) = _
    rw [parseRender, hlevel]
    cases lines with
    | nil => exact absurd rfl hlines
    | cons line rest => rfl
  | table fragment highlight =>
    rw [hcommand] at htake hhighlight
    have hlevel : Level.takeAll .table (inner.map Entry.text ++ ["--".toList, fragment])
        = .ok { given := choice.givenBy inner, wordsOnly := true, words := [fragment] } := htake
    have hcolor : (choice.givenBy inner).highlightColor = highlight.map ColorWord.color := by
      rw [Choice.givenBy, hcommand]
      exact ifAmong_of_mem fun hsome => hhighlight (by simpa using hsome)
    show parseTable (inner.map Entry.text ++ ["--".toList, fragment]) = _
    rw [parseTable, hlevel]
    show Except.ok (choice.givenBy inner,
      Command.table fragment ((choice.givenBy inner).highlightColor.getD .green)) = _
    rw [hcolor]
    rfl

/-! ## Reading a command line -/

theorem mem_choice_settings_iff {entry : Entry} :
    entry ∈ choice.settings
      ↔ ∃ setting value, choice.value? setting = some value ∧ entry = .setting setting value := by
  have hall (setting : Setting) : setting ∈ Setting.all := by cases setting <;> decide
  simp [Choice.settings, hall, eq_comm]

section Entries

variable {bundles : List ℕ}

theorem setting_mem_entries_iff {setting : Setting} {value : Text} :
    .setting setting value ∈ choice.entries bundles ↔ choice.value? setting = some value := by
  simp [Choice.entries, mem_choice_settings_iff]

theorem noNewline_mem_entries_iff :
    .noNewline ∈ choice.entries bundles ↔ choice.noNewline = true := by
  simp [Choice.entries, mem_choice_settings_iff]

theorem count_noNewline_entries_le : (choice.entries bundles).count .noNewline ≤ 1 := by
  have hsettings : choice.settings.count .noNewline = 0 :=
    List.count_eq_zero.2 (by simp [mem_choice_settings_iff])
  have hbundles : (bundles.map Entry.verbose).count .noNewline = 0 :=
    List.count_eq_zero.2 (by simp)
  rw [Choice.entries, List.count_append, List.count_append, hsettings, hbundles]
  split <;> simp

/-- The settings of which a value is chosen, in the order of all settings. -/
theorem settingsOf_entries :
    settingsOf (choice.entries bundles)
      = Setting.all.filter fun setting => (choice.value? setting).isSome := by
  have hsettings : settingsOf choice.settings
      = Setting.all.filter fun setting => (choice.value? setting).isSome := by
    rw [settingsOf, Choice.settings, List.filterMap_filterMap, ← List.filterMap_eq_filter]
    congr 1
    funext setting
    cases h : choice.value? setting <;> simp [Option.guard, h]
  rw [Choice.entries, settingsOf_append, settingsOf_append, hsettings, settingsOf_verbose]
  split <;> simp

theorem detailOf_entries :
    detailOf (choice.entries bundles) = (bundles.map (· + 1)).sum := by
  have hsettings : detailOf choice.settings = 0 :=
    detailOf_eq_zero_of_forall (by simp [mem_choice_settings_iff])
  rw [Choice.entries, detailOf_append, detailOf_append, hsettings, detailOf_verbose]
  split <;> simp

theorem offers_entries (hbundled : (bundles.map (· + 1)).sum = choice.verbosity) :
    choice.Offers (choice.entries bundles) where
  chosen _ _ hmem := setting_mem_entries_iff.1 hmem
  once := by
    have hall : Setting.all.Nodup := by decide
    rw [settingsOf_entries]
    exact hall.filter _
  noNewlineOnce := count_noNewline_entries_le
  counted := by
    rw [detailOf_entries, hbundled]
    exact choice.verbosity_le

end Entries

/-- What is given on two levels of which only one asks for detail is given by both together. -/
theorem givenBy_within {outer inner : List Entry}
    (h : (∀ more, .verbose more ∉ outer) ∨ ∀ more, .verbose more ∉ inner) :
    (choice.givenBy inner).within (choice.givenBy outer) = choice.givenBy (outer ++ inner) := by
  have hnoNewline : (decide (.noNewline ∈ inner) || decide (.noNewline ∈ outer))
      = decide (.noNewline ∈ outer ++ inner) := by
    rw [Bool.or_comm, ← Bool.decide_or]
    simp only [List.mem_append]
  have hdetail : ((choice.givenBy inner).within (choice.givenBy outer)).verbosity
      = detailOf (outer ++ inner) := by
    show (if detailOf inner = 0 then detailOf outer else detailOf inner) = _
    rw [detailOf_append]
    rcases h with h | h
    · rw [detailOf_eq_zero_of_forall h]
      split <;> omega
    · rw [detailOf_eq_zero_of_forall h]
      rfl
  simp only [Given.within, Choice.givenBy] at hdetail ⊢
  simp only [ifAmong_orElse, hnoNewline, hdetail]

namespace Layout

variable (layout : Layout choice)

theorem offers : choice.Offers (layout.outer ++ layout.inner) :=
  (offers_entries layout.bundled).of_subperm layout.complete.subperm

theorem setting_mem_iff {setting : Setting} {value : Text} :
    .setting setting value ∈ layout.outer ++ layout.inner ↔ choice.value? setting = some value := by
  rw [layout.complete.mem_iff, setting_mem_entries_iff]

/-- A layout has the settings of which a value is chosen. -/
theorem mem_settingsOf (setting : Setting) (h : (choice.value? setting).isSome = true) :
    setting ∈ settingsOf (layout.outer ++ layout.inner) := by
  obtain ⟨value, hvalue⟩ := Option.isSome_iff_exists.1 h
  exact mem_settingsOf_iff.2 ⟨value, layout.setting_mem_iff.2 hvalue⟩

/-- All the options together ask for what the choice asks for. -/
theorem givenBy_invocation :
    (choice.givenBy (layout.outer ++ layout.inner)).invocation choice.command.command
      = choice.invocation := by
  have hall {α : Type} (setting : Setting) (chosen : Option α)
      (h : chosen.isSome = (choice.value? setting).isSome) :
      ifAmong (layout.outer ++ layout.inner) setting chosen = chosen :=
    ifAmong_of_mem fun hsome => layout.mem_settingsOf setting (h ▸ hsome)
  have hforeground := hall .foreground (choice.foreground.map ColorWord.color)
    (by simp [Choice.value?])
  have hbackground := hall .background (choice.background.map ColorWord.color)
    (by simp [Choice.value?])
  have hdelimiter := hall .delimiter choice.delimiter (by simp [Choice.value?])
  have hlog := hall .log (choice.log.map Subtype.val) rfl
  have hnoNewline : decide (.noNewline ∈ layout.outer ++ layout.inner) = choice.noNewline := by
    rw [Bool.eq_iff_iff, decide_eq_true_iff, layout.complete.mem_iff, noNewline_mem_entries_iff]
  have hverbosity : detailOf (layout.outer ++ layout.inner) = choice.verbosity := by
    have hperm : detailOf (layout.outer ++ layout.inner)
        = detailOf (choice.entries layout.bundles) :=
      (layout.complete.map Entry.detail).sum_eq
    rw [hperm, detailOf_entries, layout.bundled]
  simp only [Given.invocation, Given.config, Choice.givenBy, hforeground, hbackground, hdelimiter,
    hlog, hnoNewline, hverbosity]
  rfl

theorem allowedIn_program : ∀ entry ∈ layout.outer, entry.AllowedIn .program := by
  intro entry hentry
  rw [Entry.allowedIn_iff]
  rintro value rfl
  exact absurd hentry (layout.highlightInner value)

theorem allowedIn_scope : ∀ entry ∈ layout.inner, entry.AllowedIn choice.command.scope := by
  intro entry hentry
  rw [Entry.allowedIn_iff]
  rintro value rfl
  have hvalue : choice.value? .highlightColor = some value :=
    layout.setting_mem_iff.1 (List.mem_append_right _ hentry)
  rw [Choice.value?] at hvalue
  cases hcommand : choice.command with
  | render lines hlines =>
    rw [hcommand] at hvalue
    exact absurd hvalue (by simp [ChosenCommand.highlight?])
  | table fragment highlight => rfl

theorem highlight_mem (h : choice.command.highlight?.isSome) :
    .highlightColor ∈ settingsOf layout.inner := by
  have hmem := layout.mem_settingsOf .highlightColor (by simpa [Choice.value?] using h)
  rw [settingsOf_append, List.mem_append] at hmem
  apply hmem.resolve_left
  rw [mem_settingsOf_iff]
  rintro ⟨value, hvalue⟩
  exact layout.highlightInner value hvalue

end Layout

/-- However a choice is written on a command line, it is read as it was made. -/
theorem parse_arguments (choice : Choice) (layout : Layout choice) :
    parse layout.arguments = .ok choice.invocation := by
  have houter : choice.Offers ([] ++ layout.outer) := layout.offers.left
  have hcommand :=
    parseCommand_texts layout.offers.right layout.allowedIn_scope layout.highlight_mem
  have hname : Level.command? { given := choice.givenBy layout.outer } choice.command.word
      = some choice.command.name := by
    cases choice.command <;> rfl
  have hstart : choice.givenBy [] = {} := rfl
  have hread := parseFrom_texts houter layout.allowedIn_program
    (choice.command.word
      :: (layout.inner.map Entry.text ++ "--".toList :: choice.command.positionals))
  rw [hstart, List.nil_append] at hread
  calc parse layout.arguments
      = parseFrom { given := choice.givenBy layout.outer }
          (choice.command.word
            :: (layout.inner.map Entry.text ++ "--".toList :: choice.command.positionals)) := hread
    _ = .ok (((choice.givenBy layout.inner).within (choice.givenBy layout.outer)).invocation
          choice.command.command) := by
      rw [parseFrom, hname]
      simp only [hcommand]
      rfl
    _ = .ok choice.invocation := by
      rw [givenBy_within layout.oneSided, layout.givenBy_invocation]

/-- Options on both sides of the name of a command, with an equals sign for a value, and a fragment
that reads like an option. -/
theorem parse_arguments_of_option_as_word :
    let choice : Choice :=
      { foreground := some ⟨" RED".toList, .red, Color.parse_eq_ok_iff.1 (by decide +kernel)⟩
        delimiter := some '='
        noNewline := true
        verbosity := 3
        command := .table "--fg=red".toList
          (some ⟨"yellow".toList, .yellow, Color.parse_eq_ok_iff.1 (by decide +kernel)⟩) }
    ∃ layout : Layout choice,
      layout.arguments
          = ["--no-newline".toList, "table".toList, "-vv".toList, "--highlight-color=yellow".toList,
              "--delimiter==".toList, "-v".toList, "--fg= RED".toList, "--".toList,
              "--fg=red".toList]
        ∧ parse layout.arguments
          = .ok
            { config := { defaults := ⟨some .red, none⟩, noNewline := true, delimiter := '=' }
              verbosity := 3
              command := .table "--fg=red".toList .yellow } := by
  intro choice
  refine ⟨
    { outer := [.noNewline]
      inner := [.verbose 1, .setting .highlightColor "yellow".toList, .setting .delimiter ['='],
        .verbose 0, .setting .foreground " RED".toList]
      bundles := [1, 0]
      complete := by decide
      bundled := rfl
      oneSided := Or.inl (by simp)
      highlightInner := by simp }, rfl, ?_⟩
  exact parse_arguments choice _

end CommandLine

end ColorMarkup
