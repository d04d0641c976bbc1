import ColorMarkup.Proofs.DirectiveForm
import ColorMarkup.Proofs.Refusal
import ColorMarkup.Proofs.Rendering

/-!
# What rendering tells the log

The log follows a rendering token by token: a token that looks like a directive and names no color
is told when it is reached, before anything of it is written, and what is never reached is never
told.  Only a rendering that has come to its end says so.

* `Unresolved` are the tokens that are told of, each read by itself, and `read_eq_unresolved_iff`
  says which of them are told of where they stand.
* `refusedAt?` is the number of the event that a console refuses, `WriteRefused` says that it is
  that of the token at some place, and `Reached` that no token before that place was refused.
* `records_play_renderItems` ties the two together, token by token.
* `records_play_render` is the whole log of a rendering.
-/

namespace ColorMarkup

open Markup

namespace Markup

/-! ## Tokens that are told of -/

/-- A token of the form of a directive none of whose names is that of a color. -/
def Unresolved (token : Text) : Prop :=
  ∃ first second, HasForm token first second
    ∧ ∀ name ∈ first :: second.toList, ∀ color, ¬NamesColor name color

theorem unresolved_iff (token : Text) : Unresolved token ↔ Reading.of token = .unresolved := by
  have hplain {first : Text} {second : Option Text} (h : HasForm token first second) :
      (paintOf first second).isPlain = true
        ↔ ∀ name ∈ first :: second.toList, ∀ color, ¬NamesColor name color := by
    obtain ⟨hforeground, hbackground⟩ := (paintOf_eq_iff h).1 rfl
    rw [← Bool.not_eq_false, isPlain_eq_false_iff_of_names hforeground hbackground]
    push Not
    rfl
  rw [Reading.of]
  cases hnames : names? token with
  | none =>
    refine iff_of_false ?_ (by simp)
    rintro ⟨first, second, hform, -⟩
    rw [names?_eq_some_iff.2 hform] at hnames
    exact Option.some_ne_none _ hnames
  | some names =>
    obtain ⟨first, second⟩ := names
    have hform : HasForm token first second := names?_eq_some_iff.1 hnames
    have hread : (if (paintOf first second).isPlain then Reading.unresolved
        else .directive (paintOf first second)) = .unresolved
          ↔ (paintOf first second).isPlain = true := by
      split <;> simp_all
    refine Iff.trans ?_ hread.symm
    rw [hplain hform]
    constructor
    · rintro ⟨other, otherSecond, hother, hnone⟩
      obtain ⟨rfl, rfl⟩ := hform.unique hother
      exact hnone
    · intro hnone
      exact ⟨first, second, hform, hnone⟩

instance (token : Text) : Decidable (Unresolved token) :=
  decidable_of_iff _ (unresolved_iff token).symm

/-- Only a token that may be a directive is told of. -/
theorem read_eq_unresolved_iff (expectation : Expectation) (token : Text) :
    expectation.read token = .unresolved ↔ expectation = .directive ∧ Unresolved token := by
  cases expectation <;> simp [Expectation.read, unresolved_iff]

theorem expectation_eq_directive_iff (reading : Reading) :
    reading.expectation = .directive ↔ reading.paint? = none := by
  rw [← ne_payload_iff, ne_eq, expectation_eq_payload_iff, Bool.not_eq_true,
    Option.isSome_eq_false_iff, Option.isNone_iff_eq_none]

variable {delimiter : Char} {markup first : Text} {rest : List Text}

theorem paintAt?_succ_of_tokens (h : tokens delimiter markup = first :: rest) {i : ℕ}
    {token : Text} (htoken : rest[i]? = some token) (hi : i + 1 < rest.length) :
    paintAt? delimiter markup (i + 1)
      = ((Expectation.after .directive (rest.take i)).read token).paint? := by
  have hitems : items delimiter markup = .shown first :: itemsAfterFirst .directive rest := by
    rw [items, h]
  rw [paintAt?, classified, hitems, List.map_cons, List.getElem?_cons_succ, List.getElem?_map,
    getElem?_itemsAfterFirst, htoken]
  simp [hi, Item.classified]

/-- A token may be a directive if the one before it is none. -/
theorem after_take_eq_directive_iff (h : tokens delimiter markup = first :: rest) {i : ℕ}
    (hi : i < rest.length) :
    Expectation.after .directive (rest.take i) = .directive
      ↔ paintAt? delimiter markup i = none := by
  cases i with
  | zero => simp [Expectation.after, paintAt?_zero]
  | succ i =>
    have htoken : rest[i]? = some rest[i] := List.getElem?_eq_getElem (by omega)
    have hstep : Expectation.after .directive (rest.take (i + 1))
        = ((Expectation.after .directive (rest.take i)).read rest[i]).expectation := by
      rw [List.take_add_one, htoken, Expectation.after, List.foldl_append]
      rfl
    rw [hstep, expectation_eq_directive_iff, paintAt?_succ_of_tokens h htoken hi]

/-- Whether the log is told of the token at place `i`: it has a delimiter on both sides, the token
before it is no directive, and it is unresolved by itself. -/
def ToldAt (delimiter : Char) (markup : Text) (i : ℕ) (token : Text) : Prop :=
  0 < i ∧ i + 1 < (tokens delimiter markup).length ∧ paintAt? delimiter markup (i - 1) = none
    ∧ Unresolved token

instance (delimiter : Char) (markup : Text) (i : ℕ) (token : Text) :
    Decidable (ToldAt delimiter markup i token) :=
  inferInstanceAs (Decidable (_ ∧ _ ∧ _ ∧ _))

/-- What there is to tell about the items of a text, place by place. -/
theorem getElem?_map_records_items (delimiter : Char) (markup : Text) (i : ℕ) :
    ((items delimiter markup)[i]?).map Item.records
      = ((tokens delimiter markup)[i]?).map fun token =>
          if ToldAt delimiter markup i token then [.unresolved token] else [] := by
  cases hcut : tokens delimiter markup with
  | nil => exact absurd hcut (tokens_ne_nil delimiter markup)
  | cons first rest =>
    have hitems : items delimiter markup = .shown first :: itemsAfterFirst .directive rest := by
      rw [items, hcut]
    rw [hitems]
    cases i with
    | zero =>
      simp [ToldAt, Item.shown, Item.records, Reading.records]
    | succ i =>
      rw [List.getElem?_cons_succ, List.getElem?_cons_succ, getElem?_itemsAfterFirst,
        Option.map_map]
      apply Option.map_congr
      intro token htoken
      have hi : i < rest.length := (List.getElem?_eq_some_iff.1 htoken).1
      by_cases hlast : i + 1 < rest.length
      · have htold : ToldAt delimiter markup (i + 1) token
            ↔ (Expectation.after .directive (rest.take i)).read token = .unresolved := by
          rw [read_eq_unresolved_iff, after_take_eq_directive_iff hcut hi, ToldAt, hcut]
          simp [hlast]
        simp only [Function.comp_apply, if_pos hlast, htold, Item.records]
        cases (Expectation.after .directive (rest.take i)).read token <;> simp [Reading.records]
      · have htold : ¬ToldAt delimiter markup (i + 1) token := by
          rw [ToldAt, hcut]
          simp [hlast]
        simp [hlast, htold, Item.shown, Item.records, Reading.records]

end Markup

/-! ## Where a rendering is refused -/

/-- The number of the first event that a console refuses when it is given some events in order; none
if it takes them all. -/
def refusedAt? {σ : Type} [Console σ] (console : σ) : List Event → Option ℕ
  | [] => none
  | event :: rest =>
    match Console.write console event with
    | (next, none) => (refusedAt? next rest).map (· + 1)
    | (_, some _) => some 0

section Refused

variable {σ : Type} [Console σ]

/-- A console that takes only so many events refuses the one after them. -/
theorem refusedAt?_of_takesOnly {console : σ} {count : ℕ} (h : TakesOnly count console)
    (events : List Event) :
    refusedAt? console events = if count < events.length then some count else none := by
  induction events generalizing console count with
  | nil => simp [refusedAt?]
  | cons event rest ih =>
    cases count with
    | zero =>
      obtain ⟨next, fault, hwrite⟩ := h.exists_fault event
      simp [refusedAt?, hwrite]
    | succ count =>
      obtain ⟨next, hwrite, hnext⟩ := h.exists_next event
      rw [refusedAt?, hwrite]
      simp only [ih hnext, List.length_cons, Nat.add_lt_add_iff_right]
      split <;> rfl

/-- A script fails if one of its events is refused, and only then. -/
theorem failure_play_eq_none_iff_refusedAt? (console : σ) (script : Script) :
    (play console script).failure = none ↔ refusedAt? console script.events = none := by
  induction script generalizing console with
  | nil => simp [play, refusedAt?]
  | cons action rest ih =>
    cases action with
    | record told => exact ih console
    | write event =>
      rw [Script.events_write, refusedAt?]
      cases hwrite : Console.write console event with
      | mk next answer =>
        cases answer with
        | none => simpa [play, hwrite] using ih next
        | some fault => simp [play, hwrite]

end Refused

/-- Whether a token, with the paint that it sets if it is a directive, is written. -/
def IsWritten (token : Text × Option Paint) : Prop :=
  token.2 = none ∧ token.1 ≠ []

instance (token : Text × Option Paint) : Decidable (IsWritten token) :=
  inferInstanceAs (Decidable (_ ∧ _))

/-- Whether the write of the token at place `i` is refused: it is written, and the number of its
event, which is the number of tokens written before it, is that of the event refused. -/
def WriteRefused (refused? : Option ℕ) (tokens : List (Text × Option Paint)) (i : ℕ) : Prop :=
  (∃ token ∈ tokens[i]?, IsWritten token)
    ∧ refused? = some ((tokens.take i).countP fun token => IsWritten token)

/-- Whether a rendering comes as far as the token at place `i`: no token before it is refused. -/
def Reached (refused? : Option ℕ) (tokens : List (Text × Option Paint)) (i : ℕ) : Prop :=
  ∀ j < i, ¬WriteRefused refused? tokens j

instance (refused? : Option ℕ) (tokens : List (Text × Option Paint)) (i : ℕ) :
    Decidable (WriteRefused refused? tokens i) :=
  inferInstanceAs (Decidable (_ ∧ _))

instance (refused? : Option ℕ) (tokens : List (Text × Option Paint)) (i : ℕ) :
    Decidable (Reached refused? tokens i) :=
  inferInstanceAs (Decidable (∀ j < i, _))

section Reached

variable {token : Text × Option Paint} {rest : List (Text × Option Paint)} {refused? : Option ℕ}

theorem reached_zero (refused? : Option ℕ) (tokens : List (Text × Option Paint)) :
    Reached refused? tokens 0 := by
  intro j hj
  exact absurd hj (Nat.not_lt_zero j)

theorem reached_succ (refused? : Option ℕ) (tokens : List (Text × Option Paint)) (i : ℕ) :
    Reached refused? tokens (i + 1)
      ↔ ¬WriteRefused refused? tokens 0 ∧ ∀ j < i, ¬WriteRefused refused? tokens (j + 1) := by
  unfold Reached
  constructor
  · intro h
    exact ⟨h 0 (Nat.succ_pos i), fun j hj => h (j + 1) (Nat.succ_lt_succ hj)⟩
  · rintro ⟨hzero, hsucc⟩ j hj
    cases j with
    | zero => exact hzero
    | succ j => exact hsucc j (Nat.lt_of_succ_lt_succ hj)

/-- A token that is not written is always gone past. -/
theorem reached_cons_of_not_written (h : ¬IsWritten token) (i : ℕ) :
    Reached refused? (token :: rest) (i + 1) ↔ Reached refused? rest i := by
  rw [reached_succ, Reached]
  have hzero : ¬WriteRefused refused? (token :: rest) 0 := by
    simp [WriteRefused, h]
  have hsucc (j : ℕ) : WriteRefused refused? (token :: rest) (j + 1)
      ↔ WriteRefused refused? rest j := by
    simp [WriteRefused, h]
  simp [hzero, hsucc]

/-- A token whose write is taken is gone past. -/
theorem reached_cons_of_written (h : IsWritten token) (i : ℕ) :
    Reached (refused?.map (· + 1)) (token :: rest) (i + 1) ↔ Reached refused? rest i := by
  rw [reached_succ, Reached]
  have hzero : ¬WriteRefused (refused?.map (· + 1)) (token :: rest) 0 := by
    simp [WriteRefused]
  have hsucc (j : ℕ) : WriteRefused (refused?.map (· + 1)) (token :: rest) (j + 1)
      ↔ WriteRefused refused? rest j := by
    simp [WriteRefused, h]
  simp [hzero, hsucc]

/-- No token is reached after one whose write is refused. -/
theorem not_reached_cons (h : IsWritten token) (i : ℕ) :
    ¬Reached (some 0) (token :: rest) (i + 1) := by
  rw [reached_succ]
  intro hreached
  exact hreached.1 (by simp [WriteRefused, h])

end Reached

/-! ## The log of a rendering -/

/-- One step of a rendering: the log is told, then the token is written. -/
theorem renderItems_cons (brush : Brush) (item : Item) (rest : List Item) :
    renderItems brush (item :: rest)
      = item.records.map .record ++ (brush.events item.classified).map .write
        ++ renderItems (brush.after item.classified) rest := by
  obtain ⟨token, reading⟩ := item
  have hwrite : (brush.events (token, none)).map Action.write = brush.write token := by
    by_cases hempty : token = [] <;> simp [Brush.events, Brush.write, hempty]
  cases reading with
  | directive paint => rfl
  | text => rw [Item.classified, Reading.paint?, hwrite]; rfl
  | unresolved => rw [Item.classified, Reading.paint?, hwrite]; rfl

section Play

variable {σ : Type} [Console σ]

theorem records_play_map_record (console : σ) (records : List Log.Record) (script : Script) :
    (play console (records.map .record ++ script)).records
      = records ++ (play console script).records := by
  induction records with
  | nil => rfl
  | cons told records ih => exact congrArg (List.cons told) ih

theorem records_play_closing (console : σ) (breaks : List Event) (last : Log.Record) :
    (play console (breaks.map .write ++ [.record last])).records
      = if refusedAt? console breaks = none then [last] else [] := by
  induction breaks generalizing console with
  | nil => rfl
  | cons event rest ih =>
    rw [List.map_cons, List.cons_append, play, refusedAt?]
    cases hwrite : Console.write console event with
    | mk next answer =>
      cases answer with
      | none => simp [ih]
      | some fault => simp

/-- What the log hears of some items, and of a record that comes after them and after some more
events: the items that are reached, and the record if nothing is refused. -/
theorem records_play_renderItems (console : σ) (brush : Brush) (items : List Item)
    (breaks : List Event) (last : Log.Record) :
    (play console (renderItems brush items ++ (breaks.map .write ++ [.record last]))).records
      = (items.mapIdx fun i item =>
          if Reached (refusedAt? console (brush.eventsOf (items.map Item.classified) ++ breaks))
              (items.map Item.classified) i then item.records else []).flatten
        ++ if refusedAt? console (brush.eventsOf (items.map Item.classified) ++ breaks) = none then
            [last]
          else [] := by
  induction items generalizing console brush with
  | nil => exact records_play_closing console breaks last
  | cons item rest ih =>
    rw [renderItems_cons, List.append_assoc, List.append_assoc, records_play_map_record,
      List.map_cons, Brush.eventsOf, List.mapIdx_cons, if_pos (reached_zero _ _),
      List.flatten_cons, List.append_assoc, List.append_assoc]
    congr 1
    by_cases hwritten : IsWritten item.classified
    · have hevents : brush.events item.classified = [.span (brush.span item.classified.1)] :=
        if_pos hwritten
      rw [hevents, List.map_singleton, List.singleton_append, List.singleton_append, play,
        refusedAt?]
      cases hwrite : Console.write console (.span (brush.span item.classified.1)) with
      | mk next answer =>
        cases answer with
        | none =>
          dsimp only
          rw [ih]
          simp only [reached_cons_of_written hwritten, Option.map_eq_none_iff]
        | some fault => simp [not_reached_cons hwritten]
    · have hevents : brush.events item.classified = [] := if_neg hwritten
      rw [hevents, List.map_nil, List.nil_append, List.nil_append, ih]
      simp only [reached_cons_of_not_written hwritten]

end Play

/-- The records of a rendering: of the tokens that are told of, those that are reached, and at the
end of a rendering that nothing was refused of, how much was rendered. -/
theorem records_play_render_eq {σ : Type} [Console σ] (console : σ) (config : Config)
    (markup : Text) :
    (play console (render config markup)).records
      = ((tokens config.delimiter markup).mapIdx fun i token =>
          if ToldAt config.delimiter markup i token
              ∧ Reached (refusedAt? console (render config markup).events)
                (classified config.delimiter markup) i then
            [.unresolved token]
          else []).flatten
        ++ if refusedAt? console (render config markup).events = none then
            [.rendered (tokens config.delimiter markup).length markup.byteLength]
          else [] := by
  have hlength : (items config.delimiter markup).length
      = (tokens config.delimiter markup).length := by
    rw [← map_token_items, List.length_map]
  -- the line break is all that may come between the items and the last record
  obtain ⟨breaks, hscript, hevents⟩ : ∃ breaks : List Event,
      render config markup
          = renderItems (.new config) (items config.delimiter markup)
            ++ (breaks.map .write
              ++ [.record (.rendered (tokens config.delimiter markup).length markup.byteLength)])
        ∧ (render config markup).events
          = (Brush.new config).eventsOf (classified config.delimiter markup) ++ breaks := by
    refine ⟨if config.noNewline then [] else [.lineBreak], ?_,
      events_render_eq_eventsOf config markup⟩
    rw [render, hlength]
    cases config.noNewline <;> simp
  have hitems (reached : ℕ → Prop) [DecidablePred reached] :
      ((items config.delimiter markup).mapIdx fun i item => if reached i then item.records else [])
        = (tokens config.delimiter markup).mapIdx fun i token =>
          if ToldAt config.delimiter markup i token ∧ reached i then [.unresolved token]
          else [] := by
    apply List.ext_getElem?
    intro i
    have hplace := congrArg (Option.map fun records => if reached i then records else [])
      (getElem?_map_records_items config.delimiter markup i)
    rw [Option.map_map, Option.map_map] at hplace
    rw [List.getElem?_mapIdx, List.getElem?_mapIdx]
    refine hplace.trans ?_
    congr 1
    funext token
    by_cases hreached : reached i <;> simp [hreached]
  rw [hevents, hscript, records_play_renderItems]
  exact congrArg (fun records => List.flatten records ++ _) (hitems _)

/-- The log follows a rendering on any console, up to the event that the console refuses, if it
refuses one: it hears of each token that is told of, in order, up to the one whose write is refused,
and of the whole only if nothing is. -/
theorem records_play_render {σ : Type} [Console σ] (console : σ) (config : Config)
    (markup : Text) :
    let cut := tokens config.delimiter markup
    let report := play console (render config markup)
    let events := (render config markup).events
    let refused? := refusedAt? console events
    (report.failure = none ↔ refused? = none)
      ∧ (∀ count, TakesOnly count console →
        refused? = if count < events.length then some count else none)
      ∧ report.records.map (fun record => (record.level, record.message))
        = (cut.mapIdx fun i token =>
            if ToldAt config.delimiter markup i token
                ∧ Reached refused? (classified config.delimiter markup) i then
              [(Log.Level.trace,
                "directive ".toList ++ token.quoted
                  ++ " did not resolve, rendering as text".toList)]
            else []).flatten
          ++ if report.failure = none then
              [(Log.Level.debug,
                "rendered ".toList ++ Text.ofNat (markup.count config.delimiter + 1)
                  ++ " tokens from ".toList ++ Text.ofNat markup.utf8.length
                  ++ " bytes of markup".toList)]
            else [] := by
  intro cut report events refused?
  have hfailure : report.failure = none ↔ refused? = none :=
    failure_play_eq_none_iff_refusedAt? console (render config markup)
  refine ⟨hfailure, fun count htakes => refusedAt?_of_takesOnly htakes events, ?_⟩
  have hrecords := records_play_render_eq console config markup
  rw [length_tokens, ← Text.length_utf8] at hrecords
  simp only [report, hrecords, hfailure]
  rw [List.map_append, List.map_flatten]
  congr 2
  · apply List.ext_getElem?
    intro i
    rw [List.getElem?_map, List.getElem?_mapIdx, List.getElem?_mapIdx, Option.map_map]
    congr 1
    funext token
    simp only [Function.comp_apply, apply_ite (List.map _), List.map_cons, List.map_nil]
    rfl
  · rw [apply_ite (List.map _)]
    rfl

/-- A console that refuses the fourth event, and one that refuses none: the payload of a directive
looks like a directive and is not told of, and the token that is refused is. -/
theorem records_play_render_of_refused_token :
    let markup : Text := "a#bogus#green#bogus#zork:x#end".toList
    let refusing := play ({ remaining := 3 } : Limited) (render {} markup)
    let recording := play ({} : Recorder) (render {} markup)
    let said := fun record : Log.Record => (record.level, record.message)
    let told (token : Text) : Log.Level × Text :=
      (.trace, "directive ".toList ++ token.quoted ++ " did not resolve, rendering as text".toList)
    refusing.failure ≠ none
      ∧ refusing.records.map said = [told "bogus".toList, told "zork:x".toList]
      ∧ recording.records.map said
        = [told "bogus".toList, told "zork:x".toList,
            (.debug, "rendered 6 tokens from 30 bytes of markup".toList)] := by
  intro markup refusing recording said told
  obtain ⟨hfailure, hrefused, hlog⟩ :=
    records_play_render ({ remaining := 3 } : Limited) {} markup
  have hthird := hrefused 3 (Limited.takesOnly {} 3)
  have hall := (records_play_render ({} : Recorder) {} markup).2.2
  refine ⟨?_, hlog.trans (by decide +kernel), hall.trans (by decide +kernel)⟩
  rw [ne_eq, hfailure, hthird]
  decide +kernel

end ColorMarkup
