/-
Module: ProcessWatch.Proofs.Report.Table
Purpose: A table of records can be read back: every record has a line of its own, and the words of that
  line say what the record is, however wide they are for their columns.
Trusted boundary: none
Main exports: Report.words_tableLine, Report.milliseconds?, Report.Row, Report.Row.ofWords?,
  Report.Row.ofWords?_cells, Report.rows, Report.rows_table, Report.table_reads_back
-/
import ProcessWatch.Proofs.Command.Grammar
import ProcessWatch.Proofs.CommandName
import ProcessWatch.Proofs.Report.Lines
import ProcessWatch.Proofs.Text.Padding
import ProcessWatch.Report.Table
import Mathlib.Data.List.Basic

namespace ProcessWatch

namespace Report

/-! ## Lines of cells -/

/-- A cell that is too wide for its column still ends before the next one begins. -/
theorem separates_zipWith_padRight {widths : List Nat} {cells : List String}
    (isWord : ∀ cell ∈ cells, Text.IsWord cell.toList) (enough : cells.length ≤ widths.length) :
    Text.Separates (cells.map String.toList)
      (" ".intercalate (List.zipWith Text.padRight widths cells)).toList := by
  induction cells generalizing widths with
  | nil =>
      rw [List.zipWith_nil_right]
      exact .blanks (by simp)
  | cons cell cells inductionHypothesis =>
      obtain ⟨first, others⟩ := List.forall_mem_cons.mp isWord
      cases widths with
      | nil => simp at enough
      | cons width widths =>
          have tail := inductionHypothesis others (by simpa using enough)
          cases cells with
          | nil =>
              have single : Text.Separates [cell.toList]
                  ((Text.padRight width cell).toList ++ []) :=
                Text.Separates.padRight first rfl (.blanks (by simp)) width
              simpa using single
          | cons next cells =>
              cases widths with
              | nil => simp at enough
              | cons nextWidth widths =>
                  have more : Text.Separates _ ((Text.padRight width cell).toList ++ ' ' :: _) :=
                    Text.Separates.padRight first rfl (tail.cons_blank rfl) width
                  simpa [String.intercalate_cons_cons] using more

/-- The words of a line of a table are its cells, if all of them are words. -/
theorem words_tableLine {cells : List String} (isWord : ∀ cell ∈ cells, Text.IsWord cell.toList)
    (enough : cells.length ≤ columnWidths.length) : Text.words (tableLine cells) = cells :=
  Text.words_eq_iff.mpr (separates_zipWith_padRight isWord enough)

/-! ## Times -/

/-- The milliseconds that a time in a table says: seconds, a point, and three digits. -/
def milliseconds? (word : String) : Option Nat :=
  match word.toList.splitOn '.' with
  | [seconds, rest] =>
      if rest.length = 3 then do
        let seconds ← Text.digitsValue? seconds
        let rest ← Text.digitsValue? rest
        return seconds * 1000 + rest
      else
        none
  | _ => none

theorem not_mem_of_isDecimal {digits : List Char} (isDecimal : Text.IsDecimal digits) :
    '.' ∉ digits :=
  fun point => absurd (isDecimal.digits _ point) (by decide)

theorem isDecimal_toString (number : Nat) : Text.IsDecimal (toString number).toList :=
  (Text.digitsValue?_eq_some_iff.mp (Text.digitsValue?_toString number)).1

/-- A time in a table says the milliseconds that had passed. -/
theorem milliseconds?_clockTime (time : Timestamp) :
    milliseconds? (clockTime time) = some (time / 1000000) := by
  let rest := Text.zeroPadded 3 (time % nanosPerSecond / 1000000)
  have small : time % nanosPerSecond / 1000000 < 10 ^ 3 :=
    Nat.div_lt_of_lt_mul (Nat.mod_lt _ (by decide))
  have short : (Nat.toDigits 10 (time % nanosPerSecond / 1000000)).length ≤ 3 :=
    (Nat.length_toDigits_le_iff (by decide) (by decide)).mpr small
  have parts : (clockTime time).toList.splitOn '.' =
      [(toString (time / nanosPerSecond)).toList, rest.toList] := by
    have point : (clockTime time).toList =
        (toString (time / nanosPerSecond)).toList ++ '.' :: rest.toList := by
      simp [clockTime, rest]
    rw [point, List.splitOn_append_cons_self_of_not_mem (not_mem_of_isDecimal (isDecimal_toString _)),
      List.splitOn_eq_singleton (not_mem_of_isDecimal (Text.isDecimal_zeroPadded _ _))]
  have sum : ∀ nanos : Nat,
      nanos / 1000000000 * 1000 + nanos % 1000000000 / 1000000 = nanos / 1000000 := by
    omega
  simp only [milliseconds?, parts, rest, Text.length_zeroPadded short, if_true,
    Text.digitsValue?_toString, Text.digitsValue?_zeroPadded, Option.bind_eq_bind,
    Option.bind_some]
  exact congrArg some (sum time)

/-- A time is a word, with its point and three digits behind it. -/
theorem isWord_clockTime (time : Timestamp) : Text.IsWord (clockTime time).toList := by
  have seconds := (isDecimal_toString (time / nanosPerSecond)).isWord
  have rest := (Text.isDecimal_zeroPadded 3 (time % nanosPerSecond / 1000000)).isWord
  constructor
  · simp [clockTime]
  · intro c member
    rw [clockTime, String.toList_append, String.toList_append, List.mem_append,
      List.mem_append] at member
    rcases member with (digit | point) | digit
    · exact seconds.visible c digit
    · rw [List.mem_singleton.mp point]
      rfl
    · exact rest.visible c digit

/-! ## Rows -/

/-- What a line of a table says of a record.  Times are in milliseconds, and the lifetime is in
seconds. -/
structure Row where
  pid : Pid
  parent : Pid
  name : String
  started : Nat
  ended : Option Nat
  status : Status
  exitCode : ExitCode
  lifetime : Nat
deriving DecidableEq, Repr

namespace Row

/-- What there is to say of a record. -/
def ofRecord (record : Record) : Row where
  pid := record.pid
  parent := record.parent
  name := record.name.text
  started := record.startedAt / 1000000
  ended := record.endedAt.map (· / 1000000)
  status := record.status
  exitCode := record.exitCode
  lifetime := (record.endedAt.map (· - record.startedAt)).getD 0 / nanosPerSecond

/-- The time at which a process ended; a dash stands for none. -/
def ending? (word : String) : Option (Option Nat) :=
  if word = "-" then some none else (milliseconds? word).map some

/-- The status that a word is for. -/
def status? (word : String) : Option Status :=
  [("RUNNING", .running), ("EXITED", .exited)].lookup word

/-- What the words of a line say, if there are eight of them and each says what it is to say. -/
def ofWords? : List String → Option Row
  | [pid, parent, name, started, ended, status, exitCode, lifetime] => do
      return {
        pid := ← Text.readUInt32? pid
        parent := ← Text.readUInt32? parent
        name := name
        started := ← milliseconds? started
        ended := ← ending? ended
        status := ← status? status
        exitCode := ← Text.readInt32? exitCode
        lifetime := ← Text.digitsValue? lifetime.toList }
  | _ => none

/-- A dash says that a process has not ended, and no time is written like one. -/
theorem ending?_eq (endedAt : Option Timestamp) :
    ending? ((endedAt.map clockTime).getD "-") = some (endedAt.map (· / 1000000)) := by
  cases endedAt with
  | none => rfl
  | some time =>
      have noDash : clockTime time ≠ "-" := by
        intro dash
        have noPoint := milliseconds?_clockTime time
        rw [dash] at noPoint
        cases noPoint
      simp only [ending?, Option.map_some, Option.getD_some, if_neg noDash, milliseconds?_clockTime]

theorem lifetimeSeconds_eq (record : Record) :
    record.lifetimeSeconds =
      (record.endedAt.map (· - record.startedAt)).getD 0 / nanosPerSecond := by
  rw [Record.lifetimeSeconds, Record.lifetimeSeconds?]
  cases record.endedAt with
  | none => exact (Nat.zero_div _).symm
  | some time => rfl

/-- The cells of a record say what there is to say of it. -/
theorem ofWords?_cells (record : Record) : ofWords? (cells record) = some (ofRecord record) := by
  have number : ∀ pid : Pid, Text.readUInt32? (toString pid.toNat) = some pid :=
    fun _ => Text.readUInt32?_eq_some_iff.mpr (Text.unsigned_toString _)
  have exitCode : Text.readInt32? (toString record.exitCode.toInt) = some record.exitCode :=
    Text.readInt32?_eq_some_iff.mpr (Text.signed_toString _)
  have status : status? record.status.label = some record.status := by
    cases record.status <;> rfl
  simp only [cells, ofWords?, number, milliseconds?_clockTime, ending?_eq, status, exitCode,
    Text.digitsValue?_toString, Option.bind_eq_bind, Option.bind_some, lifetimeSeconds_eq]
  rfl

/-- A line says nothing if its first word is no number. -/
theorem ofWords?_of_unread {word : String} (unread : Text.readUInt32? word = none)
    (words : List String) : ofWords? (word :: words) = none := by
  unfold ofWords?
  split
  case h_1 same =>
    obtain ⟨rfl, -⟩ := List.cons.inj same
    rw [unread]
    rfl
  case h_2 => rfl

end Row

/-- Every cell of a record is a word if its name is one. -/
theorem isWord_of_mem_cells {record : Record} (named : Text.IsWord record.name.text.toList) :
    ∀ cell ∈ cells record, Text.IsWord cell.toList := by
  have number : ∀ value : Nat, Text.IsWord (toString value).toList :=
    fun value => (isDecimal_toString value).isWord
  have ended : Text.IsWord ((record.endedAt.map clockTime).getD "-").toList := by
    cases record.endedAt with
    | none => exact Text.isWord_of_all rfl rfl
    | some time => exact isWord_clockTime time
  have status : Text.IsWord record.status.label.toList := by
    cases record.status <;> exact Text.isWord_of_all rfl rfl
  simp only [cells, List.forall_mem_cons]
  exact ⟨number _, number _, named, isWord_clockTime _, ended, status,
    Text.isWord_of_signed (Text.signed_toString _), number _, nofun⟩

/-- The line of a record has eight words. -/
theorem words_row {record : Record} (named : Text.IsWord record.name.text.toList) :
    Text.words (row record) = cells record :=
  words_tableLine (isWord_of_mem_cells named) (Nat.le_refl _)

/-! ## Tables -/

/-- What a line of a table says, if it is the line of a record. -/
def Row.ofLine? (line : String) : Option Row := ofWords? (Text.words line)

/-- What is said in a table, line by line, below its three lines of headings. -/
def rows (text : String) : List Row :=
  ((Text.lines text).drop 3).filterMap Row.ofLine?

/-- The line that says that more records match than are shown. -/
def truncationNote (count : Nat) : String :=
  "... (showing first " ++ toString count ++ " matching records)"

/-- The line that says how many records match. -/
def totalLine (count : Nat) : String :=
  "Total matching records: " ++ toString count

/-- The first word of a line is what stands before its first space. -/
theorem words_append_space {word : String} (isWord : Text.IsWord word.toList) (rest : String) :
    Text.words (word ++ (" " ++ rest)) = word :: Text.words rest := by
  have gap : (" " ++ rest).toList = ' ' :: rest.toList := by simp
  rw [Text.words, String.toList_append, gap, Text.wordRuns_append_of_isWord isWord rfl,
    Text.wordRuns_cons_of_blank _ rfl, List.map_cons, String.ofList_toList, Text.words]

/-- A line says nothing of a record if it starts with a word that is no process number. -/
theorem ofLine?_of_front {word middle back front line : String} (isWord : Text.IsWord word.toList)
    (unread : Text.readUInt32? word = none) (split : front = word ++ (" " ++ middle))
    (begins : line = front ++ back) : Row.ofLine? line = none := by
  rw [Row.ofLine?, begins, split, String.append_assoc, String.append_assoc, words_append_space isWord]
  exact Row.ofWords?_of_unread unread _

/-- The note on truncation says nothing of a record. -/
theorem ofLine?_truncationNote (count : Nat) : Row.ofLine? (truncationNote count) = none := by
  have first : "... (showing first " = "..." ++ (" " ++ "(showing first ") := by decide
  have whole : truncationNote count =
      "... (showing first " ++ (toString count ++ " matching records)") := String.append_assoc
  exact ofLine?_of_front (Text.isWord_of_all rfl rfl) rfl first whole

theorem ofLine?_totalLine (count : Nat) : Row.ofLine? (totalLine count) = none := by
  have first : "Total matching records: " = "Total" ++ (" " ++ "matching records: ") := by decide
  exact ofLine?_of_front (Text.isWord_of_all rfl rfl) rfl first rfl

/-- The lines of a table between its headings and its end. -/
def body (listing : Listing) : List String :=
  listing.records.map row ++
    if listing.truncated then [truncationNote listing.records.length] else []

/-- A table has its headings, then its body, and the total below a blank line. -/
theorem tableLines_eq (title : String) (listing : Listing) :
    tableLines title listing =
      ["=== " ++ title ++ " ===", tableLine columnTitles, rule] ++ body listing ++
        ["", totalLine listing.totalMatched] := by
  unfold tableLines
  exact congrArg (· ++ _) (List.append_assoc _ _ _)

theorem holdsNoFeed_tableLine {cells : List String}
    (noFeed : ∀ cell ∈ cells, HoldsNoFeed cell) : HoldsNoFeed (tableLine cells) := by
  apply holdsNoFeed_intercalate
  intro part member
  rw [← List.map_uncurry_zip_eq_zipWith] at member
  obtain ⟨⟨width, cell⟩, pair, rfl⟩ := List.mem_map.mp member
  have space : '\n' ∉ Text.spaces (width - cell.length) :=
    fun feed => absurd (List.eq_of_mem_replicate feed) (by decide)
  simpa [HoldsNoFeed, space] using noFeed cell (List.of_mem_zip pair).2

theorem holdsNoFeed_rule : HoldsNoFeed rule := by
  have chars : rule.toList = List.replicate 80 '-' := String.toList_ofList
  intro feed
  rw [chars] at feed
  exact absurd (List.eq_of_mem_replicate feed) (by decide)

/-- A title and names without line feeds are all that it takes for a table to have none in its lines. -/
theorem holdsNoFeed_of_mem_tableLines {title : String} (noFeed : HoldsNoFeed title)
    {listing : Listing}
    (named : ∀ record ∈ listing.records, Text.IsWord record.name.text.toList) :
    ∀ line ∈ tableLines title listing, HoldsNoFeed line := by
  have number : ∀ count : Nat, HoldsNoFeed (toString count) :=
    fun count => holdsNoFeed_of_isWord (isDecimal_toString count).isWord
  rw [tableLines_eq, body]
  simp only [List.forall_mem_append, List.forall_mem_cons]
  refine ⟨⟨⟨?_, ?_, ?_, nofun⟩, ?_, ?_⟩, ?_, ?_, nofun⟩
  · exact holdsNoFeed_append.mpr ⟨holdsNoFeed_append.mpr ⟨by decide, noFeed⟩, by decide⟩
  · exact holdsNoFeed_tableLine (by decide)
  · exact holdsNoFeed_rule
  · intro line member
    obtain ⟨record, held, rfl⟩ := List.mem_map.mp member
    exact holdsNoFeed_tableLine fun cell isCell =>
      holdsNoFeed_of_isWord (isWord_of_mem_cells (named record held) cell isCell)
  · split
    · simp only [List.forall_mem_cons]
      exact ⟨holdsNoFeed_append.mpr
        ⟨holdsNoFeed_append.mpr ⟨by decide, number _⟩, by decide⟩, nofun⟩
    · exact nofun
  · decide
  · exact holdsNoFeed_append.mpr ⟨by decide, number _⟩

/-- A table splits at its line feeds into the lines that it was made of. -/
theorem lines_table {title : String} (noFeed : HoldsNoFeed title) {listing : Listing}
    (named : ∀ record ∈ listing.records, Text.IsWord record.name.text.toList) :
    Text.lines (table title listing) = tableLines title listing ++ [""] :=
  lines_ofLines (holdsNoFeed_of_mem_tableLines noFeed named)

/-- Reading all that was written gives what there was to say. -/
theorem filterMap_map_of_read {α β γ : Type} {write : α → β} {read : β → Option γ} {said : α → γ}
    {values : List α} (reads : ∀ value ∈ values, read (write value) = some (said value)) :
    (values.map write).filterMap read = values.map said := by
  rw [List.filterMap_map, ← List.filterMap_eq_map]
  exact List.filterMap_congr reads

/-- What a table says is what there is to say of its records, in their order. -/
theorem rows_table {title : String} (noFeed : HoldsNoFeed title) {listing : Listing}
    (named : ∀ record ∈ listing.records, Text.IsWord record.name.text.toList) :
    rows (table title listing) = listing.records.map Row.ofRecord := by
  have readRows : (listing.records.map row).filterMap Row.ofLine? =
      listing.records.map Row.ofRecord :=
    filterMap_map_of_read fun record held => by
      rw [Row.ofLine?, words_row (named record held), Row.ofWords?_cells]
  have readNote : (if listing.truncated then [truncationNote listing.records.length] else []).filterMap
      Row.ofLine? = [] := by
    split
    · simp only [List.filterMap_cons, ofLine?_truncationNote, List.filterMap_nil]
    · rfl
  have readEnd : ["", totalLine listing.totalMatched, ""].filterMap Row.ofLine? = [] := by
    have readBlank : Row.ofLine? "" = none := rfl
    simp only [List.filterMap_cons, readBlank, ofLine?_totalLine, List.filterMap_nil]
  have below : (tableLines title listing ++ [""]).drop 3 =
      body listing ++ ["", totalLine listing.totalMatched, ""] := by
    simp only [tableLines_eq, List.append_assoc, List.cons_append, List.nil_append,
      List.drop_succ_cons, List.drop_zero]
  rw [rows, lines_table noFeed named, below, List.filterMap_append, body, List.filterMap_append,
    readRows, readNote, readEnd, List.append_nil, List.append_nil]

/-- Names that are given by lines are words, and remain so when they are cut. -/
theorem isWord_of_fork {line name : String} {pid parent : Pid}
    (given : Command.parse line = .ok (.fork pid parent name)) :
    Text.IsWord (CommandName.ofString name).text.toList := by
  obtain ⟨keyword, words, takes, isWord⟩ := Command.takes_of_parse given
  cases takes with
  | fork => exact CommandName.isWord_ofString (isWord name (by simp))

/-- The parts of a table between its line feeds are its headings, a line for every record, a note if it
is truncated, a blank line and the total.  The line of a record has eight words, which say what there is
to say of it.  So two tables are the same only if they show the same records, as far as tables tell them
apart.  Names may be any words, and those that are given by lines are words. -/
theorem table_reads_back {title : String} (noFeed : '\n' ∉ title.toList) {listing : Listing}
    (named : ∀ record ∈ listing.records, Text.IsWord record.name.text.toList) :
    Text.lines (table title listing) =
        ["=== " ++ title ++ " ===", tableLine columnTitles, rule] ++ listing.records.map row ++
          (if listing.truncated then
            ["... (showing first " ++ toString listing.records.length ++ " matching records)"]
          else
            []) ++
          ["", "Total matching records: " ++ toString listing.totalMatched] ++ [""] ∧
      (∀ record ∈ listing.records, (Text.words (row record)).length = 8 ∧
        Row.ofWords? (Text.words (row record)) = some (Row.ofRecord record)) ∧
      rows (table title listing) = listing.records.map Row.ofRecord ∧
      (∀ (otherTitle : String) (other : Listing), '\n' ∉ otherTitle.toList →
        (∀ record ∈ other.records, Text.IsWord record.name.text.toList) →
        table title listing = table otherTitle other →
        listing.records.length = other.records.length ∧
          listing.records.map Record.name = other.records.map Record.name ∧
          listing.records.map Record.pid = other.records.map Record.pid ∧
          listing.records.map Record.status = other.records.map Record.status ∧
          listing.records.map Record.exitCode = other.records.map Record.exitCode) ∧
      ∀ line pid parent name, Command.parse line = .ok (.fork pid parent name) →
        Text.IsWord (CommandName.ofString name).text.toList := by
  refine ⟨lines_table noFeed named, ?_, rows_table noFeed named, ?_, fun _ _ _ _ => isWord_of_fork⟩
  · intro record held
    rw [words_row (named record held)]
    exact ⟨rfl, Row.ofWords?_cells record⟩
  · intro otherTitle other noFeedEither namedToo same
    have said : listing.records.map Row.ofRecord = other.records.map Row.ofRecord := by
      rw [← rows_table noFeed named, ← rows_table noFeedEither namedToo, same]
    refine ⟨?_, ?_, ?_, ?_, ?_⟩
    · simpa using congrArg List.length said
    · have texts : (listing.records.map Record.name).map CommandName.text =
          (other.records.map Record.name).map CommandName.text := by
        simpa [Row.ofRecord, Function.comp_def] using congrArg (List.map Row.name) said
      exact List.map_injective_iff.mpr (fun _ _ => CommandName.ext) texts
    · simpa [Row.ofRecord, Function.comp_def] using congrArg (List.map Row.pid) said
    · simpa [Row.ofRecord, Function.comp_def] using congrArg (List.map Row.status) said
    · simpa [Row.ofRecord, Function.comp_def] using congrArg (List.map Row.exitCode) said

/-- A process number and an exit code as wide as they get, and a name that is cut between two characters
of three bytes. -/
theorem table_reads_back_of_wide :
    let name := CommandName.ofString "日本日本日本"
    let first : Record := Record.started 8 4294967295 1 name 1999999999
    let second : Record :=
      { Record.started 9 7 4294967295 (CommandName.ofString "sh") 5000000 with
        endedAt := some 61004000000, status := .exited, exitCode := -2147483648 }
    let listing : Listing := ⟨[first, second], true, 3⟩
    '\n' ∉ "Process Records".toList ∧
      (∀ record ∈ listing.records, Text.IsWord record.name.text.toList) ∧
      rows (table "Process Records" listing) =
        [ ⟨4294967295, 1, "日本日本日", 1999, none, .running, 0, 0⟩,
          ⟨7, 4294967295, "sh", 5, some 61004, .exited, -2147483648, 60⟩ ] ∧
      Command.parse "fork 7 1 日本日本日本" = .ok (.fork 7 1 "日本日本日本") ∧
      Text.IsWord name.text.toList := by
  intro name first second listing
  have noFeed : '\n' ∉ "Process Records".toList := by decide
  have named : ∀ record ∈ listing.records, Text.IsWord record.name.text.toList := by
    intro record member
    rcases List.mem_cons.mp member with rfl | member
    · exact CommandName.isWord_ofString (Text.isWord_of_all rfl rfl)
    · rw [List.mem_singleton.mp member]
      exact CommandName.isWord_ofString (Text.isWord_of_all rfl rfl)
  have given : Command.parse "fork 7 1 日本日本日本" = .ok (.fork 7 1 "日本日本日本") := rfl
  obtain ⟨-, -, said, -, forked⟩ := table_reads_back noFeed named
  exact ⟨noFeed, named, said.trans (by decide), given, forked _ _ _ _ given⟩

end Report

end ProcessWatch
