/-
Module: ProcessWatch.Report.Table
Purpose: Listings as tables for people, one record a line.
Trusted boundary: none
Main exports: Report.table, Report.row, Report.clockTime
-/
import ProcessWatch.Listing
import ProcessWatch.Report.Basic
import ProcessWatch.Text.Padding

namespace ProcessWatch.Report

/-- A time of the store's clock in seconds, to the millisecond below. -/
def clockTime (time : Timestamp) : String :=
  toString (time / nanosPerSecond) ++ "." ++
    Text.zeroPadded 3 (time % nanosPerSecond / 1000000)

/-- The widths of the columns. -/
def columnWidths : List Nat := [8, 8, 16, 12, 12, 8, 9, 12]

/-- The titles of the columns. -/
def columnTitles : List String :=
  ["PID", "PPID", "COMMAND", "START_TIME", "END_TIME", "STATUS", "EXIT_CODE", "LIFETIME"]

/-- A line of the table: every cell at the left of its column, and a space between columns. -/
def tableLine (cells : List String) : String :=
  " ".intercalate (List.zipWith Text.padRight columnWidths cells)

/-- The cells of a record. -/
def cells (record : Record) : List String :=
  [ toString record.pid.toNat,
    toString record.parent.toNat,
    record.name.text,
    clockTime record.startedAt,
    (record.endedAt.map clockTime).getD "-",
    record.status.label,
    toString record.exitCode.toInt,
    toString record.lifetimeSeconds ]

/-- The line of a record. -/
def row (record : Record) : String :=
  tableLine (cells record)

/-- The line under the titles. -/
def rule : String := String.ofList (List.replicate 80 '-')

/-- The lines of a listing under a title. -/
def tableLines (title : String) (listing : Listing) : List String :=
  let note :=
    if listing.truncated then
      ["... (showing first " ++ toString listing.records.length ++ " matching records)"]
    else
      []
  ["=== " ++ title ++ " ===", tableLine columnTitles, rule] ++ listing.records.map row ++ note ++
    ["", "Total matching records: " ++ toString listing.totalMatched]

/-- A listing under a title. -/
def table (title : String) (listing : Listing) : String :=
  ofLines (tableLines title listing)

/-- The title of a listing if nothing else is asked for. -/
def defaultTitle : String := "Process Records"

/-- The title of a listing of the last records. -/
def recentTitle : String := "Recent Process Records"

end ProcessWatch.Report
