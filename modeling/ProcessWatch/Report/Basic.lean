/-
Module: ProcessWatch.Report.Basic
Purpose: Reports for people: counters, filter, control state, and the list of commands.
Trusted boundary: none
Main exports: Report.ofLines, Report.statistics, Report.filter, Report.control, Report.help
-/
import ProcessWatch.Control
import ProcessWatch.Filter.Basic
import ProcessWatch.Statistics

namespace ProcessWatch.Report

/-- A text of some lines, each of them ended. -/
def ofLines (lines : List String) : String :=
  String.join (lines.map (· ++ "\n"))

/-- The word for something that can be switched on and off. -/
def onOff (enabled : Bool) : String :=
  if enabled then "ENABLED" else "DISABLED"

/-- A part of a whole. -/
def ratio (count capacity : Nat) : String :=
  toString count ++ "/" ++ toString capacity

/-- The counters of a store. -/
def statistics (snapshot : Snapshot) : String :=
  let stats := snapshot.stats
  let turnover :=
    match snapshot.turnover? with
    | some rate => ["Process Turnover Rate: " ++ toString rate ++ " proc/sec"]
    | none => []
  ofLines <|
    [ "=== Process Monitor Statistics ===",
      "Monitoring Status: " ++ onOff snapshot.monitoring,
      "Total Processes Created: " ++ toString stats.created,
      "Total Processes Exited: " ++ toString stats.exited,
      "Current Active Processes: " ++ toString stats.current,
      "Peak Processes: " ++ toString stats.peak,
      "Records in Memory: " ++ ratio snapshot.records snapshot.capacity,
      "",
      "=== Performance Statistics ===",
      "Total CPU Time: " ++ toString (Duration.mk stats.totalCpuTime).milliseconds ++ " ms",
      "Average Lifetime: " ++ toString (Duration.mk stats.averageLifetime).seconds ++ " seconds",
      "Longest Lifetime: " ++ toString (Duration.mk stats.maxLifetime).seconds ++ " seconds",
      "Shortest Lifetime: " ++ toString (Duration.mk stats.minLifetime).seconds ++ " seconds" ]
      ++ turnover

/-- The requirements of a filter, zero or nothing standing for a missing one, and the commands that
change them. -/
def filter (filter : Filter) : String :=
  ofLines
    [ "=== Process Filter Configuration ===",
      "Filter Enabled: " ++ (if filter.enabled then "YES" else "NO"),
      "Target PID: " ++ toString (filter.pid.getD 0).toNat ++ " (0 = any)",
      "Target PPID: " ++ toString (filter.parent.getD 0).toNat ++ " (0 = any)",
      "Target Command: " ++ (filter.command.getD .empty).text ++ " (empty = any)",
      "Min Lifetime: " ++ toString (filter.minLifetime.getD 0) ++ " seconds (0 = no limit)",
      "Max Lifetime: " ++ toString (filter.maxLifetime.getD 0) ++ " seconds (0 = no limit)",
      "",
      "=== Filter Commands ===",
      "enable           - Enable filtering",
      "disable          - Disable filtering",
      "pid <pid>        - Filter by PID",
      "ppid <ppid>      - Filter by parent PID",
      "comm <command>   - Filter by command name",
      "minlife <sec>    - Minimum lifetime filter",
      "maxlife <sec>    - Maximum lifetime filter",
      "reset            - Reset all filters" ]

/-- The state of a store as far as it can be steered, and the commands that steer it. -/
def control (status : ControlStatus) : String :=
  ofLines
    [ "=== Process Monitor Control ===",
      "Monitoring: " ++ onOff status.monitoring,
      "Records: " ++ ratio status.records status.capacity,
      "",
      "=== Control Commands ===",
      "start            - Start monitoring",
      "stop             - Stop monitoring",
      "clear            - Clear all records",
      "reset_stats      - Reset statistics" ]

/-- The commands of the console. -/
def help : String :=
  ofLines
    [ "Control:   start | stop | clear | reset_stats",
      "Filter:    enable | disable | reset | pid <n> | ppid <n> | comm <name>",
      "           minlife <sec> | maxlife <sec>",
      "Reports:   stats | processes [limit] | recent <n> | filter | control | json [limit]",
      "Events:    fork <pid> <ppid> <name> | exit <pid> <code>",
      "Session:   help | quit" ]

end ProcessWatch.Report
