/-
Module: ProcessWatch.Proofs.Encoding.RoundTrip
Purpose: What is written as data is read back as the same value: news, filters and their errors,
  settings, control states, counters, snapshots, records and listings.
Trusted boundary: none
Main exports: Json.ReadsBack, Json.slots?_object, Json.optional?_ofOption, Json.listOf?_map,
  Event.decode?_encode, Filter.decode?_encode, FilterError.decode?_encode, Settings.decode?_encode,
  ControlStatus.decode?_encode, Statistics.decode?_encode, Snapshot.decode?_encode,
  Record.decode?_encode, Listing.decode?_encode

Quantities are natural numbers here and words in data, so that a value can be written if its
quantities fit words.
-/
import ProcessWatch.Encoding.Control
import ProcessWatch.Encoding.Event
import ProcessWatch.Encoding.Filter
import ProcessWatch.Encoding.Statistics
import ProcessWatch.Proofs.Json.Reading

namespace ProcessWatch

namespace Json

/-- The value is read back from its text, on one line or on several. -/
def ReadsBack {α : Type} (encode : α → Json) (decode? : Json → Option α) (value : α) : Prop :=
  (parse? (encode value).compact).bind decode? = some value ∧
    (parse? (encode value).pretty).bind decode? = some value

/-- The texts of a value give back the value that is written, so that they can be left out. -/
theorem readsBack_of_decode? {α : Type} {encode : α → Json} {decode? : Json → Option α} {value : α}
    (decoded : decode? (encode value) = some value) : ReadsBack encode decode? value := by
  constructor
  · rw [parse?_compact, Option.bind_some, decoded]
  · rw [parse?_pretty, Option.bind_some, decoded]

/-! ## Fields -/

theorem valuesOf_cons (name key : String) (value : Json) (members : List (String × Json)) :
    valuesOf name ((key, value) :: members) =
      if key = name then value :: valuesOf name members else valuesOf name members := by
  simp only [valuesOf, List.filter_cons, decide_eq_true_eq]
  split <;> rfl

/-- A name that no member has is given no value. -/
theorem valuesOf_eq_nil {name : String} {members : List (String × Json)}
    (absent : name ∉ members.map Prod.fst) : valuesOf name members = [] := by
  induction members with
  | nil => rfl
  | cons member members inductionHypothesis =>
      obtain ⟨other, later⟩ := not_or.mp (mt List.mem_cons.mpr absent)
      rw [valuesOf_cons, if_neg (Ne.symm other)]
      exact inductionHypothesis later

/-- A name that is there once has one value. -/
theorem valuesOf_of_mem {members : List (String × Json)} (distinct : (members.map Prod.fst).Nodup)
    {name : String} {value : Json} (member : (name, value) ∈ members) :
    valuesOf name members = [value] := by
  induction members with
  | nil => cases member
  | cons first members inductionHypothesis =>
      obtain ⟨fresh, distinct⟩ := List.nodup_cons.mp distinct
      rcases List.mem_cons.mp member with rfl | later
      · rw [valuesOf_cons, if_pos rfl, valuesOf_eq_nil fresh]
      · have other : first.1 ≠ name := by
          rintro rfl
          exact fresh (List.mem_map.mpr ⟨_, later, rfl⟩)
        rw [valuesOf_cons, if_neg other]
        exact inductionHypothesis distinct later

/-- An object that names every field once and in order has a value for each. -/
@[simp] theorem slots?_object {names : List String} {members : List (String × Json)}
    (own : members.map Prod.fst = names) (distinct : names.Nodup) :
    (Json.object members).slots? names = some (members.map fun member => .given member.2) := by
  subst own
  have given : ∀ part ⊆ members, (part.map Prod.fst).mapM (memberSlot? members) =
      some (part.map fun member => Slot.given member.2) := by
    intro part
    induction part with
    | nil =>
        intro _
        rfl
    | cons member part inductionHypothesis =>
        intro inside
        obtain ⟨here, behind⟩ := List.cons_subset.mp inside
        have value : memberSlot? members member.1 = some (.given member.2) := by
          rw [memberSlot?, valuesOf_of_mem distinct here]
        simp [value, inductionHypothesis behind]
  exact given members (List.Subset.refl _)

@[simp] theorem Slot.required_given {α : Type} (decode? : Json → Option α) (value : Json) :
    (Slot.given value).required decode? = decode? value := rfl

@[simp] theorem Slot.optional_given {α : Type} (decode? : Json → Option α) (value : Json) :
    (Slot.given value).optional decode? = value.optional? decode? := rfl

@[simp] theorem Slot.withDefault_given {α : Type} (default : α) (decode? : Json → Option α)
    (value : Json) : (Slot.given value).withDefault default decode? = decode? value := rfl

/-- A value that may be missing is read back if it is not written as `null` when it is there. -/
theorem optional?_ofOption {α : Type} {encode : α → Json} {decode? : Json → Option α}
    (value : Option α) (notNull : ∀ present, encode present ≠ .null)
    (decoded : ∀ present ∈ value, decode? (encode present) = some present) :
    (ofOption encode value).optional? decode? = some value := by
  cases value with
  | none => rfl
  | some present =>
      rw [ofOption, optional?.eq_2 _ _ (notNull present), decoded present rfl, Option.map_some]

/-- A list is read back if each of its items is. -/
theorem listOf?_map {α : Type} {encode : α → Json} {decode? : Json → Option α} {items : List α}
    (decoded : ∀ item ∈ items, decode? (encode item) = some item) :
    (Json.array (items.map encode)).listOf? decode? = some items := by
  show (items.map encode).mapM decode? = some items
  induction items with
  | nil => rfl
  | cons item items inductionHypothesis =>
      obtain ⟨here, behind⟩ := List.forall_mem_cons.mp decoded
      simp [here, inductionHypothesis behind]

@[simp] theorem bool?_bool (value : Bool) : (Json.bool value).bool? = some value := rfl

@[simp] theorem text?_string (text : String) : (Json.string text).text? = some text := rfl

end Json

/-- A process number is written as a number that is read as the same one. -/
@[simp] theorem Pid.uint32?_encode (pid : Pid) : (Pid.encode pid).uint32? = some pid := by
  rw [Pid.encode, Json.uint32?, Json.natural?_ofNat pid.toNat_lt_size, Option.map_some,
    UInt32.ofNat_toNat]

@[simp] theorem ExitCode.int32?_encode (exitCode : ExitCode) :
    (ExitCode.encode exitCode).int32? = some exitCode := by
  rw [ExitCode.encode, Json.int32?, if_pos ⟨exitCode.minValue_le_toInt, exitCode.toInt_le⟩,
    Int32.ofInt_toInt]

/-! ## Control states and settings -/

/-- The numbers of a control state fit words. -/
structure ControlStatus.Fits (status : ControlStatus) : Prop where
  records : status.records < Word.size
  capacity : status.capacity < Word.size

theorem ControlStatus.decode?_encode {status : ControlStatus} (fits : status.Fits) :
    decode? status.encode = some status := by
  simp [decode?, encode, fits.records, fits.capacity]

/-- The numbers of the settings fit words. -/
structure Settings.Fits (settings : Settings) : Prop where
  capacity : settings.capacity < Word.size
  listLimit : settings.listLimit < Word.size

theorem Settings.decode?_encode {settings : Settings} (fits : settings.Fits) :
    decode? settings.encode = some settings := by
  simp [decode?, encode, fits.capacity, fits.listLimit]

/-! ## Counters and snapshots -/

/-- All counters fit words. -/
structure Statistics.Fits (stats : Statistics) : Prop where
  created : stats.created < Word.size
  exited : stats.exited < Word.size
  current : stats.current < Word.size
  peak : stats.peak < Word.size
  totalCpuTime : stats.totalCpuTime < Word.size
  totalLifetime : stats.totalLifetime < Word.size
  averageLifetime : stats.averageLifetime < Word.size
  minLifetime : stats.minLifetime < Word.size
  maxLifetime : stats.maxLifetime < Word.size

/-- Counters that fit words are read back as the same ones. -/
theorem Statistics.decode?_encode {stats : Statistics} (fits : stats.Fits) :
    decode? stats.encode = some stats := by
  simp [decode?, encode, fits.created, fits.exited, fits.current, fits.peak, fits.totalCpuTime,
    fits.totalLifetime, fits.averageLifetime, fits.minLifetime, fits.maxLifetime]

/-- A span is written in seconds and nanoseconds, of which only the seconds have to fit a word. -/
theorem Duration.decode?_encode {span : Duration} (fits : span.seconds < Word.size) :
    decode? span.encode = some span := by
  have own : hasOwnMembers span.encode = true := rfl
  have slots : span.encode.slots? ["secs", "nanos"] =
      some [.given (.ofNat span.seconds), .given (.ofNat span.nanos)] := rfl
  have below : span.nanos < nanosPerSecond := Nat.mod_lt _ (by decide)
  have nanos : (Json.ofNat span.nanos).natural? UInt32.size = some span.nanos :=
    Json.natural?_ofNat (Nat.lt_trans below (by decide))
  rw [decode?, if_pos own, slots]
  simp only [Json.Slot.required_given, Option.bind_eq_bind, Option.bind_some]
  -- Rewriting step by step keeps the kernel from comparing the test of the seconds by unfolding.
  rw [Word.decode?_ofNat fits, Option.bind_some, nanos, Option.bind_some, ofParts_seconds_nanos]
  exact if_pos fits

/-- All numbers of a snapshot fit words, its uptime in seconds. -/
structure Snapshot.Fits (snapshot : Snapshot) : Prop where
  stats : snapshot.stats.Fits
  records : snapshot.records < Word.size
  capacity : snapshot.capacity < Word.size
  uptime : snapshot.uptime.seconds < Word.size

/-- A snapshot is read back, the counters in it and what it adds to them. -/
theorem Snapshot.decode?_encode {snapshot : Snapshot} (fits : snapshot.Fits) :
    decode? snapshot.encode = some snapshot := by
  simp [decode?, encode, Statistics.decode?_encode fits.stats,
    Duration.decode?_encode fits.uptime, fits.records, fits.capacity]

/-! ## Records and listings -/

/-- What a process used fits words. -/
structure Usage.Fits (usage : Usage) : Prop where
  cpuTime : usage.cpuTime < Word.size
  memory : usage.memory < Word.size

theorem Usage.decode?_encode {usage : Usage} (fits : usage.Fits) :
    decode? usage.encode = some usage := by
  simp [decode?, encode, fits.cpuTime, fits.memory]

@[simp] theorem Status.decode?_encode (status : Status) : decode? status.encode = some status := by
  cases status <;> rfl

/-- A time that may be missing is read back, and read as missing if it is. -/
theorem Word.decode?_ofOption {value : Option Nat} (fits : ∀ number ∈ value, number < Word.size) :
    (Json.ofOption .ofNat value).optional? Word.decode? = some value :=
  Json.optional?_ofOption value (fun _ => nofun)
    fun number present => Word.decode?_ofNat (fits number present)

/-- The times and the usage of a record fit words. -/
structure Record.Measured (record : Record) : Prop where
  startedAt : record.startedAt < Word.size
  endedAt : ∀ time ∈ record.endedAt, time < Word.size
  usage : record.usage.Fits

/-- All numbers of a record fit words. -/
structure Record.Fits (record : Record) : Prop extends record.Measured where
  id : record.id < Word.size

/-- A record is read back with all that is known of its process. -/
theorem Record.decode?_encode {record : Record} (fits : record.Fits) :
    decode? record.encode = some record := by
  simp [decode?, encode, fits.id, fits.startedAt, Word.decode?_ofOption fits.endedAt,
    Usage.decode?_encode fits.usage]

/-- The records of a listing fit, and so does their number. -/
structure Listing.Fits (listing : Listing) : Prop where
  records : ∀ record ∈ listing.records, record.Fits
  totalMatched : listing.totalMatched < Word.size

/-- A listing is read back record by record, with its flag and its total. -/
theorem Listing.decode?_encode {listing : Listing} (fits : listing.Fits) :
    decode? listing.encode = some listing := by
  have records := Json.listOf?_map fun record member =>
    Record.decode?_encode (fits.records record member)
  simp [decode?, encode, records, fits.totalMatched]

/-! ## Filters and their errors -/

/-- The bounds of a filter fit words. -/
structure Filter.Fits (filter : Filter) : Prop where
  minLifetime : ∀ seconds ∈ filter.minLifetime, seconds < Word.size
  maxLifetime : ∀ seconds ∈ filter.maxLifetime, seconds < Word.size

theorem Pid.decode?_ofOption (pid : Option Pid) :
    (Json.ofOption Pid.encode pid).optional? Json.uint32? = some pid :=
  Json.optional?_ofOption pid (fun _ => nofun) fun pid _ => Pid.uint32?_encode pid

theorem CommandName.decode?_ofOption (name : Option CommandName) :
    (Json.ofOption CommandName.encode name).optional? CommandName.decode? = some name :=
  Json.optional?_ofOption name (fun _ => nofun) fun name _ => CommandName.decode?_encode name

/-- A filter is read back, the requirements that it does not make included. -/
theorem Filter.decode?_encode {filter : Filter} (fits : filter.Fits) :
    decode? filter.encode = some filter := by
  simp [decode?, encode, Pid.decode?_ofOption, CommandName.decode?_ofOption,
    Word.decode?_ofOption fits.minLifetime, Word.decode?_ofOption fits.maxLifetime]

/-- Every refusal of a change is read back as the same one. -/
theorem FilterError.decode?_encode (error : FilterError) : decode? error.encode = some error := by
  cases error <;> rfl

/-! ## News -/

/-- What the process of an exit used fits words. -/
def Event.Fits : Event → Prop
  | .start _ _ _ => True
  | .exit _ _ usage => usage.Fits

@[simp] theorem Pid.depth_encode (pid : Pid) : (Pid.encode pid).depth = 0 := rfl

@[simp] theorem Pid.keepable_encode (pid : Pid) :
    (Pid.encode pid).every Json.isKeepableScalar = true := by
  have below : pid.toNat < Word.size := Nat.lt_trans pid.toNat_lt_size (by decide)
  simp [Pid.encode, Json.ofNat, Json.every, Json.isKeepableScalar, below]

@[simp] theorem ExitCode.depth_encode (exitCode : ExitCode) :
    (ExitCode.encode exitCode).depth = 0 := rfl

@[simp] theorem ExitCode.keepable_encode (exitCode : ExitCode) :
    (ExitCode.encode exitCode).every Json.isKeepableScalar = true := by
  have least : -2147483648 ≤ exitCode.toInt := exitCode.minValue_le_toInt
  have greatest : exitCode.toInt ≤ 2147483647 := exitCode.toInt_le
  have below : exitCode.toInt.natAbs < Word.size := by
    rw [Word.size]
    omega
  simp [ExitCode.encode, Json.every, Json.isKeepableScalar, below]

@[simp] theorem CommandName.depth_encode (name : CommandName) : name.encode.depth = 0 := rfl

@[simp] theorem CommandName.keepable_encode (name : CommandName) :
    name.encode.every Json.isKeepableScalar = true := rfl

@[simp] theorem Usage.depth_encode (usage : Usage) : usage.encode.depth = 1 := rfl

theorem Usage.keepable_encode {usage : Usage} (fits : usage.Fits) :
    usage.encode.every Json.isKeepableScalar = true := by
  simp [encode, Json.ofNat, Json.every, Json.everyMember, Json.isKeepableScalar, fits.cpuTime,
    fits.memory]

/-- Whatever stands beside the kind of an event can be kept until the kind is known. -/
theorem Event.isKeepable_encode {event : Event} (fits : event.Fits) :
    Json.isKeepable 0 event.encode = true := by
  cases event with
  | start pid parent name =>
      simp [encode, Json.isKeepable, Json.depth, Json.depthOfMembers, Json.every, Json.everyMember,
        Json.isKeepableScalar, Json.maxDepth]
  | exit pid exitCode usage =>
      simp [encode, Json.isKeepable, Json.depth, Json.depthOfMembers, Json.every, Json.everyMember,
        Json.isKeepableScalar, Json.maxDepth, Usage.keepable_encode fits]

/-- News is read back as the same news, although it is kept as a value until its kind is known. -/
theorem Event.decode?_encode {event : Event} (fits : event.Fits) :
    decode? event.encode = some event := by
  have keepable := isKeepable_encode fits
  cases event with
  | start pid parent name =>
      have parted : split? (encode (.start pid parent name)) =
          some ("start", .object
            [("pid", Pid.encode pid), ("parent_pid", Pid.encode parent), ("name", name.encode)]) := by
        unfold split?
        rw [if_pos keepable]
        rfl
      rw [decode?, parted]
      simp [ofFields?]
  | exit pid exitCode usage =>
      have parted : split? (encode (.exit pid exitCode usage)) =
          some ("exit", .object
            [("pid", Pid.encode pid), ("exit_code", ExitCode.encode exitCode),
              ("usage", usage.encode)]) := by
        unfold split?
        rw [if_pos keepable]
        rfl
      rw [decode?, parted]
      simp [ofFields?, Usage.decode?_encode fits]

end ProcessWatch
