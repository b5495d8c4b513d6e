/-
Module: ProcessWatch.Proofs.SpinLock.Exclusion
Purpose: One thread at a time has a spin lock, and nothing is lost of what the threads add to its value.
Trusted boundary: the order of accesses of Proofs.SpinLock.Contention
Main exports: Contention.Possession, Contention.Possession.act, Contention.Guarded.run,
  Contention.exclusive_and_lossless

The invariant says who has the lock.  It is nobody, a round, or a formatting, and in each case all other
threads are without it, so that whoever reads and writes does so alone.
-/
import ProcessWatch.Proofs.SpinLock.Contention
import Mathlib.Algebra.BigOperators.Group.List.Basic

namespace ProcessWatch.Contention

variable {ι α : Type}

/-! ## What the trace tells -/

def Event.acquired? : Event ι α → Option (Round α)
  | .acquired _ round => some round
  | _ => none

/-- The rounds that have taken the lock. -/
def acquisitions (trace : List (Event ι α)) : List (Round α) :=
  trace.filterMap Event.acquired?

/-- What the rounds add that have taken the lock. -/
def gains [Add α] [Zero α] (trace : List (Event ι α)) : α :=
  ((acquisitions trace).map Round.increment).sum

/-- The round of this thread that has taken the lock or ended without it. -/
def Event.roundOf? [DecidableEq ι] (thread : ι) : Event ι α → Option (Round α)
  | .acquired other round => if other = thread then some round else none
  | .refused other round _ _ => if other = thread then some round else none
  | .formatted _ _ _ _ => none

/-- The rounds of a thread that have taken the lock or ended without it, in their order. -/
def made [DecidableEq ι] (trace : List (Event ι α)) (thread : ι) : List (Round α) :=
  trace.filterMap (Event.roundOf? thread)

/-- A round that ended without the lock was one that may, and left the lock as it found it.  So did a
formatting, which has shown the value that it found, or none if somebody had the lock. -/
def Event.Inert : Event ι α → Prop
  | .acquired _ _ => True
  | .refused _ round found left => round.tries = true ∧ left = found
  | .formatted _ shown found left =>
      left = found ∧ shown = if found.locked then none else some found.value

/-- The rounds of a thread that have neither taken the lock nor ended without it. -/
def Worker.pending (worker : Worker α) : List (Round α) :=
  if worker.stage.guards then worker.rounds.tail else worker.rounds

/-- What is gained over two stretches is gained in the first and in the second. -/
theorem gains_append [AddMonoid α] (first second : List (Event ι α)) :
    gains (first ++ second) = gains first + gains second := by
  simp only [gains, acquisitions, List.filterMap_append, List.map_append, List.sum_append]

@[simp] theorem gains_nil [AddMonoid α] : gains ([] : List (Event ι α)) = 0 := rfl

@[simp] theorem gains_acquired [AddMonoid α] (thread : ι) (round : Round α) :
    gains [.acquired thread round] = round.increment := add_zero _

@[simp] theorem gains_refused [AddMonoid α] (thread : ι) (round : Round α)
    (found left : SpinLock α) : gains [.refused thread round found left] = 0 := rfl

@[simp] theorem gains_formatted [AddMonoid α] (thread : ι) (shown : Option α)
    (found left : SpinLock α) : gains [.formatted thread shown found left] = 0 := rfl

/-! ## Who has the lock -/

/-- The thread has no part in the lock. -/
structure Worker.Bare (worker : Worker α) : Prop where
  outside : worker.stage.guards = false
  idle : worker.formatting = none

/-- The round that has the lock adds `increment` to the value, or has done so already; then the value is
`sum`. -/
inductive Owes [Add α] (value increment sum : α) : Stage α → Prop where
  | holding (due : value + increment = sum) : Owes value increment sum .holding
  | read (due : value + increment = sum) : Owes value increment sum (.read value)
  | written (paid : value = sum) : Owes value increment sum .written

/-- Who has the lock.  The value is `sum`, or will be once the round that has the lock has written. -/
inductive Possession [Add α] (lock : SpinLock α) (workers : ι → Worker α) (sum : α) : Prop where
  | nobody (free : lock.locked = false) (bare : ∀ thread, (workers thread).Bare)
      (settled : lock.value = sum)
  | ofRound (thread : ι) (round : Round α) (rest : List (Round α)) (held : lock.locked = true)
      (others : ∀ other, other ≠ thread → (workers other).Bare)
      (idle : (workers thread).formatting = none)
      (rounds : (workers thread).rounds = round :: rest)
      (owes : Owes lock.value round.increment sum (workers thread).stage)
  | ofFormatting (thread : ι) (formatting : Formatting α) (held : lock.locked = true)
      (others : ∀ other, other ≠ thread → (workers other).Bare)
      (outside : (workers thread).stage.guards = false)
      (busy : (workers thread).formatting = some formatting)
      (found : formatting.found = lock.unlock)
      (shown : ∀ value ∈ formatting.shown, value = lock.value) (settled : lock.value = sum)

/-- A round owes something only while it has the lock. -/
theorem Owes.guards [Add α] {value increment sum : α} {stage : Stage α}
    (owes : Owes value increment sum stage) : stage.guards = true := by
  cases owes <;> rfl

/-- A step of one thread gives no other thread a part in the lock. -/
theorem bare_update [DecidableEq ι] {workers : ι → Worker α} {thread : ι}
    (others : ∀ other, other ≠ thread → (workers other).Bare) (worker : Worker α) :
    ∀ other, other ≠ thread → (Function.update workers thread worker other).Bare := by
  intro other differs
  rw [Function.update_of_ne differs]
  exact others other differs

/-- If it also leaves itself without a part, nobody has one. -/
theorem bare_update_self [DecidableEq ι] {workers : ι → Worker α} {thread : ι}
    (others : ∀ other, other ≠ thread → (workers other).Bare) {worker : Worker α}
    (bare : worker.Bare) : ∀ other, (Function.update workers thread worker other).Bare := by
  intro other
  by_cases same : other = thread
  · rw [same, Function.update_self]
    exact bare
  · exact bare_update others worker other same

namespace Possession

variable [AddMonoid α] {lock : SpinLock α} {workers : ι → Worker α} {sum : α} {thread : ι}

/-- As long as the flag is down no thread has a part in the lock. -/
theorem of_free (possession : Possession lock workers sum) (free : lock.locked = false) :
    (∀ thread, (workers thread).Bare) ∧ lock.value = sum := by
  cases possession with
  | nobody _ bare settled => exact ⟨bare, settled⟩
  | ofRound _ _ _ held | ofFormatting _ _ held =>
      rw [free] at held
      cases held

/-- A thread that has the lock for its round is the only one that has it. -/
theorem of_guards (possession : Possession lock workers sum)
    (guards : (workers thread).stage.guards = true) :
    lock.locked = true ∧ (∀ other, other ≠ thread → (workers other).Bare) ∧
      (workers thread).formatting = none ∧
      ∃ round rest, (workers thread).rounds = round :: rest ∧
        Owes lock.value round.increment sum (workers thread).stage := by
  cases possession with
  | nobody _ bare =>
      rw [(bare thread).outside] at guards
      cases guards
  | ofRound holder round rest held others idle rounds owes =>
      by_cases same : thread = holder
      · subst same
        exact ⟨held, others, idle, round, rest, rounds, owes⟩
      · rw [(others thread same).outside] at guards
        cases guards
  | ofFormatting holder _ _ others outside =>
      by_cases same : thread = holder
      · rw [same, outside] at guards
        cases guards
      · rw [(others thread same).outside] at guards
        cases guards

/-- A thread that has the lock for formatting it is the only one that has it. -/
theorem of_busy (possession : Possession lock workers sum) {formatting : Formatting α}
    (busy : (workers thread).formatting = some formatting) :
    lock.locked = true ∧ (∀ other, other ≠ thread → (workers other).Bare) ∧
      (workers thread).stage.guards = false ∧ formatting.found = lock.unlock ∧
      (∀ value ∈ formatting.shown, value = lock.value) ∧ lock.value = sum := by
  cases possession with
  | nobody _ bare =>
      rw [(bare thread).idle] at busy
      cases busy
  | ofRound holder _ _ _ others idle =>
      by_cases same : thread = holder
      · rw [same, idle] at busy
        cases busy
      · rw [(others thread same).idle] at busy
        cases busy
  | ofFormatting holder known held others outside knownBusy found shown settled =>
      by_cases same : thread = holder
      · subst same
        rw [knownBusy] at busy
        obtain rfl := Option.some.inj busy
        exact ⟨held, others, outside, found, shown, settled⟩
      · rw [(others thread same).idle] at busy
        cases busy

variable [DecidableEq ι] {worker : Worker α}

/-- The thread that has just made a step has the lock for its round. -/
theorem ofRound_update {round : Round α} {rest : List (Round α)} (held : lock.locked = true)
    (others : ∀ other, other ≠ thread → (workers other).Bare) (idle : worker.formatting = none)
    (rounds : worker.rounds = round :: rest)
    (owes : Owes lock.value round.increment sum worker.stage) :
    Possession lock (Function.update workers thread worker) sum := by
  refine .ofRound thread round rest held (bare_update others worker) ?_ ?_ ?_
  · rw [Function.update_self, idle]
  · rw [Function.update_self, rounds]
  · rwa [Function.update_self]

/-- The thread that has just made a step has the lock for formatting it. -/
theorem ofFormatting_update {formatting : Formatting α} (held : lock.locked = true)
    (others : ∀ other, other ≠ thread → (workers other).Bare)
    (outside : worker.stage.guards = false) (busy : worker.formatting = some formatting)
    (found : formatting.found = lock.unlock)
    (shown : ∀ value ∈ formatting.shown, value = lock.value) (settled : lock.value = sum) :
    Possession lock (Function.update workers thread worker) sum := by
  refine .ofFormatting thread formatting held (bare_update others worker) ?_ ?_ found shown settled
  · rw [Function.update_self, outside]
  · rw [Function.update_self, busy]

/-- What a thread does that is outside and stays there changes nothing about who has the lock. -/
theorem outside (possession : Possession lock workers sum)
    (outside : (workers thread).stage.guards = false) (stays : worker.stage.guards = false)
    (same : worker.formatting = (workers thread).formatting) :
    Possession lock (Function.update workers thread worker) sum := by
  have kept : ∀ other, (workers other).Bare → (Function.update workers thread worker other).Bare := by
    intro other bare
    by_cases here : other = thread
    · subst here
      rw [Function.update_self]
      exact ⟨stays, same.trans bare.idle⟩
    · rwa [Function.update_of_ne here]
  cases possession with
  | nobody free bare settled => exact .nobody free (fun other => kept other (bare other)) settled
  | ofRound holder round rest held others idle rounds owes =>
      -- The holder is inside, so it is another thread and has not moved.
      have elsewhere : holder ≠ thread := by
        rintro rfl
        rw [owes.guards] at outside
        cases outside
      rw [← Function.update_of_ne elsewhere worker workers] at idle rounds owes
      exact .ofRound holder round rest held (fun other differs => kept other (others other differs))
        idle rounds owes
  | ofFormatting holder formatting held others away busy found shown settled =>
      by_cases here : holder = thread
      · subst here
        exact ofFormatting_update held others stays (same.trans busy) found shown settled
      · rw [← Function.update_of_ne here worker workers] at away busy
        exact .ofFormatting holder formatting held
          (fun other differs => kept other (others other differs)) away busy found shown settled

/-- Every step leaves the lock with one holder at most, and adds to `sum` what a round adds that has
taken the lock with it. -/
theorem act {effect : Effect ι α} (possession : Possession lock workers sum)
    (acts : Acts (workers thread) lock thread effect) :
    Possession effect.lock (Function.update workers thread effect.worker)
      (sum + gains effect.events) := by
  cases acts with
  | rests =>
      rw [Function.update_eq_self, gains_nil, add_zero]
      exact possession
  | waits outside stays =>
      rw [gains_nil, add_zero]
      exact possession.outside outside stays rfl
  | acquires rounds idle _ free =>
      obtain ⟨bare, settled⟩ := possession.of_free free
      rw [gains_acquired, ← settled]
      exact ofRound_update rfl (fun other _ => bare other) idle rounds (.holding rfl)
  | refused _ outside =>
      rw [gains_refused, add_zero]
      exact possession.outside outside outside rfl
  | reads holding =>
      have guards : (workers thread).stage.guards = true := by rw [holding]; rfl
      obtain ⟨held, others, idle, round, rest, rounds, owes⟩ := possession.of_guards guards
      rw [holding] at owes
      rw [gains_nil, add_zero]
      cases owes with
      | holding due => exact ofRound_update held others idle rounds (.read due)
  | writes known read =>
      -- Nobody else has written since the value was read, so that what is read is what is there.
      have guards : (workers thread).stage.guards = true := by rw [read]; rfl
      obtain ⟨held, others, idle, round, rest, rounds, owes⟩ := possession.of_guards guards
      obtain ⟨rfl, rfl⟩ := List.cons.inj (known.symm.trans rounds)
      rw [read] at owes
      rw [gains_nil, add_zero]
      cases owes with
      | read due => exact ofRound_update held others idle known (.written due)
  | releases _ idle written =>
      have guards : (workers thread).stage.guards = true := by rw [written]; rfl
      obtain ⟨-, others, -, round, rest, -, owes⟩ := possession.of_guards guards
      rw [written] at owes
      rw [gains_nil, add_zero]
      cases owes with
      | written paid => exact .nobody rfl (bare_update_self others ⟨rfl, idle⟩) paid
  | passes =>
      rw [Function.update_eq_self, gains_formatted, add_zero]
      exact possession
  | formats _ free =>
      -- The lock was free, so that giving it back will leave it as it was found.
      obtain ⟨bare, settled⟩ := possession.of_free free
      have found : lock = lock.unlock := by rw [SpinLock.unlock, ← free]
      rw [gains_nil, add_zero]
      exact ofFormatting_update rfl (fun other _ => bare other) (bare thread).outside rfl found
        (fun value shown => absurd shown (Option.not_mem_none value)) settled
  | looks busy =>
      obtain ⟨held, others, outside, found, -, settled⟩ := possession.of_busy busy
      rw [gains_nil, add_zero]
      exact ofFormatting_update held others outside rfl found
        (fun value shown => (Option.some.inj shown).symm) settled
  | shows busy =>
      obtain ⟨-, others, outside, -, -, settled⟩ := possession.of_busy busy
      rw [gains_formatted, add_zero]
      exact .nobody rfl (bare_update_self others ⟨outside, rfl⟩) settled

omit [DecidableEq ι] in
/-- What a step has to tell of a try or a formatting is that it changed nothing. -/
theorem inert {effect : Effect ι α} (possession : Possession lock workers sum)
    (acts : Acts (workers thread) lock thread effect) : ∀ event ∈ effect.events, event.Inert := by
  cases acts with
  | rests | waits | reads | writes | releases | formats | looks =>
      exact fun event member => absurd member List.not_mem_nil
  | acquires => exact List.forall_mem_singleton.mpr trivial
  | refused _ _ tries => exact List.forall_mem_singleton.mpr ⟨tries, rfl⟩
  | passes held => exact List.forall_mem_singleton.mpr ⟨rfl, (if_pos held).symm⟩
  | shows busy shown =>
      obtain ⟨-, -, -, found, values, -⟩ := possession.of_busy busy
      refine List.forall_mem_singleton.mpr ⟨found.symm, ?_⟩
      rw [found, values _ shown]
      rfl

end Possession

/-! ## Guards -/

/-- Who has no part in the lock does not hold it. -/
theorem not_holds_of_bare {threads : Contention ι α} {guard : Guard ι}
    (bare : (threads.workers guard.thread).Bare) : ¬ threads.Holds guard := by
  intro holds
  cases guard with
  | ofRound thread => exact Bool.false_ne_true (bare.outside.symm.trans holds)
  | ofFormatting thread =>
      rw [Holds, show (threads.workers thread).formatting = none from bare.idle] at holds
      cases holds

/-- A thread that does what others do not is the one whose guard there is. -/
theorem thread_eq_of_holds {threads : Contention ι α} {holder : ι} {guard : Guard ι}
    (others : ∀ other, other ≠ holder → (threads.workers other).Bare)
    (holds : threads.Holds guard) : guard.thread = holder :=
  Classical.byContradiction fun differs => not_holds_of_bare (others _ differs) holds

/-- The flag is down and there is no guard, or it is up and there is one guard. -/
theorem Possession.holds_cases [Add α] {threads : Contention ι α} {sum : α}
    (possession : Possession threads.lock threads.workers sum) :
    (threads.lock.locked = false ∧ ∀ guard, ¬ threads.Holds guard) ∨
      threads.lock.locked = true ∧ ∃ holder, ∀ guard, threads.Holds guard ↔ guard = holder := by
  cases possession with
  | nobody free bare => exact Or.inl ⟨free, fun guard => not_holds_of_bare (bare guard.thread)⟩
  | ofRound holder round rest held others idle rounds owes =>
      refine Or.inr ⟨held, .ofRound holder, fun guard => ⟨fun holds => ?_, ?_⟩⟩
      · obtain rfl := thread_eq_of_holds others holds
        cases guard with
        | ofRound thread => rfl
        | ofFormatting thread =>
            rw [Holds, show (threads.workers thread).formatting = none from idle] at holds
            cases holds
      · rintro rfl
        exact owes.guards
  | ofFormatting holder formatting held others outside busy =>
      refine Or.inr ⟨held, .ofFormatting holder, fun guard => ⟨fun holds => ?_, ?_⟩⟩
      · obtain rfl := thread_eq_of_holds others holds
        cases guard with
        | ofRound thread => exact absurd (outside.symm.trans holds) Bool.false_ne_true
        | ofFormatting thread => rfl
      · rintro rfl
        exact Option.isSome_of_eq_some busy

/-- Where no thread has a round left, nothing is owed. -/
theorem Possession.value_eq [Add α] {lock : SpinLock α} {workers : ι → Worker α} {sum : α}
    (possession : Possession lock workers sum) (finished : ∀ thread, (workers thread).rounds = []) :
    lock.value = sum := by
  cases possession with
  | nobody _ _ settled => exact settled
  | ofRound holder round rest _ _ _ rounds =>
      rw [finished] at rounds
      cases rounds
  | ofFormatting _ _ _ _ _ _ _ _ settled => exact settled

/-! ## The rounds of each thread -/

section Rounds

variable [DecidableEq ι] [Add α]

/-- A round is pending until it has taken the lock or ended without it. -/
theorem made_act {worker : Worker α} {lock : SpinLock α} {thread : ι} {effect : Effect ι α}
    (acts : Acts worker lock thread effect) :
    made effect.events thread ++ effect.worker.pending = worker.pending := by
  cases acts with
  | rests | passes | formats | looks | shows => rfl
  | waits outside stays => simp [made, Worker.pending, outside, stays]
  | acquires rounds _ outside =>
      have inside : (Stage.holding : Stage α).guards = true := rfl
      simp [made, Event.roundOf?, Worker.pending, inside, outside, rounds]
  | refused rounds outside => simp [made, Event.roundOf?, Worker.pending, outside, rounds]
  | reads holding => simp [made, Worker.pending, holding, Stage.guards]
  | writes _ read => simp [made, Worker.pending, read, Stage.guards]
  | releases rounds _ written => simp [made, Worker.pending, written, rounds, Stage.guards]

/-- A step of one thread ends no round of another. -/
theorem made_act_of_ne {worker : Worker α} {lock : SpinLock α} {thread other : ι}
    {effect : Effect ι α} (acts : Acts worker lock thread effect) (differs : other ≠ thread) :
    made effect.events other = [] := by
  cases acts with
  | acquires | refused => simp [made, Event.roundOf?, Ne.symm differs]
  | _ => rfl

end Rounds

/-! ## Every run -/

/-- What holds of the threads after every step. -/
structure Guarded [DecidableEq ι] [AddMonoid α] (value : α) (programs : ι → List (Round α))
    (threads : Contention ι α) : Prop where
  possession : Possession threads.lock threads.workers (value + gains threads.trace)
  rounds : ∀ thread,
    made threads.trace thread ++ (threads.workers thread).pending = programs thread
  inert : ∀ event ∈ threads.trace, event.Inert

namespace Guarded

variable [DecidableEq ι] [AddMonoid α] {value : α} {programs : ι → List (Round α)}
  {threads : Contention ι α}

/-- At the start nobody has the lock and nothing was added. -/
theorem create (value : α) (programs : ι → List (Round α)) :
    Guarded value programs (Contention.create value programs) where
  possession := .nobody rfl (fun _ => ⟨rfl, rfl⟩) (add_zero value).symm
  rounds := fun _ => rfl
  inert := fun _ member => absurd member List.not_mem_nil

/-- One step keeps the account, whichever thread makes it. -/
theorem step (guarded : Guarded value programs threads) (turn : ι × Move) :
    Guarded value programs (threads.step turn) := by
  have acts := (threads.workers turn.1).act_acts threads.lock turn.1 turn.2
  refine ⟨?_, fun thread => ?_, ?_⟩
  · have next := guarded.possession.act acts
    rw [add_assoc, ← gains_append] at next
    exact next
  · change made (threads.trace ++ _) thread ++
      (Function.update threads.workers turn.1 _ thread).pending = programs thread
    rw [made, List.filterMap_append, List.append_assoc]
    -- The step tells of no thread but its own, and has left the others as they were.
    by_cases same : thread = turn.1
    · subst same
      rw [Function.update_self]
      exact (congrArg _ (made_act acts)).trans (guarded.rounds _)
    · rw [Function.update_of_ne same]
      exact (congrArg _ (congrArg (· ++ _) (made_act_of_ne acts same))).trans (guarded.rounds thread)
  · intro event member
    rcases List.mem_append.mp member with earlier | now
    · exact guarded.inert event earlier
    · exact guarded.possession.inert acts event now

/-- So does every schedule. -/
theorem run (guarded : Guarded value programs threads) (schedule : List (ι × Move)) :
    Guarded value programs (threads.run schedule) := by
  induction schedule generalizing threads with
  | nil => exact guarded
  | cons turn schedule inductionHypothesis => exact inductionHypothesis (guarded.step turn)

end Guarded

/-- In every run there is at most one guard, and the flag is up exactly while there is one.  A round that
ends without the lock only tried to take it, and left the lock as it found it; so does a formatting,
whatever the other threads do meanwhile.  Once no thread has a round left, each has made those of its
program, and to the value that the lock began with has been added what the rounds add that took the
lock, every one of them. -/
theorem exclusive_and_lossless [DecidableEq ι] [AddMonoid α] (value : α)
    (programs : ι → List (Round α)) (schedule : List (ι × Move)) :
    let threads := (create value programs).run schedule
    (∀ first second, threads.Holds first → threads.Holds second → first = second) ∧
      (threads.lock.locked = true ↔ ∃ guard, threads.Holds guard) ∧
      (∀ thread round found left, .refused thread round found left ∈ threads.trace →
        round.tries = true ∧ left = found) ∧
      (∀ thread shown found left, .formatted thread shown found left ∈ threads.trace →
        left = found ∧ shown = if found.locked then none else some found.value) ∧
      ((∀ thread, (threads.workers thread).rounds = []) →
        (∀ thread, made threads.trace thread = programs thread) ∧
          threads.lock.value =
            value + ((acquisitions threads.trace).map Round.increment).sum) := by
  intro threads
  have guarded : Guarded value programs threads := (Guarded.create value programs).run schedule
  refine ⟨?_, ?_, ?_, ?_, fun finished => ⟨fun thread => ?_, guarded.possession.value_eq finished⟩⟩
  · intro first second one two
    rcases guarded.possession.holds_cases with ⟨-, nobody⟩ | ⟨-, holder, only⟩
    · exact absurd one (nobody first)
    · exact ((only first).mp one).trans ((only second).mp two).symm
  · rcases guarded.possession.holds_cases with ⟨free, nobody⟩ | ⟨held, holder, only⟩
    · simp [free, nobody]
    · exact ⟨fun _ => ⟨holder, (only holder).mpr rfl⟩, fun _ => held⟩
  · exact fun thread round found left member => guarded.inert _ member
  · exact fun thread shown found left member => guarded.inert _ member
  · have rounds := guarded.rounds thread
    simpa [Worker.pending, finished thread] using rounds

/-- An exchange that fails without reason, a try that fails, and formattings of the free and of the taken
lock, one of them by the thread that has it. -/
theorem exclusive_and_lossless_of_try :
    let programs : Bool → List (Round Nat) := fun thread =>
      if thread then [⟨7, true⟩, ⟨2, false⟩] else [⟨5, false⟩]
    let schedule : List (Bool × Move) :=
      [(false, .falter), (false, .proceed), (false, .proceed), (true, .proceed), (true, .format),
        (false, .proceed), (false, .format), (false, .proceed), (false, .proceed), (true, .format),
        (true, .proceed), (true, .proceed), (true, .proceed), (true, .proceed), (true, .proceed),
        (true, .proceed)]
    let threads := (create 10 programs).run schedule
    (∀ thread, (threads.workers thread).rounds = []) ∧ threads.lock.value = 17 ∧
      threads.trace =
        [.acquired false ⟨5, false⟩, .refused true ⟨7, true⟩ ⟨10, true⟩ ⟨10, true⟩,
          .formatted true none ⟨10, true⟩ ⟨10, true⟩, .formatted false none ⟨10, true⟩ ⟨10, true⟩,
          .formatted true (some 15) ⟨15, false⟩ ⟨15, false⟩, .acquired true ⟨2, false⟩] := by
  intro programs schedule threads
  have finished : ∀ thread, (threads.workers thread).rounds = [] := by decide +kernel
  have told : threads.trace =
      [.acquired false ⟨5, false⟩, .refused true ⟨7, true⟩ ⟨10, true⟩ ⟨10, true⟩,
        .formatted true none ⟨10, true⟩ ⟨10, true⟩, .formatted false none ⟨10, true⟩ ⟨10, true⟩,
        .formatted true (some 15) ⟨15, false⟩ ⟨15, false⟩, .acquired true ⟨2, false⟩] := by
    decide +kernel
  have every := exclusive_and_lossless 10 programs schedule
  have same : (create 10 programs).run schedule = threads := rfl
  -- From here on the run is a variable, so that nothing evaluates it again.
  clear_value threads
  simp only [same] at every
  obtain ⟨-, -, -, -, done⟩ := every
  have value := (done finished).2
  rw [told] at value
  exact ⟨finished, value, told⟩

end ProcessWatch.Contention
