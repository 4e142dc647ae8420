import Mathlib.Data.List.Forall2
import QubesIdd.Library.Runs
import QubesIdd.LogCalls

/-! What the logging calls leave behind: one record each in the log or with the debugger, no
memory of their own, and the buffers of the system's messages. -/

namespace QubesIdd.CDebug
open Library Library.Runs

/-- No request is refused and no formatting fails half way. -/
structure LogWorld.Grants (world : LogWorld) : Prop where
  malloc : ∀ request, world.malloc request = true
  prints : ∀ block, world.prints block = true

def LogCall.message : LogCall → Option String
  | .log _ _ _ message => message
  | .logHR _ _ _ _ message => message

/-- The records a call is there to write. -/
def LogCall.records (world : LogWorld) : LogCall → List String
  | .log level function line message => [record world.timestamp level function line (message.getD "")]
  | .logHR level hr function line message =>
    match world.formatMessage hr with
    | none =>
      [record world.timestamp LEVEL_ERROR "CDebug::LogStrHR" 239 (formatMessageFailed hr world.lastError),
        record world.timestamp level function line (message.getD "")]
    | some hrBuffer => [record world.timestamp level function line (hrText (message.getD "") hr hrBuffer)]

/-- The text the system allocates for a call. -/
def LogCall.systemText (world : LogWorld) : LogCall → Option String
  | .log .. => none
  | .logHR _ hr _ _ _ => world.formatMessage hr

/-- A record, or the notice that is left in its place. -/
def Stands (written intended : String) : Prop :=
  written = intended ∨ written = OUT_OF_MEMORY ∨ written = OUT_OF_MEMORY ++ "\n"

/-- Texts go to the log if it is open, and to the debugger otherwise. -/
structure Wrote (before : Logger) (written : List String) (after : Logger) : Prop where
  store : after.store = run LogStore.step before.store (written.map (.write true))
  output : after.output = before.output ++ if before.store.isOpen then [] else written

theorem write_isOpen (allocated : Bool) (line : String) (store : LogStore) :
    (CDebug.write allocated line store).isOpen = store.isOpen := by
  unfold CDebug.write
  split
  · rfl
  · rfl

theorem writes_isOpen (store : LogStore) (written : List String) :
    (run LogStore.step store (written.map (.write true))).isOpen = store.isOpen := by
  induction written generalizing store with
  | nil => rfl
  | cons line rest ih =>
    rw [List.map_cons, run_cons, ih]
    exact write_isOpen true line store

theorem wrote_nil (logger : Logger) : Wrote logger [] logger :=
  ⟨rfl, by cases logger.store.isOpen <;> simp⟩

theorem wrote_append {before middle after : Logger} {first last : List String} (one : Wrote before first middle)
    (other : Wrote middle last after) : Wrote before (first ++ last) after := by
  have stays : middle.store.isOpen = before.store.isOpen := by rw [one.store, writes_isOpen]
  refine ⟨?_, ?_⟩
  · rw [other.store, one.store, List.map_append, run_append]
  · rw [other.output, one.output, stays]
    cases before.store.isOpen <;> simp

/-- What a part of a call leaves behind: its memory as it was, the records it is there for or
notices instead, and the system's texts. -/
structure Logs (granted : Prop) (records texts : List String) (before after : Logger) : Prop where
  live : after.blocks.live = before.blocks.live
  wrote : ∃ written, List.Forall₂ Stands written records ∧ Wrote before written after ∧ (granted → written = records)
  buffers : ∃ kept, kept.Sublist texts ∧ after.hrBuffers = before.hrBuffers ++ kept ∧ (granted → kept = texts)

variable {world : LogWorld} {granted : Prop} {before held middle after : Logger}

theorem logs_append {first last texts others : List String} (one : Logs granted first texts before middle)
    (other : Logs granted last others middle after) : Logs granted (first ++ last) (texts ++ others) before after := by
  obtain ⟨live, ⟨written, stand, wrote, whole⟩, kept, sublist, buffers, every⟩ := one
  obtain ⟨live', ⟨written', stand', wrote', whole'⟩, kept', sublist', buffers', every'⟩ := other
  constructor
  · rw [live', live]
  · exact ⟨written ++ written', List.rel_append stand stand', wrote_append wrote wrote',
      fun grants => by rw [whole grants, whole' grants]⟩
  · exact ⟨kept ++ kept', sublist.append sublist', by rw [buffers', buffers, List.append_assoc],
      fun grants => by rw [every grants, every' grants]⟩

theorem Logs.weaken {stronger : Prop} {records texts : List String} (logs : Logs granted records texts before after)
    (implies : stronger → granted) : Logs stronger records texts before after := by
  obtain ⟨live, ⟨written, stand, wrote, whole⟩, kept, sublist, buffers, every⟩ := logs
  exact ⟨live, ⟨written, stand, wrote, fun grants => whole (implies grants)⟩, kept, sublist, buffers,
    fun grants => every (implies grants)⟩

/-- A line is written, or a notice with a line feed of its own. -/
theorem write_wrote (world : LogWorld) (line : String) (logger : Logger) :
    (logger.write world line).blocks.live = logger.blocks.live ∧
    (logger.write world line).hrBuffers = logger.hrBuffers ∧
    ∃ written, (written = line ∨ written = OUT_OF_MEMORY ++ "\n") ∧ Wrote logger [written] (logger.write world line) ∧
      (world.Grants → written = line) := by
  unfold Logger.write
  cases opened : logger.store.isOpen with
  | false =>
    refine ⟨rfl, rfl, line, .inl rfl, ⟨?_, ?_⟩, fun _ => rfl⟩
    · simp [LogStore.step, CDebug.write, opened]
    · simp [opened]
  | true =>
    cases taken : logger.blocks.malloc world.malloc with
    | mk block blocks =>
      cases block with
      | none =>
        refine ⟨Allocator.malloc_refused taken, rfl, OUT_OF_MEMORY ++ "\n", .inr rfl, ⟨?_, ?_⟩, ?_⟩
        · simp [LogStore.step, CDebug.write, opened, OUT_OF_MEMORY]
        · simp [opened]
        · intro grants
          obtain ⟨block, held, same⟩ := logger.blocks.malloc_every grants.malloc
          cases taken.symm.trans same
      | some utf8 =>
        refine ⟨Allocator.free_scope taken rfl, rfl, line, .inl rfl, ⟨?_, ?_⟩, fun _ => rfl⟩
        · simp [LogStore.step, Logger.free]
        · simp [opened, Logger.free]

theorem write_logs (world : LogWorld) (line : String) (logger : Logger) :
    Logs world.Grants [line] [] logger (logger.write world line) := by
  obtain ⟨live, buffers, written, either, wrote, whole⟩ := write_wrote world line logger
  refine ⟨live, ⟨[written], ?_, wrote, fun grants => by rw [whole grants]⟩, [], .slnil, by simp [buffers], fun _ => rfl⟩
  exact .cons (either.imp_right .inr) .nil

/-- A notice stands for any one record. -/
theorem notice_logs (world : LogWorld) (intended : String) (texts : List String) (refused : ¬ granted) (logger : Logger) :
    Logs granted [intended] texts logger (logger.write world OUT_OF_MEMORY) := by
  obtain ⟨live, buffers, written, either, wrote, _⟩ := write_wrote world OUT_OF_MEMORY logger
  refine ⟨live, ⟨[written], ?_, wrote, fun grants => absurd grants refused⟩, [], List.nil_sublist _, by simp [buffers],
    fun grants => absurd grants refused⟩
  exact .cons (.inr either) .nil

/-- A formatting that fails has freed what it asked for, and fails only if it is refused. -/
theorem vasprintf_refused {message : Option String} {logger : Logger} (refused : logger.vasprintf world message = (none, after)) :
    after.blocks.live = logger.blocks.live ∧ after.store = logger.store ∧ after.output = logger.output ∧
      after.hrBuffers = logger.hrBuffers ∧ ¬ (world.Grants ∧ message.isSome = true) := by
  unfold Logger.vasprintf at refused
  cases message with
  | none =>
    cases refused
    exact ⟨rfl, rfl, rfl, rfl, by simp⟩
  | some text =>
    cases taken : logger.blocks.malloc world.malloc with
    | mk block blocks =>
      rw [taken] at refused
      cases block with
      | none =>
        cases refused
        refine ⟨Allocator.malloc_refused taken, rfl, rfl, rfl, ?_⟩
        rintro ⟨grants, _⟩
        obtain ⟨block, held, same⟩ := logger.blocks.malloc_every grants.malloc
        cases taken.symm.trans same
      | some block =>
        simp only at refused
        split at refused
        next => cases refused
        next half =>
          cases refused
          refine ⟨Allocator.free_scope taken rfl, rfl, rfl, rfl, ?_⟩
          rintro ⟨grants, _⟩
          exact half (grants.prints block)

theorem vasprintf_formatted {message : Option String} {logger : Logger} {block : Nat} {text : String}
    (formatted : logger.vasprintf world message = (some (block, text), held)) :
    message = some text ∧ held.store = logger.store ∧ held.output = logger.output ∧ held.hrBuffers = logger.hrBuffers ∧
      ∃ blocks, logger.blocks.malloc world.malloc = (some block, blocks) ∧ held.blocks = blocks := by
  unfold Logger.vasprintf at formatted
  cases message with
  | none => cases formatted
  | some text =>
    cases taken : logger.blocks.malloc world.malloc with
    | mk block blocks =>
      rw [taken] at formatted
      cases block with
      | none => cases formatted
      | some block =>
        simp only at formatted
        split at formatted
        next =>
          cases formatted
          exact ⟨rfl, rfl, rfl, rfl, blocks, rfl, rfl⟩
        next => cases formatted

/-- Whatever is logged from a formatted text, its block is freed behind it. -/
theorem scope_logs {message : Option String} {records texts : List String} {block : Nat} {text : String}
    (formatted : before.vasprintf world message = (some (block, text), held)) (logs : Logs granted records texts held after) :
    Logs granted records texts before (after.free block) := by
  obtain ⟨_, store, output, buffers, blocks, taken, same⟩ := vasprintf_formatted formatted
  obtain ⟨live, ⟨written, stand, wrote, whole⟩, kept, sublist, added, every⟩ := logs
  constructor
  · exact Allocator.free_scope taken (live.trans (congrArg Allocator.live same))
  · exact ⟨written, stand, ⟨by simpa [Logger.free, store] using wrote.store, by simpa [Logger.free, store, output] using wrote.output⟩,
      whole⟩
  · exact ⟨kept, sublist, by simpa [Logger.free, buffers] using added, every⟩

/-- A failed formatting and the notice of it. -/
theorem refused_logs {message : Option String} (intended : String) (texts : List String)
    (refused : before.vasprintf world message = (none, held)) :
    Logs (world.Grants ∧ message.isSome = true) [intended] texts before (held.write world OUT_OF_MEMORY) := by
  obtain ⟨live, store, output, buffers, ungranted⟩ := vasprintf_refused refused
  obtain ⟨live', ⟨written, stand, wrote, whole⟩, kept, sublist, added, every⟩ := notice_logs world intended texts ungranted held
  constructor
  · rw [live', live]
  · exact ⟨written, stand, ⟨by rw [wrote.store, store], by rw [wrote.output, output, store]⟩, whole⟩
  · exact ⟨kept, sublist, by rw [added, buffers], every⟩

theorem logStr_logs (world : LogWorld) (level : Int) (function : String) (line : Int) (str : String) (logger : Logger) :
    Logs world.Grants [record world.timestamp level function line str] [] logger (logger.logStr world level function line str) := by
  unfold Logger.logStr
  cases formatted : logger.vasprintf world (some (record world.timestamp level function line str)) with
  | mk result held =>
    cases result with
    | none => exact (refused_logs _ [] formatted).weaken fun grants => ⟨grants, rfl⟩
    | some result =>
      obtain ⟨block, text⟩ := result
      obtain ⟨same, _⟩ := vasprintf_formatted formatted
      cases same
      exact scope_logs formatted (write_logs world _ held)

theorem log_logs (world : LogWorld) (level : Int) (function : String) (line : Int) (message : Option String) (logger : Logger) :
    Logs (world.Grants ∧ message.isSome = true) [record world.timestamp level function line (message.getD "")] [] logger
      (logger.log world level function line message) := by
  unfold Logger.log
  cases formatted : logger.vasprintf world message with
  | mk result held =>
    cases result with
    | none => exact refused_logs _ [] formatted
    | some result =>
      obtain ⟨block, text⟩ := result
      obtain ⟨rfl, _⟩ := vasprintf_formatted formatted
      exact scope_logs formatted ((logStr_logs world level function line text held).weaken And.left)

/-- A result is logged with what the system says of it, or behind an error if it says nothing. -/
theorem logStrHR_logs (world : LogWorld) (level : Int) (hr : UInt32) (function : String) (line : Int) (str : String) (logger : Logger) :
    Logs world.Grants ((LogCall.logHR level hr function line (some str)).records world) (world.formatMessage hr).toList
      logger (logger.logStrHR world level hr function line str) := by
  unfold Logger.logStrHR
  cases known : world.formatMessage hr with
  | none =>
    have error := (log_logs world LEVEL_ERROR "CDebug::LogStrHR" 239 (some (formatMessageFailed hr world.lastError)) logger).weaken
      fun grants : world.Grants => ⟨grants, rfl⟩
    simp only [LogCall.records, known, Option.getD_some]
    exact logs_append error (logStr_logs world level function line str _)
  | some hrBuffer =>
    have allocated : Logs world.Grants [] [hrBuffer] logger { logger with hrBuffers := logger.hrBuffers ++ [hrBuffer] } := by
      obtain ⟨store, output⟩ := wrote_nil logger
      exact ⟨rfl, ⟨[], .nil, ⟨store, output⟩, fun _ => rfl⟩, [hrBuffer], List.Sublist.refl _, rfl, fun _ => rfl⟩
    simp only [LogCall.records, known, Option.getD_some]
    apply logs_append allocated
    cases formatted : Logger.vasprintf world (some (hrText str hr hrBuffer))
        { logger with hrBuffers := logger.hrBuffers ++ [hrBuffer] } with
    | mk result held =>
      cases result with
      | none => exact (refused_logs _ [] formatted).weaken fun grants => ⟨grants, rfl⟩
      | some result =>
        obtain ⟨block, text⟩ := result
        obtain ⟨same, _⟩ := vasprintf_formatted formatted
        cases same
        exact scope_logs formatted (logStr_logs world level function line _ held)

theorem records_last (world : LogWorld) (call : LogCall) : ∃ text, [text] <:+ call.records world := by
  cases call with
  | log level function line message => exact ⟨_, List.suffix_refl _⟩
  | logHR level hr function line message =>
    simp only [LogCall.records]
    cases world.formatMessage hr with
    | none => exact ⟨_, List.suffix_cons _ _⟩
    | some hrBuffer => exact ⟨_, List.suffix_refl _⟩

/-- A call whose own text cannot be formatted leaves out the error about the system's. -/
theorem step_logs (logger : Logger) (world : LogWorld) (call : LogCall) :
    ∃ part, part <:+ call.records world ∧ part ≠ [] ∧ (world.Grants ∧ call.message.isSome = true → part = call.records world) ∧
      Logs (world.Grants ∧ call.message.isSome = true) part (call.systemText world).toList logger (logger.step (world, call)) := by
  cases call with
  | log level function line message =>
    exact ⟨_, List.suffix_refl _, nofun, fun _ => rfl, log_logs world level function line message logger⟩
  | logHR level hr function line message =>
    obtain ⟨text, last⟩ := records_last world (.logHR level hr function line message)
    simp only [Logger.step, Logger.logHR, LogCall.systemText, LogCall.message]
    cases formatted : logger.vasprintf world message with
    | mk result held =>
      cases result with
      | some result =>
        obtain ⟨block, text⟩ := result
        obtain ⟨rfl, _⟩ := vasprintf_formatted formatted
        exact ⟨_, List.suffix_refl _, List.ne_nil_of_mem (last.subset List.mem_cons_self), fun _ => rfl,
          scope_logs formatted ((logStrHR_logs world level hr function line text held).weaken And.left)⟩
      | none =>
        obtain ⟨_, _, _, _, refused⟩ := vasprintf_refused formatted
        exact ⟨[text], last, by simp, fun grants => absurd grants refused, refused_logs text _ formatted⟩

/-- What a call has written: its records, or at least the last of them, each itself or a notice. -/
def Recorded (written : List String) (input : LogWorld × LogCall) : Prop :=
  written ≠ [] ∧ ∃ part, part <:+ input.2.records input.1 ∧ List.Forall₂ Stands written part

/-- Nothing is refused to a call, and its own text can be formatted. -/
def Unrefused (input : LogWorld × LogCall) : Prop := input.1.Grants ∧ input.2.message.isSome = true

/-- However much memory is refused, every call writes at least one record to the log, or to
the debugger if there is no log, and holds no block of its own afterwards. The buffers of the
system's messages stay allocated: with nothing refused, one for each result it knows. -/
theorem calls_accounted (logger : Logger) (inputs : List (LogWorld × LogCall)) :
    let after := run Logger.step logger inputs
    after.blocks.live = logger.blocks.live ∧
    (∃ written, List.Forall₂ Recorded written inputs ∧ Wrote logger written.flatten after ∧
      ((∀ input ∈ inputs, Unrefused input) → written = inputs.map fun input => input.2.records input.1)) ∧
    ∃ kept, kept.Sublist (inputs.filterMap fun input => input.2.systemText input.1) ∧
      after.hrBuffers = logger.hrBuffers ++ kept ∧
      ((∀ input ∈ inputs, Unrefused input) → kept = inputs.filterMap fun input => input.2.systemText input.1) := by
  induction inputs generalizing logger with
  | nil => exact ⟨rfl, ⟨[], .nil, wrote_nil logger, fun _ => rfl⟩, [], .slnil, (List.append_nil _).symm, fun _ => rfl⟩
  | cons input rest ih =>
    obtain ⟨world, call⟩ := input
    obtain ⟨part, suffix, some, complete, live, ⟨written, stand, wrote, whole⟩, kept, sublist, added, every⟩ :=
      step_logs logger world call
    obtain ⟨live', ⟨later, answers, wrote', whole'⟩, kept', sublist', added', every'⟩ := ih (logger.step (world, call))
    have texts : ((world, call) :: rest).filterMap (fun input => input.2.systemText input.1) =
        (call.systemText world).toList ++ rest.filterMap fun input => input.2.systemText input.1 := by
      cases text : call.systemText world <;> simp [text]
    refine ⟨live'.trans live, ⟨written :: later, .cons ⟨?_, part, suffix, stand⟩ answers, ?_, ?_⟩, kept ++ kept', ?_, ?_, ?_⟩
    · rintro rfl
      cases stand
      exact some rfl
    · rw [List.flatten_cons]
      exact wrote_append wrote wrote'
    · intro granted
      have now : Unrefused (world, call) := granted _ List.mem_cons_self
      rw [whole now, complete now, whole' fun input member => granted input (List.mem_cons_of_mem _ member)]
      rfl
    · rw [texts]
      exact sublist.append sublist'
    · rw [run_cons, added', added, List.append_assoc]
    · intro granted
      rw [texts, every (granted _ List.mem_cons_self), every' fun input member => granted input (List.mem_cons_of_mem _ member)]

end QubesIdd.CDebug
