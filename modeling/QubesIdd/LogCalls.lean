import QubesIdd.Library.Allocator
import QubesIdd.LogRotation

/-! The logging calls of `CDebug` down to `Write`: what is formatted, which memory is asked
for on the way, and what is done when there is none. A `wide` flag says how a text is converted
and is left out; so are the characters that no code page has. -/

namespace QubesIdd.CDebug
open Library

/-- What a call meets: which requests for memory are granted, whether the second pass of a
formatting succeeds, the time, and what the system says of a result. -/
structure LogWorld where
  malloc : Nat → Bool := fun _ => true
  prints : Nat → Bool := fun _ => true
  timestamp : String
  formatMessage : UInt32 → Option String
  lastError : UInt32 := 0

/-- `hrBuffers` are what `FormatMessageW` has allocated; nothing gives them back. -/
structure Logger where
  store : LogStore := {}
  blocks : Allocator := {}
  hrBuffers : List String := []
  output : List String := []

def LEVEL_NONE : Int := 0
def LEVEL_ERROR : Int := 3
def LEVEL_MAX : Int := 7

def s_levelStr (level : Int) : String := ([" ", "I", "W", "E", "T", "!", "F"][level.toNat]?).getD " "

def OUT_OF_MEMORY : String := "Out of memory while logging"

def hex (value : UInt32) : List Char := (Nat.toDigits 16 value.toNat).leftpad 8 '0'

/-- `[%s] [%S] %40S:%-4d | %s` and a line feed. -/
def record (timestamp : String) (level : Int) (function : String) (line : Int) (str : String) : String :=
  let level := if level < 0 ∨ level ≥ LEVEL_MAX then LEVEL_NONE else level
  "[" ++ timestamp ++ "] [" ++ s_levelStr level ++ "] " ++ String.ofList (function.toList.leftpad 40 ' ') ++ ":" ++
    String.ofList ((toString line).toList.rightpad 4 ' ') ++ " | " ++ str ++ "\n"

/-- The line feeds and carriage returns at the end of a system message. -/
def trimCRLF (text : String) : String :=
  String.ofList ((text.toList.reverse.dropWhile fun c => c == '\n' || c == '\r').reverse)

/-- `%s (0x%08lX (%u): %s)`. -/
def hrText (str : String) (hr : UInt32) (hrBuffer : String) : String :=
  str ++ " (0x" ++ (String.ofList (hex hr)).toUpper ++ " (" ++ toString hr.toNat ++ "): " ++ trimCRLF hrBuffer ++ ")"

def formatMessageFailed (hr lastError : UInt32) : String :=
  "FormatMessage for 0x" ++ (String.ofList (hex hr)).toUpper ++ " (" ++ toString hr.toNat ++ ") failed with code 0x" ++
    String.ofList (hex lastError)

namespace Logger
variable (world : LogWorld)

/-- `vasprintf` and its wide siblings: `message` is what the format and its arguments stand
for, if they stand for anything. -/
def vasprintf (message : Option String) (logger : Logger) : Option (Nat × String) × Logger :=
  match message with
  | none => (none, logger)
  | some text =>
    match logger.blocks.malloc world.malloc with
    | (none, blocks) => (none, { logger with blocks })
    | (some block, blocks) =>
      if world.prints block then (some (block, text), { logger with blocks })
      else (none, { logger with blocks := blocks.free block })

def free (block : Nat) (logger : Logger) : Logger := { logger with blocks := logger.blocks.free block }

/-- `Write`. -/
def write (line : String) (logger : Logger) : Logger :=
  if !logger.store.isOpen then { logger with output := logger.output ++ [line] } else
  match logger.blocks.malloc world.malloc with
  | (none, blocks) => { logger with blocks, store := CDebug.write false line logger.store }
  | (some utf8, blocks) => free utf8 { logger with blocks, store := CDebug.write true line logger.store }

def logStr (level : Int) (function : String) (line : Int) (str : String) (logger : Logger) : Logger :=
  match logger.vasprintf world (some (record world.timestamp level function line str)) with
  | (none, logger) => logger.write world OUT_OF_MEMORY
  | (some (result, text), logger) => (logger.write world text).free result

def log (level : Int) (function : String) (line : Int) (message : Option String) (logger : Logger) : Logger :=
  match logger.vasprintf world message with
  | (none, logger) => logger.write world OUT_OF_MEMORY
  | (some (result, str), logger) => (logger.logStr world level function line str).free result

/-- A result the system knows nothing of is logged without a text, behind an error. -/
def logStrHR (level : Int) (hr : UInt32) (function : String) (line : Int) (str : String) (logger : Logger) : Logger :=
  match world.formatMessage hr with
  | none =>
    let logger := logger.log world LEVEL_ERROR "CDebug::LogStrHR" 239 (some (formatMessageFailed hr world.lastError))
    logger.logStr world level function line str
  | some hrBuffer =>
    let logger := { logger with hrBuffers := logger.hrBuffers ++ [hrBuffer] }
    match logger.vasprintf world (some (hrText str hr hrBuffer)) with
    | (none, logger) => logger.write world OUT_OF_MEMORY
    | (some (result, text), logger) => (logger.logStr world level function line text).free result

def logHR (level : Int) (hr : UInt32) (function : String) (line : Int) (message : Option String) (logger : Logger) : Logger :=
  match logger.vasprintf world message with
  | (none, logger) => logger.write world OUT_OF_MEMORY
  | (some (result, str), logger) => (logger.logStrHR world level hr function line str).free result

end Logger

inductive LogCall where
  | log (level : Int) (function : String) (line : Int) (message : Option String)
  | logHR (level : Int) (hr : UInt32) (function : String) (line : Int) (message : Option String)

def Logger.step (logger : Logger) : LogWorld × LogCall → Logger
  | (world, .log level function line message) => logger.log world level function line message
  | (world, .logHR level hr function line message) => logger.logHR world level hr function line message

end QubesIdd.CDebug
