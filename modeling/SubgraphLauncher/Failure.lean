import SubgraphLauncher.Moment
import SubgraphLauncher.Text.Quoted
import SubgraphLauncher.Text.Utf8
import SubgraphLauncher.Value.Json

/-!
# Failures

A failure is what ends an action early. Five causes belong to running a subgraph and carry what they
are about; the others come from the host and from the partners of the runner. Handlers do not look
at texts: they go by the cause or by the families of a failure.
-/

namespace SubgraphLauncher

open SubgraphLauncher.Text (quoted)

/-- The causes for which a subgraph is not running or not found. -/
inductive TaskFailure (τ : Type)
  | duplicateTask (name : String)
  | emptyCommand
  | executableNotFound (executable : String)
  | spawnFailure (argv : List String) (reason : String)
  | discoveryTimeout (name : String) (timeout : τ)
  deriving DecidableEq, Repr

namespace TaskFailure

variable {τ : Type}

/-- The tag by which callers tell the causes apart. -/
def kind : TaskFailure τ → String
  | duplicateTask _ => "duplicate_task"
  | emptyCommand => "empty_command"
  | executableNotFound _ => "executable_not_found"
  | spawnFailure _ _ => "spawn_failure"
  | discoveryTimeout _ _ => "discovery_timeout"

def className : TaskFailure τ → String
  | duplicateTask _ => "DuplicateTaskError"
  | emptyCommand => "EmptyCommandError"
  | executableNotFound _ => "ExecutableNotFoundError"
  | spawnFailure _ _ => "SpawnFailureError"
  | discoveryTimeout _ _ => "DiscoveryTimeoutError"

def message [Moment τ] : TaskFailure τ → String
  | duplicateTask name => "subgraph with name '" ++ name ++ "' already has a running process"
  | emptyCommand => "the command you passed is empty"
  | executableNotFound executable => executable ++ " is not installed on this machine"
  | spawnFailure argv reason =>
    "could not spawn child process `" ++ String.intercalate " " argv ++ "`: " ++ reason
  | discoveryTimeout name timeout =>
    "could not find GraphQL endpoint for '" ++ name ++ "' after " ++ Moment.brief timeout ++
      " seconds"

end TaskFailure

/-- Why the host does not let a process be looked at or signalled. -/
inductive ProcessFault
  | denied
  | gone
  | zombie
  | unknown
  | notPermitted
  deriving DecidableEq, Repr

/-- The groups of failures that handlers, or their texts, tell apart. The family `task` is that of
the five causes, and of a failure that a partner reports in their stead without saying which. A
failure of the family `interrupt` passes every handler for ordinary failures. -/
inductive Family
  | task
  | system
  | value
  | request
  | key
  | grammar
  | interrupt
  deriving DecidableEq, Repr

/-- A class of failures, by its name and the families that it belongs to. -/
structure FailureClass where
  name : String
  families : List Family
  deriving DecidableEq, Repr

namespace FailureClass

def valueError : FailureClass := ⟨"ValueError", [.value]⟩
def typeError : FailureClass := ⟨"TypeError", []⟩
def attributeError : FailureClass := ⟨"AttributeError", []⟩
def runtimeError : FailureClass := ⟨"RuntimeError", []⟩
def overflowError : FailureClass := ⟨"OverflowError", []⟩
def recursionError : FailureClass := ⟨"RecursionError", []⟩
def decodeError : FailureClass := ⟨"UnicodeDecodeError", [.value]⟩
def encodeError : FailureClass := ⟨"UnicodeEncodeError", [.value]⟩
def keyError : FailureClass := ⟨"KeyError", [.key]⟩
def runnerError : FailureClass := ⟨"RunnerError", [.task]⟩
def endOfInput : FailureClass := ⟨"EOFError", []⟩
def keyboardInterrupt : FailureClass := ⟨"KeyboardInterrupt", [.interrupt]⟩
def connectionError : FailureClass := ⟨"ConnectionError", [.request, .system]⟩
def readTimeout : FailureClass := ⟨"ReadTimeout", [.request, .system]⟩
def httpError : FailureClass := ⟨"HTTPError", [.request, .system]⟩
def badDocument : FailureClass := ⟨"JSONDecodeError", [.value]⟩
def badBody : FailureClass := ⟨"JSONDecodeError", [.request, .system, .value]⟩

def requestNames : List String :=
  ["RequestException", "ConnectionError", "Timeout", "ReadTimeout", "ConnectTimeout", "HTTPError",
   "TooManyRedirects", "ChunkedEncodingError", "ContentDecodingError", "SSLError", "ProxyError",
   "RetryError", "UnrewindableBodyError", "InvalidJSONError", "URLRequired", "StreamConsumedError"]

def requestValueNames : List String :=
  ["InvalidURL", "MissingSchema", "InvalidSchema", "InvalidHeader", "InvalidProxyURL"]

def systemNames : List String :=
  ["OSError", "BlockingIOError", "ChildProcessError", "BrokenPipeError", "ConnectionAbortedError",
   "ConnectionRefusedError", "ConnectionResetError", "FileExistsError", "FileNotFoundError",
   "InterruptedError", "IsADirectoryError", "NotADirectoryError", "PermissionError",
   "ProcessLookupError", "TimeoutError"]

def grammarNames : List String := ["SyntaxError", "IndentationError", "TabError"]

def interruptNames : List String :=
  ["KeyboardInterrupt", "SystemExit", "GeneratorExit", "BaseException"]

/-- The class of a name. A name that is not known belongs to no family. -/
def named (name : String) : FailureClass :=
  if requestNames.contains name then ⟨name, [.request, .system]⟩
  else if requestValueNames.contains name then ⟨name, [.request, .system, .value]⟩
  else if systemNames.contains name then ⟨name, [.system]⟩
  else if name = "IOError" ∨ name = "EnvironmentError" then ⟨"OSError", [.system]⟩
  else if name = "ValueError" ∨ name = "UnicodeError" then ⟨name, [.value]⟩
  else if name = "KeyError" then keyError
  else if name = "RunnerError" then runnerError
  else if grammarNames.contains name then ⟨name, [.grammar]⟩
  else if interruptNames.contains name then ⟨name, [.interrupt]⟩
  else ⟨name, []⟩

end FailureClass

inductive Failure (τ : Type)
  | task (cause : TaskFailure τ)
  | aborted (message : Option String)
  | notice (message : Option String)
  | process (fault : ProcessFault) (pid : Int)
  | system (number : Int) (text : String) (file : Option String)
  | other (cls : FailureClass) (message : Option String)
  deriving DecidableEq, Repr

namespace Failure

variable {τ : Type}

/-- The class that the host gives to a numbered error. -/
def systemClassName (number : Int) : String :=
  if number = 1 ∨ number = 13 then "PermissionError"
  else if number = 2 then "FileNotFoundError"
  else if number = 3 then "ProcessLookupError"
  else if number = 4 then "InterruptedError"
  else if number = 10 then "ChildProcessError"
  else if number = 11 ∨ number = 114 ∨ number = 115 then "BlockingIOError"
  else if number = 17 then "FileExistsError"
  else if number = 20 then "NotADirectoryError"
  else if number = 21 then "IsADirectoryError"
  else if number = 32 ∨ number = 108 then "BrokenPipeError"
  else if number = 103 then "ConnectionAbortedError"
  else if number = 104 then "ConnectionResetError"
  else if number = 110 then "TimeoutError"
  else if number = 111 then "ConnectionRefusedError"
  else "OSError"

/-- The text of a numbered error of the host. -/
def systemMessage (number : Int) (text : String) (file : Option String) : String :=
  "[Errno " ++ toString number ++ "] " ++ text ++
    match file with
    | none => ""
    | some name => ": " ++ quoted name

def className : Failure τ → String
  | task cause => cause.className
  | aborted _ => "ChooserAborted"
  | notice _ => "NotificationError"
  | process .denied _ => "AccessDenied"
  | process .gone _ => "NoSuchProcess"
  | process .zombie _ => "ZombieProcess"
  | process .unknown _ => "Error"
  | process .notPermitted _ => "PermissionError"
  | system number _ _ => systemClassName number
  | other cls _ => cls.name

def message [Moment τ] : Failure τ → String
  | task cause => cause.message
  | aborted text => text.getD ""
  | notice text => text.getD ""
  | process .denied pid => "(pid=" ++ toString pid ++ ")"
  | process .gone pid => "process no longer exists (pid=" ++ toString pid ++ ")"
  | process .zombie pid => "PID still exists but it's a zombie (pid=" ++ toString pid ++ ")"
  | process .unknown _ => ""
  | process .notPermitted _ => systemMessage 1 "Operation not permitted" none
  | system number text file => systemMessage number text file
  | other cls none => if cls.families.contains .grammar then "None" else ""
  | other cls (some text) => if cls.families.contains .key then quoted text else text

/-- The form of a failure in which it shows its class and the text it was made from. -/
def written [Moment τ] (failure : Failure τ) : String :=
  let made := match failure with
    | task cause => some cause.message
    | aborted text => text
    | notice text => text
    | other _ text => text
    | process _ _ => some failure.message
    | system _ _ _ => some failure.message
  failure.className ++ "(" ++ (made.map quoted).getD "" ++ ")"

def families : Failure τ → List Family
  | task _ => [.task]
  | process .notPermitted _ => [.system]
  | system _ _ _ => [.system]
  | other cls _ => cls.families
  | _ => []

def isIn (family : Family) (failure : Failure τ) : Bool := failure.families.contains family

/-- Whether handlers for every ordinary failure take it. -/
def isOrdinary (failure : Failure τ) : Bool := !failure.isIn .interrupt

def isAborted : Failure τ → Bool
  | aborted _ => true
  | _ => false

def valueError (text : String) : Failure τ := other .valueError (some text)

def typeError (text : String) : Failure τ := other .typeError (some text)

/-- The failure of asking something for what it does not have. -/
def missingAttribute (typeName name : String) : Failure τ :=
  other .attributeError (some ("'" ++ typeName ++ "' object has no attribute '" ++ name ++ "'"))

/-- The failure of a missing number as an operand; a moment is the other one. -/
def missingOperand (operator left right : String) : Failure τ :=
  typeError ("unsupported operand type(s) for " ++ operator ++ ": '" ++ left ++ "' and '" ++
    right ++ "'")

/-- The failure of comparing a moment with a missing one. -/
def missingComparison : Failure τ :=
  typeError "'<' not supported between instances of 'float' and 'NoneType'"

def interrupt : Failure τ := other .keyboardInterrupt none

end Failure

/-- The failure of a text that is no document. Where the text is malformed, its class depends on
where it was read. -/
def Json.Fault.failure {τ : Type} (malformed : FailureClass) : Json.Fault → Failure τ
  | fault@(.malformed ..) => .other malformed (some fault.message)
  | fault@(.tooLong _) => .valueError fault.message
  | fault@(.tooDeep _) => .other .recursionError (some fault.message)

/-- The message for bytes that are no text. -/
def utf8Message (fault : Text.Utf8Fault) : String :=
  let reason := match fault.cause with
    | .badStart => "invalid start byte"
    | .badContinuation => "invalid continuation byte"
    | .truncated => "unexpected end of data"
  "'utf-8' codec can't decode " ++
    (if fault.count = 1 then
      "byte 0x" ++ String.ofList (Text.hex 2 fault.byte.toNat) ++ " in position " ++
        toString fault.first
    else
      "bytes in position " ++ toString fault.first ++ "-" ++
        toString (fault.first + fault.count - 1)) ++
    ": " ++ reason

end SubgraphLauncher
