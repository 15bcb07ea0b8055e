import ArtifactTools.Shell.Command
import ArtifactTools.Text.Decimal

/-! Signals by name and number, and what a process does that is sent one. -/

namespace ArtifactTools.Shell.Signal

def names : List String :=
  ["EXIT", "HUP", "INT", "QUIT", "ILL", "TRAP", "ABRT", "BUS", "FPE", "KILL", "USR1", "SEGV",
    "USR2", "PIPE", "ALRM", "TERM", "16", "CHLD", "CONT", "STOP", "TSTP", "TTIN", "TTOU", "URG",
    "XCPU", "XFSZ", "VTALRM", "PROF", "WINCH", "IO", "PWR", "SYS", "32", "33"]

def limit : Nat := 65

def name (number : Nat) : Text :=
  match names[number]? with
  | some name => name.toList
  | none =>
      if number = 34 then "RTMIN".toList
      else if number < 50 then "RTMIN+".toList ++ Decimal.digits (number - 34)
      else if number = 64 then "RTMAX".toList
      else "RTMAX-".toList ++ Decimal.digits (64 - number)

def number? (text : Text) : Option Nat :=
  if !text.isEmpty && text.all isDigit then
    if Decimal.value text < limit then some (Decimal.value text) else none
  else (List.range limit).find? fun number => name number = text.map Char.toUpper

def interrupt : Nat := 2

def quit : Nat := 3

def floatingPoint : Nat := 8

def kill : Nat := 9

def segmentation : Nat := 11

def brokenPipe : Nat := 13

def terminate : Nat := 15

def child : Nat := 17

def goOn : Nat := 18

def stop : Nat := 19

/-! Points of a script of the extended dialect that have traps like signals. -/

def debugging : Nat := 100

def failure : Nat := 101

def returning : Nat := 102

def isHarmless (number : Nat) : Bool := [0, 17, 18, 23, 28].contains number

def stops (number : Nat) : Bool := [19, 20, 21, 22].contains number

def descriptions : List (Nat × String) :=
  [(1, "Hangup"), (2, "Interrupt"), (3, "Quit"), (4, "Illegal instruction"),
    (5, "Trace/breakpoint trap"), (6, "Aborted"), (7, "Bus error"), (8, "Floating point exception"),
    (9, "Killed"), (10, "User defined signal 1"), (11, "Segmentation fault"),
    (12, "User defined signal 2"), (13, "Broken pipe"), (14, "Alarm clock"), (15, "Terminated"),
    (16, "Stack fault"), (24, "CPU time limit exceeded"), (25, "File size limit exceeded"),
    (26, "Virtual timer expired"), (27, "Profiling timer expired"), (29, "I/O possible"),
    (30, "Power failure"), (31, "Bad system call")]

def description (number : Nat) : Text :=
  match descriptions.lookup number with
  | some text => text.toList
  | none =>
      if 34 ≤ number then "Real-time signal ".toList ++ Decimal.digits (number - 34)
      else "Unknown signal ".toList ++ Decimal.digits number

def isTold (number : Nat) : Bool := number ≠ interrupt && number ≠ brokenPipe

end ArtifactTools.Shell.Signal
