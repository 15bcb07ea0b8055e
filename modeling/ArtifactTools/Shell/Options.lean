import ArtifactTools.Shell.Command

/-! Options: those of the shell itself, which have names and mostly letters, and those that its
commands take. -/

namespace ArtifactTools.Shell

inductive Switch where
  | errexit
  | noglob
  | ignoreeof
  | interactive
  | monitor
  | noexec
  | stdin
  | xtrace
  | verbose
  | vi
  | emacs
  | noclobber
  | allexport
  | notify
  | nounset
  | privileged
  | nolog
  | debug
  | braceexpand
  | errtrace
  | functrace
  | hashall
  | histexpand
  | history
  | comments
  | keyword
  | onecmd
  | physical
  | pipefail
  | posix
  deriving DecidableEq, Repr

namespace Switch

def table : List (Switch × String × Option Char) :=
  [(errexit, "errexit", some 'e'), (noglob, "noglob", some 'f'),
    (ignoreeof, "ignoreeof", some 'I'), (interactive, "interactive", some 'i'),
    (monitor, "monitor", some 'm'), (noexec, "noexec", some 'n'), (stdin, "stdin", some 's'),
    (xtrace, "xtrace", some 'x'), (verbose, "verbose", some 'v'), (vi, "vi", some 'V'),
    (emacs, "emacs", some 'E'), (noclobber, "noclobber", some 'C'),
    (allexport, "allexport", some 'a'), (notify, "notify", some 'b'),
    (nounset, "nounset", some 'u'), (privileged, "privileged", some 'p'),
    (nolog, "nolog", none), (debug, "debug", none)]

def ofLetter? (letter : Char) : Option Switch :=
  (table.find? fun row => row.2.2 = some letter).map (·.1)

def ofName? (name : Text) : Option Switch :=
  (table.find? fun row => row.2.1.toList = name).map (·.1)

end Switch

/-- The letters at the beginning of the arguments that a command allows, those before a colon with a
text of their own, and the arguments after them. -/
def readOptions (allowed : List (Char × Bool)) :
    List Text → Except Text (List (Char × Text) × List Text)
  | ['-', '-'] :: rest => .ok ([], rest)
  | ('-' :: letter :: letters) :: rest => readLetters (letter :: letters) rest
  | rest => .ok ([], rest)
where
  readLetters : Text → List Text → Except Text (List (Char × Text) × List Text)
    | [], rest => readOptions allowed rest
    | letter :: letters, rest =>
        match allowed.lookup letter with
        | none => .error ("Illegal option -".toList ++ [letter])
        | some false =>
            (readLetters letters rest).map fun (others, rest) => ((letter, []) :: others, rest)
        | some true =>
            match letters, rest with
            | [], [] => .error ("No arg for -".toList ++ letter :: " option".toList)
            | [], text :: rest =>
                (readOptions allowed rest).map fun (others, rest) =>
                  ((letter, text) :: others, rest)
            | text, rest =>
                (readOptions allowed rest).map fun (others, rest) =>
                  ((letter, text) :: others, rest)

end ArtifactTools.Shell
