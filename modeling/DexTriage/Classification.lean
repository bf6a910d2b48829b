import DexTriage.Signature.Catalog
import DexTriage.Url.Scan

/-!
# What a list of texts gives away

The addresses, the shell commands and the labels of signatures that a list of texts holds, each
list without repetition and in the order of first occurrence. Shell commands are names of commands
that are usually handed to a shell; a text counts only as a whole.
-/

namespace DexTriage

namespace ShellCommand

/-- The known commands. -/
def names : List String :=
  ["am", "busybox", "cat", "chgrp", "chmod", "chown", "cp", "curl", "dd", "dumpsys", "echo",
    "getprop", "id", "ifconfig", "insmod", "iptables", "kill", "killall", "ln", "logcat", "ls",
    "mkdir", "mount", "mv", "nc", "netcfg", "netstat", "pm", "ps", "reboot", "rm", "rmdir",
    "rmmod", "screencap", "sendevent", "set", "setenforce", "setprop", "sh", "sleep", "su", "sync",
    "toolbox", "top", "touch", "umount", "uname", "wget", "whoami"]

/-- Whether a text is the name of a command. -/
def isKnown (text : String) : Bool :=
  names.contains text

/-- The texts that are names of commands, each where it is first seen. -/
def find (texts : List String) : List String :=
  (texts.filter isKnown).eraseDups

end ShellCommand

/-- The findings of all detectors. -/
structure Classification where
  urls : List String
  shellCommands : List String
  signatures : List String
  deriving DecidableEq, Repr, Inhabited

/-- The findings in a list of texts. -/
def Catalog.classify (catalog : Catalog) (texts : List String) : Classification where
  urls := Url.find texts
  shellCommands := ShellCommand.find texts
  signatures := catalog.find texts

end DexTriage
