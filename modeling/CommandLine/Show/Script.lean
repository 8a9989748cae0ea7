import CommandLine.Show.Completion

/-!
# The completion script

A shell script that completes commands word by word: for each start of a command it offers the words
that may come next.  A start counts in both spellings, with underscores and with dashes.
-/

namespace CommandLine

/-- the words offered behind each start, in the order in which the starts come up -/
abbrev Offers := List (String × List String)

/-- offers one more word behind a start; a new start begins with the words always on offer -/
def Offers.add (always : List String) (start word : String) : Offers → Offers
  | [] => [(start, if always.contains word then always else always ++ [word])]
  | (s, ws) :: rest =>
    if s = start then (s, if ws.contains word then ws else ws ++ [word]) :: rest
    else (s, ws) :: Offers.add always start word rest

/-- the start of a command: the name and all the words but the last -/
def commandStart (name : String) (command : List String) : String :=
  Text.trim (name ++ " " ++ Text.joinWith " " command.dropLast)

def Offers.addCommand (name : String) (always : List String) (o : Offers) (command : List String) :
    Offers :=
  let start := commandStart name command
  let word := commandWord (command.getLastD "")
  (o.add always start word).add always (Text.replaceChar '_' '-' start) word

def Offers.of (name : String) (always : List String) (commands : List (List String)) : Offers :=
  commands.foldl (Offers.addCommand name always) []

def startCheck (start : String) (words : List String) : String :=
  "\n  if [[ \"$start\" == \"" ++ start ++ "\" ]] ; then\n    opts=\"" ++
    Text.joinWith " " (Text.sort words) ++ "\"\n  fi"

/-- the name without the characters that a function of the shell cannot have -/
def scriptIdentifier (name : String) : String :=
  Text.removeChar ',' (Text.removeChar '.' (Text.removeChar '/' name))

/-- the script up to the checks: without one that holds, the words always on offer are offered -/
def scriptHead (name : String) (always : List String) : String :=
  "# bash completion support for " ++ name ++ "\n" ++
  "# DO NOT EDIT.\n" ++
  "# This script is autogenerated by fire/completion.py.\n" ++
  "\n" ++
  "_complete-" ++ scriptIdentifier name ++ "()\n" ++
  "\x7b\n" ++
  "  local start cur opts\n" ++
  "  COMPREPLY=()\n" ++
  "  start=\"$\x7bCOMP_WORDS[@]:0:COMP_CWORD\x7d\"\n" ++
  "  cur=\"$\x7bCOMP_WORDS[COMP_CWORD]\x7d\"\n" ++
  "\n" ++
  "  opts=\"" ++ Text.joinWith " " always ++ "\"\n" ++
  "\n"

def scriptTail (name : String) : String :=
  "\n" ++
  "\n" ++
  "  COMPREPLY=( $(compgen -W \"$\x7bopts\x7d\" -- $\x7bcur\x7d) )\n" ++
  "  return 0\n" ++
  "\x7d\n" ++
  "\n" ++
  "complete -F _complete-" ++ scriptIdentifier name ++ " " ++ name ++ "\n"

def scriptOf (name : String) (commands : List (List String)) (always : List String) : String :=
  let checks := (Offers.of name always commands).map fun (s, ws) => startCheck s ws
  scriptHead name always ++ Text.joinWith "\n" checks ++ scriptTail name

def scriptDepth : Nat := 3

def Value.script (v : Value) (name : String) (always : List String) : String :=
  scriptOf name (v.commands scriptDepth) always

end CommandLine
