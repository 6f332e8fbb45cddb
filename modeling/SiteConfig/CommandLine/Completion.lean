import SiteConfig.CommandLine.Arguments

/-!
# Completion scripts

- `Shell.script`: a script that makes a shell complete the words of the command line.
-/

namespace SiteConfig.CommandLine

/-- The name that the program is called by. -/
def programName : String := "appsvc"

/-- The words that a shell completes. -/
def completed : List String :=
  (Command.root.below ++ Command.cidr.below).map Prod.fst
    ++ [helpWord, "--output", "--verbose", "--quiet", "--help", "--version"]

/-- The script of a shell. -/
def Shell.script (shell : Shell) : String :=
  let words := " ".intercalate completed
  match shell with
  | .bash => "complete -W \"" ++ words ++ "\" " ++ programName ++ "\n"
  | .zsh =>
    "#compdef " ++ programName ++ "\n_arguments '*:word:(" ++ words ++ ")'\n"
  | .fish => "complete -c " ++ programName ++ " -a \"" ++ words ++ "\"\n"
  | .elvish =>
    "set edit:completion:arg-completer[" ++ programName ++ "] = \x7b|@words| put " ++ words
      ++ " \x7d\n"
  | .powershell =>
    "Register-ArgumentCompleter -Native -CommandName " ++ programName
      ++ " -ScriptBlock \x7b \"" ++ words ++ "\" -split \" \" \x7d\n"

end SiteConfig.CommandLine
