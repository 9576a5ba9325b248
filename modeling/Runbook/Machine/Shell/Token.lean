import Runbook.Machine.Shell.Tree

/-!
# Tokens of the shell language

The tokens that the lines of a script consist of, with the names by which complaints call them.
-/

namespace Runbook.Machine.Shell

/-- A token. The word or the redirection that belongs to it is kept apart. -/
inductive Token where
  | endOfFile
  | newline
  | semicolon
  | ampersand
  | andAlso
  | orElse
  | bar
  | opening
  | closing
  | caseEnd
  | redirection
  | word
  | bang
  | case
  | doWord
  | done
  | elif
  | elseWord
  | esac
  | fi
  | forWord
  | ifWord
  | inWord
  | thenWord
  | untilWord
  | whileWord
  | brace
  | braceEnd
  deriving Repr, DecidableEq

/-- The words that are tokens of their own. -/
def reservedWords : List (String × Token) :=
  [("!", .bang), ("case", .case), ("do", .doWord), ("done", .done), ("elif", .elif),
    ("else", .elseWord), ("esac", .esac), ("fi", .fi), ("for", .forWord), ("if", .ifWord),
    ("in", .inWord), ("then", .thenWord), ("until", .untilWord), ("while", .whileWord),
    ("\x7b", .brace), ("\x7d", .braceEnd)]

namespace Token

/-- What a token is called. -/
def name (token : Token) : String :=
  match token with
  | .endOfFile => "end of file"
  | .newline => "newline"
  | .semicolon => "\";\""
  | .ampersand => "\"&\""
  | .andAlso => "\"&&\""
  | .orElse => "\"||\""
  | .bar => "\"|\""
  | .opening => "\"(\""
  | .closing => "\")\""
  | .caseEnd => "\";;\""
  | .redirection => "redirection"
  | .word => "word"
  | other =>
    match reservedWords.find? fun entry => entry.2 == other with
    | some (text, _) => "\"" ++ text ++ "\""
    | none => ""

/-- Whether a token ends a list of commands. -/
def endsList : Token → Bool
  | .endOfFile | .closing | .caseEnd | .doWord | .done | .elif | .elseWord | .esac | .fi
  | .thenWord | .braceEnd => true
  | _ => false

end Token

end Runbook.Machine.Shell
