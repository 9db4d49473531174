/-! # What the program can be asked

An invocation is one of three commands, with an option to log more. The arguments may also ask for
the version or for help, or make no sense; then no command runs.
-/
namespace PageExtract.CommandLine

inductive Verb where
  | check
  | extract
  | content
  deriving DecidableEq

namespace Verb

def name : Verb → String
  | check => "check"
  | extract => "extract"
  | content => "content"

def all : List Verb := [check, extract, content]

def ofName? (s : String) : Option Verb := all.find? (·.name == s)

@[simp] theorem ofName?_name (v : Verb) : ofName? v.name = some v := by cases v <;> decide

end Verb

inductive Command where
  | check (rule : String)
  | extract (rule page : String)
  | content (rules page : String)
  deriving DecidableEq

structure Invocation where
  verbose : Bool
  command : Command
  deriving DecidableEq

inductive Flag where
  | verbose
  | rules
  | version
  | help
  deriving DecidableEq

namespace Flag

def long : Flag → String
  | verbose => "verbose"
  | rules => "rules"
  | version => "version"
  | help => "help"

def short : Flag → Char
  | verbose => 'v'
  | rules => 'r'
  | version => 'V'
  | help => 'h'

end Flag

/-- The part of the arguments that is being read, which is also what help can be about. -/
inductive Topic where
  | program
  | verb (verb : Verb)
  | help
  deriving DecidableEq

namespace Topic

def flags : Topic → List Flag
  | program => [.verbose, .help, .version]
  | verb .content => [.rules, .verbose, .help]
  | verb _ => [.verbose, .help]
  | help => []

def operands : Topic → List String
  | verb .check => ["RULE"]
  | verb .extract => ["RULE", "PATH"]
  | verb .content => ["PATH"]
  | program | help => []

end Topic

inductive Misuse where
  | noCommand
  | unknownCommand (name : String)
  | unknownFlag (written : String)
  | repeated (flag : Flag)
  | noValue (flag : Flag)
  | uselessValue (flag : Flag)
  | missingFlag (flag : Flag)
  | missingOperand (name : String)
  | surplus (operand : String)
  deriving DecidableEq

def Misuse.message : Misuse → String
  | noCommand => "a command is required"
  | unknownCommand name => "unrecognized command '" ++ name ++ "'"
  | unknownFlag written => "unexpected argument '" ++ written ++ "'"
  | repeated flag => "'--" ++ flag.long ++ "' cannot be used more than once"
  | noValue flag => "'--" ++ flag.long ++ "' needs a value"
  | uselessValue flag => "'--" ++ flag.long ++ "' takes no value"
  | missingFlag flag => "'--" ++ flag.long ++ "' is required"
  | missingOperand name => "<" ++ name ++ "> is required"
  | surplus operand => "unexpected argument '" ++ operand ++ "'"

inductive Halt where
  | version
  | help (topic : Topic)
  | misuse (cause : Misuse)
  deriving DecidableEq

end PageExtract.CommandLine
